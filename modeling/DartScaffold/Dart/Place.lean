/-
**Where generated files are placed.**

The generated files are kept in folders below one base folder, one for each kind of file, and a
file is named by the words of what it is generated for.  Files import each other by paths relative
to their own folder.

Main definitions:

* `Dart.Folder`, `Dart.Folder.section` — the folders that generators write to;
* `Dart.folderSetting?` — the setting that names a folder;
* `Dart.directory`, `Dart.filePath` — the paths of a folder and of a file in it;
* `Dart.importPath`, `Dart.importPath?` — a path from one folder to a file of another, which may be
  given by its name.

Main results:

* `Dart.importPath_self` — within its own folder a file is imported by its name alone;
* `Dart.importPath?_section` — a folder and its name lead to the same path.
-/

import DartScaffold.Naming.Plural
import DartScaffold.Path
import DartScaffold.Settings.Basic

set_option relaxedAutoImplicit false
set_option autoImplicit false

namespace DartScaffold.Dart

/-- The folders that generators write to. -/
inductive Folder where
  | models
  | services
  | widgets
  | screens
deriving DecidableEq, Repr, Inhabited

/-- The name of a folder in the settings. -/
def Folder.section : Folder → String
  | .models => "models"
  | .services => "services"
  | .widgets => "widgets"
  | .screens => "screens"

/-- Where the settings put a folder. -/
def Folder.setting (o : OutputSettings) : Folder → Datum
  | .models => o.modelsPath
  | .services => o.servicesPath
  | .widgets => o.widgetsPath
  | .screens => o.screensPath

/-- Where the settings put what goes by a name. -/
def folderSetting? (o : OutputSettings) (name : String) : Option Datum :=
  [("base", o.basePath), ("models", o.modelsPath), ("services", o.servicesPath),
    ("widgets", o.widgetsPath), ("screens", o.screensPath), ("utils", o.utilsPath)].lookup name

/-- The path of a folder. -/
def directory (o : OutputSettings) (folder : Folder) : Except Misuse Path := do
  let base ←
    match o.basePath with
    | .text s => pure (Path.ofString s)
    | d => throw (.notPath d.kindName)
  match folder.setting o with
  | .text s => return base.join (Path.ofString s)
  | d => throw (.notPathPart d.kindName)

/-- The name of a generated file. -/
def fileName (name ending : String) : String := Naming.snake name ++ ending ++ ".dart"

/-- The path of a generated file. -/
def filePath (o : OutputSettings) (folder : Folder) (name ending : String) :
    Except Misuse Path := do
  return (← directory o folder).join (Path.ofString (fileName name ending))

/-- The path by which a file in `own` imports the file `stem` in `target`. -/
def importPath (o : OutputSettings) (own target : Folder) (stem : String) : String :=
  if target = own then stem ++ ".dart"
  else "../" ++ (target.setting o).display ++ "/" ++ stem ++ ".dart"

/-- Within its own folder a file is imported by its name alone. -/
theorem importPath_self (o : OutputSettings) (own : Folder) (stem : String) :
    importPath o own own stem = stem ++ ".dart" := by
  simp [importPath]

/-- The path by which a file in `own` imports the file `stem` in the folder of a name. -/
def importPath? (o : OutputSettings) (own : Folder) (name stem : String) : Option String :=
  (folderSetting? o name).map fun d =>
    if name = own.section then stem ++ ".dart" else "../" ++ d.display ++ "/" ++ stem ++ ".dart"

/-- A folder and its name lead to the same path. -/
theorem importPath?_section (o : OutputSettings) (own target : Folder) (stem : String) :
    importPath? o own target.section stem = some (importPath o own target stem) := by
  cases own <;> cases target <;> rfl

/-- The file name of what belongs to a model. -/
def modelStem (className : String) : String := Naming.snake className

/-- The path by which a file in `own` imports the data class of a model. -/
def modelImport (o : OutputSettings) (own : Folder) (className : String) : String :=
  importPath o own .models (modelStem className)

/-- The path by which a file in `own` imports the service of a model. -/
def serviceImport (o : OutputSettings) (own : Folder) (className : String) : String :=
  importPath o own .services (modelStem className ++ "_service")

/-- The path by which a file in `own` imports the transport. -/
def transportImport (o : OutputSettings) (own : Folder) : String :=
  importPath o own .services "api_service"

end DartScaffold.Dart
