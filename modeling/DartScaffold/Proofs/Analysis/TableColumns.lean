/-
**From the rows of a table to the fields of a class.**

A manifest lists the columns of a table in rows, and two rows may have the same name.  On the way to
a data class the rows are read into a table of columns, the columns become the attributes of a
model, and the attributes that are not left out become fields.  Each stage keeps the order of the
one before, and the name with what belongs to it: a column comes where its name comes first, and it
is what the last row of its name says.

Main definitions:

* `Backend.Row`, `Backend.Row.attribute` — a row, and what it says;
* `Backend.finalRows` — the last row of each name, in the order in which the names come first;
* `Backend.tableIn`, `Backend.Lists` — the table of a name in a document, and its rows;
* `Backend.IsWellFormed` — an entry whose members fit;
* `Backend.HasColumns` — a model with the columns of some rows.

Main results:

* `Backend.finalRows_names` — no name is lost, and none comes twice;
* `Backend.Manifest.columnsOf_eq`, `Backend.table?_of_ofDocument` — the columns of a table;
* `Backend.attributesOf_of_table` — the attributes of a model;
* `Backend.analyze_columns` — **the analysis captures the table**, and what comes of a table that
  is missing.
-/

import Mathlib
import DartScaffold.Backend.Basic
import DartScaffold.Dart.Field
import DartScaffold.Proofs.Analysis.EntryEnding
import DartScaffold.Proofs.Backend.Loading

set_option relaxedAutoImplicit false
set_option autoImplicit false

namespace DartScaffold.Backend

open Pipeline (Ending EndsIn)

/-! ### Rows -/

/-- A row of a table: an object with a text as its name. -/
structure Row where
  members : List (String × Datum)
  name : String
  named : members.lookup "name" = some (.text name)

/-- The row as a value. -/
def Row.datum (r : Row) : Datum := .object r.members

/-- What a row says of its column: the type is written as a text, and a column is a text without a
type and not null unless the row says otherwise. -/
def Row.attribute (r : Row) : Attribute :=
  let type := Datum.text ((r.members.lookup "type").getD (.text "string")).display
  { name := .text r.name
    target := .ofSource type
    source := type
    nullable := ((r.members.lookup "nullable").getD (.bool false)).truthy
    default := (r.members.lookup "default").getD .null }

/-- The last row of each name, in the order in which the names come first. -/
def finalRows (rows : List Row) : List Row :=
  (rows.map Row.name).eraseDups.filterMap fun n => rows.reverse.find? (·.name == n)

/-- The rows by name, as writing one after another leaves them. -/
theorem ofPairs_rows (rows : List Row) :
    Entries.ofPairs (rows.map fun r => (r.name, r)) =
      (finalRows rows).map fun r => (r.name, r) := by
  have hlookup (rows : List Row) (n : String) :
      (rows.map fun r => (r.name, r)).lookup n = rows.find? (·.name == n) := by
    induction rows with
    | nil => rfl
    | cons r rows ih =>
        rw [List.map_cons, List.lookup_cons, List.find?_cons, ih, BEq.comm]
  rw [Entries.ofPairs_eq, finalRows, List.map_filterMap, Entries.keys, List.map_map]
  refine List.filterMap_congr fun n _ => ?_
  rw [← List.map_reverse, hlookup]
  -- A row that is found for a name has that name.
  cases hrow : rows.reverse.find? (·.name == n) with
  | none => rfl
  | some r =>
      have hname := List.find?_some hrow
      obtain rfl : r.name = n := beq_iff_eq.1 hname
      rfl

/-- **No name is lost, and none comes twice.** -/
theorem finalRows_names (rows : List Row) :
    (finalRows rows).map Row.name = (rows.map Row.name).eraseDups := by
  have hkeys := Entries.keys_ofPairs (rows.map fun r => (r.name, r))
  rw [ofPairs_rows] at hkeys
  simpa [Entries.keys, Function.comp_def] using hkeys

/-! ### Columns -/

namespace Manifest

/-- One row after the columns that were read before. -/
def readRow (read : Entries Datum Column) (d : Datum) : Except Misuse (Entries Datum Column) := do
  let name ← d.member "name"
  if !name.hashable then throw (.unhashable name.kindName)
  let members ← d.membersFor "get"
  return Datum.putEntry name (columnOf members) read

/-- Rows as columns under their names. -/
def columnsOfRows (rows : Entries String Row) : Entries Datum Column :=
  rows.map fun e => (.text e.1, columnOf e.2.members)

/-- A row is written under its name. -/
theorem readRow_datum (rows : Entries String Row) (r : Row) :
    readRow (columnsOfRows rows) r.datum = .ok (columnsOfRows (rows.put r.name r)) := by
  have hput : Datum.putEntry (.text r.name) (columnOf r.members) (columnsOfRows rows) =
      columnsOfRows (rows.put r.name r) := by
    unfold columnsOfRows
    induction rows with
    | nil => rfl
    | cons e rows ih =>
        rw [List.map_cons, Datum.putEntry, Entries.put, ih]
        by_cases h : e.1 = r.name
        · rw [if_pos h, if_pos (h ▸ Datum.same_text e.1), List.map_cons, h]
        · have hsame : ¬ (Datum.text e.1).same (.text r.name) = true := fun hs =>
            h (Datum.text.inj ((Datum.same_text_iff _ _).1 hs))
          rw [if_neg h, if_neg hsame, List.map_cons]
  have hname : r.datum.member "name" = .ok (.text r.name) := by
    simp only [Row.datum, Datum.member, r.named]
  rw [readRow, hname, ← hput]
  rfl

/-- So are rows one after another. -/
theorem foldlM_readRow (rows : List Row) (read : Entries String Row) :
    (rows.map Row.datum).foldlM readRow (columnsOfRows read) =
      .ok (columnsOfRows (rows.foldl (fun (read : Entries String Row) r => read.put r.name r)
        read)) := by
  induction rows generalizing read with
  | nil => rfl
  | cons r rows ih =>
      rw [List.map_cons, List.foldlM_cons, readRow_datum, List.foldl_cons, ← ih]
      rfl

/-- **The columns of a table** that lists rows: each name where it comes first, with what its last
row says. -/
theorem columnsOf_eq {columns : Datum} {rows : List Row}
    (h : columns.items = .ok (rows.map Row.datum)) :
    columnsOf columns = .ok ((finalRows rows).map fun r => (.text r.name, columnOf r.members)) := by
  have hread := foldlM_readRow rows []
  have hrows : rows.foldl (fun (read : Entries String Row) r => read.put r.name r) [] =
      Entries.ofPairs (rows.map fun r => (r.name, r)) := by
    rw [Entries.ofPairs, List.foldl_map]
  rw [hrows, ofPairs_rows] at hread
  rw [columnsOf, h]
  refine hread.trans (congrArg Except.ok ?_)
  rw [columnsOfRows, List.map_map]
  rfl

end Manifest

/-! ### Tables -/

/-- The table of a name in a document. -/
def tableIn (d table : Datum) : Option Datum :=
  match table with
  | .text name => (d.member? "tables").bind (·.member? name)
  | _ => none

/-- The document has a table of a name that lists these rows. -/
def Lists (d table : Datum) (rows : List Row) : Prop :=
  ∃ columns, tableIn d table = some columns ∧ columns.items = .ok (rows.map Row.datum)

/-- In a schema that is read from an object, a table has the columns that its name stands for. -/
theorem table?_of_schemaOf {members : List (String × Datum)} {schema : Schema}
    (h : Manifest.schemaOf (.object members) = .ok schema) (name : String) :
    Option.Rel (fun columns read => Manifest.columnsOf columns = .ok read)
      (members.lookup name) (schema.table? name) := by
  rw [Manifest.schemaOf_object] at h
  obtain ⟨tables, htables, hschema⟩ := exists_of_bind_eq_ok h
  obtain rfl : Schema.ofTables tables = schema := Except.ok.inj hschema
  have hread := forall₂_of_mapM htables
  show Option.Rel _ _ ((tables.find? fun t => t.1 == name).map Prod.snd)
  clear h hschema htables
  -- The tables are read one after another, and each keeps its name.
  induction hread with
  | nil => exact .none
  | @cons t e members tables hte _ ih =>
      obtain ⟨read, hcolumns, hpair⟩ := exists_of_bind_eq_ok hte
      obtain rfl : (t.1, read) = e := Except.ok.inj hpair
      rw [List.lookup_cons, List.find?_cons, BEq.comm]
      cases hname : (t.1, read).1 == name with
      | true => exact .some hcolumns
      | false => exact ih

/-- What a manifest takes from its document. -/
theorem exists_of_ofDocument {source : String} {d : Datum} {manifest : Manifest}
    (h : Manifest.ofDocument source d = .ok manifest) :
    Manifest.schemaOf ((d.member? "tables").getD (.object [])) = .ok manifest.schema ∧
      manifest.models = (d.member? "models").getD (.object []) := by
  cases d with
  | object members =>
      rw [Manifest.ofDocument_object] at h
      obtain ⟨schema, hschema, hrest⟩ := exists_of_bind_eq_ok h
      obtain ⟨entries, -, hrest⟩ := exists_of_bind_eq_ok hrest
      obtain ⟨routes, -, hmanifest⟩ := exists_of_bind_eq_ok hrest
      obtain rfl := Except.ok.inj hmanifest
      exact ⟨eq_ok_of_liftM hschema, rfl⟩
  | _ => cases h

/-- **The tables of a manifest** are those of the document that it was read from. -/
theorem table?_of_ofDocument {source : String} {d : Datum} {manifest : Manifest}
    (h : Manifest.ofDocument source d = .ok manifest) (name : String) :
    Option.Rel (fun columns read => Manifest.columnsOf columns = .ok read)
      (tableIn d (.text name)) (manifest.schema.table? name) := by
  have hschema := (exists_of_ofDocument h).1
  show Option.Rel _ ((d.member? "tables").bind (·.member? name)) _
  cases htables : d.member? "tables" with
  | none =>
      rw [htables] at hschema
      exact table?_of_schemaOf hschema name
  | some tables =>
      rw [htables] at hschema
      cases tables with
      | object ts => exact table?_of_schemaOf hschema name
      | _ => cases hschema

/-! ### Attributes -/

variable {options : AnalysisSettings} {key : String} {members : List (String × Datum)}

/-- A table that lists rows has the columns of the final rows. -/
theorem columns_of_lists {source : String} {d : Datum} {manifest : Manifest}
    (h : Manifest.ofDocument source d = .ok manifest) {table : Datum} {rows : List Row}
    (hrows : Lists d table rows) :
    manifest.schema.hasTable table = .ok true ∧
      manifest.schema.columns table =
        (finalRows rows).map fun r => (.text r.name, Manifest.columnOf r.members) := by
  obtain ⟨columns, htable, hitems⟩ := hrows
  cases table with
  | text name =>
      have hrel := table?_of_ofDocument h name
      rw [htable] at hrel
      show Except.ok (manifest.schema.table? name).isSome = Except.ok true ∧
        (manifest.schema.table? name).getD [] = _
      cases hfound : manifest.schema.table? name with
      | none =>
          rw [hfound] at hrel
          cases hrel
      | some read =>
          rw [hfound] at hrel
          obtain ⟨hread⟩ := hrel
          exact ⟨rfl, Except.ok.inj (hread.symm.trans (Manifest.columnsOf_eq hitems))⟩
  | _ => cases htable

/-- There is no table that the document does not have. -/
theorem hasTable_of_tableIn_none {source : String} {d : Datum} {manifest : Manifest}
    (h : Manifest.ofDocument source d = .ok manifest) {table : Datum}
    (hhash : table.hashable = true) (hnone : tableIn d table = none) :
    manifest.schema.hasTable table = .ok false := by
  cases table with
  | text name =>
      have hrel := table?_of_ofDocument h name
      rw [hnone] at hrel
      rw [Schema.hasTable_text]
      cases hfound : manifest.schema.table? name with
      | none => rfl
      | some read =>
          rw [hfound] at hrel
          cases hrel
  | list | object => cases hhash
  | _ => rfl

/-- The columns of a table that is there. -/
theorem attributesOf_of_table {schema : Schema}
    (h : schema.hasTable (tableOf key members) = .ok true) :
    Analysis.attributesOf (.ok schema) options (Manifest.viewOf (.text key) (.object members)) =
      pure ((schema.columns (tableOf key members)).map fun e =>
        (e.1, Analysis.attributeOf e.1 e.2)) := by
  unfold Analysis.attributesOf
  rw [table_viewOf]
  show ((liftM (schema.hasTable (tableOf key members)) : Run Bool) >>= _) = _
  rw [h]
  rfl

/-- A table that is missing is a fault if the settings are strict. -/
theorem attributesOf_of_strict {schema : Schema}
    (h : schema.hasTable (tableOf key members) = .ok false) (hstrict : options.strict.truthy) :
    Analysis.attributesOf (.ok schema) options (Manifest.viewOf (.text key) (.object members)) =
      throw (.schema (.missingTable (tableOf key members).display)) := by
  unfold Analysis.attributesOf
  rw [table_viewOf]
  show ((liftM (schema.hasTable (tableOf key members)) : Run Bool) >>= _) = _
  rw [h, hstrict]
  rfl

/-- Otherwise there is a warning, and there are no columns. -/
theorem yields_attributesOf_of_not_strict {schema : Schema}
    (h : schema.hasTable (tableOf key members) = .ok false)
    (hstrict : options.strict.truthy = false) :
    Yields (Analysis.attributesOf (.ok schema) options
      (Manifest.viewOf (.text key) (.object members))) (· = []) := by
  unfold Analysis.attributesOf
  rw [table_viewOf]
  show Yields ((liftM (schema.hasTable (tableOf key members)) : Run Bool) >>= _) _
  refine Yields.bind (Yields.liftMisuse _) fun there hthere => ?_
  obtain rfl : false = there := Except.ok.inj (h.symm.trans hthere)
  rw [if_neg Bool.false_ne_true, hstrict, if_neg Bool.false_ne_true]
  exact Yields.bind_any fun name => Yields.bind_any fun _ => Yields.pure rfl

/-! ### Descriptions -/

/-- **What an analysis gives**: the columns that it finds, under the name of the model and the
unqualified name of its class. -/
theorem yields_description {schema : Except SchemaFault Schema} {v : ModelView}
    {P : Entries Datum Attribute → Prop} (h : Yields (Analysis.attributesOf schema options v) P) :
    Yields (Analysis.analyze schema options v) fun m =>
      P m.attributes ∧ v.name = .ok (.text m.qualifiedName) ∧
        m.className = Naming.unqualified m.qualifiedName := by
  unfold Analysis.analyze
  refine Yields.bind (Yields.liftFault _) fun qualified hqualified => ?_
  refine Yields.bind_any fun table => ?_
  refine Yields.bind (Yields.liftMisuse _) fun name hname => ?_
  obtain rfl := (Datum.textFor_eq_ok_iff _ _ _).1 hname
  refine Yields.bind_any fun key => Yields.bind h fun found hfound => ?_
  refine Yields.bind_any fun relationships => Yields.bind_any fun rules => ?_
  refine Yields.bind_any fun d => Yields.bind_any fun fillable => ?_
  refine Yields.bind_any fun d => Yields.bind_any fun guarded => ?_
  refine Yields.bind_any fun d => Yields.bind_any fun hidden => ?_
  refine Yields.bind_any fun d => Yields.bind_any fun casts => ?_
  refine Yields.bind_any fun d => Yields.bind_any fun dates => ?_
  refine Yields.bind_any fun timestamps => Yields.bind_any fun softDelete => ?_
  exact Yields.pure ⟨hfound, hqualified, rfl⟩

/-- The attributes are the columns that are found. -/
theorem yields_analyze {schema : Except SchemaFault Schema} {v : ModelView}
    {attributes : Entries Datum Attribute}
    (h : Yields (Analysis.attributesOf schema options v) (· = attributes)) :
    Yields (Analysis.analyze schema options v) (fun m => m.attributes = attributes) :=
  fun s m s' hm => (yields_description h s m s' hm).1

/-- A fault of the columns is one of the description. -/
theorem analyze_of_throw {schema : Except SchemaFault Schema} {name : String} {f : Fault}
    (hname : classOf key members = .text name)
    (h : Analysis.attributesOf schema options (Manifest.viewOf (.text key) (.object members)) =
      throw f) :
    Analysis.analyze schema options (Manifest.viewOf (.text key) (.object members)) = throw f := by
  unfold Analysis.analyze
  rw [name_viewOf, table_viewOf, h, hname]
  rfl

/-- An entry whose members fit the uses that are made of them, whatever the tables are. -/
structure IsWellFormed (options : AnalysisSettings) (key : String)
    (members : List (String × Datum)) : Prop where
  name : isText (classOf key members) = true
  table : (tableOf key members).hashable = true
  relations : (!options.includeRelationships.truthy ||
    hasRelations (memberOr "relationships" .null members)) = true
  sections : ∀ part ∈ ["rules", "casts"], isSection (memberOr part .null members) = true
  lists : ∀ part ∈ ["fillable", "guarded", "hidden", "dates"],
    isSet (memberOr part (.list []) members) = true

/-- The analysis of such an entry returns, unless its table is missing and the settings are
strict. -/
theorem entryEnding_of_isWellFormed {schema : Schema} (h : IsWellFormed options key members)
    (htable : (!options.strict.truthy || isTable schema (tableOf key members)) = true) :
    entryEnding options schema key members = .returns := by
  rw [entryEnding, checks, h.name, h.table, htable, h.relations, h.sections "rules" (by simp),
    h.sections "casts" (by simp), h.lists "fillable" (by simp), h.lists "guarded" (by simp),
    h.lists "hidden" (by simp), h.lists "dates" (by simp)]
  rfl

/-- A model with the columns that some rows list. -/
structure HasColumns (m : Model) (rows : List Row) : Prop where
  /-- The names come in the order in which they come first, and none comes twice. -/
  names : Entries.keys m.attributes = (rows.map Row.name).eraseDups.map .text
  /-- Each column is what the last row of its name says. -/
  attributes : m.attributes = (finalRows rows).map fun r => (.text r.name, r.attribute)
  /-- Each of them that is not left out becomes one field, in the same order. -/
  fields : ∀ c : Dart.Context, Dart.fields c m =
    ((finalRows rows).filter fun r => !c.isLeftOut (.text r.name)).map fun r =>
      Dart.Field.ofAttribute c r.attribute

/-- The attributes decide about the names and the fields. -/
theorem hasColumns_of_attributes {m : Model} {rows : List Row}
    (h : m.attributes = (finalRows rows).map fun r => (.text r.name, r.attribute)) :
    HasColumns m rows where
  names := by
    rw [h, ← finalRows_names, Entries.keys, List.map_map, List.map_map]
    rfl
  attributes := h
  fields c := by
    rw [Dart.fields, Dart.Context.included, h, List.filter_map, List.map_map, List.map_map]
    rfl

/-- A model is found under its name. -/
theorem model_of_lookup {manifest : Manifest} {models : List (String × Datum)} {d : Datum}
    (hmodels : manifest.models = .object models) (h : models.lookup key = some d) :
    manifest.backend.model key = .ok (Manifest.viewOf (.text key) d) := by
  have hholds : Datum.holds (.text key) manifest.models = .ok true := by
    rw [hmodels]
    show Except.ok _ = _
    rw [List.any_eq_true.2 ⟨_, Entries.mem_of_lookup h, Datum.same_text key⟩]
  have hpart : Datum.partAt (.text key) manifest.models = .ok d := by
    rw [hmodels]
    simp only [Datum.partAt, Datum.member, h]
  show Manifest.model manifest (.text key) = _
  rw [Manifest.model, hholds, hpart]
  rfl

/-- **The analysis captures the table.**  From a manifest, a model with an entry that is well formed
is described.  If its table lists rows, the model has the columns that these list; if the document
has no such table, the model has no columns, or the analysis ends in a fault that says so if the
settings are strict. -/
theorem analyze_columns {source : String} {d : Datum} {manifest : Manifest}
    (hmanifest : Manifest.ofDocument source d = .ok manifest)
    (hmodel : (d.member? "models").bind (·.member? key) = some (.object members))
    (hentry : IsWellFormed options key members) (s : Session) :
    ∃ v, manifest.backend.model key = .ok v ∧
      (∀ rows, Lists d (tableOf key members) rows →
        ∃ m, ((Analysis.analyze manifest.backend.schema options v).run.run s).1 = .ok m ∧
          HasColumns m rows) ∧
      (tableIn d (tableOf key members) = none →
        if options.strict.truthy then
          ((Analysis.analyze manifest.backend.schema options v).run.run s).1 =
            .error (.schema (.missingTable (tableOf key members).display))
        else
          ∃ m, ((Analysis.analyze manifest.backend.schema options v).run.run s).1 = .ok m ∧
            m.attributes = []) := by
  have hschema : manifest.backend.schema = .ok manifest.schema := manifest.backend_schema
  obtain ⟨models, hmodels, hlookup⟩ : ∃ models, manifest.models = .object models ∧
      models.lookup key = some (.object members) := by
    rw [(exists_of_ofDocument hmanifest).2]
    cases hsection : d.member? "models" with
    | none =>
        rw [hsection] at hmodel
        cases hmodel
    | some found =>
        rw [hsection] at hmodel
        cases found with
        | object models => exact ⟨models, rfl, hmodel⟩
        | _ => cases hmodel
  -- The analysis returns if there is a table, and also if there need not be one.
  have hreturns (h : (!options.strict.truthy ||
      isTable manifest.schema (tableOf key members)) = true) :
      ∃ m, ((Analysis.analyze (.ok manifest.schema) options
        (Manifest.viewOf (.text key) (.object members))).run.run s).1 = .ok m := by
    obtain ⟨m, s', hm⟩ := (EndsIn.exists_run_iff s).2
      ((endsIn_analyze options manifest.schema key members s).trans
        (entryEnding_of_isWellFormed hentry h))
    exact ⟨m, congrArg Prod.fst hm⟩
  refine ⟨_, model_of_lookup hmodels hlookup, ?_, ?_⟩
  · intro rows hrows
    obtain ⟨hthere, hcolumns⟩ := columns_of_lists hmanifest hrows
    have hattributes : Yields (Analysis.attributesOf (.ok manifest.schema) options
        (Manifest.viewOf (.text key) (.object members)))
        (· = (finalRows rows).map fun r => (.text r.name, r.attribute)) := by
      rw [attributesOf_of_table hthere, hcolumns, List.map_map]
      exact Yields.pure rfl
    obtain ⟨m, hm⟩ := hreturns (by rw [isTable, hthere, Bool.or_true])
    rw [hschema]
    exact ⟨m, hm, hasColumns_of_attributes (yields_analyze hattributes _ _ _ (run_of_fst hm))⟩
  · intro hnone
    have hmissing := hasTable_of_tableIn_none hmanifest hentry.table hnone
    obtain ⟨name, hname⟩ := (isText_iff _).1 hentry.name
    rw [hschema]
    cases hstrict : options.strict.truthy with
    | true =>
        rw [if_pos rfl, analyze_of_throw hname (attributesOf_of_strict hmissing hstrict)]
        rfl
    | false =>
        obtain ⟨m, hm⟩ := hreturns (by rw [hstrict]; rfl)
        have hattributes := yields_attributesOf_of_not_strict hmissing hstrict
        rw [if_neg Bool.false_ne_true]
        exact ⟨m, hm, yields_analyze hattributes _ _ _ (run_of_fst hm)⟩

/-- A table with a name that comes twice, and a model without a table under strict settings. -/
theorem analyze_columns_twice :
    let document : Datum := .object [
      ("models", .object [("User", .object []), ("Ghost", .object [])]),
      ("tables", .object [("users", .list [
        .object [("name", .text "id"), ("type", .text "bigint")], .object [("name", .text "name")],
        .object [("name", .text "id"), ("nullable", .bool true), ("default", .int 7)]])])]
    let options : AnalysisSettings := ⟨.bool true, .bool false, .bool true, []⟩
    let s : Session := .start (.ofContents []) [] Web.unreachable
    ∃ manifest user ghost, Manifest.ofDocument "m.json" document = .ok manifest ∧
      manifest.backend.model "User" = .ok user ∧ manifest.backend.model "Ghost" = .ok ghost ∧
      (∃ m, ((Analysis.analyze manifest.backend.schema options user).run.run s).1 = .ok m ∧
        m.attributes = [
          (.text "id", ⟨.text "id", .string, .text "string", true, .int 7⟩),
          (.text "name", ⟨.text "name", .string, .text "string", false, .null⟩)]) ∧
      ((Analysis.analyze manifest.backend.schema options ghost).run.run s).1 =
        .error (.schema (.missingTable "ghosts")) := by
  intro document options s
  let rows : List Row := [
    ⟨[("name", .text "id"), ("type", .text "bigint")], "id", rfl⟩,
    ⟨[("name", .text "name")], "name", rfl⟩,
    ⟨[("name", .text "id"), ("nullable", .bool true), ("default", .int 7)], "id", rfl⟩]
  obtain ⟨manifest, hmanifest⟩ : ∃ manifest, Manifest.ofDocument "m.json" document = .ok manifest :=
    ⟨_, rfl⟩
  have hentry (key : String) : IsWellFormed options key [] :=
    ⟨rfl, rfl, rfl, by decide, by decide⟩
  obtain ⟨user, huser, hrows, -⟩ := analyze_columns hmanifest rfl (hentry "User") s
  obtain ⟨ghost, hghost, -, hmissing⟩ := analyze_columns hmanifest rfl (hentry "Ghost") s
  obtain ⟨m, hm, hcolumns⟩ := hrows rows ⟨_, rfl, rfl⟩
  refine ⟨manifest, user, ghost, hmanifest, huser, hghost, ⟨m, hm, ?_⟩, hmissing rfl⟩
  rw [hcolumns.attributes]
  rfl

end DartScaffold.Backend
