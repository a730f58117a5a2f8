/-
**What loading a manifest comes to.**

A manifest is loaded from a file that may be missing or hold anything.  Most of what can be wrong is
a fault of the description: there is no file, it cannot be opened, its text is no document, the
document is no object, or a route of it says nothing about its path.  But a name that cannot be
looked up, bytes that are no text, a document beyond the limits, and members of the wrong kind end
the loading with another fault.  These exceptions are listed, and it is shown that there are no
others.

Main definitions:

* `Backend.IsReported` — a result or a fault of the description;
* `Backend.IsColumn`, `Backend.IsTables`, `Backend.HasUri`, `Backend.IsManifest` — the documents
  that are manifests;
* `Backend.Misshapen` — the documents with members of the wrong kind;
* `Document.Holds`, `Document.Reading` — what a file holds, and what reading it comes to;
* `Backend.Eludes` — the files whose faults are not those of a description.

Main results:

* `Document.reading_ofFile` — what reading a file comes to;
* `Backend.Manifest.exists_ofDocument_iff`, `Backend.Manifest.isReported_ofDocument_iff` — which
  documents are manifests, and which are reported;
* `Backend.Manifest.load_isReported` — which files are.
-/

import DartScaffold.Backend.ManifestSource
import DartScaffold.Proofs.Files.Additions
import DartScaffold.Proofs.Occurrences
import DartScaffold.Proofs.Steps

set_option relaxedAutoImplicit false
set_option autoImplicit false

namespace DartScaffold

/-! ### Loops whose steps may fail -/

section Loops

variable {ε α β : Type} {P : α → Prop}

/-- A loop gives something exactly when each of its steps does. -/
theorem exists_mapM_iff {f : α → Except ε β} (h : ∀ a, (∃ b, f a = .ok b) ↔ P a) (as : List α) :
    (∃ bs, as.mapM f = .ok bs) ↔ ∀ a ∈ as, P a := by
  constructor
  · rintro ⟨bs, hbs⟩ a ha
    obtain ⟨b, -, hb⟩ := exists_of_forall₂ (forall₂_of_mapM hbs) ha
    exact (h a).1 ⟨b, hb⟩
  · intro hall
    obtain ⟨bs, hbs, -⟩ := exists_mapM_ok (P := fun _ => True) fun a ha =>
      let ⟨b, hb⟩ := (h a).2 (hall a ha)
      ⟨b, hb, trivial⟩
    exact ⟨bs, hbs⟩

/-- So does a loop with an accumulator, if the success of a step does not depend on it. -/
theorem exists_foldlM_iff {f : β → α → Except ε β} (h : ∀ b a, (∃ c, f b a = .ok c) ↔ P a)
    (as : List α) (b : β) : (∃ c, as.foldlM f b = .ok c) ↔ ∀ a ∈ as, P a := by
  induction as generalizing b with
  | nil => simp [pure, Except.pure]
  | cons a as ih =>
      rw [List.foldlM_cons, List.forall_mem_cons, ← h b a]
      cases hstep : f b a with
      | error e => simp [bind, Except.bind]
      | ok c => simpa [bind, Except.bind] using ih c

/-- What is done with the result of a computation does not matter. -/
theorem exists_bind_pure_iff {x : Except ε α} {g : α → β} :
    (∃ b, (x >>= fun a => pure (g a)) = .ok b) ↔ ∃ a, x = .ok a := by
  cases x <;> simp [bind, Except.bind, pure, Except.pure]

end Loops

namespace Backend

/-! ### Manifests and other documents -/

/-- A result, or a fault of the description of a backend. -/
def IsReported {α : Type} (result : Except Fault α) : Prop :=
  ∀ f, result = .error f → ∃ fault, f = .description fault

/-- A column has a name, which is neither list nor object. -/
inductive IsColumn : Datum → Prop
  | named {members : List (String × Datum)} {name : Datum}
      (h : members.lookup "name" = some name) (hname : name.hashable = true) :
      IsColumn (.object members)

/-- Tables have names, and columns that can be gone through. -/
inductive IsTables : Datum → Prop
  | tables {members : List (String × Datum)}
      (h : ∀ t ∈ members, ∃ columns, t.2.items = .ok columns ∧ ∀ c ∈ columns, IsColumn c) :
      IsTables (.object members)

/-- The word that a route speaks of its path with is found in it.  It may be a word of a list or a
part of a text as well. -/
inductive HasUri : Datum → Prop
  | member {members : List (String × Datum)} {value : Datum} (h : ("uri", value) ∈ members) :
      HasUri (.object members)
  | item {ds : List Datum} (h : .text "uri" ∈ ds) : HasUri (.list ds)
  | part {s : String} (h : Text.contains "uri" s = true) : HasUri (.text s)

/-- Nothing can be looked for in the value: it is no text, no list and no object. -/
def isAtom : Datum → Bool
  | .text _ | .list _ | .object _ => false
  | _ => true

/-- A manifest: an object whose tables and routes are well formed.  Nothing is said about the
models, and tables and routes may be missing. -/
inductive IsManifest : Datum → Prop
  | manifest {members : List (String × Datum)}
      (htables : ∀ d, members.lookup "tables" = some d → IsTables d)
      (hroutes : ∀ d, members.lookup "routes" = some d →
        ∃ routes, d.items = .ok routes ∧ ∀ r ∈ routes, HasUri r) :
      IsManifest (.object members)

/-- An object with members of the wrong kind: the tables or a column, the routes, or a route before
all others that say nothing about their path. -/
inductive Misshapen : Datum → Prop
  | tables {members : List (String × Datum)} {d : Datum} (h : members.lookup "tables" = some d)
      (hd : ¬ IsTables d) : Misshapen (.object members)
  | routes {members : List (String × Datum)} {d : Datum} (h : members.lookup "routes" = some d)
      (hd : isAtom d = true) : Misshapen (.object members)
  | route {members : List (String × Datum)} {d r : Datum} {before after : List Datum}
      (h : members.lookup "routes" = some d) (hitems : d.items = .ok (before ++ r :: after))
      (hbefore : ∀ b ∈ before, HasUri b) (hr : isAtom r = true) : Misshapen (.object members)

/-! ### Results and faults -/

section Reports

variable {α β : Type}

@[simp] theorem isReported_ok (a : α) : IsReported (.ok a) := by
  rintro f ⟨⟩

@[simp] theorem isReported_error_iff (f : Fault) :
    IsReported (.error f : Except Fault α) ↔ ∃ fault, f = .description fault := by
  simp [IsReported]

/-- What is done with a result does not matter. -/
theorem isReported_bind_pure_iff {x : Except Fault α} {g : α → β} :
    IsReported (x >>= fun a => pure (g a)) ↔ IsReported x := by
  cases x <;> simp [bind, Except.bind, pure, Except.pure]

/-- A value that is used has to be of the right kind. -/
theorem isReported_use_iff (x : Except Misuse α) {f : α → Except Fault β} :
    IsReported ((liftM x : Except Fault α) >>= f) ↔ ∃ a, x = .ok a ∧ IsReported (f a) := by
  cases x with
  | error m =>
      refine iff_of_false (fun h => ?_) (by rintro ⟨_, ⟨⟩, -⟩)
      obtain ⟨fault, hfault⟩ := h _ rfl
      cases hfault
  | ok a => exact ⟨fun h => ⟨a, rfl, h⟩, fun ⟨_, ha, h⟩ => Except.ok.inj ha ▸ h⟩

/-- What is given by a sequence that begins with the use of a value. -/
theorem exists_use_iff (x : Except Misuse α) {f : α → Except Fault β} :
    (∃ b, ((liftM x : Except Fault α) >>= f) = .ok b) ↔ ∃ a, x = .ok a ∧ ∃ b, f a = .ok b := by
  cases x with
  | error m => exact iff_of_false (by rintro ⟨_, ⟨⟩⟩) (by rintro ⟨_, ⟨⟩, -⟩)
  | ok a => exact ⟨fun h => ⟨a, rfl, h⟩, fun ⟨_, ha, h⟩ => Except.ok.inj ha ▸ h⟩

end Reports

/-! ### What can be looked for and gone through -/

/-- The word is found or not in whatever something can be looked for in. -/
theorem holds_uri {d : Datum} (hd : isAtom d = false) :
    ∃ b, Datum.holds (.text "uri") d = .ok b ∧ (b = true ↔ HasUri d) := by
  cases d with
  | text s =>
      refine ⟨_, rfl, fun h => .part h, fun h => ?_⟩
      cases h with
      | part h => exact h
  | list ds =>
      refine ⟨_, rfl, ?_⟩
      rw [Datum.isIn, List.any_eq_true]
      constructor
      · rintro ⟨d, hd, hsame⟩
        exact .item ((Datum.same_text_iff d "uri").1 hsame ▸ hd)
      · intro h
        cases h with
        | item h => exact ⟨_, h, Datum.same_text "uri"⟩
  | object members =>
      refine ⟨_, rfl, ?_⟩
      rw [List.any_eq_true]
      constructor
      · rintro ⟨⟨key, value⟩, hm, hsame⟩
        obtain rfl : "uri" = key := Datum.text.inj ((Datum.same_text_iff _ key).1 hsame)
        exact .member hm
      · intro h
        cases h with
        | member h => exact ⟨_, h, Datum.same_text "uri"⟩
  | _ => cases hd

/-- In a value of another kind nothing is looked for. -/
theorem holds_atom {d : Datum} (hd : isAtom d = true) (key : Datum) :
    Datum.holds key d = .error (.notContainer d.kindName) := by
  cases d <;> first | rfl | cases hd

theorem not_hasUri_atom {d : Datum} (hd : isAtom d = true) : ¬ HasUri d := by
  rintro ⟨⟩ <;> cases hd

/-- What something can be looked for in can be gone through, and nothing else. -/
theorem exists_items_iff (d : Datum) : (∃ ds, d.items = .ok ds) ↔ isAtom d = false := by
  cases d <;> simp [Datum.items, isAtom]

namespace Manifest

/-! ### Tables -/

/-- The columns of a table are read exactly when they are columns. -/
theorem exists_columnsOf_iff (d : Datum) :
    (∃ read, columnsOf d = .ok read) ↔
      ∃ columns, d.items = .ok columns ∧ ∀ c ∈ columns, IsColumn c := by
  unfold columnsOf
  cases hitems : d.items with
  | error e => simp [bind, Except.bind]
  | ok columns =>
      simp only [Except.ok.injEq, exists_eq_left']
      refine exists_foldlM_iff (fun read c => ?_) columns []
      cases c with
      | object members =>
          cases hname : members.lookup "name" with
          | none =>
              simp only [Datum.member, hname, bind, Except.bind]
              refine iff_of_false (by simp) ?_
              rintro ⟨h, -⟩
              rw [hname] at h
              cases h
          | some name =>
              cases hhash : name.hashable with
              | true =>
                  simp only [Datum.member, hname, hhash, bind, Except.bind]
                  exact iff_of_true ⟨_, rfl⟩ ⟨hname, hhash⟩
              | false =>
                  simp only [Datum.member, hname, hhash, bind, Except.bind]
                  refine iff_of_false (by rintro ⟨_, ⟨⟩⟩) ?_
                  rintro ⟨h, hnamed⟩
                  obtain rfl : name = _ := Option.some.inj (hname.symm.trans h)
                  rw [hhash] at hnamed
                  cases hnamed
      | _ => exact iff_of_false (by rintro ⟨_, ⟨⟩⟩) (by rintro ⟨⟩)

theorem schemaOf_object (members : List (String × Datum)) :
    schemaOf (.object members) = (members.mapM (fun t : String × Datum => do
      return (t.1, ← columnsOf t.2)) >>= fun tables => pure (.ofTables tables)) := rfl

/-- The tables are read exactly when they are tables. -/
theorem exists_schemaOf_iff (d : Datum) : (∃ schema, schemaOf d = .ok schema) ↔ IsTables d := by
  cases d with
  | object members =>
      rw [schemaOf_object, exists_bind_pure_iff, exists_mapM_iff fun t => ?_]
      · constructor
        · exact .tables
        · rintro ⟨h⟩
          exact h
      · rw [exists_bind_pure_iff]
        exact exists_columnsOf_iff t.2
  | _ => exact iff_of_false (by rintro ⟨_, ⟨⟩⟩) (by rintro ⟨⟩)

/-! ### Routes -/

/-- An entry is read exactly when the word is found in it. -/
theorem exists_entryOf_iff (d : Datum) : (∃ entry, entryOf d = .ok entry) ↔ HasUri d := by
  cases hatom : isAtom d with
  | true =>
      refine iff_of_false ?_ (not_hasUri_atom hatom)
      rw [entryOf, holds_atom hatom]
      rintro ⟨_, ⟨⟩⟩
  | false =>
      obtain ⟨b, hb, hiff⟩ := holds_uri hatom
      rw [entryOf, hb, ← hiff]
      cases b with
      | true => exact iff_of_true ⟨_, rfl⟩ rfl
      | false => exact iff_of_false (by rintro ⟨_, ⟨⟩⟩) (by decide)

/-- Otherwise the fault is one of the description, unless nothing can be looked for in the entry. -/
theorem isReported_entryOf_iff (d : Datum) : IsReported (entryOf d) ↔ isAtom d = false := by
  cases hatom : isAtom d with
  | true =>
      refine iff_of_false (fun h => ?_) (by decide)
      obtain ⟨fault, hfault⟩ := h _ (by rw [entryOf, holds_atom hatom]; rfl)
      cases hfault
  | false =>
      obtain ⟨b, hb, -⟩ := holds_uri hatom
      refine iff_of_true (fun f hf => ?_) rfl
      rw [entryOf, hb] at hf
      cases b with
      | true => cases hf
      | false =>
          cases hf
          exact ⟨_, rfl⟩

/-- The first entry in which the word is not found decides what the fault is. -/
theorem isReported_entries_iff (entries : List Datum) :
    IsReported (entries.mapM entryOf) ↔ ∀ before r after, entries = before ++ r :: after →
      (∀ b ∈ before, HasUri b) → isAtom r = false := by
  induction entries with
  | nil =>
      refine iff_of_true (fun f hf => ?_) (by simp)
      cases hf
  | cons d entries ih =>
      rw [List.mapM_cons]
      by_cases huri : HasUri d
      · obtain ⟨entry, hentry⟩ := (exists_entryOf_iff d).2 huri
        rw [hentry]
        refine (isReported_bind_pure_iff (x := entries.mapM entryOf)).trans (ih.trans ?_)
        constructor
        · rintro h before r after heq hbefore
          cases before with
          | nil =>
              obtain ⟨rfl, -⟩ := List.cons.inj heq
              exact Bool.eq_false_iff.2 fun hatom => not_hasUri_atom hatom huri
          | cons b before =>
              exact h before r after (List.cons.inj heq).2
                fun c hc => hbefore c (List.mem_cons_of_mem _ hc)
        · rintro h before r after rfl hbefore
          exact h (d :: before) r after rfl (List.forall_mem_cons.2 ⟨huri, hbefore⟩)
      · have hfirst : IsReported (entryOf d >>= fun entry => do
            let rest ← entries.mapM entryOf
            pure (entry :: rest)) ↔ IsReported (entryOf d) := by
          cases hentry : entryOf d with
          | error f =>
              simp only [bind, Except.bind, isReported_error_iff]
          | ok entry => exact absurd ((exists_entryOf_iff d).1 ⟨entry, hentry⟩) huri
        rw [hfirst, isReported_entryOf_iff]
        constructor
        · rintro hd before r after heq hbefore
          cases before with
          | nil => exact (List.cons.inj heq).1 ▸ hd
          | cons b before =>
              obtain ⟨rfl, -⟩ := List.cons.inj heq
              exact absurd (hbefore d (List.mem_cons_self ..)) huri
        · intro h
          exact h [] d entries rfl (by simp)

/-! ### Documents -/

theorem ofDocument_object (source : String) (members : List (String × Datum)) :
    ofDocument source (.object members) = (do
      let schema ← schemaOf ((members.lookup "tables").getD (.object []))
      let entries ← (((members.lookup "routes").getD (.list [])).items : Except Misuse _)
      let routes ← entries.mapM entryOf
      pure ⟨source, schema, (members.lookup "models").getD (.object []), routes⟩) := rfl

/-- Tables that are missing are as good as none. -/
theorem isTables_getD_iff (given : Option Datum) :
    IsTables (given.getD (.object [])) ↔ ∀ d, given = some d → IsTables d := by
  cases given with
  | none => exact iff_of_true (.tables (by simp)) (by rintro _ ⟨⟩)
  | some d => simp

/-- A document is read exactly when it is a manifest. -/
theorem exists_ofDocument_iff (source : String) (d : Datum) :
    (∃ m, ofDocument source d = .ok m) ↔ IsManifest d := by
  cases d with
  | object members =>
      rw [ofDocument_object]
      simp only [exists_use_iff, exists_bind_pure_iff, exists_mapM_iff exists_entryOf_iff]
      rw [exists_and_right, exists_schemaOf_iff, isTables_getD_iff]
      have hroutes : (∃ routes, ((members.lookup "routes").getD (.list [])).items = .ok routes ∧
            ∀ r ∈ routes, HasUri r) ↔
          ∀ d, members.lookup "routes" = some d →
            ∃ routes, d.items = .ok routes ∧ ∀ r ∈ routes, HasUri r := by
        cases members.lookup "routes" with
        | none => exact iff_of_true ⟨[], rfl, by simp⟩ (by rintro _ ⟨⟩)
        | some d => simp
      rw [hroutes]
      constructor
      · rintro ⟨htables, hroutes⟩
        exact .manifest htables hroutes
      · rintro ⟨htables, hroutes⟩
        exact ⟨htables, hroutes⟩
  | _ => exact iff_of_false (by rintro ⟨_, ⟨⟩⟩) (by rintro ⟨⟩)

/-- Otherwise the fault is one of the description, unless the document is misshapen. -/
theorem isReported_ofDocument_iff (source : String) (d : Datum) :
    IsReported (ofDocument source d) ↔ ¬ Misshapen d := by
  cases d with
  | object members =>
      rw [ofDocument_object]
      simp only [isReported_use_iff, isReported_bind_pure_iff]
      rw [exists_and_right, exists_schemaOf_iff, isTables_getD_iff]
      constructor
      · rintro ⟨htables, routes, hitems, hentries⟩ hmisshapen
        cases hmisshapen with
        | tables h hd => exact hd (htables _ h)
        | routes h hd =>
            rw [h] at hitems
            exact absurd ((exists_items_iff _).1 ⟨routes, hitems⟩) (by simp [hd])
        | route h hread hbefore hr =>
            rw [h] at hitems
            obtain rfl := Except.ok.inj (hitems.symm.trans hread)
            rw [(isReported_entries_iff _).1 hentries _ _ _ rfl hbefore] at hr
            cases hr
      · intro hwell
        refine ⟨fun d h => by_contra fun hd => hwell (.tables h hd), ?_⟩
        cases hroutes : members.lookup "routes" with
        | none => exact ⟨[], rfl, by rintro _ ⟨⟩⟩
        | some d =>
            cases hatom : isAtom d with
            | true => exact absurd (.routes hroutes hatom) hwell
            | false =>
                obtain ⟨routes, hitems⟩ := (exists_items_iff d).2 hatom
                refine ⟨routes, hitems, (isReported_entries_iff routes).2 ?_⟩
                rintro before r after rfl hbefore
                exact Bool.eq_false_iff.2 fun hr => hwell (.route hroutes hitems hbefore hr)
  | _ =>
      refine iff_of_true ?_ (by rintro ⟨⟩)
      rw [ofDocument_of_not_object _ (by simp), isReported_error_iff]
      exact ⟨_, rfl⟩

end Manifest

end Backend

/-! ### Files -/

/-- A computation that is attempted gives its fault, and leaves the same session behind. -/
theorem run_attempt {α : Type} (x : Run α) (s : Session) :
    (Run.attempt x).run.run s = (.ok (x.run.run s).1, (x.run.run s).2) := rfl

namespace Document

/-- The file at a path holds a text, or bytes that are none. -/
def Holds (tree : FileTree) (p : Path) (text : Except Text.Utf8.Fault String) : Prop :=
  ∃ content, tree.read p = .ok content ∧ content.lineText = text

/-- A file holds one text. -/
theorem Holds.unique {tree : FileTree} {p : Path} {r r' : Except Text.Utf8.Fault String}
    (h : Holds tree p r) (h' : Holds tree p r') : r = r' := by
  obtain ⟨content, hread, rfl⟩ := h
  obtain ⟨content', hread', rfl⟩ := h'
  rw [Except.ok.inj (hread.symm.trans hread')]

/-- A file that is read is there. -/
theorem Holds.pathExists {tree : FileTree} {p : Path} {r : Except Text.Utf8.Fault String}
    (h : Holds tree p r) : tree.pathExists p = .ok true := by
  obtain ⟨content, hread, -⟩ := h
  exact FileTree.pathExists_eq_true_iff.2 ⟨_, FileTree.read_eq_ok_iff.1 hread⟩

/-- What reading the document in a file comes to. -/
inductive Reading (tree : FileTree) (p : Path) : Except Fault Document → Prop
  | untold {e : FileError} (h : tree.pathExists p = .error e) : Reading tree p (.error (.file e))
  | missing (h : tree.pathExists p = .ok false) :
      Reading tree p (.error (.missingDocument p.text))
  | unreadable {e : FileError} (hthere : tree.pathExists p = .ok true)
      (h : tree.read p = .error e) :
      Reading tree p (.error (.source (.unreadableFile p.text e)))
  | undecodable {f : Text.Utf8.Fault} (h : Holds tree p (.error f)) :
      Reading tree p (.error (.undecodable f))
  | overLimit {source : String} {limit : Datum.Limit} (htext : Holds tree p (.ok source))
      (h : Datum.parse source = .error (.overLimit limit)) :
      Reading tree p (.error (.overLimit limit))
  | malformed {source reason : String} {fault : Datum.ReadFault} {position : Nat}
      (htext : Holds tree p (.ok source))
      (h : Datum.parse source = .error (.malformed fault position)) :
      Reading tree p (.error (.source (.malformedFile p.text reason)))
  | document {source : String} {d : Datum} (htext : Holds tree p (.ok source))
      (h : Datum.parse source = .ok d) : Reading tree p (.ok ⟨p.text, d⟩)

/-- A document that is there is read. -/
theorem Reading.eq_ok {tree : FileTree} {p : Path} {source : String} {d : Datum}
    {r : Except Fault Document} (hreading : Reading tree p r) (htext : Holds tree p (.ok source))
    (hparse : Datum.parse source = .ok d) : r = .ok ⟨p.text, d⟩ := by
  cases hreading with
  | untold h =>
      rw [htext.pathExists] at h
      cases h
  | missing h =>
      rw [htext.pathExists] at h
      cases h
  | unreadable hthere h =>
      obtain ⟨content, hread, -⟩ := htext
      rw [hread] at h
      cases h
  | undecodable h => cases htext.unique h
  | overLimit htext' h =>
      obtain rfl := Except.ok.inj (htext.unique htext')
      rw [hparse] at h
      cases h
  | malformed htext' h =>
      obtain rfl := Except.ok.inj (htext.unique htext')
      rw [hparse] at h
      cases h
  | document htext' h =>
      obtain rfl := Except.ok.inj (htext.unique htext')
      obtain rfl := Except.ok.inj (hparse.symm.trans h)
      rfl

/-- A warning does not change what a computation gives that gives the same in all sessions. -/
theorem fst_warned {α : Type} {c : Prop} [Decidable c] {text : String} {x : Run α} {s : Session}
    {R : Except Fault α → Prop} (h : ∀ s', R (x.run.run s').1) :
    R ((if c then Run.warn text >>= fun _ => x else x).run.run s).1 := by
  split
  · rw [run_bind]
    exact h _
  · exact h s

/-- Reading the document in a file comes to one of these. -/
theorem reading_ofFile (name : String) (s : Session) :
    Reading s.tree (Path.ofString name) ((ofFile name).run.run s).1 := by
  unfold ofFile
  have htree : (Run.tree).run.run s = (.ok s.tree, s) := rfl
  rw [run_bind, htree]
  dsimp only
  cases hthere : s.tree.pathExists (Path.ofString name) with
  | error e => exact .untold hthere
  | ok there =>
      cases there with
      | false => exact .missing hthere
      | true =>
          have hgiven : (liftM (.ok true : Except FileError Bool) : Run Bool).run.run s =
              (.ok true, s) := rfl
          rw [run_bind, hgiven]
          dsimp only
          rw [if_neg (by decide)]
          refine fst_warned fun s' => ?_
          cases hread : s.tree.read (Path.ofString name) with
          | error e => exact .unreadable hthere hread
          | ok content =>
              dsimp only
              cases htext : content.lineText with
              | error f => exact .undecodable ⟨content, hread, htext⟩
              | ok source =>
                  dsimp only
                  have hholds : Holds s.tree (Path.ofString name) (.ok source) :=
                    ⟨content, hread, htext⟩
                  cases hparse : Datum.parse source with
                  | ok d => exact .document hholds hparse
                  | error e =>
                      cases e with
                      | overLimit limit => exact .overLimit hholds hparse
                      | malformed fault position => exact .malformed hholds hparse

end Document

namespace Backend

open Document (Holds Reading)

/-- The faults of a file that are not faults of a description: its name is taken for a malformed
address or cannot be looked up; its bytes are no text; the document goes beyond the limits, or has
members of the wrong kind. -/
inductive Eludes (tree : FileTree) (name : String) : Prop
  | address {f : Web.UrlFault} (h : Web.isUrl name = .error f)
  | untold {e : FileError} (h : tree.pathExists (Path.ofString name) = .error e)
  | undecodable {f : Text.Utf8.Fault} (hname : name ≠ "")
      (h : Holds tree (Path.ofString name) (.error f))
  | overLimit {source : String} {limit : Datum.Limit} (hname : name ≠ "")
      (htext : Holds tree (Path.ofString name) (.ok source))
      (h : Datum.parse source = .error (.overLimit limit))
  | misshapen {source : String} {d : Datum} (hname : name ≠ "")
      (htext : Holds tree (Path.ofString name) (.ok source)) (h : Datum.parse source = .ok d)
      (hd : Misshapen d)

namespace Manifest

/-- The manifest that a document is, if it could be read. -/
def ofReading (name : String) : Except Fault Document → Except Fault Manifest
  | .error f => .error (descriptionFault (.text name) f)
  | .ok document => ofDocument document.source document.content

/-- What loading a manifest from a file gives, from what reading the file gives. -/
theorem fst_load {name : String} (hname : name ≠ "") (haddress : Web.isUrl name = .ok false)
    (timeout : Datum) (s : Session) :
    ((load (.text name) timeout).run.run s).1 =
      ofReading name ((Document.ofFile name).run.run s).1 := by
  have hload : Document.load (.text name) timeout = Document.ofFile name := by
    have htruthy : (Datum.text name).truthy = true := by
      rw [Datum.truthy_text, bne_iff_ne]
      exact hname
    simp only [Document.load, htruthy, haddress]
    rfl
  rw [load, hload, run_bind, run_attempt]
  dsimp only
  cases ((Document.ofFile name).run.run s).1 with
  | error f => rfl
  | ok document =>
      dsimp only [ofReading]
      cases ofDocument document.source document.content <;> rfl

/-- The path without names leads somewhere or nowhere. -/
theorem exists_pathExists_empty (tree : FileTree) :
    ∃ there, tree.pathExists (Path.ofString "") = .ok there := by
  have hpath : Path.ofString "" = ⟨"", []⟩ := by decide +kernel
  have hlocate : tree.locate ⟨"", []⟩ = .ok tree.here := by
    rw [FileTree.locate, if_neg (by decide +kernel), if_neg (by decide +kernel)]
    rfl
  rw [hpath, FileTree.pathExists, FileTree.status, hlocate]
  cases hnode : tree.node? tree.here with
  | none => exact ⟨false, by simp [bind, Except.bind, hnode]⟩
  | some node => exact ⟨true, by simp [bind, Except.bind, hnode]⟩

/-- Without a name the fault is one of the description. -/
theorem not_eludes_empty (tree : FileTree) : ¬ Eludes tree "" := by
  intro h
  cases h with
  | address h => cases h
  | untold h =>
      obtain ⟨there, hthere⟩ := exists_pathExists_empty tree
      rw [hthere] at h
      cases h
  | undecodable hname => exact hname rfl
  | overLimit hname => exact hname rfl
  | misshapen hname => exact hname rfl

section Files

variable {name source : String} {tree : FileTree} {r : Except Fault Document}

/-- A file that is not read, though its name can be looked up, is reported. -/
theorem not_eludes_of_unread {there : Bool} (haddress : Web.isUrl name = .ok false)
    (hthere : tree.pathExists (Path.ofString name) = .ok there)
    (hunread : ∀ text, ¬ Holds tree (Path.ofString name) text) : ¬ Eludes tree name := by
  intro h
  cases h with
  | address h =>
      rw [haddress] at h
      cases h
  | untold h =>
      rw [hthere] at h
      cases h
  | undecodable _ h => exact hunread _ h
  | overLimit _ htext => exact hunread _ htext
  | misshapen _ htext => exact hunread _ htext

/-- Whether a file that holds a text is reported depends on the document. -/
theorem eludes_iff_of_holds (hname : name ≠ "") (haddress : Web.isUrl name = .ok false)
    (htext : Holds tree (Path.ofString name) (.ok source)) :
    Eludes tree name ↔ (∃ limit, Datum.parse source = .error (.overLimit limit)) ∨
      ∃ d, Datum.parse source = .ok d ∧ Misshapen d := by
  constructor
  · intro h
    cases h with
    | address h =>
        rw [haddress] at h
        cases h
    | untold h =>
        rw [htext.pathExists] at h
        cases h
    | undecodable _ h => cases htext.unique h
    | overLimit _ htext' h =>
        obtain rfl := Except.ok.inj (htext.unique htext')
        exact .inl ⟨_, h⟩
    | misshapen _ htext' h hd =>
        obtain rfl := Except.ok.inj (htext.unique htext')
        exact .inr ⟨_, h, hd⟩
  · rintro (⟨limit, h⟩ | ⟨d, h, hd⟩)
    · exact .overLimit hname htext h
    · exact .misshapen hname htext h hd

/-- What reading the file comes to decides whether it is reported. -/
theorem isReported_ofReading_iff (hname : name ≠ "") (haddress : Web.isUrl name = .ok false)
    (hreading : Reading tree (Path.ofString name) r) :
    IsReported (ofReading name r) ↔ ¬ Eludes tree name := by
  cases hreading with
  | untold h =>
      refine iff_of_false ?_ (not_not_intro (.untold h))
      simp [ofReading, descriptionFault]
  | missing h =>
      refine iff_of_true (by simp [ofReading, descriptionFault])
        (not_eludes_of_unread haddress h fun text htext => ?_)
      rw [htext.pathExists] at h
      cases h
  | unreadable hthere h =>
      refine iff_of_true (by simp [ofReading, descriptionFault])
        (not_eludes_of_unread haddress hthere fun text htext => ?_)
      obtain ⟨content, hread, -⟩ := htext
      rw [hread] at h
      cases h
  | undecodable h =>
      refine iff_of_false ?_ (not_not_intro (.undecodable hname h))
      simp [ofReading, descriptionFault]
  | overLimit htext h =>
      rw [eludes_iff_of_holds hname haddress htext, h]
      simp [ofReading, descriptionFault]
  | malformed htext h =>
      rw [eludes_iff_of_holds hname haddress htext, h]
      simp [ofReading, descriptionFault]
  | document htext h =>
      rw [eludes_iff_of_holds hname haddress htext, h, ofReading, isReported_ofDocument_iff]
      simp

/-- And whether there is a manifest. -/
theorem exists_ofReading_iff (hreading : Reading tree (Path.ofString name) r) :
    (∃ m, ofReading name r = .ok m) ↔ ∃ source d, Holds tree (Path.ofString name) (.ok source) ∧
      Datum.parse source = .ok d ∧ IsManifest d := by
  constructor
  · rintro ⟨m, hm⟩
    cases hreading with
    | document htext h => exact ⟨_, _, htext, h, (exists_ofDocument_iff _ _).1 ⟨m, hm⟩⟩
    | _ => cases hm
  · rintro ⟨source, d, htext, h, hd⟩
    rw [hreading.eq_ok htext h]
    exact (exists_ofDocument_iff _ _).2 hd

end Files

/-- **A manifest that cannot be loaded is reported**, with the exceptions that are listed: from a
file that is missing, or holds anything, a manifest is loaded, or the fault is one of the
description, exactly if the file is none of them.  And a manifest is loaded from a text that is a
document with tables and routes that are well formed, and from nothing else.

The document is the one that is read: names of members that differ only in surrogates without their
partners are one name in it (`Datum.readText`), and the later member counts. -/
theorem load_isReported {name : String} (hlocal : Web.isUrl name ≠ .ok true) (timeout : Datum)
    (s : Session) :
    (IsReported ((load (.text name) timeout).run.run s).1 ↔ ¬ Eludes s.tree name) ∧
    ((∃ m, ((load (.text name) timeout).run.run s).1 = .ok m) ↔
      name ≠ "" ∧ Web.isUrl name = .ok false ∧ ∃ source d,
        Holds s.tree (Path.ofString name) (.ok source) ∧ Datum.parse source = .ok d ∧
        IsManifest d) := by
  by_cases hname : name = ""
  · subst hname
    have hrun : ((load (.text "") timeout).run.run s).1 =
        .error (.description (.notLoaded "" SourceFault.noSource.message)) := rfl
    rw [hrun]
    exact ⟨iff_of_true (by simp) (not_eludes_empty s.tree), by simp⟩
  cases haddress : Web.isUrl name with
  | error f =>
      have hload : Document.load (.text name) timeout = throw (.badValue f.message) := by
        have htruthy : (Datum.text name).truthy = true := by simpa using hname
        simp only [Document.load, htruthy, haddress]
        rfl
      have hrun : ((load (.text name) timeout).run.run s).1 = .error (.badValue f.message) := by
        rw [load, hload, Run.attempt_throw]
        rfl
      rw [hrun]
      exact ⟨iff_of_false (by simp) (not_not_intro (.address haddress)), by simp⟩
  | ok there =>
      cases there with
      | true => exact absurd haddress hlocal
      | false =>
          rw [fst_load hname haddress]
          have hreading := Document.reading_ofFile name s
          refine ⟨isReported_ofReading_iff hname haddress hreading, ?_⟩
          rw [exists_ofReading_iff hreading]
          simp [hname]

/-- A file whose tables are a list, one that holds a byte of no text, and one with an empty
object. -/
theorem load_isReported_exceptions :
    let started (content : FileTree.Content) : Session :=
      .start (.ofContents [("m.json", some content)]) [] Web.unreachable
    let loaded (content : FileTree.Content) : Except Fault Manifest :=
      ((load (.text "m.json") (.int 30)).run.run (started content)).1
    Web.isUrl "m.json" ≠ .ok true ∧ ¬ IsReported (loaded (.text "\x7b\"tables\": []\x7d")) ∧
      ¬ IsReported (loaded (.bytes [0xff])) ∧ ∃ m, loaded (.text "\x7b\x7d") = .ok m := by
  intro started loaded
  have hlocal : Web.isUrl "m.json" ≠ .ok true := by decide +kernel
  have hheld (content : FileTree.Content) :
      Holds (started content).tree (Path.ofString "m.json") content.lineText :=
    ⟨content, by rfl, rfl⟩
  refine ⟨hlocal, ?_, ?_, ?_⟩
  · rw [(load_isReported hlocal _ _).1, not_not]
    refine .misshapen (by decide) (hheld _) (d := .object [("tables", .list [])])
      (by cbv) (.tables (by rfl) ?_)
    rintro ⟨⟩
  · rw [(load_isReported hlocal _ _).1, not_not]
    exact .undecodable (by decide) (hheld _)
  · refine (load_isReported hlocal _ _).2.2 ⟨by decide, by decide +kernel, _, .object [], hheld _,
      by cbv, .manifest ?_ ?_⟩
    · rintro _ ⟨⟩
    · rintro _ ⟨⟩

end Manifest

end Backend

end DartScaffold
