/-
**The names that a generator remembers.**

A generator answers a request for a name from its memory, if it can, and the memory is kept from
one file to the next.  Fields and types are all that is ever asked for, and their requests have
keys that end differently; so a field is never answered with the name of a type, and whatever a
generator did before, the name of a field is one that its sanitizer has made for a field.  Such a
name has the shape of a member's name, and it is not taken by the language.

Main definitions:

* `Dart.Learned` — the memories that asking for fields and types leads to.

Main results:

* `Dart.field_eq_fresh` — the name of a field was made by the sanitizer for a field;
* `Dart.type_eq_fresh` — the name of a type was made by the sanitizer for that very type;
* `Dart.isMemberName_field`, `Dart.isTaken_field` — it has its shape, and it is not taken;
* `Dart.learned_make`, `Dart.learned_generate` — **every generator has such a memory**: a new one
  has, and generating a file keeps it so.
-/

import Mathlib
import DartScaffold.Dart.Generator
import DartScaffold.Proofs.Naming.Identifier
import DartScaffold.Proofs.Steps

set_option relaxedAutoImplicit false
set_option autoImplicit false

namespace DartScaffold.Dart

open Naming (Names Request isMemberName)

/-! ### Memories -/

/-- A name that was asked for under a key is the answer to that key. -/
theorem name_remember_of_eq {n : Names} {q r : Request} (h : q.key = r.key) :
    (n.remember r).name q = n.name r := by
  simp only [Names.name, Names.remember, h, Entries.lookup_put_self, Option.getD_some]

/-- Under other keys the answers stay what they are. -/
theorem name_remember_of_ne {n : Names} {q r : Request} (h : q.key ≠ r.key) :
    (n.remember r).name q = n.name q := by
  simp only [Names.name, Names.remember, Entries.lookup_put_of_ne h]

/-- The memories that asking for names of fields and types leads to. -/
inductive Learned : Names → Prop
  | new : Learned sanitizer.names
  | field {n : Names} (h : Learned n) (d : Datum) : Learned (n.remember (.field d))
  | type {n : Names} (h : Learned n) (source : String) :
      Learned (n.remember ⟨source, source, .pascal, "Model"⟩)

/-- A key ends as the suffix does. -/
theorem getLast?_key (r : Request) {c : Char} (h : r.suffix.toList.getLast? = some c) :
    r.key.toList.getLast? = some c := by
  unfold Request.key
  rw [String.toList_append, List.getLast?_append, h]
  rfl

/-- The key of a field ends differently from that of a type. -/
theorem key_field_ne_key_type (d : Datum) (source : String) :
    (Request.field d).key ≠ (Request.mk source source .pascal "Model").key := by
  intro h
  have hfield := getLast?_key (Request.field d)
    (show "Value".toList.getLast? = some 'e' by decide)
  have htype := getLast?_key (Request.mk source source .pascal "Model")
    (show "Model".toList.getLast? = some 'l' by decide)
  rw [h, htype] at hfield
  exact absurd hfield (by decide)

/-- Requests that are written and suffixed alike have one key only if they show the same name. -/
theorem shown_eq_of_key {q r : Request} (hform : q.form = r.form) (hsuffix : q.suffix = r.suffix)
    (h : q.key = r.key) : q.shown = r.shown := by
  unfold Request.key at h
  rw [hform, hsuffix] at h
  have htail : q.shown ++ ("_" ++ r.form.name ++ "_" ++ r.suffix) =
      r.shown ++ ("_" ++ r.form.name ++ "_" ++ r.suffix) := by
    simpa only [String.append_assoc] using h
  exact (String.append_left_inj _).1 htail

/-- **The name of a field was made by the sanitizer for a field**, whatever was asked for
before. -/
theorem field_eq_fresh {n : Names} (h : Learned n) (d : Datum) :
    ∃ source, n.field d = sanitizer.fresh .camel "Value" source := by
  unfold Names.field
  -- The induction is on what was asked for: an answer changes under its own key only, and then it
  -- is the one for the last field with this key.
  induction h generalizing d with
  | new => exact ⟨Naming.source d, Names.name_of_memo_nil sanitizer (.field d)⟩
  | field hn e ih =>
      by_cases hk : (Request.field d).key = (Request.field e).key
      · rw [name_remember_of_eq hk]
        exact ih e
      · rw [name_remember_of_ne hk]
        exact ih d
  | type hn source ih =>
      rw [name_remember_of_ne (key_field_ne_key_type d source)]
      exact ih d

/-- **The name of a type was made by the sanitizer for that type**, whatever was asked for
before. -/
theorem type_eq_fresh {n : Names} (h : Learned n) (source : String) :
    n.type source = sanitizer.fresh .pascal "Model" source := by
  unfold Names.type
  induction h with
  | new => exact Names.name_of_memo_nil sanitizer _
  | field hn e ih =>
      rw [name_remember_of_ne (key_field_ne_key_type e source).symm]
      exact ih
  | type hn other ih =>
      by_cases hk : (Request.mk source source .pascal "Model").key =
          (Request.mk other other .pascal "Model").key
      · -- One key stands for one type.
        have hshown := shown_eq_of_key (by rfl) (by rfl) hk
        obtain rfl : source = other := hshown
        rw [name_remember_of_eq rfl]
        exact ih
      · rw [name_remember_of_ne hk]
        exact ih

/-! ### Names that are not taken -/

/-- What is put behind names to tell them from others. -/
def endings : List String := ["Value", "Get", "Post", "Put", "Patch", "Delete"]

theorem isTaken_iff (s : String) :
    sanitizer.isTaken s = true ↔ s ∈ keywords ∨ s ∈ memberNames := by
  simp [Naming.Sanitizer.isTaken, sanitizer]

/-- No word of the language ends with one of the endings. -/
theorem not_endsWith_of_taken :
    (keywords ++ memberNames).all (fun w => endings.all fun e => !e.toList.isSuffixOf w.toList) =
      true := by
  decide +kernel

/-- No word of the language has a digit. -/
theorem not_isDigit_of_taken :
    (keywords ++ memberNames).all (fun w => w.toList.all fun c => !c.isDigit) = true := by
  decide +kernel

/-- What ends as no word of the language does is not taken. -/
theorem isTaken_append {e : String}
    (he : (keywords ++ memberNames).all (fun w => !e.toList.isSuffixOf w.toList) = true)
    (s : String) : sanitizer.isTaken (s ++ e) = false := by
  by_contra h
  have hw := List.mem_append.2 ((isTaken_iff _).1 (by simpa using h))
  have hno := List.all_eq_true.1 he _ hw
  have hsuffix : e.toList.isSuffixOf (s ++ e).toList = true := by
    rw [String.toList_append, List.isSuffixOf_iff_suffix]
    exact List.suffix_append _ _
  rw [hsuffix] at hno
  exact Bool.noConfusion hno

theorem isTaken_append_ending {e : String} (he : e ∈ endings) (s : String) :
    sanitizer.isTaken (s ++ e) = false := by
  refine isTaken_append (List.all_eq_true.2 fun w hw => ?_) s
  exact List.all_eq_true.1 (List.all_eq_true.1 not_endsWith_of_taken w hw) e he

/-- A name that is taken gets an ending; if no word of the language has it, no name is taken. -/
theorem isTaken_fresh {suffix : String}
    (h : (keywords ++ memberNames).all (fun w => !suffix.toList.isSuffixOf w.toList) = true)
    (form : Naming.Case) (source : String) :
    sanitizer.isTaken (sanitizer.fresh form suffix source) = false := by
  unfold Naming.Sanitizer.fresh
  by_cases ht : sanitizer.isTaken (Naming.asIdentifier (form.form source)) = true
  · rw [if_pos ht]
    exact isTaken_append h _
  · rw [if_neg ht]
    simpa using ht

/-- The digits of a number. -/
theorem isDigit_of_mem_toString {n : Nat} {c : Char} (h : c ∈ (toString n).toList) :
    c.isDigit = true := by
  rw [Nat.toString_eq_repr, Nat.repr, String.toList_ofList] at h
  exact Nat.isDigit_of_mem_toDigits (by decide) (by decide) h

theorem isTaken_append_number (s : String) (n : Nat) :
    sanitizer.isTaken (s ++ toString n) = false := by
  by_contra h
  have hw := List.mem_append.2 ((isTaken_iff _).1 (by simpa using h))
  -- A number has a digit, and no word of the language has one.
  obtain ⟨c, hc⟩ : ∃ c, c ∈ (toString n).toList := by
    rw [Nat.toString_eq_repr, Nat.repr, String.toList_ofList]
    exact List.exists_mem_of_ne_nil _ Nat.toDigits_ne_nil
  have hmem : c ∈ (s ++ toString n).toList := by
    rw [String.toList_append]
    exact List.mem_append_right _ hc
  have hno := List.all_eq_true.1 (List.all_eq_true.1 not_isDigit_of_taken _ hw) c hmem
  rw [isDigit_of_mem_toString hc] at hno
  exact Bool.noConfusion hno

/-! ### The names of fields -/

/-- The name of a field has the shape of a member's name. -/
theorem isMemberName_field {n : Names} (h : Learned n) (d : Datum) :
    isMemberName (n.field d) = true := by
  obtain ⟨source, hs⟩ := field_eq_fresh h d
  rw [hs]
  exact Naming.isMemberName_fresh sanitizer (by simp) source

/-- The name of a field is not taken by the language. -/
theorem isTaken_field {n : Names} (h : Learned n) (d : Datum) :
    sanitizer.isTaken (n.field d) = false := by
  obtain ⟨source, hs⟩ := field_eq_fresh h d
  rw [hs]
  exact isTaken_fresh (by decide +kernel) .camel source

/-! ### Generators -/

/-- Asking for the names of a file leads from one memory to another. -/
theorem learned_foldl {n : Names} (h : Learned n) (requests : List Request)
    (hr : ∀ r ∈ requests, (∃ d, r = .field d) ∨ ∃ s, r = ⟨s, s, .pascal, "Model"⟩) :
    Learned (requests.foldl Naming.Names.remember n) := by
  induction requests generalizing n with
  | nil => exact h
  | cons r rest ih =>
      have hrest := fun q hq => hr q (List.mem_cons_of_mem _ hq)
      rcases hr r (List.mem_cons_self ..) with ⟨d, rfl⟩ | ⟨s, rfl⟩
      · exact ih (h.field d) hrest
      · exact ih (h.type s) hrest

/-- A file asks for the names of fields and types only. -/
theorem mem_nameRequests {c : Context} {m : Model} {r : Request} (h : r ∈ nameRequests c m) :
    (∃ d, r = .field d) ∨ ∃ s, r = ⟨s, s, .pascal, "Model"⟩ := by
  unfold nameRequests at h
  rcases List.mem_append.1 h with h | h
  · rcases List.mem_cons.1 h with rfl | h
    · exact .inr ⟨m.className, rfl⟩
    · obtain ⟨a, -, rfl⟩ := List.mem_map.1 h
      exact .inl ⟨a.name, rfl⟩
  · obtain ⟨s, -, rfl⟩ := List.mem_map.1 h
    exact .inl ⟨.text s, rfl⟩

theorem learned_learn {g : Generator} (h : Learned g.names) (m : Model) :
    Learned (g.learn m).names :=
  learned_foldl h _ fun _ hr => mem_nameRequests hr

/-- Generating a file keeps the memory one of asking for fields and types. -/
theorem learned_generateFile {g : Generator} (h : Learned g.names) (tree : FileTree) (m : Model)
    (a : Artifact) : Learned (g.generateFile tree m a).next.names := by
  unfold Generator.generateFile
  split
  · exact h
  · dsimp only
    split
    · exact learned_learn h m
    · exact learned_learn h m

theorem learned_generate {g : Generator} (h : Learned g.names) (tree : FileTree) (m : Model)
    (options : Datum) : Learned (g.generate tree m options).next.names := by
  unfold Generator.generate
  split
  · exact h
  · exact learned_generateFile h tree m _

/-- A new generator differs from others of its kind in its library only. -/
theorem exists_library_make {component : Component} {settings : Settings} {s s' : Session}
    {g : Generator} (h : (Generator.make component settings).run.run s = (.ok g, s')) :
    ∃ library, g = ⟨component, settings, sanitizer.names, library⟩ := by
  unfold Generator.make at h
  obtain ⟨directories, s₁, -, h⟩ := run_bind_eq_ok h
  obtain ⟨library, s₂, -, h⟩ := run_bind_eq_ok h
  have hg : Except.ok ⟨component, settings, sanitizer.names, library⟩ = .ok g :=
    congrArg Prod.fst h
  exact ⟨library, (Except.ok.inj hg).symm⟩

/-- A new generator remembers nothing. -/
theorem names_make {component : Component} {settings : Settings} {s s' : Session} {g : Generator}
    (h : (Generator.make component settings).run.run s = (.ok g, s')) :
    g.names = sanitizer.names := by
  obtain ⟨library, rfl⟩ := exists_library_make h
  rfl

theorem learned_make {component : Component} {settings : Settings} {s s' : Session}
    {g : Generator} (h : (Generator.make component settings).run.run s = (.ok g, s')) :
    Learned g.names := by
  rw [names_make h]
  exact .new

end DartScaffold.Dart
