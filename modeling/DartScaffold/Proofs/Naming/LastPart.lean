/-
**The last part of a qualified name.**

A qualified name is cut in two ways: at the last backslash, the last colon and the last dot, one
after another, and into pieces at all three separators at once.  Both leave the longest end of the
name that holds no separator.  So it does not matter that an analysis names the class of a model in
the first way, as relations name the class they lead to, while the models that are left out are
looked up in the second: a model is left out exactly if its class would be named as that of one of
the models that the settings leave out.

Main definitions:

* `Naming.IsLastPart` — the longest end of a name without separators;
* `Naming.behindSeparators` — what stands behind all separators.

Main results:

* `Naming.isLastPart_iff` — it is the one longest end;
* `Naming.toList_unqualified`, `Naming.toList_lastPiece` — both ways of cutting leave it;
* `Pipeline.isExcluded_texts` — what is looked up when models are left out;
* `Pipeline.isExcluded_eq_className` — **a model is left out by the name of its class**.
-/

import Mathlib
import DartScaffold.Pipeline.Basic
import DartScaffold.Proofs.Analysis.TableColumns

set_option relaxedAutoImplicit false
set_option autoImplicit false

namespace DartScaffold

namespace Naming

/-! ### The longest end without separators -/

/-- A list of characters is the longest end of another one that holds no separator. -/
structure IsLastPart (cs part : List Char) : Prop where
  suffix : part <:+ cs
  plain : ∀ c ∈ part, isSeparator c = false
  longest : ∀ other, other <:+ cs → (∀ c ∈ other, isSeparator c = false) →
    other.length ≤ part.length

/-- There is one longest end. -/
theorem IsLastPart.unique {cs part part' : List Char} (h : IsLastPart cs part)
    (h' : IsLastPart cs part') : part' = part := by
  have hlength : part'.length = part.length :=
    le_antisymm (h.longest part' h'.suffix h'.plain) (h'.longest part h.suffix h.plain)
  exact (List.suffix_of_suffix_length_le h'.suffix h.suffix hlength.le).eq_of_length hlength

/-- What stands behind all separators. -/
def behindSeparators (cs : List Char) : List Char := cs.rtakeWhile fun c => !isSeparator c

/-- What stands behind all separators is the longest end that holds none. -/
theorem isLastPart_behindSeparators (cs : List Char) : IsLastPart cs (behindSeparators cs) where
  suffix := List.rtakeWhile_suffix _ cs
  plain c hc := by simpa using List.mem_rtakeWhile_imp hc
  longest other hsuffix hplain := by
    obtain ⟨before, rfl⟩ := hsuffix
    have hall : ∀ c ∈ other.reverse, (!isSeparator c) = true := by
      intro c hc
      rw [hplain c (List.mem_reverse.1 hc)]
      rfl
    rw [behindSeparators, List.rtakeWhile, List.reverse_append,
      List.takeWhile_append_of_pos hall, List.length_reverse, List.length_append,
      List.length_reverse]
    exact Nat.le_add_right _ _

theorem isLastPart_iff {cs part : List Char} :
    IsLastPart cs part ↔ part = behindSeparators cs := by
  constructor
  · exact (isLastPart_behindSeparators cs).unique
  · rintro rfl
    exact isLastPart_behindSeparators cs

/-! ### Two ways of cutting -/

/-- **Cutting at the last of each separator**, one after another, leaves what stands behind all of
them: each cut is made in what the one before has left. -/
theorem toList_unqualified (name : String) :
    (unqualified name).toList = behindSeparators name.toList := by
  unfold unqualified afterLast behindSeparators List.rtakeWhile
  rw [String.toList_ofList, List.reverse_reverse, List.reverse_reverse, List.takeWhile_takeWhile,
    List.takeWhile_takeWhile]
  congr 2
  funext c
  cases hslash : c == '\\' <;> cases hdot : c == '.' <;> cases hcolon : c == ':' <;>
    simp [isSeparator, bne, hslash, hdot, hcolon]

/-- **The last of the pieces** is what stands behind all separators. -/
theorem getLast?_splitOnP (cs : List Char) :
    (cs.splitOnP isSeparator).getLast? = some (behindSeparators cs) := by
  have hplain : ∀ c ∈ behindSeparators cs, isSeparator c = false :=
    (isLastPart_behindSeparators cs).plain
  have hlast : (behindSeparators cs).splitOnP isSeparator = [behindSeparators cs] :=
    List.splitOnP_eq_singleton hplain
  have hcut : (cs.rdropWhile fun c => !isSeparator c) ++ behindSeparators cs = cs :=
    List.rdropWhile_append_rtakeWhile ..
  -- What is in front is nothing, or it ends with a separator, at which the name is cut.
  rcases List.eq_nil_or_concat' (cs.rdropWhile fun c => !isSeparator c) with
    hfront | ⟨before, c, hfront⟩
  · rw [hfront, List.nil_append] at hcut
    rw [hcut] at hlast ⊢
    rw [hlast, List.getLast?_singleton]
  · have hc : isSeparator c = true := by
      have hne : (cs.rdropWhile fun c => !isSeparator c) ≠ [] := by simp [hfront]
      simpa [hfront] using List.rdropWhile_last_not (fun c => !isSeparator c) cs hne
    conv_lhs => rw [← hcut, hfront]
    rw [List.append_assoc, List.singleton_append, List.splitOnP_append_cons _ _ hc, hlast,
      List.getLast?_concat]

theorem toList_lastPiece (name : String) :
    (lastPiece name).toList = behindSeparators name.toList := by
  rw [lastPiece, getLast?_splitOnP, Option.getD_some, String.toList_ofList]

theorem lastPiece_eq_unqualified (name : String) : lastPiece name = unqualified name :=
  String.toList_injective ((toList_lastPiece name).trans (toList_unqualified name).symm)

end Naming

/-! ### Models that are left out -/

namespace Pipeline

/-- What is looked up when models are left out: whether an entry of the settings ends as the name
does. -/
theorem isExcluded_texts (settings : Settings) (entries : List String) (name : String) :
    isExcluded { settings with excludedModels := entries.map .text } (.text name) =
      .ok (decide (∃ entry ∈ entries, Naming.lastPiece entry = Naming.lastPiece name)) := by
  unfold isExcluded
  rw [Routing.mapM_texts shortName Naming.lastPiece (fun _ => rfl) entries]
  show Except.ok ((entries.map Naming.lastPiece).contains (Naming.lastPiece name)) = _
  congr 1
  rw [Bool.eq_iff_iff, List.contains_iff_mem, decide_eq_true_eq, List.mem_map]

/-- **A model is left out by the name of its class.**  The three names -- the one that is looked up,
the one that an analysis gives the class of a model, and the one by which a relation leads to a
model -- are all the longest end of the qualified name without separators.  So a model is left out
exactly if its class has the name that the class of one of the entries would have. -/
theorem isExcluded_eq_className (name : String) :
    (∀ part, Naming.IsLastPart name.toList part ↔ part = (Naming.unqualified name).toList) ∧
      shortName (.text name) = .ok (Naming.unqualified name) ∧
      (∀ r : Relationship, { r with related := name }.relatedName = Naming.unqualified name) ∧
      (∀ (schema : Except SchemaFault Backend.Schema) (options : AnalysisSettings)
        (v : Backend.ModelView),
        Yields (Analysis.analyze schema options { v with name := .ok (.text name) })
          fun m => m.className = Naming.unqualified name) ∧
      ∀ (settings : Settings) (entries : List String),
        isExcluded { settings with excludedModels := entries.map .text } (.text name) =
          .ok (decide (∃ entry ∈ entries,
            Naming.unqualified entry = Naming.unqualified name)) := by
  refine ⟨fun part => ?_, ?_, fun r => rfl, fun schema options v => ?_,
    fun settings entries => ?_⟩
  · rw [Naming.toList_unqualified]
    exact Naming.isLastPart_iff
  · exact congrArg Except.ok (Naming.lastPiece_eq_unqualified name)
  · rintro s m s' hm
    obtain ⟨-, hname, hclass⟩ :=
      Backend.yields_description (P := fun _ => True) (fun _ _ _ _ => trivial) s m s' hm
    rw [hclass, ← Datum.text.inj (Except.ok.inj hname)]
  · rw [isExcluded_texts]
    simp only [Naming.lastPiece_eq_unqualified]

end Pipeline

end DartScaffold
