/-
**Texts whose brackets are well nested.**

Brackets are read from left to right.  An opening one waits for the one that closes it, and a
closing one has to be what the last open one waits for.  A text is well nested if nothing waits at
its end.  Such a text may stand anywhere: it changes nothing about the brackets that are open around
it, so well nested texts may be put together as one likes.  Only brackets matter, and so neither
blanks that are taken away nor lines that are laid out anew make a difference.

Main definitions:

* `Text.awaited` — the brackets that a text leaves waiting;
* `Text.WellNested` — nothing waits at the end of the text;
* `Text.narrowChars` — the characters that take one byte.

Main results:

* `Text.awaited_append`, `Text.awaited_below` — texts one after the other, and inside of others;
* `Text.awaited_eq_filter` — only brackets matter;
* `Text.awaited_narrowChars` — for them it is enough to read the characters of one byte;
* `Text.Plain.wellNested` — a text without brackets is well nested;
* `Text.WellNested.append` — well nested texts put together;
* `Dart.wellNested_tidy`, `Dart.wellNested_comment` — **layout makes no difference**.
-/

import Mathlib
import DartScaffold.Dart.Layout
import DartScaffold.Proofs.Naming.Joined
import DartScaffold.Text.Alphanumeric

set_option relaxedAutoImplicit false
set_option autoImplicit false

namespace DartScaffold

namespace Text

variable {c : Char} {cs : List Char} {waiting left : List Char} {s t : String}

/-! ### Reading brackets -/

/-- The bracket that closes an opening one. -/
def closing? : Char → Option Char
  | '(' => some ')'
  | '[' => some ']'
  | '\x7b' => some '\x7d'
  | _ => none

/-- A bracket that closes. -/
def isClosing (c : Char) : Bool := c == ')' || c == ']' || c == '\x7d'

/-- A bracket. -/
def isBracket (c : Char) : Bool := (closing? c).isSome || isClosing c

/-- What is waited for behind one more character. -/
def awaitedBehind (waiting : List Char) (c : Char) : Option (List Char) :=
  match closing? c with
  | some d => some (d :: waiting)
  | none =>
    if isClosing c then
      match waiting with
      | d :: rest => if c = d then some rest else none
      | [] => none
    else some waiting

/-- The brackets that are waited for behind a text, the nearest first, if those before it were some
already; nothing, if there is one that does not fit. -/
def awaited (waiting : List Char) (cs : List Char) : Option (List Char) :=
  cs.foldlM awaitedBehind waiting

/-- The brackets of a text are well nested. -/
def WellNested (s : String) : Prop := awaited [] s.toList = some []

theorem awaited_cons (waiting : List Char) (c : Char) (cs : List Char) :
    awaited waiting (c :: cs) = (awaitedBehind waiting c).bind fun left => awaited left cs := rfl

/-- What one text leaves waiting the next one begins with. -/
theorem awaited_append (waiting cs ds : List Char) :
    awaited waiting (cs ++ ds) = (awaited waiting cs).bind fun left => awaited left ds := by
  unfold awaited
  rw [List.foldlM_append]
  rfl

/-! ### Only brackets matter -/

theorem awaitedBehind_of_not_isBracket (h : isBracket c = false) (waiting : List Char) :
    awaitedBehind waiting c = some waiting := by
  obtain ⟨hopening, hclosing⟩ := Bool.or_eq_false_iff.1 h
  have hnone : closing? c = none := by simpa using hopening
  unfold awaitedBehind
  rw [hnone, hclosing]
  rfl

/-- Only brackets matter. -/
theorem awaited_eq_filter (waiting cs : List Char) :
    awaited waiting cs = awaited waiting (cs.filter isBracket) := by
  induction cs generalizing waiting with
  | nil => rfl
  | cons c cs ih =>
      rw [awaited_cons, List.filter_cons]
      cases hc : isBracket c with
      | true =>
          rw [if_pos rfl, awaited_cons]
          refine Option.bind_congr fun left _ => ih left
      | false =>
          rw [awaitedBehind_of_not_isBracket hc, Option.bind_some, if_neg (by simp)]
          exact ih waiting

theorem awaited_of_plain (h : ∀ c ∈ cs, isBracket c = false) (waiting : List Char) :
    awaited waiting cs = some waiting := by
  have hnil : cs.filter isBracket = [] := by simpa using h
  rw [awaited_eq_filter, hnil]
  rfl

/-- Texts with the same brackets are alike. -/
theorem wellNested_congr (h : s.toList.filter isBracket = t.toList.filter isBracket) :
    WellNested s ↔ WellNested t := by
  rw [WellNested, WellNested, awaited_eq_filter, h, ← awaited_eq_filter]

/-- A text without brackets. -/
def Plain (s : String) : Prop := ∀ c ∈ s.toList, isBracket c = false

instance (s : String) : Decidable (Plain s) :=
  List.decidableBAll (fun c => isBracket c = false) s.toList

/-- A text without brackets is well nested. -/
theorem Plain.wellNested (h : Plain s) : WellNested s := awaited_of_plain h []

theorem Plain.append (hs : Plain s) (ht : Plain t) : Plain (s ++ t) := by
  intro c hc
  rw [String.toList_append] at hc
  rcases List.mem_append.1 hc with hc | hc
  · exact hs c hc
  · exact ht c hc

theorem mem_of_isBracket (h : isBracket c = true) : c ∈ ['(', ')', '[', ']', '\x7b', '\x7d'] := by
  unfold isBracket isClosing closing? at h
  split at h <;> simp_all [or_assoc]

/-! ### Brackets among bytes -/

/-- The character that a byte is by itself, unless it is a part of a longer one. -/
def narrow? (b : UInt8) : Option Char :=
  if b.toNat < 128 then some (Char.ofNat b.toNat) else none

/-- The characters of a text that take one byte, which all brackets do. -/
def narrowChars (s : String) : List Char := s.toByteArray.data.toList.filterMap narrow?

theorem filterMap_utf8EncodeChar (c : Char) :
    (String.utf8EncodeChar c).filterMap narrow? = if c.toNat < 128 then [c] else [] := by
  have hsmall : ∀ n < 128, narrow? (UInt8.ofNat n) = some (Char.ofNat n) := by
    intro n hn
    unfold narrow?
    rw [UInt8.toNat_ofNat', Nat.mod_eq_of_lt (by omega), if_pos hn]
  have hwide : ∀ n < 128, ∀ bs : List UInt8,
      (UInt8.ofNat (n + 128) :: bs).filterMap narrow? = bs.filterMap narrow? := by
    intro n hn bs
    rw [List.filterMap_cons_none]
    unfold narrow?
    rw [UInt8.toNat_ofNat', Nat.mod_eq_of_lt (by omega), if_neg (by omega)]
  have hval : c.val.toNat = c.toNat := rfl
  unfold String.utf8EncodeChar
  dsimp only
  rw [hval]
  by_cases hc : c.toNat < 128
  · rw [if_pos (by omega), List.filterMap_cons_some (hsmall _ hc), Char.ofNat_toNat, if_pos hc]
    rfl
  · rw [if_neg (by omega), if_neg hc]
    split_ifs
    · exact (hwide (_ + 64) (by omega) _).trans (hwide _ (by omega) _)
    · exact ((hwide (_ + 96) (by omega) _).trans (hwide _ (by omega) _)).trans
        (hwide _ (by omega) _)
    · exact (((hwide (_ + 112) (by omega) _).trans (hwide _ (by omega) _)).trans
        (hwide _ (by omega) _)).trans (hwide _ (by omega) _)

theorem narrowChars_eq (s : String) :
    narrowChars s = s.toList.filter fun c => c.toNat < 128 := by
  have hs : s.toByteArray = (s.toList.flatMap String.utf8EncodeChar).toByteArray :=
    String.utf8Encode_toList.symm
  unfold narrowChars
  rw [hs, List.data_toByteArray, List.filterMap_flatMap]
  induction s.toList with
  | nil => rfl
  | cons c cs ih =>
      rw [List.flatMap_cons, filterMap_utf8EncodeChar, ih, List.filter_cons]
      by_cases hc : c.toNat < 128
      · rw [if_pos hc, if_pos (decide_eq_true hc)]
        rfl
      · rw [if_neg hc, if_neg (by simpa using hc)]
        rfl

/-- Reading the characters of one byte is enough. -/
theorem awaited_narrowChars (waiting : List Char) (s : String) :
    awaited waiting (narrowChars s) = awaited waiting s.toList := by
  have hnarrow : ∀ c, isBracket c = true → c.toNat < 128 := by
    intro c hc
    have hmem := mem_of_isBracket hc
    simp only [List.mem_cons, List.not_mem_nil, or_false] at hmem
    rcases hmem with rfl | rfl | rfl | rfl | rfl | rfl <;> decide
  rw [narrowChars_eq, awaited_eq_filter, List.filter_filter, awaited_eq_filter waiting s.toList]
  congr 1
  refine List.filter_congr fun c _ => ?_
  cases hc : isBracket c with
  | true => simpa using hnarrow c hc
  | false => rfl

instance (s : String) : Decidable (WellNested s) :=
  decidable_of_iff (awaited [] (narrowChars s) = some []) (by rw [awaited_narrowChars]; rfl)

/-! ### Texts inside of others -/

theorem awaitedBehind_below (h : awaitedBehind waiting c = some left) (below : List Char) :
    awaitedBehind (waiting ++ below) c = some (left ++ below) := by
  unfold awaitedBehind at h ⊢
  cases hc : closing? c with
  | some d =>
      rw [hc] at h
      rw [← Option.some.inj h]
      rfl
  | none =>
      rw [hc] at h
      dsimp only at h ⊢
      split_ifs at h ⊢ with hclosing
      · cases waiting with
        | nil => cases h
        | cons d rest =>
            dsimp only [List.cons_append] at h ⊢
            split_ifs at h ⊢
            rw [← Option.some.inj h]
      · rw [← Option.some.inj h]

/-- Brackets further out are not touched. -/
theorem awaited_below (h : awaited waiting cs = some left) (below : List Char) :
    awaited (waiting ++ below) cs = some (left ++ below) := by
  induction cs generalizing waiting with
  | nil =>
      rw [← Option.some.inj h]
      rfl
  | cons c cs ih =>
      rw [awaited_cons] at h ⊢
      obtain ⟨middle, hmiddle, hrest⟩ := Option.bind_eq_some_iff.1 h
      rw [awaitedBehind_below hmiddle below]
      exact ih hrest

/-- A well nested text may stand anywhere. -/
theorem WellNested.awaited_eq (h : WellNested s) (waiting : List Char) :
    awaited waiting s.toList = some waiting :=
  awaited_below h waiting

/-! ### Texts put together -/

theorem WellNested.append (hs : WellNested s) (ht : WellNested t) : WellNested (s ++ t) := by
  rw [WellNested, String.toList_append, awaited_append, hs.awaited_eq]
  exact ht

/-- A well nested text in front makes no difference. -/
theorem awaited_of_wellNested_append (h : WellNested s) (t : String) (waiting : List Char) :
    awaited waiting (s ++ t).toList = awaited waiting t.toList := by
  rw [String.toList_append, awaited_append, h.awaited_eq, Option.bind_some]

/-- Neither does one behind. -/
theorem awaited_append_of_wellNested (h : WellNested t) (s : String) (waiting : List Char) :
    awaited waiting (s ++ t).toList = awaited waiting s.toList := by
  rw [String.toList_append, awaited_append]
  cases awaited waiting s.toList with
  | none => rfl
  | some left => exact h.awaited_eq left

/-- A well nested text between brackets is well nested. -/
theorem WellNested.between (h : WellNested s) {before after : String} {d : Char}
    (hbefore : awaited [] before.toList = some [d])
    (hafter : awaited [d] after.toList = some []) : WellNested (before ++ s ++ after) := by
  rw [WellNested, String.toList_append, String.toList_append, awaited_append, awaited_append,
    hbefore, Option.bind_some, h.awaited_eq, Option.bind_some, hafter]

/-! ### Brackets and layout -/

/-- A character of a kind that no bracket is of. -/
theorem isBracket_of_kind {p : Char → Bool}
    (hp : ['(', ')', '[', ']', '\x7b', '\x7d'].any p = false) (h : p c = true) :
    isBracket c = false := by
  by_contra hbracket
  have hc := List.any_eq_false.1 hp c (mem_of_isBracket (by simpa using hbracket))
  exact hc h

theorem isBracket_of_isBlank (h : isBlank c = true) : isBracket c = false :=
  isBracket_of_kind (by decide) h

/-- Letters and digits are no brackets. -/
theorem isBracket_of_isAlphanum (h : c.isAlphanum = true) : isBracket c = false :=
  isBracket_of_kind (by decide) h

theorem isBracket_of_isWordChar (h : isWordChar c = true) : isBracket c = false :=
  isBracket_of_kind (by decide) h

/-- Trimming leaves the brackets, if they are not what is trimmed. -/
theorem filter_trimEnd {p : Char → Bool} (hp : ∀ c, p c = true → isBracket c = false)
    (cs : List Char) : (trimEnd p cs).filter isBracket = cs.filter isBracket := by
  induction cs using List.reverseRecOn with
  | nil => rfl
  | append_singleton cs c ih =>
      rw [trimEnd_append_singleton]
      split_ifs with hc
      · simp [ih, hp c hc]
      · rfl

theorem filter_stripEnd (s : String) :
    (stripEnd s).toList.filter isBracket = s.toList.filter isBracket := by
  rw [stripEnd, String.toList_ofList, filter_trimEnd fun _ => isBracket_of_isBlank]

/-- The brackets of lines are those of the text. -/
theorem filter_lineLists (cs : List Char) :
    (lineLists cs).flatten.filter isBracket = cs.filter isBracket := by
  fun_induction lineLists cs with
  | case1 => rfl
  | case2 rest ih => simpa [isBracket, closing?, isClosing] using ih
  | case3 c rest _ hbreak ih =>
      have hc := isBracket_of_isBlank (isBlank_of_isLineBreak hbreak)
      simpa [hc] using ih
  | case4 c rest _ hbreak hnil ih =>
      rw [hnil] at ih
      simp only [List.flatten_cons, List.flatten_nil, List.append_nil, List.filter_cons]
      rw [← ih]
      rfl
  | case5 c rest _ hbreak line more hcons ih =>
      rw [hcons] at ih
      simp only [List.flatten_cons, List.cons_append, List.filter_cons] at ih ⊢
      rw [ih]

/-- Texts joined by one without brackets have the brackets of the texts. -/
theorem filter_join {sep : String} (hsep : sep.toList.filter isBracket = [])
    (parts : List String) :
    (Text.join sep parts).toList.filter isBracket =
      parts.flatMap fun part => part.toList.filter isBracket := by
  induction parts with
  | nil => rfl
  | cons s parts ih =>
      cases parts with
      | nil => rw [Text.join, String.intercalate_singleton]; simp
      | cons t parts =>
          rw [Text.join] at ih ⊢
          rw [String.intercalate_cons_cons, String.toList_append, String.toList_append,
            List.filter_append, List.filter_append, hsep, List.append_nil, ih]
          rfl

theorem Plain.join {sep : String} (hsep : Plain sep) {parts : List String}
    (h : ∀ s ∈ parts, Plain s) : Plain (Text.join sep parts) := by
  have hnil : (Text.join sep parts).toList.filter isBracket = [] := by
    rw [filter_join (by simpa [Plain] using hsep), List.flatMap_eq_nil_iff]
    intro s hs
    simpa [Plain] using h s hs
  simpa [Plain] using hnil

end Text

namespace Dart

open Text

theorem filter_tidyLines (afterBlank : Bool) (lines : List (List Char)) :
    (tidyLines afterBlank lines).flatten.filter isBracket = lines.flatten.filter isBracket := by
  induction lines generalizing afterBlank with
  | nil => rfl
  | cons line rest ih =>
      have htrim := filter_trimEnd (fun _ => isBracket_of_isBlank) line
      rw [List.flatten_cons, List.filter_append, ← htrim]
      unfold tidyLines
      dsimp only
      split_ifs with hblank hafter
      · -- A blank line has no brackets.
        rw [List.isEmpty_iff.1 hblank, ih]
        rfl
      · rw [List.isEmpty_iff.1 hblank, List.flatten_cons, List.nil_append, ih]
        rfl
      · rw [List.flatten_cons, List.filter_append, ih]

theorem flatten_dropBlankEnd (lines : List (List Char)) :
    (dropBlankEnd lines).flatten = lines.flatten := by
  induction lines using List.reverseRecOn with
  | nil => rfl
  | append_singleton lines line ih =>
      unfold dropBlankEnd at ih ⊢
      rw [List.reverse_append, List.reverse_singleton, List.singleton_append,
        List.dropWhile_cons]
      split_ifs with hblank
      · rw [ih, List.flatten_append, List.isEmpty_iff.1 hblank]
        simp
      · rw [List.reverse_cons, List.reverse_reverse]

/-- The brackets of tidy code are those of the code. -/
theorem filter_tidy (code : String) :
    (tidy code).toList.filter isBracket = code.toList.filter isBracket := by
  have hbreak : isBracket '\n' = false := by decide
  have hlines : (codeLines code).flatten.filter isBracket = code.toList.filter isBracket := by
    rw [codeLines, flatten_dropBlankEnd, filter_tidyLines, List.splitOn,
      Naming.flatten_splitOnP, List.filter_filter]
    refine List.filter_congr fun c _ => ?_
    by_cases hc : c = '\n'
    · simp [hc, hbreak]
    · simp [hc]
  have hparts := filter_join (show ("\n" : String).toList.filter isBracket = [] by decide)
    ((codeLines code).map String.ofList)
  rw [tidy, String.toList_append, List.filter_append, hparts, ← hlines, List.flatMap_map,
    List.filter_flatten, List.flatMap_def]
  simp [hbreak]

/-- **Tidy code has the brackets of the code.** -/
theorem wellNested_tidy {code : String} (h : WellNested code) : WellNested (tidy code) :=
  (wellNested_congr (filter_tidy code)).2 h

/-- The brackets of a comment are those of what it says. -/
theorem filter_comment (width : Nat) (s : String) :
    (comment width s).toList.filter isBracket = s.toList.filter isBracket := by
  have hline : ∀ line : String,
      (stripEnd (spaces width ++ "/// " ++ line)).toList.filter isBracket =
        line.toList.filter isBracket := by
    intro line
    rw [filter_stripEnd, String.toList_append, String.toList_append, List.filter_append,
      List.filter_append, spaces, String.toList_ofList]
    have hspaces : (List.replicate width ' ').filter isBracket = [] := by
      rw [List.filter_replicate]
      rfl
    rw [hspaces]
    rfl
  have hparts := filter_join (show ("\n" : String).toList.filter isBracket = [] by decide)
    ((lines s).map fun line => stripEnd (spaces width ++ "/// " ++ line))
  rw [comment, hparts, ← filter_lineLists s.toList, List.filter_flatten, List.flatMap_def]
  simp only [lines, List.map_map, Function.comp_def, hline, String.toList_ofList]

theorem wellNested_comment {s : String} (h : WellNested s) (width : Nat) :
    WellNested (comment width s) :=
  (wellNested_congr (filter_comment width s)).2 h

end Dart

end DartScaffold
