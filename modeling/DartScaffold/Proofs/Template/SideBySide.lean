/-
**A template that is filled twice.**

A template is filled with two records that differ in documentation only: the texts and lists that
stand in the same place are the same, but where the second one has a comment the first one has
nothing.  What is known about such pairs of values is enough to look through the template once for
both: to tell which values of an expression are paired, and what is known about the line that is
being written behind each part.  If looking through it succeeds, then so does filling it both times,
and the second text has the lines of the first one with comments in front of some of them.

Main definitions:

* `Template.Pairing`, `Template.Value.Paired` — what is known about two values, and the values about
  which it is known;
* `Template.pairingOf` — what is known about the values of an expression;
* `Template.follow`, `Template.follows` — what is known about the line behind a part, and behind
  parts;
* `Template.isFollowed` — a template behind which the last line may end;
* `Template.Resembles` — two scopes in which names have paired values.

Main results:

* `Template.paired_record` — records are paired by their members;
* `Template.eval_paired` — the values of an expression are paired;
* `Template.render_follow`, `Template.render_follows` — **parts are rendered side by side**;
* `Template.render_isFollowed` — a template that is followed is rendered to two texts, which differ
  in comments only.
-/

import Mathlib
import DartScaffold.Dart.Templates.Header
import DartScaffold.Proofs.Generation.LineBeginnings
import DartScaffold.Proofs.Template.Shape

set_option relaxedAutoImplicit false
set_option autoImplicit false

namespace DartScaffold.Template

open Dart (Spot Parallel Documented rows isComment isMild)
open Text (Unbroken unlines)

/-! ### Texts -/

/-- A text on one line, whose first visible character is no slash. -/
structure Mild (s : String) : Prop where
  unbroken : Unbroken s
  mild : isMild s.toList = true

/-- Nothing, or a comment. -/
def IsNote (s : String) : Prop :=
  s ≠ "" → ∃ notes, s ++ "\n" = unlines notes ∧
    ∀ note ∈ notes, Unbroken note ∧ isComment note.toList = true

theorem Mild.append {s t : String} (hs : Mild s) (ht : Mild t) : Mild (s ++ t) where
  unbroken := hs.unbroken.append ht.unbroken
  mild := by
    rw [String.toList_append]
    exact Dart.isMild_append hs.mild ht.mild

/-- A text that is spelled out.  Its characters are not decoded. -/
theorem Mild.of_chars {s : String} {cs : List Char} (hs : s = String.ofList cs)
    (h : (!cs.elem '\n' && isMild cs) = true) : Mild s := by
  rw [Bool.and_eq_true, Bool.not_eq_true'] at h
  refine ⟨.of_chars hs h.1, ?_⟩
  rw [hs, String.toList_ofList]
  exact h.2

/-- Letters and digits. -/
theorem mild_of_isAlphanum {s : String} (h : ∀ c ∈ s.toList, c.isAlphanum = true) : Mild s where
  unbroken := Text.unbroken_of_isAlphanum h
  mild := Dart.isMild_of_not_mem fun hslash => absurd (h _ hslash) (by decide)

/-- A text that begins in something visible goes on as it will. -/
theorem Mild.append_of_isVisible {s t : String} (hs : Mild s)
    (hvisible : Dart.isVisible s.toList = true) (ht : Unbroken t) : Mild (s ++ t) where
  unbroken := hs.unbroken.append ht
  mild := by
    rw [String.toList_append, Dart.isMild_append_of_isVisible hvisible]
    exact hs.mild

/-- The characters of a text, if each takes one byte. -/
def narrow? (s : String) : Option (List Char) :=
  if s.toByteArray.data.toList.all fun b => b.toNat < 128 then some (Text.narrowChars s) else none

theorem toList_of_narrow? {s : String} {cs : List Char} (h : narrow? s = some cs) :
    s.toList = cs := by
  unfold narrow? at h
  split_ifs at h with hbytes
  rw [← Option.some.inj h, Text.narrowChars_eq]
  symm
  rw [List.filter_eq_self]
  intro c hc
  have hs : s.toByteArray.data.toList = s.toList.flatMap String.utf8EncodeChar := by
    rw [← String.utf8Encode_toList, List.utf8Encode, List.data_toByteArray]
  rw [hs] at hbytes
  -- A longer character would have a byte that is no character by itself.
  by_contra hlong
  have hnone : (String.utf8EncodeChar c).filterMap Text.narrow? = [] := by
    rw [Text.filterMap_utf8EncodeChar, if_neg (by simpa using hlong)]
  obtain ⟨b, bs, hb⟩ := List.exists_cons_of_ne_nil (String.utf8EncodeChar_ne_nil (c := c))
  have hmem : b ∈ String.utf8EncodeChar c := hb ▸ List.mem_cons_self
  have hsmall := List.all_eq_true.1 hbytes b (List.mem_flatMap.2 ⟨c, hc, hmem⟩)
  have hwide := List.filterMap_eq_nil_iff.1 hnone b hmem
  rw [Text.narrow?, if_pos (of_decide_eq_true hsmall)] at hwide
  cases hwide

/-- Whether a text that is spelled out is mild. -/
def isMildText (s : String) : Bool :=
  (narrow? s).any fun cs => !cs.elem '\n' && isMild cs

theorem mild_of_isMildText {s : String} (h : isMildText s = true) : Mild s := by
  obtain ⟨cs, hcs, h⟩ := (Option.any_eq_true _ _).1 h
  refine .of_chars ?_ h
  rw [← toList_of_narrow? hcs, String.ofList_toList]

/-! ### Pairs of values -/

/-- What is known about two values that stand in the same place. -/
inductive Pairing where
  /-- Nothing. -/
  | unknown
  /-- They are the same value of a document. -/
  | tested
  /-- They are shown as the same text, none of whose lines is a comment. -/
  | lines
  /-- They are shown as the same text on one line. -/
  | line
  /-- The text does not begin with a slash, moreover. -/
  | mild
  /-- The first is an empty text, and the second a comment or empty as well. -/
  | note
  /-- They are lists, and so much is known about the items that stand in the same place. -/
  | list (item : Pairing)
  /-- They have members, and so much is known about some of them. -/
  | record (members : List (String × Pairing))
  /-- They are the same function, which makes mild texts of mild texts. -/
  | function

/-- The values about which this is known. -/
inductive Value.Paired : Pairing → Value → Value → Prop
  | unknown (v w : Value) : Paired .unknown v w
  | tested (d : Datum) : Paired .tested (.datum d) (.datum d)
  | lines {d : Datum} (h : ∀ row ∈ rows d.display, isComment row = false) :
      Paired .lines (.datum d) (.datum d)
  | line {d : Datum} (h : Unbroken d.display) : Paired .line (.datum d) (.datum d)
  | mild {d : Datum} (h : Mild d.display) : Paired .mild (.datum d) (.datum d)
  | note {s : String} (h : IsNote s) : Paired .note (.text "") (.text s)
  | list {σ : Pairing} {pairs : List (Value × Value)} (h : ∀ p ∈ pairs, Paired σ p.1 p.2) :
      Paired (.list σ) (.list (pairs.map Prod.fst)) (.list (pairs.map Prod.snd))
  | record {members : List (String × Pairing)} {v w : Value} (held held' : String → Value)
      (hv : ∀ n σ, members.lookup n = some σ → v.member n = .ok (held n))
      (hw : ∀ n σ, members.lookup n = some σ → w.member n = .ok (held' n))
      (h : ∀ n σ, members.lookup n = some σ → Paired σ (held n) (held' n)) :
      Paired (.record members) v w
  | function {f : String → String} (h : ∀ s, Mild s → Mild (f s)) :
      Paired .function (.function f) (.function f)

/-- What is known about the values of names. -/
abbrev Pairings := Entries String Pairing

/-- Whether it is known that two values both count as something, or neither does. -/
def Pairing.isTestable : Pairing → Bool
  | .tested | .lines | .line | .mild | .list _ => true
  | .unknown | .note | .record _ | .function => false

/-- What is known about the values of an expression. -/
def pairingOf (known : Pairings) : Expr → Option Pairing
  | .literal (.text s) => some (if isMildText s then .mild else .tested)
  | .literal _ => some .tested
  | .name n => known.lookup n
  | .member e n =>
    match pairingOf known e with
    | some (.record members) => members.lookup n
    | _ => none
  | .call e [(none, .literal (.text s))] =>
    match pairingOf known e with
    | some .function => if isMildText s then some .mild else none
    | _ => none
  | .compare .equal a b =>
    match pairingOf known a, pairingOf known b with
    | some .mild, some .mild => some .mild
    | _, _ => none
  | .negate e => if (pairingOf known e).any Pairing.isTestable then some .mild else none
  | .join a b =>
    match pairingOf known a, pairingOf known b with
    | some .mild, some .mild => some .mild
    | _, _ => none
  | .choose test yes no =>
    match pairingOf known yes, pairingOf known no with
    | some .mild, some .mild =>
      if (pairingOf known test).any Pairing.isTestable then some .mild else none
    | _, _ => none
  | _ => none

/-! ### Parts -/

/-- What is known about what `loop` stands for. -/
def loopPairing : Pairing := .record [("last", .mild)]

/-- The owner and the name of the member that stands on a line of its own unless it is empty. -/
def optional? (test : Expr) (yes no : List Segment) : Option (String × String) :=
  match test, yes, no with
  | .member (.name owner) field, [.value (.member (.name owner') field'), .text s], [] =>
    if owner' = owner ∧ field' = field ∧ s = "\n" then some (owner, field) else none
  | _, _, _ => none

/-- What is known about the line behind a value. -/
def Pairing.behind : Pairing → Spot → Option Spot
  | .mild, spot => spot.take true
  | .line, spot => spot.take false
  | .lines, .known [] false => some .full
  | _, _ => none

/-- What is known about the line in front of which there may be a comment. -/
def owing : Spot → Option Spot
  | .known [] _ => some (.known [] true)
  | _ => none

mutual

/-- What is known about the line behind a part. -/
def follow : Pairings → Spot → Segment → Option Spot
  | _, spot, .text s => (narrow? s).bind spot.run
  | known, spot, .value e => (pairingOf known e).bind fun σ => σ.behind spot
  | known, spot, .branch test yes no =>
    match pairingOf known test with
    | some .note => (optional? test yes no).bind fun _ => owing spot
    | some σ =>
      if σ.isTestable then
        (follows known spot yes).bind fun a => (follows known spot no).bind fun b => a.join? b
      else none
    | none => none
  | known, spot, .repeated (.name n) range keep body otherwise =>
    match pairingOf known range with
    | some (.list σ) =>
      if (pairingOf (known.put n σ) keep).any Pairing.isTestable ∧
        follows ((known.put "loop" loopPairing).put n σ) spot body = some spot ∧
        follows known spot otherwise = some spot
      then some spot else none
    | _ => none
  | _, _, _ => none

/-- What is known about the line behind parts. -/
def follows : Pairings → Spot → List Segment → Option Spot
  | _, spot, [] => some spot
  | known, spot, p :: rest => (follow known spot p).bind fun spot => follows known spot rest

end

/-- A template that begins with names for values and behind which the last line may end. -/
def isFollowed : Pairings → Template → Bool
  | known, .assign (.name n) e :: rest =>
    (pairingOf known e).any fun σ => isFollowed (known.put n σ) rest
  | known, parts => (follows known (.known [] false) parts).any Spot.mayEnd

/-! ### Values that are paired -/

/-- The names have paired values. -/
def Resembles (known : Pairings) (scope scope' : Scope) : Prop :=
  ∀ n σ, known.lookup n = some σ → (valueOf scope n).Paired σ (valueOf scope' n)

variable {known : Pairings} {scope scope' : Scope} {σ : Pairing} {v w : Value} {e : Expr}
  {n : String} {spot spot' : Spot}

theorem Resembles.put (h : Resembles known scope scope') (hv : v.Paired σ w) (n : String) :
    Resembles (known.put n σ) (scope.put n v) (scope'.put n w) := by
  intro name τ hτ
  rw [Entries.lookup_put] at hτ
  rw [valueOf_put, valueOf_put]
  split_ifs at hτ ⊢ with hname
  · exact Option.some.inj hτ ▸ hv
  · exact h name τ hτ

/-- One name with its values. -/
theorem resembles_singleton (hv : v.Paired σ w) (n : String) :
    Resembles [(n, σ)] [(n, v)] [(n, w)] := by
  have hnone : Resembles [] [] [] := by
    intro name τ hτ
    cases hτ
  exact hnone.put hv n

/-- A name about which nothing is known may have any values. -/
theorem Resembles.put_of_unknown (h : Resembles known scope scope') (hn : known.lookup n = none)
    (v w : Value) : Resembles known (scope.put n v) (scope'.put n w) := by
  intro name τ hτ
  rw [valueOf_put, valueOf_put]
  split_ifs with hname
  · rw [hname, hn] at hτ
    cases hτ
  · exact h name τ hτ

theorem Value.Paired.exists_truthy (h : v.Paired σ w) (hσ : σ.isTestable = true) :
    ∃ b, v.truthy = .ok b ∧ w.truthy = .ok b := by
  cases h with
  | tested | lines | line | mild => exact ⟨_, rfl, rfl⟩
  | list =>
      refine ⟨_, rfl, ?_⟩
      rw [Value.truthy, List.isEmpty_map, List.isEmpty_map]
  | unknown | note | record | function => cases hσ

theorem Value.Paired.exists_mild (h : v.Paired .mild w) :
    ∃ d, v = .datum d ∧ w = .datum d ∧ Mild d.display := by
  cases h with
  | mild hd => exact ⟨_, rfl, rfl, hd⟩

theorem paired_flag (b : Bool) : (Value.flag b).Paired .mild (Value.flag b) := by
  refine .mild (mild_of_isMildText ?_)
  cases b <;> decide +kernel

theorem paired_text {s : String} (h : Mild s) : (Value.text s).Paired .mild (Value.text s) :=
  .mild h

/-- A record has the members that are known. -/
theorem Value.Paired.exists_member {members : List (String × Pairing)}
    (h : v.Paired (.record members) w) (hn : members.lookup n = some σ) :
    ∃ v' w', v.member n = .ok v' ∧ w.member n = .ok w' ∧ v'.Paired σ w' := by
  cases h with
  | record held held' hv hw hpaired =>
      exact ⟨held n, held' n, hv n σ hn, hw n σ hn, hpaired n σ hn⟩

theorem paired_optional {s : Option String} (h : ∀ t, s = some t → Mild t) :
    (Value.optional s).Paired .mild (Value.optional s) := by
  cases s with
  | none => exact .mild (mild_of_isMildText (by decide +kernel))
  | some t => exact .mild (h t rfl)

theorem paired_map {α : Type} {f f' : α → Value} {xs : List α}
    (h : ∀ x ∈ xs, (f x).Paired σ (f' x)) :
    (Value.list (xs.map f)).Paired (.list σ) (.list (xs.map f')) := by
  have hpairs : ∀ p ∈ xs.map (fun x => (f x, f' x)), p.1.Paired σ p.2 := List.forall_mem_map.2 h
  have hlist := Value.Paired.list hpairs
  rwa [List.map_map, List.map_map] at hlist

theorem paired_texts {items : List String}
    (h : ∀ s ∈ items, ∀ row ∈ rows s, isComment row = false) :
    (Value.texts items).Paired (.list .lines) (Value.texts items) :=
  paired_map fun s hs => .lines (h s hs)

/-- Members of the same names, listed side by side with what is known about their values. -/
inductive PairedMembers :
    List (String × Value) → List (String × Value) → List (String × Pairing) → Prop
  | nil : PairedMembers [] [] []
  | cons {n : String} {v w : Value} {σ : Pairing} {vs ws : List (String × Value)}
      {members : List (String × Pairing)} (h : v.Paired σ w) (hs : PairedMembers vs ws members) :
      PairedMembers ((n, v) :: vs) ((n, w) :: ws) ((n, σ) :: members)

/-- They are found together. -/
theorem PairedMembers.exists_lookup {vs ws : List (String × Value)}
    {members : List (String × Pairing)} (h : PairedMembers vs ws members)
    (hn : members.lookup n = some σ) :
    ∃ v w, vs.lookup n = some v ∧ ws.lookup n = some w ∧ v.Paired σ w := by
  induction h with
  | nil => cases hn
  | @cons m v w τ vs ws members hfirst _ ih =>
      rw [List.lookup_cons] at hn ⊢
      rw [List.lookup_cons]
      cases hfound : n == m with
      | true =>
          rw [hfound] at hn
          exact ⟨v, w, rfl, rfl, Option.some.inj hn ▸ hfirst⟩
      | false =>
          rw [hfound] at hn
          exact ih hn

/-- **Records are paired by their members.** -/
theorem paired_record {kind : String} {shown : Option String}
    {fields derived fields' derived' : List (String × Value)} {members : List (String × Pairing)}
    (hkind : Value.operationsOf (Value.shortKind kind) = [])
    (h : PairedMembers (fields ++ derived) (fields' ++ derived') members) :
    (Value.record kind shown fields derived).Paired (.record members)
      (Value.record kind shown fields' derived') := by
  refine .record (fun n => ((fields ++ derived).lookup n).getD default)
    (fun n => ((fields' ++ derived').lookup n).getD default) ?_ ?_ ?_
  · intro n σ hn
    obtain ⟨v, w, hv, -, -⟩ := h.exists_lookup hn
    rw [member_record hkind hv, hv]
    rfl
  · intro n σ hn
    obtain ⟨v, w, -, hw, -⟩ := h.exists_lookup hn
    rw [member_record hkind hw, hw]
    rfl
  · intro n σ hn
    obtain ⟨v, w, hv, hw, hpaired⟩ := h.exists_lookup hn
    rw [hv, hw]
    exact hpaired

/-! ### Expressions -/

section

variable {a b : Expr} {d d' : Datum}

theorem eval_member_of (hv : eval scope e = .ok v) (n : String) :
    eval scope (.member e n) = v.member n := by
  rw [eval, hv]
  rfl

theorem eval_call_text {f : String → String} (hv : eval scope e = .ok (.function f))
    (s : String) : eval scope (.call e [(none, .literal (.text s))]) = .ok (.text (f s)) := by
  rw [eval, hv, evalGiven, eval, evalGiven]
  rfl

theorem eval_equal_of (ha : eval scope a = .ok (.datum d)) (hb : eval scope b = .ok (.datum d')) :
    eval scope (.compare .equal a b) = .ok (.flag (d.same d')) := by
  rw [eval, ha, hb]
  rfl

theorem eval_negate (hv : eval scope e = .ok v) {t : Bool} (ht : v.truthy = .ok t) :
    eval scope (.negate e) = .ok (.flag !t) := by
  rw [eval, hv]
  show (do return Value.flag !(← v.truthy) : Except RenderFault Value) = _
  rw [ht]
  rfl

theorem eval_join (ha : eval scope a = .ok (.datum d)) (hb : eval scope b = .ok (.datum d')) :
    eval scope (.join a b) = .ok (.text (d.display ++ d'.display)) := by
  rw [eval, ha, hb]
  rfl

end

/-- **The values of an expression are paired.** -/
theorem eval_paired (h : Resembles known scope scope') (he : pairingOf known e = some σ) :
    ∃ v w, eval scope e = .ok v ∧ eval scope' e = .ok w ∧ v.Paired σ w := by
  fun_induction pairingOf known e generalizing σ with
  | case1 s =>
      obtain rfl := Option.some.inj he
      refine ⟨.text s, .text s, by rw [eval]; rfl, by rw [eval]; rfl, ?_⟩
      split_ifs with hs
      · exact paired_text (mild_of_isMildText hs)
      · exact .tested _
  | case2 d =>
      obtain rfl := Option.some.inj he
      exact ⟨.datum d, .datum d, by rw [eval], by rw [eval], .tested d⟩
  | case3 n => exact ⟨valueOf scope n, valueOf scope' n, by rw [eval], by rw [eval], h n σ he⟩
  | case4 e n members hmembers ih =>
      obtain ⟨v, w, hv, hw, hpaired⟩ := ih hmembers
      obtain ⟨v', w', hv', hw', hpaired⟩ := hpaired.exists_member he
      exact ⟨v', w', (eval_member_of hv n).trans hv', (eval_member_of hw n).trans hw', hpaired⟩
  | case6 e s hfunction hs ih =>
      obtain rfl := Option.some.inj he
      obtain ⟨v, w, hv, hw, hpaired⟩ := ih hfunction
      cases hpaired with
      | @function f hf =>
          exact ⟨.text (f s), .text (f s), eval_call_text hv s, eval_call_text hw s,
            paired_text (hf s (mild_of_isMildText hs))⟩
  | case9 a b hb ha iha ihb =>
      obtain rfl := Option.some.inj he
      obtain ⟨v, w, hv, hw, hpaired⟩ := iha ha
      obtain ⟨v', w', hv', hw', hpaired'⟩ := ihb hb
      obtain ⟨d, rfl, rfl, -⟩ := hpaired.exists_mild
      obtain ⟨d', rfl, rfl, -⟩ := hpaired'.exists_mild
      exact ⟨_, _, eval_equal_of hv hv', eval_equal_of hw hw', paired_flag _⟩
  | case11 e htest ih =>
      obtain rfl := Option.some.inj he
      obtain ⟨τ, hτ, htestable⟩ := (Option.any_eq_true _ _).1 htest
      obtain ⟨v, w, hv, hw, hpaired⟩ := ih hτ
      obtain ⟨t, hvt, hwt⟩ := hpaired.exists_truthy htestable
      exact ⟨_, _, eval_negate hv hvt, eval_negate hw hwt, paired_flag _⟩
  | case13 a b hb ha iha ihb =>
      obtain rfl := Option.some.inj he
      obtain ⟨v, w, hv, hw, hpaired⟩ := iha ha
      obtain ⟨v', w', hv', hw', hpaired'⟩ := ihb hb
      obtain ⟨d, rfl, rfl, hd⟩ := hpaired.exists_mild
      obtain ⟨d', rfl, rfl, hd'⟩ := hpaired'.exists_mild
      exact ⟨_, _, eval_join hv hv', eval_join hw hw', paired_text (hd.append hd')⟩
  | case15 test yes no hno hyes htest ihyes ihno ihtest =>
      obtain rfl := Option.some.inj he
      obtain ⟨τ, hτ, htestable⟩ := (Option.any_eq_true _ _).1 htest
      obtain ⟨v, w, hv, hw, hpaired⟩ := ihtest hτ
      obtain ⟨t, hvt, hwt⟩ := hpaired.exists_truthy htestable
      rw [eval_choose hv hvt, eval_choose hw hwt]
      cases t with
      | true => exact ihyes hyes
      | false => exact ihno hno
  | case5 | case7 | case8 | case10 | case12 | case14 | case16 | case17 | case18 => cases he

/-! ### Rendering -/

/-- Two texts that keep texts side by side. -/
def Carries (spot spot' : Spot) (s s' : String) : Prop :=
  ∀ quiet loud, Parallel spot quiet loud → Parallel spot' (quiet ++ s) (loud ++ s')

theorem Carries.refl (spot : Spot) : Carries spot spot "" "" := by
  intro quiet loud h
  rwa [String.append_empty, String.append_empty]

theorem Carries.trans {middle : Spot} {s s' t t' : String} (h : Carries spot middle s s')
    (ht : Carries middle spot' t t') : Carries spot spot' (s ++ t) (s' ++ t') := by
  intro quiet loud hparallel
  rw [← String.append_assoc, ← String.append_assoc]
  exact ht _ _ (h _ _ hparallel)

/-- Texts that do so one after another. -/
theorem Carries.join {texts : List (String × String)}
    (h : ∀ t ∈ texts, Carries spot spot t.1 t.2) :
    Carries spot spot (Text.join "" (texts.map Prod.fst)) (Text.join "" (texts.map Prod.snd)) := by
  induction texts with
  | nil => exact .refl spot
  | cons t texts ih =>
      obtain ⟨ht, htexts⟩ := List.forall_mem_cons.1 h
      have hsplit : ∀ (s : String) rest, Text.join "" (s :: rest) = s ++ Text.join "" rest :=
        fun s rest => String.toList_injective (by
          rw [Naming.toList_join_empty, String.toList_append, Naming.toList_join_empty]
          rfl)
      rw [List.map_cons, List.map_cons, hsplit, hsplit]
      exact ht.trans (ih htexts)

theorem paired_loopValue (pairs : List (Value × Value)) (i : Nat) :
    (loopValue (pairs.map Prod.fst) i).Paired loopPairing (loopValue (pairs.map Prod.snd) i) := by
  have hlast : ∀ n σ, [("last", Pairing.mild)].lookup n = some σ → n = "last" ∧ σ = .mild := by
    intro n σ hn
    rw [List.lookup_cons] at hn
    cases hfound : n == "last" with
    | true =>
        rw [hfound] at hn
        exact ⟨eq_of_beq hfound, (Option.some.inj hn).symm⟩
    | false =>
        rw [hfound] at hn
        cases hn
  have hmember : ∀ items : List Value, items.length = pairs.length →
      (loopValue items i).member "last" = .ok (.flag (i + 1 == pairs.length)) := by
    intro items hlength
    rw [← hlength]
    rfl
  refine .record (fun _ => .flag (i + 1 == pairs.length)) (fun _ => .flag (i + 1 == pairs.length))
    ?_ ?_ ?_
  · intro n σ hn
    obtain ⟨rfl, -⟩ := hlast n σ hn
    exact hmember _ (List.length_map _)
  · intro n σ hn
    obtain ⟨rfl, -⟩ := hlast n σ hn
    exact hmember _ (List.length_map _)
  · intro n σ hn
    obtain ⟨-, rfl⟩ := hlast n σ hn
    exact paired_flag _

/-- Of paired items the same ones are kept. -/
theorem exists_kept (h : Resembles known scope scope') {keep : Expr}
    (hkeep : (pairingOf (known.put n σ) keep).any Pairing.isTestable = true)
    {pairs : List (Value × Value)} (hpairs : ∀ p ∈ pairs, p.1.Paired σ p.2) :
    ∃ kept : List (Value × Value),
      keptItems scope (.name n) keep (pairs.map Prod.fst) = .ok (kept.map Prod.fst) ∧
      keptItems scope' (.name n) keep (pairs.map Prod.snd) = .ok (kept.map Prod.snd) ∧
      ∀ p ∈ kept, p.1.Paired σ p.2 := by
  induction pairs with
  | nil => exact ⟨[], rfl, rfl, List.forall_mem_nil _⟩
  | cons p pairs ih =>
      obtain ⟨hp, hpairs⟩ := List.forall_mem_cons.1 hpairs
      obtain ⟨kept, hkept, hkept', hpaired⟩ := ih hpairs
      obtain ⟨τ, hτ, htestable⟩ := (Option.any_eq_true _ _).1 hkeep
      obtain ⟨v, w, hv, hw, htest⟩ := eval_paired (h.put hp n) hτ
      obtain ⟨t, hvt, hwt⟩ := htest.exists_truthy htestable
      rw [List.map_cons, List.map_cons, keptItems_cons hv hvt hkept, keptItems_cons hw hwt hkept']
      cases t with
      | true => exact ⟨p :: kept, rfl, rfl, List.forall_mem_cons.2 ⟨hp, hpaired⟩⟩
      | false => exact ⟨kept, rfl, rfl, hpaired⟩

/-- Two texts are what something is rendered to, one in each scope, and they keep texts side by
side. -/
def Rendered (spot spot' : Spot) (x x' : Except RenderFault (String × Scope))
    (scope scope' : Scope) : Prop :=
  ∃ s s', x = .ok (s, scope) ∧ x' = .ok (s', scope') ∧ Carries spot spot' s s'

/-- A value is shown in both texts. -/
theorem Value.Paired.carries (h : v.Paired σ w) (hspot : σ.behind spot = some spot') :
    ∃ s, v.display = .ok s ∧ w.display = .ok s ∧ Carries spot spot' s s := by
  cases h with
  | lines hd =>
      unfold Pairing.behind at hspot
      split at hspot
      · rename_i h
        cases h
      · rename_i h
        cases h
      · obtain rfl := Option.some.inj hspot
        exact ⟨_, rfl, rfl, fun _ _ h => h.lines hd⟩
      · cases hspot
  | line hd => exact ⟨_, rfl, rfl, fun _ _ h => h.take hspot hd (fun hmild => by cases hmild)⟩
  | mild hd => exact ⟨_, rfl, rfl, fun _ _ h => h.take hspot hd.unbroken fun _ => hd.mild⟩
  | unknown | tested | note | list | record | function => cases hspot

/-- A member that stands on a line of its own unless it is empty. -/
theorem optional?_eq_some {test : Expr} {yes no : List Segment} {owner field : String}
    (h : optional? test yes no = some (owner, field)) :
    Segment.branch test yes no = Dart.optionalLine owner field := by
  unfold optional? at h
  split at h
  · split_ifs at h with hsame
    obtain ⟨rfl, rfl, rfl⟩ := hsame
    obtain ⟨rfl, rfl⟩ := Prod.mk.inj (Option.some.inj h)
    rfl
  · cases h

/-- **A comment stands on lines of its own in the second text.** -/
theorem render_optionalLine {owner field : String} (h : Resembles known scope scope')
    (hnote : pairingOf known (member owner field) = some .note) (hspot : owing spot = some spot') :
    Rendered spot spot' (renderSegment scope (Dart.optionalLine owner field))
      (renderSegment scope' (Dart.optionalLine owner field)) scope scope' := by
  obtain ⟨v, w, hv, hw, hpaired⟩ := eval_paired h hnote
  obtain ⟨row, owed, rfl, rfl, rfl⟩ : ∃ row owed, row = [] ∧ spot = .known row owed ∧
      spot' = .known row true := by
    unfold owing at hspot
    split at hspot
    · rename_i owed
      exact ⟨[], owed, rfl, rfl, (Option.some.inj hspot).symm⟩
    · cases hspot
  cases hpaired with
  | @note s hs =>
      have hquiet : renderSegment scope (Dart.optionalLine owner field) = .ok ("", scope) := by
        rw [Dart.optionalLine, when, renderSegment_branch hv (Value.truthy_text "")]
        exact renderSegments.eq_1 scope
      have hshown : renderSegments scope' [gap owner field, .text "\n"] =
          .ok (s ++ ("\n" ++ ""), scope') :=
        renderSegments_cons (renderSegment_value hw (Value.display_text s))
          (renderSegments_cons (by rw [renderSegment]) (by rw [renderSegments]))
      by_cases hempty : s = ""
      · refine ⟨"", "", hquiet, ?_, fun quiet loud hparallel => ?_⟩
        · rw [Dart.optionalLine, when, renderSegment_branch hw (Value.truthy_text s), hempty]
          exact renderSegments.eq_1 scope'
        · rw [String.append_empty, String.append_empty]
          exact hparallel.owe
      · obtain ⟨notes, hnotes, hcomments⟩ := hs hempty
        refine ⟨"", s ++ "\n", hquiet, ?_, fun quiet loud hparallel => ?_⟩
        · rw [Dart.optionalLine, when, renderSegment_branch hw (Value.truthy_text s),
            if_pos (by simpa using hempty), hshown, String.append_empty]
        · rw [String.append_empty, hnotes]
          exact hparallel.note (fun note hnote => (hcomments note hnote).1)
            fun note hnote => (hcomments note hnote).2

/-- **A repeated part is rendered side by side**, if its body is for each item and leads back to
what was known. -/
theorem render_repeated {range keep : Expr} {body otherwise : List Segment}
    (h : Resembles known scope scope')
    (hkeep : (pairingOf (known.put n σ) keep).any Pairing.isTestable = true)
    {pairs : List (Value × Value)} (hpairs : ∀ p ∈ pairs, p.1.Paired σ p.2)
    (hv : eval scope range = .ok (.list (pairs.map Prod.fst)))
    (hw : eval scope' range = .ok (.list (pairs.map Prod.snd)))
    (hbody : ∀ {inner inner'}, Resembles ((known.put "loop" loopPairing).put n σ) inner inner' →
      Rendered spot spot (renderSegments inner body) (renderSegments inner' body) inner inner')
    (hother : Rendered spot spot (renderSegments scope otherwise) (renderSegments scope' otherwise)
      scope scope') :
    Rendered spot spot (renderSegment scope (.repeated (.name n) range keep body otherwise))
      (renderSegment scope' (.repeated (.name n) range keep body otherwise)) scope scope' := by
  obtain ⟨kept, hkept, hkept', hpaired⟩ := exists_kept h hkeep hpairs
  obtain ⟨other, other', hother, hother', hcarriesOther⟩ := hother
  have hitem : ∀ item ∈ kept.zipIdx, ∃ s s', (do
        let inner ← bindTarget (scope.put "loop" (loopValue (kept.map Prod.fst) item.2)) (.name n)
          item.1.1
        return (← renderSegments inner body).1 : Except RenderFault String) = .ok s ∧
      (do
        let inner ← bindTarget (scope'.put "loop" (loopValue (kept.map Prod.snd) item.2)) (.name n)
          item.1.2
        return (← renderSegments inner body).1 : Except RenderFault String) = .ok s' ∧
      Carries spot spot s s' := by
    rintro ⟨p, i⟩ hitem
    have hp : p.1.Paired σ p.2 := hpaired p (List.fst_mem_of_mem_zipIdx hitem)
    obtain ⟨s, s', hs, hs', hcarries⟩ := hbody ((h.put (paired_loopValue kept i) "loop").put hp n)
    refine ⟨s, s', ?_, ?_, hcarries⟩
    · rw [bindTarget]
      show (do return (← renderSegments _ body).1) = _
      rw [hs]
      rfl
    · rw [bindTarget]
      show (do return (← renderSegments _ body).1) = _
      rw [hs']
      rfl
  obtain ⟨texts, htexts, htexts', hcarries⟩ := exists_mapM_ok_both hitem
  refine ⟨if (kept.map Prod.fst).isEmpty then other else Text.join "" (texts.map Prod.fst),
    if (kept.map Prod.snd).isEmpty then other' else Text.join "" (texts.map Prod.snd),
    renderSegment_repeated hv hkept ?_ hother, renderSegment_repeated hw hkept' ?_ hother', ?_⟩
  · rw [List.zipIdx_map, List.mapM_map]
    exact htexts
  · rw [List.zipIdx_map, List.mapM_map]
    exact htexts'
  · rw [List.isEmpty_map, List.isEmpty_map]
    split_ifs
    · exact hcarriesOther
    · exact .join hcarries

mutual

/-- **A part is rendered side by side**, and it leaves no names behind. -/
theorem render_follow {known : Pairings} {scope scope' : Scope} {spot spot' : Spot} (p : Segment)
    (h : Resembles known scope scope') (hp : follow known spot p = some spot') :
    Rendered spot spot' (renderSegment scope p) (renderSegment scope' p) scope scope' := by
  cases p with
  | text s =>
      rw [follow] at hp
      obtain ⟨cs, hcs, hrun⟩ := Option.bind_eq_some_iff.1 hp
      refine ⟨s, s, by rw [renderSegment], by rw [renderSegment], fun quiet loud hparallel => ?_⟩
      have hs : s = String.ofList cs := by rw [← toList_of_narrow? hcs, String.ofList_toList]
      rw [hs]
      exact hparallel.run hrun
  | value e =>
      rw [follow] at hp
      obtain ⟨σ, hσ, hspot⟩ := Option.bind_eq_some_iff.1 hp
      obtain ⟨v, w, hv, hw, hpaired⟩ := eval_paired h hσ
      obtain ⟨s, hvs, hws, hcarries⟩ := hpaired.carries hspot
      exact ⟨s, s, renderSegment_value hv hvs, renderSegment_value hw hws, hcarries⟩
  | assign target e => cases hp
  | branch test yes no =>
      rw [follow] at hp
      split at hp
      · rename_i hnote
        obtain ⟨⟨owner, field⟩, hoptional, hspot⟩ := Option.bind_eq_some_iff.1 hp
        have hline := optional?_eq_some hoptional
        obtain ⟨rfl, -, -⟩ := Segment.branch.inj hline
        rw [hline]
        exact render_optionalLine h hnote hspot
      · rename_i σ hnote hσ
        split_ifs at hp with htestable
        obtain ⟨a, ha, hp⟩ := Option.bind_eq_some_iff.1 hp
        obtain ⟨b, hb, hjoin⟩ := Option.bind_eq_some_iff.1 hp
        obtain ⟨v, w, hv, hw, hpaired⟩ := eval_paired h hσ
        obtain ⟨t, hvt, hwt⟩ := hpaired.exists_truthy htestable
        rw [renderSegment_branch hv hvt, renderSegment_branch hw hwt]
        cases t with
        | true =>
            obtain ⟨s, s', hs, hs', hcarries⟩ := render_follows yes h ha
            exact ⟨s, s', hs, hs', fun _ _ hparallel => .join hjoin (.inl (hcarries _ _ hparallel))⟩
        | false =>
            obtain ⟨s, s', hs, hs', hcarries⟩ := render_follows no h hb
            exact ⟨s, s', hs, hs', fun _ _ hparallel => .join hjoin (.inr (hcarries _ _ hparallel))⟩
      · cases hp
  | repeated target range keep body otherwise =>
      cases target with
      | tuple parts => cases hp
      | name n =>
          rw [follow] at hp
          split at hp
          · rename_i σ hσ
            split_ifs at hp with hcases
            obtain rfl := Option.some.inj hp
            obtain ⟨hkeep, hbody, hotherwise⟩ := hcases
            obtain ⟨v, w, hv, hw, hpaired⟩ := eval_paired h hσ
            cases hpaired with
            | @list _ pairs hpairs =>
                exact render_repeated h hkeep hpairs hv hw
                  (fun hinner => render_follows body hinner hbody)
                  (render_follows otherwise h hotherwise)
          · cases hp

/-- **Parts are rendered side by side.** -/
theorem render_follows {known : Pairings} {scope scope' : Scope} {spot spot' : Spot}
    (ps : List Segment) (h : Resembles known scope scope')
    (hps : follows known spot ps = some spot') :
    Rendered spot spot' (renderSegments scope ps) (renderSegments scope' ps) scope scope' := by
  cases ps with
  | nil =>
      rw [follows] at hps
      obtain rfl := Option.some.inj hps
      exact ⟨"", "", by rw [renderSegments], by rw [renderSegments], .refl spot⟩
  | cons p rest =>
      rw [follows] at hps
      obtain ⟨middle, hmiddle, hrest⟩ := Option.bind_eq_some_iff.1 hps
      obtain ⟨s, s', hs, hs', hcarries⟩ := render_follow p h hmiddle
      obtain ⟨t, t', ht, ht', hcarries'⟩ := render_follows rest h hrest
      exact ⟨s ++ t, s' ++ t', renderSegments_cons hs ht, renderSegments_cons hs' ht',
        hcarries.trans hcarries'⟩

end

/-! ### Templates -/

/-- **A template that is followed is rendered to two texts**, which differ in comments only. -/
theorem render_isFollowed {t : Template} (h : Resembles known scope scope')
    (ht : isFollowed known t = true) :
    ∃ s s', render scope t = .ok s ∧ render scope' t = .ok s' ∧ Documented (rows s) (rows s') := by
  fun_induction isFollowed known t generalizing scope scope' with
  | case1 known n e rest ih =>
      obtain ⟨σ, hσ, hrest⟩ := (Option.any_eq_true _ _).1 ht
      obtain ⟨v, w, hv, hw, hpaired⟩ := eval_paired h hσ
      rw [render_assign hv, render_assign hw]
      exact ih σ (h.put hpaired n) hrest
  | case2 known parts =>
      obtain ⟨spot, hspot, hend⟩ := (Option.any_eq_true _ _).1 ht
      obtain ⟨s, s', hs, hs', hcarries⟩ := render_follows parts h hspot
      have hparallel := hcarries "" "" .empty
      rw [String.empty_append, String.empty_append] at hparallel
      refine ⟨s, s', ?_, ?_, hparallel.documented hend⟩
      · rw [render, hs]
        rfl
      · rw [render, hs']
        rfl

/-- The texts of a template, in scopes that leave its own name free. -/
theorem textOf_isFollowed {t : Template} (h : Resembles known scope scope')
    (ht : isFollowed known t = true) (hself : scope.lookup "self" = none)
    (hself' : scope'.lookup "self" = none) (hunknown : known.lookup "self" = none)
    (name : Option String) :
    ∃ s s', Library.textOf name t scope = .ok s ∧ Library.textOf name t scope' = .ok s' ∧
      Documented (rows s) (rows s') := by
  unfold Library.textOf
  rw [hself, hself']
  exact render_isFollowed (h.put_of_unknown hunknown _ _) ht

end DartScaffold.Template
