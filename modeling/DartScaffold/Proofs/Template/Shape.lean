/-
**What is known about a template before it is filled.**

A template that is filled with values of known shapes can be looked through without the values.  An
expression is of a shape itself then, and a part takes the brackets that are open in front of it to
those that are open behind it, the same ones whichever way a branch goes and however often a part is
repeated.  If looking through it succeeds, then so does filling it, and the text has its brackets
where they were foreseen.

Main definitions:

* `Template.Shape`, `Template.Value.HasShape` — the shapes, and the values of a shape;
* `Template.shapeOf` — the shape of an expression, if it has one;
* `Template.flow`, `Template.flows` — the brackets that are open behind a part, and behind parts;
* `Template.closes` — a template behind which no bracket is open;
* `Template.Suits` — a scope in which names have values of known shapes.

Main results:

* `Template.hasShape_record` — a record has the shape that lists those of its members;
* `Template.eval_hasShape` — an expression with a shape has a value of this shape;
* `Template.render_flow`, `Template.render_flows` — **parts are rendered with their brackets as
  foreseen**;
* `Template.render_closes` — a template that closes is rendered to a well nested text.
-/

import Mathlib
import DartScaffold.Proofs.Steps
import DartScaffold.Proofs.Text.Nesting
import DartScaffold.Template.Library

set_option relaxedAutoImplicit false
set_option autoImplicit false

namespace DartScaffold.Template

open Text (WellNested awaited)

/-! ### Shapes -/

/-- What is known about a value. -/
inductive Shape where
  /-- Nothing. -/
  | unknown
  /-- It is a value of a document. -/
  | tested
  /-- It is a value of a document and shown as a well nested text. -/
  | shown
  /-- It is a list, and so much is known about each item. -/
  | list (item : Shape)
  /-- It has members, and so much is known about some of them. -/
  | record (members : List (String × Shape))
  /-- It makes well nested texts of well nested texts. -/
  | function

/-- The values of a shape. -/
inductive Value.HasShape : Shape → Value → Prop
  | unknown (v : Value) : HasShape .unknown v
  | tested (d : Datum) : HasShape .tested (.datum d)
  | shown {d : Datum} (h : WellNested d.display) : HasShape .shown (.datum d)
  | list {σ : Shape} {items : List Value} (h : ∀ v ∈ items, HasShape σ v) :
      HasShape (.list σ) (.list items)
  | record {members : List (String × Shape)} {v : Value} (held : String → Value)
      (hheld : ∀ n σ, members.lookup n = some σ → v.member n = .ok (held n))
      (h : ∀ n σ, members.lookup n = some σ → HasShape σ (held n)) : HasShape (.record members) v
  | function {f : String → String} (h : ∀ s, WellNested s → WellNested (f s)) :
      HasShape .function (.function f)

/-- The shapes that names are known to have. -/
abbrev Known := Entries String Shape

/-- Whether it can be told if a value counts as something. -/
def Shape.isTestable : Shape → Bool
  | .tested | .shown | .list _ => true
  | .unknown | .record _ | .function => false

/-- Whether a value is shown as a well nested text. -/
def Shape.isShown : Shape → Bool
  | .shown => true
  | _ => false

/-- The shape of an expression, if it is known. -/
def shapeOf (known : Known) : Expr → Option Shape
  | .literal d => if WellNested d.display then some .shown else none
  | .name n => known.lookup n
  | .member e n =>
    match shapeOf known e with
    | some (.record members) => members.lookup n
    | _ => none
  | .call e [(none, .literal (.text s))] =>
    match shapeOf known e with
    | some .function => if WellNested s then some .shown else none
    | _ => none
  | .compare .equal a b =>
    match shapeOf known a, shapeOf known b with
    | some .shown, some .shown => some .shown
    | _, _ => none
  | .negate e => if (shapeOf known e).any Shape.isTestable then some .shown else none
  | .join a b =>
    match shapeOf known a, shapeOf known b with
    | some .shown, some .shown => some .shown
    | _, _ => none
  | .choose test yes no =>
    match shapeOf known yes, shapeOf known no with
    | some .shown, some .shown =>
      if (shapeOf known test).any Shape.isTestable then some .shown else none
    | _, _ => none
  | _ => none

/-! ### Parts -/

/-- The shape of what `loop` stands for. -/
def loopShape : Shape := .record [("last", .shown)]

mutual

/-- The brackets that are open behind a part, if it takes those in front of it to the same ones in
every case. -/
def flow : Known → List Char → Segment → Option (List Char)
  | _, waiting, .text s => awaited waiting (Text.narrowChars s)
  | known, waiting, .value e =>
    if (shapeOf known e).any Shape.isShown then some waiting else none
  | known, waiting, .branch test yes no =>
    if (shapeOf known test).any Shape.isTestable ∧ flows known waiting yes = flows known waiting no
    then flows known waiting yes else none
  | known, waiting, .repeated (.name n) range keep body otherwise =>
    match shapeOf known range with
    | some (.list σ) =>
      if (shapeOf (known.put n σ) keep).any Shape.isTestable ∧
        flows ((known.put "loop" loopShape).put n σ) waiting body = some waiting ∧
        flows known waiting otherwise = some waiting
      then some waiting else none
    | _ => none
  | _, _, _ => none

/-- The brackets that are open behind parts. -/
def flows : Known → List Char → List Segment → Option (List Char)
  | _, waiting, [] => some waiting
  | known, waiting, p :: rest => (flow known waiting p).bind fun left => flows known left rest

end

/-- A template that begins with names for values and behind which no bracket is open. -/
def closes : Known → Template → Bool
  | known, .assign (.name n) e :: rest => (shapeOf known e).any fun σ => closes (known.put n σ) rest
  | known, parts => decide (flows known [] parts = some [])

/-! ### Steps of rendering -/

section

variable {scope : Scope} {e : Expr} {v w : Value} {n : String} {b : Bool}

theorem valueOf_put (scope : Scope) (n name : String) (v : Value) :
    valueOf (scope.put n v) name = if name = n then v else valueOf scope name := by
  unfold valueOf
  rw [Entries.lookup_put]
  split_ifs <;> rfl

/-- The chosen one of two expressions. -/
theorem eval_choose {test yes no : Expr} (he : eval scope test = .ok v) (hb : v.truthy = .ok b) :
    eval scope (.choose test yes no) = eval scope (if b then yes else no) := by
  rw [eval, he]
  show (do if ← v.truthy then eval scope yes else eval scope no) = _
  rw [hb]
  cases b <;> rfl

/-- Whether an item is kept is told by the value of the test. -/
theorem keptItems_cons {keep : Expr} {rest more : List Value}
    (hw : eval (scope.put n v) keep = .ok w) (hb : w.truthy = .ok b)
    (hmore : keptItems scope (.name n) keep rest = .ok more) :
    keptItems scope (.name n) keep (v :: rest) = .ok (if b then v :: more else more) := by
  rw [keptItems, bindTarget]
  show (do
    let kept ← (← eval (scope.put n v) keep).truthy
    let more ← keptItems scope (.name n) keep rest
    return if kept then v :: more else more) = _
  rw [hw]
  show (do
    let kept ← w.truthy
    let more ← keptItems scope (.name n) keep rest
    return if kept then v :: more else more) = _
  rw [hb, hmore]
  rfl

theorem renderSegment_value (he : eval scope e = .ok v) {s : String} (hs : v.display = .ok s) :
    renderSegment scope (.value e) = .ok (s, scope) := by
  rw [renderSegment, he]
  show (do return (← v.display, scope)) = _
  rw [hs]
  rfl

/-- Of two parts the chosen one is rendered. -/
theorem renderSegment_branch {yes no : List Segment} (he : eval scope e = .ok v)
    (hb : v.truthy = .ok b) : renderSegment scope (.branch e yes no) =
      renderSegments scope (if b then yes else no) := by
  rw [renderSegment, he]
  show (do if ← v.truthy then renderSegments scope yes else renderSegments scope no) = _
  rw [hb]
  cases b <;> rfl

theorem renderSegments_cons {p : Segment} {rest : List Segment} {s t : String}
    {inner last : Scope} (hs : renderSegment scope p = .ok (s, inner))
    (ht : renderSegments inner rest = .ok (t, last)) :
    renderSegments scope (p :: rest) = .ok (s ++ t, last) := by
  rw [renderSegments, hs]
  dsimp only [bind, Except.bind]
  rw [ht]
  rfl

/-- The text of a repeated part, item by item. -/
theorem renderSegment_repeated {range keep : Expr} {body otherwise : List Segment}
    {items kept : List Value} {texts : List String} {other : String}
    (hitems : eval scope range = .ok (.list items))
    (hkept : keptItems scope (.name n) keep items = .ok kept)
    (htexts : (kept.zipIdx.mapM fun item => do
      let inner ← bindTarget (scope.put "loop" (loopValue kept item.2)) (.name n) item.1
      return (← renderSegments inner body).1) = .ok texts)
    (hother : renderSegments scope otherwise = .ok (other, scope)) :
    renderSegment scope (.repeated (.name n) range keep body otherwise) =
      .ok (if kept.isEmpty then other else Text.join "" texts, scope) := by
  dsimp only [bind, Except.bind] at htexts
  rw [renderSegment, hitems]
  show (do
    let items ← keptItems scope (.name n) keep items
    if items.isEmpty then return ((← renderSegments scope otherwise).1, scope)
    let texts ← items.zipIdx.mapM fun item : Value × Nat => do
      let inner ← bindTarget (scope.put "loop" (loopValue items item.2)) (.name n) item.1
      return (← renderSegments inner body).1
    return (Text.join "" texts, scope)) = _
  rw [hkept]
  dsimp only [bind, Except.bind]
  cases kept.isEmpty with
  | true =>
      rw [hother]
      rfl
  | false =>
      rw [htexts]
      rfl

/-- A name that is given a value leaves no text. -/
theorem render_assign (he : eval scope e = .ok v) (rest : Template) :
    render scope (.assign (.name n) e :: rest) = render (scope.put n v) rest := by
  have hassign : renderSegment scope (.assign (.name n) e) = .ok ("", scope.put n v) := by
    rw [renderSegment, he]
    rfl
  rw [render, render, renderSegments, hassign]
  cases hrest : renderSegments (scope.put n v) rest with
  | error fault =>
      dsimp only [bind, Except.bind]
      rw [hrest]
  | ok r =>
      dsimp only [bind, Except.bind]
      rw [hrest]
      exact congrArg Except.ok String.empty_append

end

/-! ### Values of a shape -/

/-- The names have values of the shapes that they are known to have. -/
def Suits (known : Known) (scope : Scope) : Prop :=
  ∀ n σ, known.lookup n = some σ → (valueOf scope n).HasShape σ

variable {known : Known} {scope : Scope} {σ : Shape} {v : Value} {e : Expr} {n : String}

theorem Suits.put (h : Suits known scope) (hv : v.HasShape σ) (n : String) :
    Suits (known.put n σ) (scope.put n v) := by
  intro name τ hτ
  rw [Entries.lookup_put] at hτ
  rw [valueOf_put]
  split_ifs at hτ ⊢ with hname
  · exact Option.some.inj hτ ▸ hv
  · exact h name τ hτ

/-- One name with its value. -/
theorem suits_singleton (hv : v.HasShape σ) (n : String) : Suits [(n, σ)] [(n, v)] := by
  have hnone : Suits [] [] := by
    intro name τ hτ
    cases hτ
  exact hnone.put hv n

/-- A name about which nothing is known may have any value. -/
theorem Suits.put_of_unknown (h : Suits known scope) (hn : known.lookup n = none) (v : Value) :
    Suits known (scope.put n v) := by
  intro name τ hτ
  rw [valueOf_put]
  split_ifs with hname
  · rw [hname, hn] at hτ
    cases hτ
  · exact h name τ hτ

theorem Value.HasShape.exists_truthy (h : v.HasShape σ) (hσ : σ.isTestable = true) :
    ∃ b, v.truthy = .ok b := by
  cases h with
  | tested => exact ⟨_, rfl⟩
  | shown => exact ⟨_, rfl⟩
  | list => exact ⟨_, rfl⟩
  | unknown | record | function => cases hσ

theorem Value.HasShape.exists_display (h : v.HasShape σ) (hσ : σ.isShown = true) :
    ∃ s, v.display = .ok s ∧ WellNested s := by
  cases h with
  | shown hd => exact ⟨_, rfl, hd⟩
  | unknown | tested | list | record | function => cases hσ

theorem hasShape_flag (b : Bool) : (Value.flag b).HasShape .shown := by
  refine .shown ?_
  cases b <;> decide

theorem hasShape_text {s : String} (h : WellNested s) : (Value.text s).HasShape .shown := .shown h

theorem hasShape_optional {s : Option String} (h : ∀ t, s = some t → WellNested t) :
    (Value.optional s).HasShape .shown := by
  cases s with
  | none => exact .shown (by decide)
  | some t => exact .shown (h t rfl)

theorem hasShape_map {α : Type} {f : α → Value} {xs : List α} (h : ∀ x ∈ xs, (f x).HasShape σ) :
    (Value.list (xs.map f)).HasShape (.list σ) := by
  refine .list fun v hv => ?_
  obtain ⟨x, hx, rfl⟩ := List.mem_map.1 hv
  exact h x hx

theorem hasShape_texts {items : List String} (h : ∀ s ∈ items, WellNested s) :
    (Value.texts items).HasShape (.list .shown) :=
  hasShape_map fun s hs => hasShape_text (h s hs)

/-- A record has the members that are known. -/
theorem Value.HasShape.exists_member {members : List (String × Shape)}
    (h : v.HasShape (.record members)) (hn : members.lookup n = some σ) :
    ∃ w, v.member n = .ok w ∧ w.HasShape σ := by
  cases h with
  | record held hheld hshape => exact ⟨held n, hheld n σ hn, hshape n σ hn⟩

/-- Members that are listed side by side with what is known about them are found together. -/
theorem exists_lookup {entries : List (String × Value)} {members : List (String × Shape)}
    (h : List.Forall₂ (fun entry m => entry.1 = m.1 ∧ entry.2.HasShape m.2) entries members)
    (hn : members.lookup n = some σ) : ∃ w, entries.lookup n = some w ∧ w.HasShape σ := by
  induction h with
  | nil => cases hn
  | @cons entry m entries members hfirst _ ih =>
      obtain ⟨hname, hshape⟩ := hfirst
      rw [List.lookup_cons] at hn ⊢
      rw [hname]
      cases hfound : n == m.1 with
      | true =>
          rw [hfound] at hn
          exact ⟨entry.2, rfl, Option.some.inj hn ▸ hshape⟩
      | false =>
          rw [hfound] at hn
          exact ih hn

/-- A member of a record of a kind that has no operations, which would come before the members. -/
theorem member_record {kind : String} {shown : Option String}
    {fields derived : List (String × Value)} {w : Value}
    (hkind : Value.operationsOf (Value.shortKind kind) = [])
    (hn : (fields ++ derived).lookup n = some w) :
    (Value.record kind shown fields derived).member n = .ok w := by
  have hown : (Value.record kind shown fields derived).own? n = some w := by
    rw [Value.own?, Value.kindName, hkind]
    exact hn
  show Except.ok ((((Value.record kind shown fields derived).own? n).or none).getD _) = _
  rw [hown]
  rfl

/-- A record is of the shape that lists what is known about its members, one after the other. -/
theorem hasShape_record {kind : String} {shown : Option String}
    {fields derived : List (String × Value)} {members : List (String × Shape)}
    (hkind : Value.operationsOf (Value.shortKind kind) = [])
    (h : List.Forall₂ (fun entry m => entry.1 = m.1 ∧ entry.2.HasShape m.2) (fields ++ derived)
      members) : (Value.record kind shown fields derived).HasShape (.record members) := by
  refine .record (fun n => ((fields ++ derived).lookup n).getD default) ?_ ?_
  · intro n σ hn
    obtain ⟨w, hw, -⟩ := exists_lookup h hn
    rw [member_record hkind hw, hw]
    rfl
  · intro n σ hn
    obtain ⟨w, hw, hshape⟩ := exists_lookup h hn
    rw [hw]
    exact hshape

/-- Values that are shown can be compared. -/
theorem exists_same {w : Value} (hv : v.HasShape .shown) (hw : w.HasShape .shown) :
    ∃ b, v.same w = .ok b := by
  cases hv
  cases hw
  exact ⟨_, rfl⟩

/-- **An expression with a shape has a value of this shape.** -/
theorem eval_hasShape (h : Suits known scope) (he : shapeOf known e = some σ) :
    ∃ v, eval scope e = .ok v ∧ v.HasShape σ := by
  fun_induction shapeOf known e generalizing σ with
  | case1 d hd =>
      obtain rfl := Option.some.inj he
      exact ⟨.datum d, by rw [eval], .shown hd⟩
  | case3 n => exact ⟨valueOf scope n, by rw [eval], h n σ he⟩
  | case4 e n members hmembers ih =>
      obtain ⟨v, hv, hshape⟩ := ih hmembers
      obtain ⟨w, hw, hshape⟩ := hshape.exists_member he
      refine ⟨w, ?_, hshape⟩
      rw [eval, hv]
      exact hw
  | case6 e s hfunction hs ih =>
      obtain rfl := Option.some.inj he
      obtain ⟨v, hv, hshape⟩ := ih hfunction
      cases hshape with
      | @function f hf =>
          refine ⟨.text (f s), ?_, hasShape_text (hf s hs)⟩
          rw [eval, hv, evalGiven, eval, evalGiven]
          rfl
  | case9 a b hb ha iha ihb =>
      obtain rfl := Option.some.inj he
      obtain ⟨v, hv, hshapeV⟩ := iha ha
      obtain ⟨w, hw, hshapeW⟩ := ihb hb
      obtain ⟨same, hsame⟩ := exists_same hshapeV hshapeW
      refine ⟨.flag same, ?_, hasShape_flag same⟩
      rw [eval, hv, hw]
      show (do return Value.flag (← v.same w) : Except RenderFault Value) = _
      rw [hsame]
      rfl
  | case11 e htest ih =>
      obtain rfl := Option.some.inj he
      obtain ⟨τ, hτ, htestable⟩ := (Option.any_eq_true _ _).1 htest
      obtain ⟨v, hv, hshape⟩ := ih hτ
      obtain ⟨b, hb⟩ := hshape.exists_truthy htestable
      refine ⟨.flag !b, ?_, hasShape_flag !b⟩
      rw [eval, hv]
      show (do return Value.flag !(← v.truthy) : Except RenderFault Value) = _
      rw [hb]
      rfl
  | case13 a b hb ha iha ihb =>
      obtain rfl := Option.some.inj he
      obtain ⟨v, hv, hshapeV⟩ := iha ha
      obtain ⟨w, hw, hshapeW⟩ := ihb hb
      obtain ⟨s, hs, hnestedS⟩ := hshapeV.exists_display rfl
      obtain ⟨t, ht, hnestedT⟩ := hshapeW.exists_display rfl
      refine ⟨.text (s ++ t), ?_, hasShape_text (hnestedS.append hnestedT)⟩
      rw [eval, hv, hw]
      show (do
        let s ← v.display
        return Value.text (s ++ (← w.display)) : Except RenderFault Value) = _
      rw [hs, ht]
      rfl
  | case15 test yes no hno hyes htest ihyes ihno ihtest =>
      obtain rfl := Option.some.inj he
      obtain ⟨τ, hτ, htestable⟩ := (Option.any_eq_true _ _).1 htest
      obtain ⟨v, hv, hshape⟩ := ihtest hτ
      obtain ⟨b, hb⟩ := hshape.exists_truthy htestable
      rw [eval_choose hv hb]
      cases b with
      | true => exact ihyes hyes
      | false => exact ihno hno
  | case2 | case5 | case7 | case8 | case10 | case12 | case14 | case16 | case17 | case18 =>
      cases he

/-! ### Rendering -/

theorem hasShape_loopValue (items : List Value) (i : Nat) :
    (loopValue items i).HasShape loopShape := by
  have hlast : ∀ n σ, [("last", Shape.shown)].lookup n = some σ → n = "last" ∧ σ = .shown := by
    intro n σ hn
    rw [List.lookup_cons] at hn
    cases hfound : n == "last" with
    | true =>
        rw [hfound] at hn
        exact ⟨eq_of_beq hfound, (Option.some.inj hn).symm⟩
    | false =>
        rw [hfound] at hn
        cases hn
  refine .record (fun _ => .flag (i + 1 == items.length)) ?_ ?_
  · intro n σ hn
    obtain ⟨rfl, -⟩ := hlast n σ hn
    rfl
  · intro n σ hn
    obtain ⟨-, rfl⟩ := hlast n σ hn
    exact hasShape_flag _

/-- Of items of a shape some are kept. -/
theorem exists_keptItems {keep : Expr} (h : Suits known scope)
    (hkeep : (shapeOf (known.put n σ) keep).any Shape.isTestable = true) {items : List Value}
    (hitems : ∀ v ∈ items, v.HasShape σ) :
    ∃ kept, keptItems scope (.name n) keep items = .ok kept ∧ ∀ v ∈ kept, v.HasShape σ := by
  induction items with
  | nil => exact ⟨[], rfl, by simp⟩
  | cons v items ih =>
      obtain ⟨kept, hkept, hshapes⟩ := ih fun w hw => hitems w (List.mem_cons_of_mem _ hw)
      have hv := hitems v (List.mem_cons_self ..)
      obtain ⟨τ, hτ, htestable⟩ := (Option.any_eq_true _ _).1 hkeep
      obtain ⟨w, hw, hshape⟩ := eval_hasShape (h.put hv n) hτ
      obtain ⟨b, hb⟩ := hshape.exists_truthy htestable
      refine ⟨if b then v :: kept else kept, keptItems_cons hw hb hkept, ?_⟩
      intro u hu
      split_ifs at hu
      · rcases List.mem_cons.1 hu with rfl | hu
        · exact hv
        · exact hshapes u hu
      · exact hshapes u hu

/-- Texts that leave the same brackets open, one after another. -/
theorem awaited_join {waiting : List Char} {texts : List String}
    (h : ∀ s ∈ texts, awaited waiting s.toList = some waiting) :
    awaited waiting (Text.join "" texts).toList = some waiting := by
  rw [Naming.toList_join_empty]
  induction texts with
  | nil => rfl
  | cons s texts ih =>
      rw [List.map_cons, List.flatten_cons, Text.awaited_append, h s (List.mem_cons_self ..)]
      exact ih fun t ht => h t (List.mem_cons_of_mem _ ht)

mutual

/-- **A part is rendered with its brackets as foreseen**, and it leaves no names behind. -/
theorem render_flow {known : Known} {scope : Scope} {waiting left : List Char} (p : Segment)
    (h : Suits known scope) (hp : flow known waiting p = some left) :
    ∃ s, renderSegment scope p = .ok (s, scope) ∧ awaited waiting s.toList = some left := by
  cases p with
  | text s =>
      rw [flow, Text.awaited_narrowChars] at hp
      exact ⟨s, by rw [renderSegment], hp⟩
  | value e =>
      rw [flow] at hp
      split_ifs at hp with hshown
      obtain rfl := Option.some.inj hp
      obtain ⟨σ, hσ, hshown⟩ := (Option.any_eq_true _ _).1 hshown
      obtain ⟨v, hv, hshape⟩ := eval_hasShape h hσ
      obtain ⟨s, hs, hnested⟩ := hshape.exists_display hshown
      exact ⟨s, renderSegment_value hv hs, hnested.awaited_eq waiting⟩
  | assign target e => cases hp
  | branch test yes no =>
      rw [flow] at hp
      split_ifs at hp with hcases
      obtain ⟨htest, hsame⟩ := hcases
      obtain ⟨σ, hσ, htestable⟩ := (Option.any_eq_true _ _).1 htest
      obtain ⟨v, hv, hshape⟩ := eval_hasShape h hσ
      obtain ⟨b, hb⟩ := hshape.exists_truthy htestable
      rw [renderSegment_branch hv hb]
      cases b with
      | true => exact render_flows yes h hp
      | false => exact render_flows no h (hsame ▸ hp)
  | repeated target range keep body otherwise =>
      cases target with
      | tuple parts => cases hp
      | name n =>
          rw [flow] at hp
          split at hp
          · rename_i σ hσ
            split_ifs at hp with hcases
            obtain rfl := Option.some.inj hp
            obtain ⟨hkeep, hbody, hotherwise⟩ := hcases
            obtain ⟨v, hv, hshape⟩ := eval_hasShape h hσ
            cases hshape with
            | @list _ items hitems =>
                obtain ⟨kept, hkept, hshapes⟩ := exists_keptItems h hkeep hitems
                have hloop : ∀ item ∈ kept.zipIdx, ∃ s, (do
                    let inner ← bindTarget (scope.put "loop" (loopValue kept item.2)) (.name n)
                      item.1
                    return (← renderSegments inner body).1 : Except RenderFault String) = .ok s ∧
                    awaited waiting s.toList = some waiting := by
                  rintro ⟨w, i⟩ hitem
                  have hw : w.HasShape σ := hshapes w (List.fst_mem_of_mem_zipIdx hitem)
                  have hinner := (h.put (hasShape_loopValue kept i) "loop").put hw n
                  obtain ⟨s, hs, hawaited⟩ := render_flows body hinner hbody
                  refine ⟨s, ?_, hawaited⟩
                  rw [bindTarget]
                  show (do return (← renderSegments _ body).1) = _
                  rw [hs]
                  rfl
                obtain ⟨texts, htexts, hawaited⟩ := exists_mapM_ok hloop
                obtain ⟨other, hother, hawaitedOther⟩ := render_flows otherwise h hotherwise
                refine ⟨_, renderSegment_repeated hv hkept htexts hother, ?_⟩
                split_ifs
                · exact hawaitedOther
                · exact awaited_join hawaited
          · cases hp

/-- **Parts are rendered with their brackets as foreseen**. -/
theorem render_flows {known : Known} {scope : Scope} {waiting left : List Char}
    (ps : List Segment) (h : Suits known scope) (hps : flows known waiting ps = some left) :
    ∃ s, renderSegments scope ps = .ok (s, scope) ∧ awaited waiting s.toList = some left := by
  cases ps with
  | nil =>
      rw [flows] at hps
      exact ⟨"", by rw [renderSegments], hps⟩
  | cons p rest =>
      rw [flows] at hps
      obtain ⟨middle, hmiddle, hrest⟩ := Option.bind_eq_some_iff.1 hps
      obtain ⟨s, hs, hs'⟩ := render_flow p h hmiddle
      obtain ⟨t, ht, ht'⟩ := render_flows rest h hrest
      refine ⟨s ++ t, renderSegments_cons hs ht, ?_⟩
      rw [String.toList_append, Text.awaited_append, hs', Option.bind_some, ht']

end

/-! ### Templates -/

/-- **A template that closes is rendered to a well nested text.** -/
theorem render_closes {t : Template} (h : Suits known scope) (ht : closes known t = true) :
    ∃ s, render scope t = .ok s ∧ WellNested s := by
  fun_induction closes known t generalizing scope with
  | case1 known n e rest ih =>
      obtain ⟨σ, hσ, hrest⟩ := (Option.any_eq_true _ _).1 ht
      obtain ⟨v, hv, hshape⟩ := eval_hasShape h hσ
      rw [render_assign hv]
      exact ih σ (h.put hshape n) hrest
  | case2 known parts =>
      obtain ⟨s, hs, hawaited⟩ := render_flows parts h (of_decide_eq_true ht)
      refine ⟨s, ?_, hawaited⟩
      rw [render, hs]
      rfl

/-- The text of a template, in a scope that leaves its own name free. -/
theorem textOf_closes {t : Template} (h : Suits known scope) (ht : closes known t = true)
    (hself : scope.lookup "self" = none) (hunknown : known.lookup "self" = none)
    (name : Option String) : ∃ s, Library.textOf name t scope = .ok s ∧ WellNested s := by
  unfold Library.textOf
  rw [hself]
  exact render_closes (h.put_of_unknown hunknown _) ht

end DartScaffold.Template
