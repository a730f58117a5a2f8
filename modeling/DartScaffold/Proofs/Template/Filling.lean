/-
**Filling a template line by line.**

What a template is filled to can be told part by part: a line is begun, goes on with texts and
values, and is ended by a text with a line feed.  Parts that are kept or left out, and parts that
are repeated, stand between lines and write whole lines themselves.  So the lines are read off from
the template in its own order, with the values that its gaps have.  Names that are given at the
beginning of a template hold in all of it.

Main definitions:

* `Template.Writes` — the lines that parts write.

Main results:

* `Template.eval_member` — the value in a gap for a member of a record;
* `Template.Writes.start`, `Template.Writes.text`, `Template.Writes.value`, `Template.Writes.line` —
  a line from its beginning to its end;
* `Template.Writes.branch`, `Template.Writes.each` — **parts that are kept, and parts that are
  repeated**;
* `Template.render_define`, `Template.textOf_writes` — the text of a template that gives names, and
  of one that writes lines.
-/

import DartScaffold.Proofs.Template.Shape
import DartScaffold.Proofs.Text.Lines

set_option relaxedAutoImplicit false
set_option autoImplicit false

namespace DartScaffold.Template

open Text (unlines)

variable {scope : Scope} {e : Expr} {v w : Value} {n : String} {b : Bool} {p : Segment}
  {ps rest yes no body : List Segment} {s t begun : String} {ls more : List String}

/-! ### Values of gaps -/

/-- The members of a record, one after the other. -/
def Value.entries : Value → List (String × Value)
  | .record _ _ fields derived => fields ++ derived
  | _ => []

/-- A record of a kind that has no operations, which would come before the members. -/
def Value.IsPlain (v : Value) : Prop :=
  ∃ kind shown fields derived, v = .record kind shown fields derived ∧
    Value.operationsOf (Value.shortKind kind) = []

theorem Value.IsPlain.member_eq (h : v.IsPlain) (hn : v.entries.lookup n = some w) :
    v.member n = .ok w := by
  obtain ⟨kind, shown, fields, derived, rfl, hkind⟩ := h
  exact member_record hkind hn

/-- The value in a gap for a member of a record. -/
theorem eval_member {owner : String} (hv : valueOf scope owner = v) (hplain : v.IsPlain)
    (hn : v.entries.lookup n = some w) : eval scope (member owner n) = .ok w := by
  rw [member, eval, eval, hv]
  exact hplain.member_eq hn

/-- Whether an item is the last one. -/
theorem eval_last {items : List Value} {i : Nat}
    (hloop : valueOf scope "loop" = loopValue items i) :
    eval scope (member "loop" "last") = .ok (.flag (i + 1 == items.length)) :=
  eval_member hloop ⟨_, _, _, _, rfl, by decide +kernel⟩ rfl

/-- Whether a text is a given one. -/
theorem eval_equal {s t : String} (he : eval scope e = .ok (.text s)) :
    eval scope (.equal e (quote t)) = .ok (.flag (s == t)) := by
  rw [Expr.equal, eval, he, quote, eval]
  show (do return Value.flag (← Value.relate .equal (.text s) (.text t))) = _
  rfl

/-- The items that are kept where the test of each of them is known. -/
theorem keptItems_eq {α : Type} {xs : List α} {f : α → Value} {kept : α → Bool} {keep : Expr}
    (h : ∀ x ∈ xs, ∃ v, eval (scope.put n (f x)) keep = .ok v ∧ v.truthy = .ok (kept x)) :
    keptItems scope (.name n) keep (xs.map f) = .ok ((xs.filter kept).map f) := by
  induction xs with
  | nil => rfl
  | cons x xs ih =>
      obtain ⟨v, hv, hkept⟩ := h x (List.mem_cons_self ..)
      rw [List.map_cons, List.filter_cons, keptItems_cons hv hkept
        (ih fun y hy => h y (List.mem_cons_of_mem _ hy))]
      cases kept x <;> rfl

/-! ### Lines -/

/-- The parts go on with a line that was begun, and write these lines.  They leave no names
behind. -/
def Writes (scope : Scope) (begun : String) (ps : List Segment) (ls : List String) : Prop :=
  ∃ s, renderSegments scope ps = .ok (s, scope) ∧ begun ++ s = unlines ls

namespace Writes

theorem nil : Writes scope "" [] [] := ⟨"", by rw [renderSegments], rfl⟩

/-- A part in front of others. -/
theorem cons (hp : renderSegment scope p = .ok (s, scope))
    (h : Writes scope (begun ++ s) rest ls) : Writes scope begun (p :: rest) ls := by
  obtain ⟨t, ht, hlines⟩ := h
  exact ⟨s ++ t, renderSegments_cons hp ht, by rw [← String.append_assoc, hlines]⟩

/-- Parts that write whole lines, one behind the other. -/
theorem append (h : Writes scope "" ps ls) (hmore : Writes scope "" rest more) :
    Writes scope "" (ps ++ rest) (ls ++ more) := by
  obtain ⟨s, hs, hls⟩ := h
  obtain ⟨t, ht, hmore⟩ := hmore
  refine ⟨s ++ t, ?_, ?_⟩
  · rw [renderSegments_append, hs]
    show (renderSegments scope rest >>= fun r => pure (s ++ r.1, r.2)) = _
    rw [ht]
    rfl
  · rw [String.empty_append] at hls hmore ⊢
    rw [hls, hmore, Text.unlines_append]

/-- A part that writes whole lines, in front of others. -/
theorem block (h : Writes scope "" [p] ls) (hmore : Writes scope "" rest more) :
    Writes scope "" (p :: rest) (ls ++ more) :=
  append h hmore

/-- A text in the middle of a line. -/
theorem text (h : Writes scope (begun ++ s) rest ls) : Writes scope begun (.text s :: rest) ls :=
  cons (by rw [renderSegment]) h

/-- A text at the beginning of a line. -/
theorem start (h : Writes scope s rest ls) : Writes scope "" (.text s :: rest) ls :=
  text (by rwa [String.empty_append])

/-- A value in the middle of a line. -/
theorem value (he : eval scope e = .ok v) (hs : v.display = .ok s)
    (h : Writes scope (begun ++ s) rest ls) : Writes scope begun (.value e :: rest) ls :=
  cons (renderSegment_value he hs) h

/-- A value in the middle of a line, with its beginning taken to what is in front of it. -/
theorem joined {front : String} (he : eval scope e = .ok v) (hs : v.display = .ok (s ++ t))
    (hfront : begun ++ s = front) (h : Writes scope (front ++ t) rest ls) :
    Writes scope begun (.value e :: rest) ls :=
  value he hs (by rwa [← String.append_assoc, hfront])

/-- A text that ends a line. -/
theorem line (hs : s = t ++ "\n") (h : Writes scope "" rest ls) :
    Writes scope begun (.text s :: rest) ((begun ++ t) :: ls) := by
  obtain ⟨u, hu, hls⟩ := h
  refine text ⟨u, hu, ?_⟩
  rw [String.empty_append] at hls
  rw [hs, hls, unlines]
  simp only [String.append_assoc]

/-- A line with a value in it. -/
theorem around {behind : String} (he : eval scope e = .ok v) (hs : v.display = .ok s)
    (ht : behind = t ++ "\n") (h : Writes scope "" rest ls) :
    Writes scope "" (.text begun :: .value e :: .text behind :: rest) ((begun ++ s ++ t) :: ls) :=
  start (value he hs (line ht h))

/-- A line feed behind a line. -/
theorem ended (h : Writes scope "" rest ls) :
    Writes scope begun (.text "\n" :: rest) (begun :: ls) := by
  simpa using line (t := "") rfl h

/-- A text that is a line. -/
theorem whole (hs : s = t ++ "\n") (h : Writes scope "" rest ls) :
    Writes scope "" (.text s :: rest) (t :: ls) := by
  have hline : Writes scope "" (.text s :: rest) (("" ++ t) :: ls) := line hs h
  rwa [String.empty_append] at hline

/-- A value that is shown as lines but for the last line feed. -/
theorem shown (he : eval scope e = .ok v) (hs : v.display = .ok s)
    (hlines : s ++ "\n" = unlines more) (h : Writes scope "" rest ls) :
    Writes scope "" (.value e :: .text "\n" :: rest) (more ++ ls) := by
  obtain ⟨t, ht, hls⟩ := h
  refine value he hs (text ⟨t, ht, ?_⟩)
  rw [String.empty_append] at hls ⊢
  rw [hlines, hls, Text.unlines_append]

/-- A value that is a line. -/
theorem shownLine (he : eval scope e = .ok v) (hs : v.display = .ok s)
    (h : Writes scope "" rest ls) : Writes scope "" (.value e :: .text "\n" :: rest) (s :: ls) := by
  have hline : s ++ "\n" = unlines [s] := by
    rw [unlines, unlines, String.append_empty]
  exact shown he hs hline h

/-- A part that is filled to lines. -/
theorem of_segment (hp : renderSegment scope p = .ok (unlines ls, scope)) :
    Writes scope "" [p] ls := by
  refine cons hp ⟨"", by rw [renderSegments], ?_⟩
  simp

/-- Of two parts the chosen one is filled. -/
theorem branch_chosen (he : eval scope e = .ok v) (hb : v.truthy = .ok b)
    (hchosen : Writes scope "" (if b then yes else no) ls) :
    Writes scope "" [.branch e yes no] ls := by
  obtain ⟨s, hs, hls⟩ := hchosen
  rw [String.empty_append] at hls
  exact of_segment (by rw [renderSegment_branch he hb, hs, hls])

/-- **Parts that are kept or left out**, as a value counts as something or not. -/
theorem branch (he : eval scope e = .ok v) (hb : v.truthy = .ok b) (hyes : Writes scope "" yes ls)
    (hno : Writes scope "" no more) :
    Writes scope "" [.branch e yes no] (if b then ls else more) := by
  refine branch_chosen he hb ?_
  cases b with
  | true => exact hyes
  | false => exact hno

variable {α : Type} {xs : List α} {f : α → Value}

/-- The texts of a repeated part, one for each item and its place. -/
theorem join_unlines (lines : List (List String)) :
    Text.join "" (lines.map unlines) = unlines lines.flatten := by
  refine String.toList_injective ?_
  rw [Naming.toList_join_empty]
  induction lines with
  | nil => rfl
  | cons ls lines ih =>
      rw [List.flatten_cons, Text.unlines_append, String.toList_append, ← ih]
      rfl

/-- **A part that is repeated** writes its lines for each item that is kept.  They may depend on its
place. -/
theorem each_kept {g : α → Nat → List String} {kept : α → Bool} {keep : Expr}
    (he : eval scope e = .ok (.list (xs.map f)))
    (hkeep : ∀ x ∈ xs, ∃ v, eval (scope.put n (f x)) keep = .ok v ∧ v.truthy = .ok (kept x))
    (h : ∀ x i, (x, i) ∈ (xs.filter kept).zipIdx →
      Writes ((scope.put "loop" (loopValue ((xs.filter kept).map f) i)).put n (f x)) "" body
        (g x i)) :
    Writes scope "" [Template.each n e keep body]
      ((xs.filter kept).zipIdx.map fun item => g item.1 item.2).flatten := by
  refine of_segment ?_
  have hitems := keptItems_eq hkeep
  generalize xs.filter kept = ys at h hitems ⊢
  have htexts : ((ys.map f).zipIdx.mapM fun item => do
      let inner ← bindTarget (scope.put "loop" (loopValue (ys.map f) item.2)) (.name n) item.1
      return (← renderSegments inner body).1 : Except RenderFault (List String)) =
        .ok ((ys.zipIdx.map fun item => g item.1 item.2).map unlines) := by
    rw [List.zipIdx_map, List.mapM_map, List.map_map]
    refine mapM_eq_ok fun item hitem => ?_
    obtain ⟨s, hs, hls⟩ := h item.1 item.2 hitem
    rw [String.empty_append] at hls
    show (do return (← renderSegments _ body).1) = _
    rw [Prod.map_fst, Prod.map_snd, id, hs, hls]
    rfl
  have hother : renderSegments scope [] = .ok ("", scope) := by rw [renderSegments]
  rw [Template.each, renderSegment_repeated he hitems htexts hother, join_unlines]
  cases ys <;> rfl

/-- The lines for each item that is kept, if they do not depend on its place. -/
theorem each_kept_item {g : α → List String} {kept : α → Bool} {keep : Expr}
    (he : eval scope e = .ok (.list (xs.map f)))
    (hkeep : ∀ x ∈ xs, ∃ v, eval (scope.put n (f x)) keep = .ok v ∧ v.truthy = .ok (kept x))
    (h : ∀ x ∈ xs.filter kept, ∀ i,
      Writes ((scope.put "loop" (loopValue ((xs.filter kept).map f) i)).put n (f x)) "" body
        (g x)) :
    Writes scope "" [Template.each n e keep body] ((xs.filter kept).flatMap g) := by
  have hlines := each_kept (g := fun x _ => g x) he hkeep
    fun x i hx => h x (List.fst_mem_of_mem_zipIdx hx) i
  have hplaces : (xs.filter kept).zipIdx.map (fun item => g item.1) = (xs.filter kept).map g := by
    show (xs.filter kept).zipIdx.map (g ∘ Prod.fst) = _
    rw [← List.map_map, List.zipIdx_map_fst]
  rwa [hplaces] at hlines

theorem filter_always (xs : List α) : xs.filter (fun _ => true) = xs :=
  List.filter_eq_self.2 fun _ _ => rfl

theorem keeps_always (xs : List α) : ∀ x ∈ xs, ∃ v,
    eval (scope.put n (f x)) always = .ok v ∧ v.truthy = .ok true :=
  fun _ _ => ⟨.flag true, by rw [always, eval]; rfl, rfl⟩

/-- The lines for each item, where every one is kept. -/
theorem each {g : α → Nat → List String} (he : eval scope e = .ok (.list (xs.map f)))
    (h : ∀ x i, (x, i) ∈ xs.zipIdx →
      Writes ((scope.put "loop" (loopValue (xs.map f) i)).put n (f x)) "" body (g x i)) :
    Writes scope "" [Template.each n e always body]
      (xs.zipIdx.map fun item => g item.1 item.2).flatten := by
  rw [← filter_always xs] at h
  have hlines := each_kept he (keeps_always xs) h
  rwa [filter_always] at hlines

/-- A part that is repeated with lines that do not depend on the place. -/
theorem each_item {g : α → List String} (he : eval scope e = .ok (.list (xs.map f)))
    (h : ∀ x ∈ xs, ∀ i,
      Writes ((scope.put "loop" (loopValue (xs.map f) i)).put n (f x)) "" body (g x)) :
    Writes scope "" [Template.each n e always body] (xs.flatMap g) := by
  rw [← filter_always xs] at h
  have hlines := each_kept_item he (keeps_always xs) h
  rwa [filter_always] at hlines

/-- A part that is repeated with one line for each item. -/
theorem each_line {g : α → String} (he : eval scope e = .ok (.list (xs.map f)))
    (h : ∀ x ∈ xs, ∀ i,
      Writes ((scope.put "loop" (loopValue (xs.map f) i)).put n (f x)) "" body [g x]) :
    Writes scope "" [Template.each n e always body] (xs.map g) := by
  rw [List.map_eq_flatMap]
  exact each_item he h

end Writes

/-! ### Templates -/

/-- The text of a template that gives a name to a value at its beginning. -/
theorem render_define (he : eval scope e = .ok v) :
    render scope (define n e :: rest) = render (scope.put n v) rest :=
  render_assign he rest

theorem render_writes {t : Template} (h : Writes scope "" t ls) :
    render scope t = .ok (unlines ls) := by
  obtain ⟨s, hs, hls⟩ := h
  rw [String.empty_append] at hls
  rw [render, hs, hls]
  rfl

/-- The text of a template, whose own name is no value in it. -/
theorem textOf_eq {t : Template} (hself : scope.lookup "self" = none) (name : Option String)
    (h : ∀ v, render (scope.put "self" v) t = .ok s) : Library.textOf name t scope = .ok s := by
  unfold Library.textOf
  rw [hself]
  exact h _

/-- The text of a template that writes lines. -/
theorem textOf_writes {t : Template} (hself : scope.lookup "self" = none) (name : Option String)
    (h : ∀ v, Writes (scope.put "self" v) "" t ls) :
    Library.textOf name t scope = .ok (unlines ls) :=
  textOf_eq hself name fun v => render_writes (h v)

end DartScaffold.Template
