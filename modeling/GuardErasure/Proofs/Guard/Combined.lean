import GuardErasure.Proofs.Guard.Rebuilt

namespace GuardErasure

/-!
# The types of binary operations

The types that are stored in a tree may be wrong, but an expression that was put together with
`Expr.combine` has every binary operation typed by its operands.  The pass changes types, as it leaves
a nullable wrapper where there was its value, and has to type anew what stands above.

* `Expr.Combined` — every binary operation of a tree has the type that its operands give it;
* `Shape.combined_swept` — the pass leaves such a tree of such a tree.
-/

namespace Expr

/-- Is the node typed by its operands?  Only a binary operation could be otherwise. -/
def IsCombined : Expr → Prop
  | binary op left right t => t = op.resultTy left.ty right.ty
  | _ => True

instance : DecidablePred IsCombined
  | binary op left right t => inferInstanceAs (Decidable (t = op.resultTy left.ty right.ty))
  | const .. | param .. | root .. | source .. | foreign .. | member .. | callOn .. | call ..
  | unary .. | cond .. | lambda .. => .isTrue trivial

/-- Every binary operation of the tree has the type that its operands give it. -/
def Combined (e : Expr) : Prop := ∀ n ∈ e.nodes, n.IsCombined

theorem combined_iff (e : Expr) : e.Combined ↔ e.IsCombined ∧ ∀ part ∈ e.parts, part.Combined :=
  forall_nodes_iff

theorem combined_leaf {e : Expr} (h : e.isLeaf = true) : e.Combined := by
  cases e with
  | const | param | root | source | foreign =>
    exact (combined_iff _).mpr ⟨trivial, fun _ hpart => nomatch hpart⟩
  | _ => cases h

@[simp] theorem combined_member (owner : Expr) (n : MemberName) (t : Ty) :
    (member owner n t).Combined ↔ owner.Combined := by
  simp [combined_iff (member owner n t), IsCombined, parts]

@[simp] theorem combined_unary (op : UnOp) (operand : Expr) (t : Ty) :
    (unary op operand t).Combined ↔ operand.Combined := by
  simp [combined_iff (unary op operand t), IsCombined, parts]

@[simp] theorem combined_lambda (params : List String) (body : Expr) :
    (lambda params body).Combined ↔ body.Combined := by
  simp [combined_iff (lambda params body), IsCombined, parts]

@[simp] theorem combined_binary (op : BinOp) (left right : Expr) (t : Ty) :
    (binary op left right t).Combined
      ↔ t = op.resultTy left.ty right.ty ∧ left.Combined ∧ right.Combined := by
  simp [combined_iff (binary op left right t), IsCombined, parts]

@[simp] theorem combined_cond (test ifTrue ifFalse : Expr) (t : Ty) :
    (cond test ifTrue ifFalse t).Combined
      ↔ test.Combined ∧ ifTrue.Combined ∧ ifFalse.Combined := by
  simp [combined_iff (cond test ifTrue ifFalse t), IsCombined, parts]

@[simp] theorem combined_call (m : Method) (args : List Expr) (t : Ty) :
    (call m args t).Combined ↔ ∀ a ∈ args, a.Combined := by
  simp [combined_iff (call m args t), IsCombined, parts]

@[simp] theorem combined_callOn (receiver : Expr) (m : Method) (args : List Expr) (t : Ty) :
    (callOn receiver m args t).Combined ↔ receiver.Combined ∧ ∀ a ∈ args, a.Combined := by
  simp [combined_iff (callOn receiver m args t), IsCombined, parts]

end Expr

/-- An operation that was typed by its operands is so around new ones. -/
theorem BinOp.newTy_of_combined {op : BinOp} {left right : Expr} {t : Ty}
    (h : t = op.resultTy left.ty right.ty) (left' right' : Expr) :
    op.newTy left right t left' right' = op.resultTy left'.ty right'.ty := by
  unfold newTy
  split
  · rename_i hsame
    rw [h, hsame.1, hsame.2]
  · rfl

/-- **The pass keeps operations typed by their operands**, in and outside of guards. -/
theorem Shape.combined_swept (s : Shape) (inside : Bool) {e : Expr} (h : e.Combined) :
    (s.swept inside e).Combined := by
  have hargs {inside : Bool} {args : List Expr}
      (ih : ∀ a ∈ args, a.Combined → (s.swept inside a).Combined)
      (h : ∀ a ∈ args, a.Combined) : ∀ a ∈ args.map (s.swept inside), a.Combined :=
    List.forall_mem_map.mpr fun a ha => ih a ha (h a ha)
  induction inside, e using s.inductSwept with
  | leaf inside e he => rwa [swept_leaf he]
  | member inside owner n t ih =>
    rw [Expr.combined_member] at h
    rw [swept_member, Expr.combined_member]
    exact ih h
  | lambda inside params body ih =>
    rw [Expr.combined_lambda] at h
    rw [swept_lambda, Expr.combined_lambda]
    exact ih h
  | unary inside op operand t hu ih =>
    rw [Expr.combined_unary] at h
    rw [swept_unary hu, Expr.combined_unary]
    exact ih h
  | call inside m args t ih =>
    rw [Expr.combined_call] at h
    rw [swept_call, Expr.combined_call]
    exact hargs ih h
  | callOn inside receiver m args t ihr ih =>
    rw [Expr.combined_callOn] at h
    rw [swept_callOn, Expr.combined_callOn]
    exact ⟨ihr h.1, hargs ih h.2⟩
  | stripped operand t ht ih =>
    rw [Expr.combined_unary] at h
    rw [(givesWay_stripped ht).1]
    exact ih h
  | outside op left right t ihl ihr =>
    obtain ⟨ht, hleft, hright⟩ := (Expr.combined_binary op left right t).mp h
    rw [swept_outside_eq, Expr.combined_binary]
    exact ⟨BinOp.newTy_of_combined ht _ _, ihl hleft, ihr hright⟩
  | leftDropped op left right t hl ihl ihr =>
    rw [Expr.combined_binary] at h
    rw [(givesWay_leftDropped hl).1]
    exact ihr h.2.2
  | rightDropped op left right t hl hr ihl ihr =>
    rw [Expr.combined_binary] at h
    rw [(givesWay_rightDropped hl hr).1]
    exact ihl h.2.1
  | companion op left right t hl hr hc ihl ihr =>
    rw [swept_of_drops (drops_companion hl hr hc)]
    exact Expr.combined_leaf rfl
  | bothLeft op left right t hl hr hc ihl ihr =>
    obtain ⟨ht, hleft, hright⟩ := (Expr.combined_binary op left right t).mp h
    rw [swept_inside_eq hl hr hc, Expr.combined_binary]
    exact ⟨BinOp.newTy_of_combined ht _ _, ihl hleft, ihr hright⟩
  | ownerGuard inside test ifTrue owner u t path hg ih =>
    rw [Expr.combined_cond, Expr.combined_member] at h
    rw [(givesWay_ownerGuard hg).1]
    exact ih h.2.2
  | wholeGuard inside test ifTrue ifFalse t path hg ih =>
    rw [Expr.combined_cond] at h
    rw [(givesWay_wholeGuard hg).1]
    exact ih h.2.2
  | collapsed test ifTrue ifFalse t hg hnull ih =>
    rw [Expr.combined_cond] at h
    rw [(givesWay_collapsed hg hnull).1]
    exact ih h.2.2
  | cond inside test ifTrue ifFalse t hg hkeep iha ihb ihc =>
    rw [Expr.combined_cond] at h
    rw [swept_cond hg hkeep, Expr.combined_cond]
    exact ⟨iha h.1, ihb h.2.1, ihc h.2.2⟩

end GuardErasure
