import GuardErasure.Proofs.Expr.Tree
import GuardErasure.Proofs.Guard.Answer

namespace GuardErasure.Expr

/-!
# Transformations of leaves

A transformation whose hook has answers for leaves only rebuilds every other node around its
parts:

* `OnLeaves` — hooks that have answers for leaves only;
* `transformed` — the tree that a transformation leaves, with one equation for each kind of node;
* `transform_eq_keep_iff` — a tree stays exactly if all of its leaves do;
* `transformLeaves_eq` — what is remembered from leaf to leaf, and when it makes no difference to the
  tree that is left.
-/

/-- The hook has no answer but for leaves. -/
def OnLeaves (hook : Expr → Option Change) : Prop := ∀ e : Expr, e.isLeaf = false → hook e = none

/-- The tree that a transformation leaves; `true` if it drops the tree. -/
def transformed (hook : Expr → Option Change) (e : Expr) : Expr := (e.transform hook).result e

variable {hook : Expr → Option Change}

/-! ### The answer, node by node -/

theorem transform_leaf {e : Expr} (he : e.isLeaf = true) :
    e.transform hook = (hook e).getD .keep := by
  cases e <;> first | rfl | exact absurd he (by simp [isLeaf])

section Answer

variable (h : OnLeaves hook)

include h

theorem transform_inner {e : Expr} (he : e.isLeaf = false) :
    e.transform hook = transformParts hook e := by
  rw [transform, h e he]
  rfl

theorem transform_member (owner : Expr) (n : MemberName) (t : Ty) :
    (member owner n t).transform hook = (owner.transform hook).inParent (.member · n t) :=
  transform_inner h rfl

theorem transform_unary (op : UnOp) (operand : Expr) (t : Ty) :
    (unary op operand t).transform hook = (operand.transform hook).inParent (.unary op · t) :=
  transform_inner h rfl

theorem transform_lambda (params : List String) (body : Expr) :
    (lambda params body).transform hook = (body.transform hook).inParent (.lambda params ·) :=
  transform_inner h rfl

theorem transform_binary (op : BinOp) (left right : Expr) (t : Ty) :
    (binary op left right t).transform hook
      = Change.inBinary op left right (left.transform hook) (right.transform hook) :=
  transform_inner h rfl

theorem transform_cond (test ifTrue ifFalse : Expr) (t : Ty) :
    (cond test ifTrue ifFalse t).transform hook
      = Change.inCond test ifTrue ifFalse t (test.transform hook) (ifTrue.transform hook)
        (ifFalse.transform hook) :=
  transform_inner h rfl

theorem transform_call (m : Method) (args : List Expr) (t : Ty) :
    (call m args t).transform hook = Change.inCall m t (transformArgs hook args) :=
  transform_inner h rfl

theorem transform_callOn (receiver : Expr) (m : Method) (args : List Expr) (t : Ty) :
    (callOn receiver m args t).transform hook
      = Change.inCallOn receiver m args t (receiver.transform hook) (transformArgs hook args) :=
  transform_inner h rfl

/-- Only a leaf is dropped: a node around parts has `true` in the place of a dropped one. -/
theorem isDrop_transform {e : Expr} (he : e.isLeaf = false) : (e.transform hook).isDrop = false := by
  cases e with
  | const | param | root | source | foreign => cases he
  | member owner n t => rw [transform_member h, Change.isDrop_inParent]
  | unary op operand t => rw [transform_unary h, Change.isDrop_inParent]
  | lambda params body => rw [transform_lambda h, Change.isDrop_inParent]
  | binary op left right t => rw [transform_binary h, Change.isDrop_inBinary]
  | cond test ifTrue ifFalse t => rw [transform_cond h, Change.isDrop_inCond]
  | call m args t => rw [transform_call h, Change.isDrop_inCall]
  | callOn receiver m args t => rw [transform_callOn h, Change.isDrop_inCallOn]

end Answer

/-- The arguments of a call are transformed one by one. -/
theorem getD_transformArgs (args : List Expr) :
    (transformArgs hook args).getD args = args.map (transformed hook) := by
  induction args with
  | nil => rfl
  | cons a as ih =>
    rw [List.map_cons, ← ih]
    exact Change.getD_consArg a (a.transform hook) as (transformArgs hook as)

/-! ### The tree that is left, node by node -/

section Tree

variable (h : OnLeaves hook)

include h

theorem transformed_member (owner : Expr) (n : MemberName) (t : Ty) :
    (member owner n t).transformed hook = member (owner.transformed hook) n t := by
  rw [transformed, transform_member h]
  exact Change.result_inParent (owner.transform hook) (.member · n t) owner

theorem transformed_unary (op : UnOp) (operand : Expr) (t : Ty) :
    (unary op operand t).transformed hook = unary op (operand.transformed hook) t := by
  rw [transformed, transform_unary h]
  exact Change.result_inParent (operand.transform hook) (.unary op · t) operand

theorem transformed_lambda (params : List String) (body : Expr) :
    (lambda params body).transformed hook = lambda params (body.transformed hook) := by
  rw [transformed, transform_lambda h]
  exact Change.result_inParent (body.transform hook) (.lambda params ·) body

/-- A binary operation stays one; only its stored type may be another. -/
theorem transformed_binary (op : BinOp) (left right : Expr) (t : Ty) :
    ∃ t', (binary op left right t).transformed hook
      = binary op (left.transformed hook) (right.transformed hook) t' := by
  rw [transformed, transform_binary h]
  exact Change.result_inBinary op left right t (left.transform hook) (right.transform hook)

theorem transformed_cond (test ifTrue ifFalse : Expr) (t : Ty) :
    (cond test ifTrue ifFalse t).transformed hook
      = cond (test.transformed hook) (ifTrue.transformed hook) (ifFalse.transformed hook) t := by
  rw [transformed, transform_cond h]
  exact Change.result_inCond test ifTrue ifFalse t _ _ _

theorem transformed_call (m : Method) (args : List Expr) (t : Ty) :
    (call m args t).transformed hook = call m (args.map (transformed hook)) t := by
  rw [transformed, transform_call h, ← getD_transformArgs]
  exact Change.result_inCall m args t _

theorem transformed_callOn (receiver : Expr) (m : Method) (args : List Expr) (t : Ty) :
    (callOn receiver m args t).transformed hook
      = callOn (receiver.transformed hook) m (args.map (transformed hook)) t := by
  rw [transformed, transform_callOn h, ← getD_transformArgs]
  exact Change.result_inCallOn receiver m args t _ _

end Tree

/-! ### Trees that stay -/

theorem transformArgs_eq_none_iff {args : List Expr} :
    transformArgs hook args = none ↔ ∀ a ∈ args, a.transform hook = .keep := by
  induction args with
  | nil => exact iff_of_true rfl (List.forall_mem_nil _)
  | cons a as ih =>
    rw [List.forall_mem_cons, ← ih]
    exact Change.consArg_eq_none_iff

/-- **A tree stays** exactly if all of its leaves do. -/
theorem transform_eq_keep_iff (h : OnLeaves hook) (e : Expr) :
    e.transform hook = .keep ↔ ∀ n ∈ e.leaves, (hook n).getD .keep = .keep := by
  induction e with
  | const | param | root | source | foreign =>
    rw [leaves_leaf rfl, List.forall_mem_singleton, transform_leaf rfl]
  | member owner n t ih =>
    rw [transform_member h, Change.inParent_eq_keep_iff, ih, leaves_member]
  | unary op operand t ih =>
    rw [transform_unary h, Change.inParent_eq_keep_iff, ih, leaves_unary]
  | lambda params body ih =>
    rw [transform_lambda h, Change.inParent_eq_keep_iff, ih, leaves_lambda]
  | binary op left right t ihl ihr =>
    rw [transform_binary h, Change.inBinary_eq_keep_iff, ihl, ihr, leaves_binary,
      List.forall_mem_append]
  | cond test ifTrue ifFalse t iha ihb ihc =>
    rw [transform_cond h, Change.inCond_eq_keep_iff, iha, ihb, ihc, leaves_cond,
      List.forall_mem_append, List.forall_mem_append, and_assoc]
  | call m args t ih =>
    rw [transform_call h, Change.inCall_eq_keep_iff, transformArgs_eq_none_iff, leaves_call,
      List.forall_mem_flatMap]
    exact forall₂_congr ih
  | callOn receiver m args t ihr ih =>
    rw [transform_callOn h, Change.inCallOn_eq_keep_iff, transformArgs_eq_none_iff, ihr,
      leaves_callOn, List.forall_mem_append, List.forall_mem_flatMap]
    exact and_congr_right fun _ => forall₂_congr ih

/-! ### From leaf to leaf -/

section Remembered

variable {σ : Type} {leaf : Expr → σ → Change × σ}

/-- What is remembered when one more leaf is behind. -/
def remember (leaf : Expr → σ → Change × σ) (s : σ) (n : Expr) : σ := (leaf n s).2

/-- The arguments of a call, if what is said of each of them is true. -/
theorem transformLeavesOf_eq {args : List Expr}
    (ih : ∀ a ∈ args, ∀ s, a.transformLeaves leaf s
      = (a.transform hook, a.leaves.foldl (remember leaf) s)) (s : σ) :
    transformLeavesOf leaf args s
      = (transformArgs hook args, (args.flatMap leaves).foldl (remember leaf) s) := by
  induction args generalizing s with
  | nil => rfl
  | cons a as ihas =>
    obtain ⟨ha, has⟩ := List.forall_mem_cons.mp ih
    rw [transformLeavesOf, ha]
    dsimp only
    rw [ihas has, List.flatMap_cons, List.foldl_append]
    rfl

/-- **From leaf to leaf.**  If what becomes of a leaf does not depend on what is remembered, a tree is
    transformed as by a hook, and all that was to be remembered at its leaves is, from left to right. -/
theorem transformLeaves_eq (h : OnLeaves hook)
    (hleaf : ∀ n : Expr, n.isLeaf = true → ∀ s, (leaf n s).1 = (hook n).getD .keep) (e : Expr) (s : σ) :
    e.transformLeaves leaf s = (e.transform hook, e.leaves.foldl (remember leaf) s) := by
  induction e generalizing s with
  | const | param | root | source | foreign =>
    rw [leaves_leaf rfl, transform_leaf rfl, ← hleaf _ rfl s]
    rfl
  | member owner n t ih =>
    rw [transformLeaves, ih, transform_member h, leaves_member]
  | unary op operand t ih =>
    rw [transformLeaves, ih, transform_unary h, leaves_unary]
  | lambda params body ih =>
    rw [transformLeaves, ih, transform_lambda h, leaves_lambda]
  | binary op left right t ihl ihr =>
    rw [transformLeaves, ihl]
    dsimp only
    rw [ihr, transform_binary h, leaves_binary, List.foldl_append]
  | cond test ifTrue ifFalse t iha ihb ihc =>
    rw [transformLeaves, iha]
    dsimp only
    rw [ihb]
    dsimp only
    rw [ihc, transform_cond h, leaves_cond, List.foldl_append, List.foldl_append]
  | call m args t ih =>
    rw [transformLeaves, transformLeavesOf_eq ih, transform_call h, leaves_call]
  | callOn receiver m args t ihr ih =>
    rw [transformLeaves, ihr]
    dsimp only
    rw [transformLeavesOf_eq ih, transform_callOn h, leaves_callOn, List.foldl_append]

end Remembered

end GuardErasure.Expr
