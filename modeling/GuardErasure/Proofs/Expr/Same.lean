import GuardErasure.Expr.Same
import GuardErasure.Proofs.Expr.Tree
import GuardErasure.Proofs.Value.Tree

namespace GuardErasure.Expr

/-!
# Two copies of one tree

Guards are told by comparing two copies of a path, so it matters which trees are equal to
themselves:

* `Expr.floats` — the floats in the literals of a tree, with one equation for each kind of node;
* `Expr.beq_self_iff` — a tree equals itself exactly if none of them is a NaN.
-/

/-! ### Floats -/

/-- The floats in the literals of a tree, in the order of its nodes. -/
def floats (e : Expr) : List Float := e.leaves.flatMap fun leaf => leaf.literal?.elim [] Value.floats

@[simp] theorem floats_const (v : Value) (t : Ty) : (const v t).floats = v.floats := by
  rw [floats, leaves_leaf rfl]
  exact List.append_nil _

theorem floats_leaf {e : Expr} (hleaf : e.isLeaf = true) (hliteral : e.literal? = none) :
    e.floats = [] := by
  rw [floats, leaves_leaf hleaf, List.flatMap_cons, hliteral]
  rfl

@[simp] theorem floats_member (owner : Expr) (n : MemberName) (t : Ty) :
    (member owner n t).floats = owner.floats := by
  simp [floats]

@[simp] theorem floats_unary (op : UnOp) (operand : Expr) (t : Ty) :
    (unary op operand t).floats = operand.floats := by
  simp [floats]

@[simp] theorem floats_lambda (params : List String) (body : Expr) :
    (lambda params body).floats = body.floats := by
  simp [floats]

@[simp] theorem floats_binary (op : BinOp) (left right : Expr) (t : Ty) :
    (binary op left right t).floats = left.floats ++ right.floats := by
  simp [floats]

@[simp] theorem floats_cond (test ifTrue ifFalse : Expr) (t : Ty) :
    (cond test ifTrue ifFalse t).floats = test.floats ++ ifTrue.floats ++ ifFalse.floats := by
  simp [floats]

@[simp] theorem floats_call (m : Method) (args : List Expr) (t : Ty) :
    (call m args t).floats = args.flatMap floats := by
  rw [floats, leaves_call, List.flatMap_assoc]
  rfl

@[simp] theorem floats_callOn (receiver : Expr) (m : Method) (args : List Expr) (t : Ty) :
    (callOn receiver m args t).floats = receiver.floats ++ args.flatMap floats := by
  rw [floats, leaves_callOn, List.flatMap_append, List.flatMap_assoc]
  rfl

/-! ### Equality with itself -/

theorem sameAll_self_iff (es : List Expr) :
    sameAll es es = true ↔ ∀ e ∈ es, same e e = true := by
  induction es with
  | nil => simp [sameAll]
  | cons e es ih => rw [sameAll, Bool.and_eq_true, ih, List.forall_mem_cons]

/-- **A tree equals itself** exactly if no float in it is a NaN. -/
theorem beq_self_iff (e : Expr) : (e == e) = true ↔ ∀ f ∈ e.floats, f.isNaN = false := by
  show same e e = true ↔ _
  induction e with
  | const v t => simp [same, Value.beq_self_iff]
  | param | root | source | foreign =>
    rw [floats_leaf rfl rfl]
    simp [same]
  | member owner n t ih => simp [same, ih]
  | unary op operand t ih => simp [same, ih]
  | lambda params body ih => simp [same, ih]
  | binary op left right t ihl ihr =>
    rw [floats_binary, List.forall_mem_append]
    simp [same, ihl, ihr]
  | cond test ifTrue ifFalse t iha ihb ihc =>
    rw [floats_cond, List.forall_mem_append, List.forall_mem_append]
    simp [same, iha, ihb, ihc]
  | call m args t ih =>
    rw [floats_call, List.forall_mem_flatMap]
    simpa [same, sameAll_self_iff] using forall₂_congr ih
  | callOn receiver m args t ihr ih =>
    rw [floats_callOn, List.forall_mem_append, List.forall_mem_flatMap]
    simpa [same, sameAll_self_iff, ihr] using fun _ => forall₂_congr ih

end GuardErasure.Expr
