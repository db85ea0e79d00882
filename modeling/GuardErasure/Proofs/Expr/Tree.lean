import GuardErasure.Expr.Nodes

namespace GuardErasure.Expr

/-!
# Trees of expressions

A call holds a list of arguments, so the induction that `Expr` comes with speaks of lists of
expressions as well.  This module packs it up as one principle for single trees and reads the
functions on lists of trees as list functions:

* `Expr.induct` — what holds of a node as soon as it holds of the node's parts holds of every
  expression, and `Expr.inductParts`, the same for all kinds of nodes at once;
* `nodesOf_eq_flatMap`, `nodes_eq_cons`, `forall_nodes_iff` — the nodes of several trees, and those
  of a tree by its parts;
* `leaves`, `rootElements`, `choices` — the leaves of a tree, the roots among them, and its choices,
  in the order of its nodes, with one equation per kind of node.
-/

/-- **Induction over a tree.**  The hypothesis for a call is about every argument. -/
@[elab_as_elim, induction_eliminator]
theorem induct {P : Expr → Prop}
    (const : ∀ v t, P (const v t))
    (param : ∀ n t, P (param n t))
    (member : ∀ owner n t, P owner → P (member owner n t))
    (callOn : ∀ receiver m args t, P receiver → (∀ a ∈ args, P a) → P (callOn receiver m args t))
    (call : ∀ m args t, (∀ a ∈ args, P a) → P (call m args t))
    (unary : ∀ op operand t, P operand → P (unary op operand t))
    (binary : ∀ op left right t, P left → P right → P (binary op left right t))
    (cond : ∀ test ifTrue ifFalse t, P test → P ifTrue → P ifFalse →
      P (cond test ifTrue ifFalse t))
    (lambda : ∀ params body, P body → P (lambda params body))
    (root : ∀ t, P (root t))
    (source : ∀ n t, P (source n t))
    (foreign : ∀ l t, P (foreign l t)) (e : Expr) : P e := by
  refine @Expr.rec P (fun es => ∀ a ∈ es, P a) const param member
    callOn call unary binary cond lambda root source foreign ?_ ?_ e
  · intro a ha
    exact absurd ha (by simp)
  · intro a es iha ihes b hb
    rcases List.mem_cons.mp hb with rfl | hb
    · exact iha
    · exact ihes b hb

/-- Induction with one hypothesis for all parts of a node. -/
theorem inductParts {P : Expr → Prop} (h : ∀ e : Expr, (∀ part ∈ e.parts, P part) → P e)
    (e : Expr) : P e := by
  induction e with
  | const | param | root | source | foreign => exact h _ (List.forall_mem_nil _)
  | member owner n t ih => exact h _ (List.forall_mem_singleton.mpr ih)
  | unary op operand t ih => exact h _ (List.forall_mem_singleton.mpr ih)
  | lambda params body ih => exact h _ (List.forall_mem_singleton.mpr ih)
  | binary op left right t ihl ihr =>
    exact h _ (List.forall_mem_cons.mpr ⟨ihl, List.forall_mem_singleton.mpr ihr⟩)
  | cond test ifTrue ifFalse t iha ihb ihc =>
    exact h _ (List.forall_mem_cons.mpr ⟨iha, List.forall_mem_cons.mpr
      ⟨ihb, List.forall_mem_singleton.mpr ihc⟩⟩)
  | call m args t ih => exact h _ ih
  | callOn receiver m args t ihr ih => exact h _ (List.forall_mem_cons.mpr ⟨ihr, ih⟩)

/-! ### Several trees -/

/-- The nodes of several trees, one tree after another. -/
theorem nodesOf_eq_flatMap (es : List Expr) : nodesOf es = es.flatMap nodes := by
  induction es with
  | nil => rfl
  | cons e es ih => rw [nodesOf, ih, List.flatMap_cons]

/-- The nodes of a tree are its root and those of its parts. -/
theorem nodes_eq_cons (e : Expr) : e.nodes = e :: nodesOf e.parts := by
  cases e <;> simp [nodes, parts, nodesOf]

theorem mem_nodes_of_part {e part n : Expr} (hpart : part ∈ e.parts) (hn : n ∈ part.nodes) :
    n ∈ e.nodes := by
  rw [nodes_eq_cons, nodesOf_eq_flatMap]
  exact List.mem_cons_of_mem _ (List.mem_flatMap.mpr ⟨part, hpart, hn⟩)

/-- What holds of all nodes of a tree holds of its root and of all nodes of its parts. -/
theorem forall_nodes_iff {P : Expr → Prop} {e : Expr} :
    (∀ n ∈ e.nodes, P n) ↔ P e ∧ ∀ part ∈ e.parts, ∀ n ∈ part.nodes, P n := by
  rw [nodes_eq_cons, nodesOf_eq_flatMap, List.forall_mem_cons, List.forall_mem_flatMap]

/-! ### Size, node by node -/

theorem size_const (v : Value) (t : Ty) : (const v t).size = 1 := rfl

theorem size_member (owner : Expr) (n : MemberName) (t : Ty) :
    (member owner n t).size = owner.size + 1 := rfl

theorem size_unary (op : UnOp) (operand : Expr) (t : Ty) :
    (unary op operand t).size = operand.size + 1 := rfl

theorem size_lambda (params : List String) (body : Expr) :
    (lambda params body).size = body.size + 1 := rfl

theorem size_call (m : Method) (args : List Expr) (t : Ty) :
    (call m args t).size = sizeOfAll args + 1 := rfl

theorem size_callOn (receiver : Expr) (m : Method) (args : List Expr) (t : Ty) :
    (callOn receiver m args t).size = receiver.size + sizeOfAll args + 1 := rfl

theorem size_binary (op : BinOp) (left right : Expr) (t : Ty) :
    (binary op left right t).size = left.size + right.size + 1 := rfl

theorem size_cond (test ifTrue ifFalse : Expr) (t : Ty) :
    (cond test ifTrue ifFalse t).size = test.size + ifTrue.size + ifFalse.size + 1 := rfl

/-! ### Leaves -/

/-- Is this a node without parts of its kind?  A call without arguments is none. -/
def isLeaf : Expr → Bool
  | const .. | param .. | root .. | source .. | foreign .. => true
  | _ => false

/-- The leaves of a tree, in the order of its nodes. -/
def leaves (e : Expr) : List Expr := e.nodes.filter isLeaf

theorem mem_leaves {e n : Expr} : n ∈ e.leaves ↔ n ∈ e.nodes ∧ n.isLeaf = true := List.mem_filter

/-- The kind of a node says whether it is a leaf. -/
theorem isLeaf_congr {e e' : Expr} (h : e.kind = e'.kind) : e.isLeaf = e'.isLeaf := by
  have hkind (e : Expr) :
      e.isLeaf = decide (e.kind ∈ [.const, .param, .root, .source, .foreign]) := by
    cases e <;> rfl
  rw [hkind, hkind, h]

theorem nodes_leaf {e : Expr} (h : e.isLeaf = true) : e.nodes = [e] := by
  cases e <;> first | rfl | exact absurd h (by simp [isLeaf])

theorem leaves_leaf {e : Expr} (h : e.isLeaf = true) : e.leaves = [e] := by
  cases e <;> first | rfl | exact absurd h (by simp [isLeaf])

@[simp] theorem leaves_member (owner : Expr) (n : MemberName) (t : Ty) :
    (member owner n t).leaves = owner.leaves := by
  simp [leaves, nodes, isLeaf]

@[simp] theorem leaves_unary (op : UnOp) (operand : Expr) (t : Ty) :
    (unary op operand t).leaves = operand.leaves := by
  simp [leaves, nodes, isLeaf]

@[simp] theorem leaves_lambda (params : List String) (body : Expr) :
    (lambda params body).leaves = body.leaves := by
  simp [leaves, nodes, isLeaf]

@[simp] theorem leaves_binary (op : BinOp) (left right : Expr) (t : Ty) :
    (binary op left right t).leaves = left.leaves ++ right.leaves := by
  simp [leaves, nodes, isLeaf]

@[simp] theorem leaves_cond (test ifTrue ifFalse : Expr) (t : Ty) :
    (cond test ifTrue ifFalse t).leaves = test.leaves ++ ifTrue.leaves ++ ifFalse.leaves := by
  simp [leaves, nodes, isLeaf]

@[simp] theorem leaves_call (m : Method) (args : List Expr) (t : Ty) :
    (call m args t).leaves = args.flatMap leaves := by
  simp only [leaves, nodes, nodesOf_eq_flatMap, isLeaf, List.filter_cons, List.filter_flatMap]
  rfl

@[simp] theorem leaves_callOn (receiver : Expr) (m : Method) (args : List Expr) (t : Ty) :
    (callOn receiver m args t).leaves = receiver.leaves ++ args.flatMap leaves := by
  simp only [leaves, nodes, nodesOf_eq_flatMap, isLeaf, List.filter_cons, List.filter_append,
    List.filter_flatMap]
  rfl

/-! ### Roots -/

/-- Roots are leaves. -/
theorem rootElements_eq_filterMap_leaves (e : Expr) :
    e.rootElements = e.leaves.filterMap overElement? := by
  have hleaf : (fun n : Expr => if n.isLeaf = true then n.overElement? else none)
      = overElement? := by
    funext n
    cases n <;> rfl
  rw [leaves, List.filterMap_filter, hleaf]
  rfl

@[simp] theorem rootElements_member (owner : Expr) (n : MemberName) (t : Ty) :
    (member owner n t).rootElements = owner.rootElements := by
  simp [rootElements_eq_filterMap_leaves]

@[simp] theorem rootElements_unary (op : UnOp) (operand : Expr) (t : Ty) :
    (unary op operand t).rootElements = operand.rootElements := by
  simp [rootElements_eq_filterMap_leaves]

@[simp] theorem rootElements_lambda (params : List String) (body : Expr) :
    (lambda params body).rootElements = body.rootElements := by
  simp [rootElements_eq_filterMap_leaves]

@[simp] theorem rootElements_binary (op : BinOp) (left right : Expr) (t : Ty) :
    (binary op left right t).rootElements = left.rootElements ++ right.rootElements := by
  simp [rootElements_eq_filterMap_leaves]

@[simp] theorem rootElements_cond (test ifTrue ifFalse : Expr) (t : Ty) :
    (cond test ifTrue ifFalse t).rootElements
      = test.rootElements ++ ifTrue.rootElements ++ ifFalse.rootElements := by
  simp [rootElements_eq_filterMap_leaves]

@[simp] theorem rootElements_call (m : Method) (args : List Expr) (t : Ty) :
    (call m args t).rootElements = args.flatMap rootElements := by
  rw [rootElements_eq_filterMap_leaves, leaves_call, List.filterMap_flatMap]
  simp only [← rootElements_eq_filterMap_leaves]

@[simp] theorem rootElements_callOn (receiver : Expr) (m : Method) (args : List Expr) (t : Ty) :
    (callOn receiver m args t).rootElements
      = receiver.rootElements ++ args.flatMap rootElements := by
  rw [rootElements_eq_filterMap_leaves, leaves_callOn, List.filterMap_append,
    List.filterMap_flatMap]
  simp only [← rootElements_eq_filterMap_leaves]

/-! ### Choices -/

/-- The choices in a tree, each before its parts. -/
def choices (e : Expr) : List Expr := e.nodes.filter isCond

/-- There are no choices in a leaf. -/
theorem choices_leaf {e : Expr} (h : e.isLeaf = true) : e.choices = [] := by
  cases e <;> first | rfl | exact absurd h (by simp [isLeaf])

@[simp] theorem choices_member (owner : Expr) (n : MemberName) (t : Ty) :
    (member owner n t).choices = owner.choices := by
  simp [choices, nodes, isCond]

@[simp] theorem choices_unary (op : UnOp) (operand : Expr) (t : Ty) :
    (unary op operand t).choices = operand.choices := by
  simp [choices, nodes, isCond]

@[simp] theorem choices_lambda (params : List String) (body : Expr) :
    (lambda params body).choices = body.choices := by
  simp [choices, nodes, isCond]

@[simp] theorem choices_binary (op : BinOp) (left right : Expr) (t : Ty) :
    (binary op left right t).choices = left.choices ++ right.choices := by
  simp [choices, nodes, isCond]

@[simp] theorem choices_call (m : Method) (args : List Expr) (t : Ty) :
    (call m args t).choices = args.flatMap choices := by
  simp only [choices, nodes, nodesOf_eq_flatMap, isCond, List.filter_cons, List.filter_flatMap]
  rfl

@[simp] theorem choices_callOn (receiver : Expr) (m : Method) (args : List Expr) (t : Ty) :
    (callOn receiver m args t).choices = receiver.choices ++ args.flatMap choices := by
  simp only [choices, nodes, nodesOf_eq_flatMap, isCond, List.filter_cons, List.filter_append,
    List.filter_flatMap]
  rfl

@[simp] theorem choices_cond (test ifTrue ifFalse : Expr) (t : Ty) :
    (cond test ifTrue ifFalse t).choices
      = cond test ifTrue ifFalse t :: (test.choices ++ ifTrue.choices ++ ifFalse.choices) := by
  rw [choices, nodes, List.filter_cons_of_pos rfl, List.filter_append, List.filter_append]
  rfl

/-- A choice of a tree is a node of it, and the nodes that are choices are all of them. -/
theorem mem_choices {e n : Expr} : n ∈ e.choices ↔ n ∈ e.nodes ∧ n.isCond := by
  rw [choices, List.mem_filter]

end GuardErasure.Expr
