import GuardErasure.Expr.Nodes

namespace GuardErasure.Expr

/-!
# A node without its parts

What a node has of its own, its `head`, is all of it together with the node's type and parts
(`eq_of_head_eq`).
-/

/-- What a node has of its own.  The type of a binary operation is not among it, since it goes by the
    operands. -/
inductive Head where
  | const (value : Value) (ty : Ty)
  | param (name : String) (ty : Ty)
  | member (name : MemberName) (ty : Ty)
  | callOn (method : Method) (ty : Ty)
  | call (method : Method) (ty : Ty)
  | unary (op : UnOp) (ty : Ty)
  | binary (op : BinOp)
  | cond (ty : Ty)
  | lambda (params : List String)
  | root (element : Ty)
  | source (name : String) (element : Ty)
  | foreign (label : String) (ty : Ty)

/-- The head of a node. -/
def head : Expr → Head
  | const v t => .const v t
  | param n t => .param n t
  | member _ n t => .member n t
  | callOn _ m _ t => .callOn m t
  | call m _ t => .call m t
  | unary op _ t => .unary op t
  | binary op _ _ _ => .binary op
  | cond _ _ _ t => .cond t
  | lambda params _ => .lambda params
  | root t => .root t
  | source n t => .source n t
  | foreign l t => .foreign l t

/-- Two nodes with the same head, type and parts are the same. -/
theorem eq_of_head_eq {e e' : Expr} (hhead : e.head = e'.head) (hty : e.ty = e'.ty)
    (hparts : e.parts = e'.parts) : e = e' := by
  cases e <;> cases e' <;> simp_all [head, ty, parts]

end GuardErasure.Expr
