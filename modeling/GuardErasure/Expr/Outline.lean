import GuardErasure.Expr.Text
import GuardErasure.Outline

namespace GuardErasure.Expr

/-!
# Explaining expressions

`drawing` draws an expression as an outline, one node a line: what the node is, and its
static type.  A lambda is shown without a type.
-/

/-- What a node is, its parts aside. -/
def caption (e : Expr) : String :=
  let own := match e with
    | const v _ => some v.text
    | param name _ => some name
    | member _ name _ => some ("." ++ name.text)
    | callOn _ m _ _ | call m _ _ => some m.name
    | unary op _ _ => some op.name
    | binary op _ _ _ => some op.symbol
    | lambda params _ => some ("(" ++ ", ".intercalate params ++ ")")
    | source name _ => some name
    | foreign label _ => some label
    | cond .. | root .. => none
  match own with
  | some s => e.kind.name ++ " " ++ s
  | none => e.kind.name

/-- The remark beside a node. -/
def remark : Expr → Option String
  | lambda .. => none
  | e => some e.ty.text

mutual

/-- The outline of an expression. -/
def outline : Expr → Outline
  | e@(member owner _ _) => .node e.caption e.remark [owner.outline]
  | e@(callOn receiver _ args _) =>
    .node e.caption e.remark (receiver.outline :: outlines args)
  | e@(call _ args _) => .node e.caption e.remark (outlines args)
  | e@(unary _ operand _) => .node e.caption e.remark [operand.outline]
  | e@(binary _ left right _) => .node e.caption e.remark [left.outline, right.outline]
  | e@(cond test ifTrue ifFalse _) =>
    .node e.caption e.remark [test.outline, ifTrue.outline, ifFalse.outline]
  | e@(lambda _ body) => .node e.caption e.remark [body.outline]
  | e => .node e.caption e.remark []

/-- The outlines of several expressions. -/
def outlines : List Expr → List Outline
  | [] => []
  | e :: es => e.outline :: outlines es

end

/-- The drawing of an expression. -/
def drawing (e : Expr) : String := e.outline.draw

end GuardErasure.Expr
