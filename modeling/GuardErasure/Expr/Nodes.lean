import GuardErasure.Expr.Basic

namespace GuardErasure.Expr

/-!
# The nodes of an expression

* `parts` — the direct parts of a node, in the order in which they are written;
* `nodes` — the node itself and all below it, each before its parts;
* `size` — their number;
* `hasNode`, `kindLine` — what the analyses ask of them.
-/

/-- The direct parts of a node; a receiver comes before the arguments. -/
def parts : Expr → List Expr
  | member owner _ _ => [owner]
  | callOn receiver _ args _ => receiver :: args
  | call _ args _ => args
  | unary _ operand _ => [operand]
  | binary _ left right _ => [left, right]
  | cond test ifTrue ifFalse _ => [test, ifTrue, ifFalse]
  | lambda _ body => [body]
  | const .. | param .. | root .. | source .. | foreign .. => []

mutual

/-- All nodes of a tree, each before its parts. -/
def nodes : Expr → List Expr
  | e@(member owner _ _) => e :: owner.nodes
  | e@(callOn receiver _ args _) => e :: (receiver.nodes ++ nodesOf args)
  | e@(call _ args _) => e :: nodesOf args
  | e@(unary _ operand _) => e :: operand.nodes
  | e@(binary _ left right _) => e :: (left.nodes ++ right.nodes)
  | e@(cond test ifTrue ifFalse _) => e :: (test.nodes ++ ifTrue.nodes ++ ifFalse.nodes)
  | e@(lambda _ body) => e :: body.nodes
  | e => [e]

/-- All nodes of several trees, one tree after another. -/
def nodesOf : List Expr → List Expr
  | [] => []
  | e :: es => e.nodes ++ nodesOf es

end

mutual

/-- The number of nodes of a tree. -/
def size : Expr → Nat
  | member owner _ _ => owner.size + 1
  | callOn receiver _ args _ => receiver.size + sizeOfAll args + 1
  | call _ args _ => sizeOfAll args + 1
  | unary _ operand _ => operand.size + 1
  | binary _ left right _ => left.size + right.size + 1
  | cond test ifTrue ifFalse _ => test.size + ifTrue.size + ifFalse.size + 1
  | lambda _ body => body.size + 1
  | const .. | param .. | root .. | source .. | foreign .. => 1

/-- The number of nodes of several trees. -/
def sizeOfAll : List Expr → Nat
  | [] => 0
  | e :: es => e.size + sizeOfAll es

end

/-- Does some node of the tree satisfy a test? -/
def hasNode (e : Expr) (p : Expr → Bool) : Bool := e.nodes.any p

/-- The kinds of all nodes, each before its parts. -/
def kindLine (e : Expr) : String := " ".intercalate (e.nodes.map (·.kind.name))

/-- Is this a choice? -/
def isCond : Expr → Bool
  | cond .. => true
  | _ => false

/-- The element type of a root. -/
def overElement? : Expr → Option Ty
  | root element => some element
  | _ => none

/-- The element types of all roots of a tree, in the order of its nodes. -/
def rootElements (e : Expr) : List Ty := e.nodes.filterMap overElement?

/-! ### Small facts -/

mutual

/-- A tree has as many nodes as its size says. -/
theorem length_nodes (e : Expr) : e.nodes.length = e.size := by
  cases e with
  | callOn receiver _ args _ =>
    simp [nodes, size, length_nodes receiver, length_nodesOf args]
  | call _ args _ => simp [nodes, size, length_nodesOf args]
  | member owner _ _ => simp [nodes, size, length_nodes owner]
  | unary _ operand _ => simp [nodes, size, length_nodes operand]
  | binary _ left right _ => simp [nodes, size, length_nodes left, length_nodes right]
  | cond test ifTrue ifFalse _ =>
    simp [nodes, size, length_nodes test, length_nodes ifTrue, length_nodes ifFalse]
    omega
  | lambda _ body => simp [nodes, size, length_nodes body]
  | _ => simp [nodes, size]

/-- Several trees have as many nodes as their sizes say. -/
theorem length_nodesOf (es : List Expr) : (nodesOf es).length = sizeOfAll es := by
  cases es with
  | nil => rfl
  | cons e es => simp [nodesOf, sizeOfAll, length_nodes e, length_nodesOf es]

end

/-- No tree is empty. -/
theorem size_pos (e : Expr) : 0 < e.size := by
  cases e <;> simp [size]

end GuardErasure.Expr
