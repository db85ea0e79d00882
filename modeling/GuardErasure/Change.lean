import GuardErasure.Expr.Basic

namespace GuardErasure

/-!
# Changes and rebuilding

A pass over a tree tells of every node whether it stays, is replaced or is dropped:

* `Change` — those three answers;
* `Change.result` — the tree that an answer leads to, with `true` for a dropped node: only
  tests that hold anyway are ever dropped;
* `Change.inParent`, `Change.inBinary`, … — the answer for a node, given the answers for its
  parts.  A node whose parts all stay stays itself; a binary operation that is rebuilt is
  typed anew;
* `Expr.transform` — the pass that asks a hook at every node and rebuilds where it has no
  answer;
* `Expr.transformLeaves` — the pass that goes from leaf to leaf and has something to remember on
  its way.
-/

/-- What becomes of a node. -/
inductive Change where
  | keep
  | replace (e : Expr)
  | drop

namespace Change

/-- Is the node dropped? -/
def isDrop : Change → Bool
  | drop => true
  | _ => false

/-- Is the node replaced or dropped? -/
def isChange : Change → Bool
  | keep => false
  | _ => true

/-- The node that is left, if one is. -/
def left? (old : Expr) : Change → Option Expr
  | keep => some old
  | replace e => some e
  | drop => none

/-- The node that is left, with `true` for a dropped one. -/
def result (old : Expr) (c : Change) : Expr := (c.left? old).getD .trueLiteral

/-- The new part of a parent, if the part does not stay. -/
def newPart? : Change → Option Expr
  | keep => none
  | replace e => some e
  | drop => some .trueLiteral

/-- The answer for a node that gives way to one of its parts. -/
def inPlaceOf (part : Expr) : Change → Change
  | keep => replace part
  | c => c

/-! ### Rebuilding a node around its parts -/

/-- The answer for a node with one part. -/
def inParent (c : Change) (rebuild : Expr → Expr) : Change :=
  match c.newPart? with
  | none => keep
  | some e => replace (rebuild e)

/-- The answer for a binary operation. -/
def inBinary (op : BinOp) (left right : Expr) (l r : Change) : Change :=
  match l.newPart?, r.newPart? with
  | none, none => keep
  | l', r' => replace ((l'.getD left).combine op (r'.getD right))

/-- The answer for a choice. -/
def inCond (test ifTrue ifFalse : Expr) (t : Ty) (a b c : Change) : Change :=
  match a.newPart?, b.newPart?, c.newPart? with
  | none, none, none => keep
  | a', b', c' =>
    replace (.cond (a'.getD test) (b'.getD ifTrue) (c'.getD ifFalse) t)

/-- One more argument in front of a list of arguments; `none` if all of them stay. -/
def consArg (arg : Expr) (c : Change) (args : List Expr) (rest : Option (List Expr)) :
    Option (List Expr) :=
  match c.newPart?, rest with
  | none, none => none
  | a', rest' => some (a'.getD arg :: rest'.getD args)

/-- The answer for a call without a receiver. -/
def inCall (m : Method) (t : Ty) (newArgs : Option (List Expr)) : Change :=
  match newArgs with
  | none => keep
  | some args => replace (.call m args t)

/-- The answer for a call on a receiver. -/
def inCallOn (receiver : Expr) (m : Method) (args : List Expr) (t : Ty) (r : Change)
    (newArgs : Option (List Expr)) : Change :=
  match r.newPart?, newArgs with
  | none, none => keep
  | r', args' => replace (.callOn (r'.getD receiver) m (args'.getD args) t)

end Change

namespace Expr

mutual

/-- The answer for a node of which each part is put to the hook first. -/
def transformParts (hook : Expr → Option Change) : Expr → Change
  | member owner name t =>
    ((hook owner).getD (transformParts hook owner)).inParent (.member · name t)
  | callOn receiver m args t =>
    Change.inCallOn receiver m args t ((hook receiver).getD (transformParts hook receiver))
      (transformArgs hook args)
  | call m args t => Change.inCall m t (transformArgs hook args)
  | unary op operand t =>
    ((hook operand).getD (transformParts hook operand)).inParent (.unary op · t)
  | binary op left right _ =>
    Change.inBinary op left right ((hook left).getD (transformParts hook left))
      ((hook right).getD (transformParts hook right))
  | cond test ifTrue ifFalse t =>
    Change.inCond test ifTrue ifFalse t ((hook test).getD (transformParts hook test))
      ((hook ifTrue).getD (transformParts hook ifTrue))
      ((hook ifFalse).getD (transformParts hook ifFalse))
  | lambda params body =>
    ((hook body).getD (transformParts hook body)).inParent (.lambda params ·)
  | const .. | param .. | root .. | source .. | foreign .. => .keep

/-- The new arguments of a call, if any of them changes. -/
def transformArgs (hook : Expr → Option Change) : List Expr → Option (List Expr)
  | [] => none
  | e :: es =>
    Change.consArg e ((hook e).getD (transformParts hook e)) es (transformArgs hook es)

end

/-- Transform a tree from the top down: a node for which the hook has no answer is rebuilt from
    its parts. -/
def transform (hook : Expr → Option Change) (e : Expr) : Change :=
  (hook e).getD (transformParts hook e)

section Leaves

variable {σ : Type} (leaf : Expr → σ → Change × σ)

mutual

/-- Transform the leaves of a tree from left to right and rebuild every other node from its parts.
    A leaf is met with what was remembered at the leaves before it. -/
def transformLeaves : Expr → σ → Change × σ
  | member owner name t, s =>
    let (c, s) := transformLeaves owner s
    (c.inParent (.member · name t), s)
  | callOn receiver m args t, s =>
    let (c, s) := transformLeaves receiver s
    let (newArgs, s) := transformLeavesOf args s
    (.inCallOn receiver m args t c newArgs, s)
  | call m args t, s =>
    let (newArgs, s) := transformLeavesOf args s
    (.inCall m t newArgs, s)
  | unary op operand t, s =>
    let (c, s) := transformLeaves operand s
    (c.inParent (.unary op · t), s)
  | binary op left right _, s =>
    let (l, s) := transformLeaves left s
    let (r, s) := transformLeaves right s
    (.inBinary op left right l r, s)
  | cond test ifTrue ifFalse t, s =>
    let (a, s) := transformLeaves test s
    let (b, s) := transformLeaves ifTrue s
    let (c, s) := transformLeaves ifFalse s
    (.inCond test ifTrue ifFalse t a b c, s)
  | lambda params body, s =>
    let (c, s) := transformLeaves body s
    (c.inParent (.lambda params ·), s)
  | e@(const ..), s | e@(param ..), s | e@(root ..), s | e@(source ..), s | e@(foreign ..), s =>
    leaf e s

/-- The same for the arguments of a call, one after another. -/
def transformLeavesOf : List Expr → σ → Option (List Expr) × σ
  | [], s => (none, s)
  | e :: es, s =>
    let (c, s) := transformLeaves e s
    let (rest, s) := transformLeavesOf es s
    (Change.consArg e c es rest, s)

end

end Leaves

end Expr

end GuardErasure
