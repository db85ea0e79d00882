import GuardErasure.Expr.Same

namespace GuardErasure

/-!
# Shapes of guards

A guard is a choice `path == null ? default : use(path)`.  What counts as a use, and which
defaults go with it, is a matter of the guard's shape:

* `Shape` — the two basic shapes and their combinations;
* `Shape.isDefault`, `Shape.operand?`, `Shape.part` — the three questions about the
  branches of a choice: may this be the default, what does this use, and what of it is left
  when the guard is gone;
* `Shape.match?` — all three at once.
-/

/-- What is left of the use when its guard is removed. -/
inductive Part where
  /-- The owner of the member that the use reads. -/
  | owner
  /-- All of it. -/
  | whole
deriving DecidableEq

/-- That part of an expression.  An expression without an owner is left whole. -/
def Part.of : Part → Expr → Expr
  | .owner, .member o _ _ => o
  | _, e => e

/-- The shapes of guards. -/
inductive Shape where
  /-- `path == null ? false : path.Value`, where `path` is a nullable wrapper. -/
  | member
  /-- `path == null ? literal : path.f(…)` or `… : f(path, …)`, where `path` may be null and
      the literal is not `true`. -/
  | method
  /-- No guard at all. -/
  | off
  /-- A shape that could have been off. -/
  | on (s : Shape)
  /-- Two shapes, the first of them first. -/
  | either (first second : Shape)
deriving DecidableEq

/-- A use and what is left of it. -/
structure Use where
  /-- What is used, to be compared with the path that is tested. -/
  operand : Expr
  /-- What is left of the use. -/
  part : Part

namespace Shape

/-- The name of a shape. -/
def name : Shape → String
  | member => "member"
  | method => "method"
  | off => "disabled"
  | on s => s.name
  | either .. => "any"

/-- May this be the default of a guard? -/
def isDefault : Shape → Expr → Bool
  | member, e => e.isBoolLiteral false
  | method, e =>
    match e with
    | .const (.bool true) _ => false
    | .const .. => true
    | _ => false
  | off, _ => false
  | on s, e => s.isDefault e
  | either a b, e => a.isDefault e || b.isDefault e

/-- The operand of a member use: the owner of a read wrapper value. -/
def memberOperand? : Expr → Option Expr
  | .member owner .wrappedValue _ => if owner.ty.isOption then some owner else none
  | _ => none

/-- The operand of a method use: the receiver of a call, or its first argument if it has no
    receiver. -/
def methodOperand? : Expr → Option Expr
  | .callOn receiver _ _ _ => if receiver.ty.mayBeNull then some receiver else none
  | .call _ (arg :: _) _ => if arg.ty.mayBeNull then some arg else none
  | _ => none

/-- What an expression uses, if it is a use of this shape. -/
def operand? : Shape → Expr → Option Expr
  | member, e => memberOperand? e
  | method, e => methodOperand? e
  | off, _ => none
  | on s, e => s.operand? e
  | either a b, e => (a.operand? e).or (b.operand? e)

/-- What is left of an expression when the guard around it is removed. -/
def part : Shape → Expr → Part
  | member, e => if (memberOperand? e).isSome then .owner else .whole
  | method, _ | off, _ => .whole
  | on s, e => s.part e
  | either a b, e => if (a.operand? e).isSome then a.part e else b.part e

/-- The use in a choice with these two branches.  Of two shapes the first that matches both
    branches decides. -/
def match? : Shape → Expr → Expr → Option Use
  | on s, t, f => s.match? t f
  | either a b, t, f => (a.match? t f).or (b.match? t f)
  | s, t, f => if s.isDefault t then (s.operand? f).map (⟨·, s.part f⟩) else none

/-! ### Guards -/

/-- The path and the use of a guard of this shape: its test compares with null just what the
    use uses. -/
def guard? (s : Shape) (test t f : Expr) : Option (Expr × Part) := do
  let path ← test.nullChecked?
  let u ← s.match? t f
  if u.operand == path then some (path, u.part) else none

/-- Is this a guard of this shape? -/
def isGuard (s : Shape) : Expr → Bool
  | .cond test t f _ => (s.guard? test t f).isSome
  | _ => false

end Shape

end GuardErasure
