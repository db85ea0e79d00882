import GuardErasure.Ty

namespace GuardErasure

/-!
# Operators

The unary and binary operators of the expression language, their spelling, and
the static type that a binary operator gives its result:

* `UnOp`, `BinOp` — the operators;
* `BinOp.family` — comparison, logic or arithmetic;
* `BinOp.resultTy` — the result type, computed from the two operand types.
-/

/-- A unary operator. -/
inductive UnOp where
  /-- Logical negation. -/
  | not
  /-- Arithmetic negation. -/
  | negate
  /-- Conversion to the static type of the node. -/
  | convert
  /-- Marks a lambda that is passed on as a tree. -/
  | quote
deriving DecidableEq

namespace UnOp

/-- The name an operator goes by in messages. -/
def name : UnOp → String
  | not => "!"
  | negate => "-"
  | convert => "convert"
  | quote => "quote"

end UnOp

/-- A binary operator. -/
inductive BinOp where
  | equal | notEqual | less | lessEq | greater | greaterEq
  | and | or
  | add | subtract | multiply | divide
deriving DecidableEq

/-- The three families of binary operators. -/
inductive OpFamily where
  | comparison | logical | arithmetic
deriving DecidableEq

namespace BinOp

/-- The spelling of an operator between its operands. -/
def symbol : BinOp → String
  | equal => "=="
  | notEqual => "!="
  | less => "<"
  | lessEq => "<="
  | greater => ">"
  | greaterEq => ">="
  | and => "&&"
  | or => "||"
  | add => "+"
  | subtract => "-"
  | multiply => "*"
  | divide => "/"

/-- The family an operator belongs to. -/
def family : BinOp → OpFamily
  | equal | notEqual | less | lessEq | greater | greaterEq => .comparison
  | and | or => .logical
  | add | subtract | multiply | divide => .arithmetic

/-- The type of a sum, difference, product or quotient before lifting: two
    integers stay an integer, a text operand turns a sum into text, and all else
    is computed in floating point. -/
def arithmeticTy (op : BinOp) (l r : Ty) : Ty :=
  if l.stripped = .int64 ∧ r.stripped = .int64 then .int64
  else if op = add ∧ (l.stripped = .string ∨ r.stripped = .string) then .string
  else .float64

/-- The static type of `l op r`.  An equality is never null; any other operator
    lifts its result as soon as one operand is a nullable wrapper. -/
def resultTy (op : BinOp) (l r : Ty) : Ty :=
  let base := match op with
    | equal | notEqual | less | lessEq | greater | greaterEq | and | or => .bool
    | add | subtract | multiply | divide => op.arithmeticTy l r
  if op ≠ equal ∧ op ≠ notEqual ∧ (l.isOption ∨ r.isOption) then base.orNull else base

end BinOp

end GuardErasure
