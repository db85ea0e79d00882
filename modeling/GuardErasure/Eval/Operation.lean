import GuardErasure.Fault
import GuardErasure.Query.Operator
import GuardErasure.Text.CaseMap
import GuardErasure.Text.Lines

namespace GuardErasure.Value

/-!
# Operations on values

What the operators and methods of the expression language do to values.  Null is a possible
value everywhere: most operations on null are null, and only reading a member of it or calling
a method on it is a fault.

* `equals` — the test `==`, in which an integer and a float are compared as numbers;
* `order` — the order behind `<`, `<=`, `>` and `>=`;
* `arithmetic` — exact integer arithmetic, floating point arithmetic, and text put together;
* `applyUnary`, `applyBinary` — all operators but the logical ones;
* `truth`, `joinTruth` — three-valued logic;
* `readMember`, `TextMethod` — members and methods.
-/

/-! ### Equality and order -/

/-- Do two values pass the test `==`?  Two nulls do. -/
def equals : Value → Value → Bool
  | int64 i, float64 g => Float.ofInt i.toInt == g
  | float64 f, int64 j => f == Float.ofInt j.toInt
  | v, w => v == w

/-- The order of two floats; a NaN has none. -/
def floatOrder? (f g : Float) : Option Ordering :=
  if f < g then some .lt
  else if f == g then some .eq
  else if g < f then some .gt
  else none

/-- The order of two values that have one: numbers as numbers, and texts character by
    character. -/
def order? : Value → Value → Option Ordering
  | int64 i, int64 j => some (compare i.toInt j.toInt)
  | string s, string t => some (compare s t)
  | v, w =>
    match v.toFloat?, w.toFloat? with
    | some f, some g => floatOrder? f g
    | _, _ => none

/-- The order of two values. -/
def order (v w : Value) : Except Fault Ordering :=
  match v.order? w with
  | some o => .ok o
  | none => .error (.incomparable v.kind w.kind)

/-! ### Arithmetic -/

/-- The integer value of a number that fits into 64 bits. -/
def ofInt? (i : Int) : Option Value :=
  if Int64.minValue.toInt ≤ i ∧ i ≤ Int64.maxValue.toInt then some (int64 (Int64.ofInt i))
  else none

/-- The exact result of an arithmetic operator on integers; division is toward zero. -/
def exact (op : BinOp) (a b : Int) : Int :=
  match op with
  | .add => a + b
  | .subtract => a - b
  | .multiply => a * b
  | _ => Int.tdiv a b

/-- Arithmetic on integers is exact or refused. -/
def intArithmetic (op : BinOp) (i j : Int64) : Except Fault Value :=
  if op = .divide ∧ j.toInt = 0 then .error .divisionByZero
  else
    match ofInt? (exact op i.toInt j.toInt) with
    | some v => .ok v
    | none => .error (.overflow i op j)

/-- Arithmetic on floats. -/
def floatArithmetic (op : BinOp) (f g : Float) : Float :=
  match op with
  | .add => f + g
  | .subtract => f - g
  | .multiply => f * g
  | _ => f / g

/-- Arithmetic on any two values.  A sum with a text on either side puts texts together. -/
def arithmetic (op : BinOp) (v w : Value) : Except Fault Value :=
  match v, w with
  | int64 i, int64 j => intArithmetic op i j
  | v, w =>
    if op = .add ∧ (v.kind = .string ∨ w.kind = .string) then
      .ok (string (v.bareText ++ w.bareText))
    else
      match v.toFloat?, w.toFloat? with
      | some f, some g => .ok (float64 (floatArithmetic op f g))
      | _, _ => .error (.binaryMismatch op v.kind w.kind)

/-! ### Operators -/

/-- A unary operator on a value; `t` is the type that a conversion leads to. -/
def applyUnary (op : UnOp) (t : Ty) : Value → Except Fault Value
  | null => .ok null
  | v =>
    match op, v with
    | .not, bool b => .ok (bool !b)
    | .negate, int64 i =>
      match ofInt? (-i.toInt) with
      | some v => .ok v
      | none => .error .negationOverflow
    | .negate, float64 f => .ok (float64 (-f))
    | .convert, int64 i =>
      .ok (if t.stripped = .float64 then float64 (Float.ofInt i.toInt) else int64 i)
    | .convert, v | .quote, v => .ok v
    | op, v => .error (.unaryMismatch op v.kind)

/-- Does a comparison hold of two values in this order? -/
def holdsOf (op : BinOp) (o : Ordering) : Bool :=
  match op with
  | .less => o == .lt
  | .lessEq => o != .gt
  | .greater => o == .gt
  | _ => o != .lt

/-- A binary operator on two values.  The equalities are never null; any other operator is
    null as soon as one operand is.  The logical operators are not for here. -/
def applyBinary (op : BinOp) (v w : Value) : Except Fault Value :=
  match op with
  | .equal => .ok (bool (v.equals w))
  | .notEqual => .ok (bool !(v.equals w))
  | op =>
    if v.isNull || w.isNull then .ok null
    else
      match op with
      | .less | .lessEq | .greater | .greaterEq => do return bool (holdsOf op (← v.order w))
      | op => arithmetic op v w

/-! ### Logic -/

/-- The truth of an operand of a logical operator; that of null is unknown. -/
def truth : Value → Except Fault (Option Bool)
  | bool b => .ok (some b)
  | null => .ok none
  | v => .error (.logicalMismatch v.kind)

/-- The value of a truth. -/
def ofTruth : Option Bool → Value
  | some b => bool b
  | none => null

/-- Two truths joined by the operator on which `decisive` decides: `false` by and, `true` by
    or. -/
def joinTruth (decisive : Bool) : Option Bool → Option Bool → Option Bool
  | l, r => if l = some decisive ∨ r = some decisive then some decisive
    else if l.isNone ∨ r.isNone then none
    else some !decisive

/-- The truth that decides a logical operator. -/
def decisive (op : BinOp) : Bool := op == .or

/-- What a predicate says of an element; null is a no. -/
def verdict : Value → Except Fault Bool
  | bool b => .ok b
  | null => .ok false
  | v => .error (.predicateNotBool v.kind)

/-! ### Members and methods -/

/-- The length of something, as a value. -/
def ofLength (n : Nat) : Except Fault Value :=
  match ofInt? n with
  | some v => .ok v
  | none => .error (.lengthTooLarge n)

/-- Read a member of a value; `owner` is the expression the value comes from. -/
def readMember (owner : Expr) (name : MemberName) (v : Value) : Except Fault Value :=
  match name, v with
  | .hasValue, v => .ok (bool !v.isNull)
  | name, null => .error (.nullOwner name owner)
  | .wrappedValue, v => .ok v
  | .named n, record fields =>
    match fields.find? n with
    | some w => .ok w
    | none => .error (.noField n)
  | .named n, string s => if n = "length" then ofLength s.length else .error (.unreadable n .string)
  | .named n, list items =>
    if n = "length" then ofLength items.length else .error (.unreadable n .list)
  | .named n, v => .error (.unreadable n v.kind)

/-- What a method of a text does. -/
inductive TextMethod where
  /-- It gives another text. -/
  | map (f : String → String)
  /-- It compares the text with its argument. -/
  | test (p : String → String → Bool)

/-- The methods of texts. -/
def TextMethod.ofName? : String → Option TextMethod
  | "to_lower" => some (map Text.lowerCase)
  | "to_upper" => some (map Text.upperCase)
  | "trim" => some (map Text.trimmed)
  | "contains" => some (test Text.holds)
  | "starts_with" => some (test Text.opensWith)
  | "ends_with" => some (test Text.closesWith)
  | _ => none

/-- The text that a method is passed. -/
def textArgument (method : String) : Value → Except Fault String
  | string s => .ok s
  | null => .error (.nullArgument method)
  | v => .error (.argumentNotText method v.kind)

/-! ### Sequences -/

/-- The elements of a value that has to be a list. -/
def elements : Value → Except Fault (List Value)
  | list items => .ok items
  | v => .error (.notASequence v.kind)

/-- The elements that pass a test, which may fail. -/
def keepWhere (p : Value → Except Fault Bool) : List Value → Except Fault (List Value)
  | [] => .ok []
  | v :: vs => do
    if ← p v then return v :: (← keepWhere p vs)
    else keepWhere p vs

/-- What a scalar query operator makes of the elements that count. -/
def summarize (op : QueryOp) (kept : List Value) : Except Fault Value :=
  match op, kept with
  | .count, kept => ofLength kept.length
  | .any, kept => .ok (bool !kept.isEmpty)
  | _, v :: _ => .ok v
  | _, [] => .error .noMatch

/-- The number that `take` or `skip` is passed. -/
def countArgument (operator : String) (v : Value) : Except Fault Nat :=
  match v.toInt64? with
  | none => .error (.countNotInteger operator)
  | some n => if 0 ≤ n.toInt then .ok n.toInt.toNat else .error (.negativeCount operator n)

end GuardErasure.Value
