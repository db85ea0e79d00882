namespace GuardErasure.Decimal

/-!
# Reading decimals

The float nearest to a decimal literal, and the two grammars of such literals:

* `nearest` — the correctly rounded float of `mantissa · 10 ^ exponent`;
* `Literal` / `scanLiteral` — the digits, point and exponent of a literal;
* `readFloat?` — a free-standing float text, which may also name an infinity or NaN.
-/

/-- The float nearest to `± mantissa · 10 ^ exponent`. -/
def nearest (negative : Bool) (mantissa : Nat) (exponent : Int) : Float :=
  let magnitude := Float.ofModel (Float.Model.ofScientific mantissa exponent)
  if negative then -magnitude else magnitude

/-- The natural number that a list of decimal digits spells. -/
def digitsValue (ds : List Char) : Nat :=
  ds.foldl (fun n c => 10 * n + (c.toNat - '0'.toNat)) 0

/-- An unsigned decimal literal: the digits before the point, those after it, and the
    exponent, each `none` where the literal does not have the part. -/
structure Literal where
  whole : List Char
  fraction : Option (List Char)
  exponent : Option (Bool × List Char)

namespace Literal

/-- Is the literal a bare run of digits? -/
def isWhole (l : Literal) : Bool := l.fraction.isNone && l.exponent.isNone

/-- The power of ten that the exponent part stands for. -/
def power (l : Literal) : Int :=
  match l.exponent with
  | none => 0
  | some (negative, ds) => if negative then -(digitsValue ds : Int) else digitsValue ds

/-- The float nearest to the literal. -/
def toFloat (l : Literal) (negative : Bool) : Float :=
  let fraction := l.fraction.getD []
  nearest negative (digitsValue (l.whole ++ fraction)) (l.power - fraction.length)

end Literal

/-- Split the leading sign off a text. -/
def takeSign : List Char → Bool × List Char
  | '-' :: cs => (true, cs)
  | '+' :: cs => (false, cs)
  | cs => (false, cs)

/-- Read digits, an optional point with digits and an optional exponent from the front
    of a text.  Any of the digit runs may be empty; which of them may not is for the
    grammar that calls this. -/
def scanLiteral (cs : List Char) : Literal × List Char :=
  let whole := cs.takeWhile Char.isDigit
  let rest := cs.dropWhile Char.isDigit
  let (fraction, rest) : Option (List Char) × List Char :=
    match rest with
    | '.' :: cs => (some (cs.takeWhile Char.isDigit), cs.dropWhile Char.isDigit)
    | cs => (none, cs)
  let (exponent, rest) : Option (Bool × List Char) × List Char :=
    match rest with
    | c :: cs =>
      if c = 'e' ∨ c = 'E' then
        let (negative, cs) := takeSign cs
        (some (negative, cs.takeWhile Char.isDigit), cs.dropWhile Char.isDigit)
      else (none, c :: cs)
    | [] => (none, [])
  (⟨whole, fraction, exponent⟩, rest)

/-- Read a float text: an optional sign, then an infinity, NaN (in any case of
    letters) or a decimal literal with at least one digit before its exponent. -/
def readFloat? (s : String) : Option Float :=
  let (negative, cs) := takeSign s.toList
  let signed (f : Float) : Float := if negative then -f else f
  match (String.ofList cs).map Char.toLower with
  | "inf" | "infinity" => some (signed (Float.ofScientific 1 false 400))
  | "nan" => some (signed (0.0 / 0.0))
  | _ =>
    let (l, rest) := scanLiteral cs
    if rest ≠ [] ∨ (l.whole = [] ∧ l.fraction.getD [] = []) ∨ l.exponent.any (·.2 = []) then none
    else some (l.toFloat negative)

end GuardErasure.Decimal
