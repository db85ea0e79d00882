import GuardErasure.Decimal.Shortest

namespace GuardErasure.Decimal

/-!
# Laying out decimals

The same digits are written in two ways.  A `Layout` collects every decision that is
left once the digits are known:

* `Layout.plain` — positional notation for every magnitude, for messages and answers;
* `Layout.compact` — an exponent for very large and very small magnitudes, and a
  point in every number, for stored documents.
-/

/-- How the digits of a number are laid out. -/
structure Layout where
  /-- Which of two equally near decimals is written. -/
  tie : Tie
  /-- With the point after position `p` of the digits, is the number written without
      an exponent? -/
  positional : Int → Bool
  /-- What follows the last digit of a whole number. -/
  wholeEnd : List Char

namespace Layout

/-- Never an exponent, and no point in a whole number. -/
def plain : Layout := ⟨.up, fun _ => true, []⟩

/-- Positional from `10 ^ -5` up to sixteen digits before the point; a whole number
    ends in `.0`. -/
def compact : Layout := ⟨.even, fun p => -5 < p ∧ p ≤ 16, ['.', '0']⟩

/-- Digits in positional notation: zeros fill the places between the digits and the
    point. -/
def position (l : Layout) (d : Decimal) : List Char :=
  let point := d.digits.length + d.exponent
  if 0 ≤ d.exponent then
    d.digits ++ List.replicate d.exponent.toNat '0' ++ l.wholeEnd
  else if 0 < point then
    d.digits.take point.toNat ++ '.' :: d.digits.drop point.toNat
  else
    '0' :: '.' :: List.replicate (-point).toNat '0' ++ d.digits

/-- Digits with an exponent: one digit before the point, and the exponent always carries
    its sign. -/
def withExponent (d : Decimal) : List Char :=
  let power := d.digits.length + d.exponent - 1
  let e := (if power < 0 then "" else "+").toList ++ (toString power).toList
  match d.digits with
  | first :: [] => first :: 'e' :: e
  | first :: rest => first :: '.' :: rest ++ 'e' :: e
  | [] => []

/-- A decimal magnitude in this layout. -/
def write (l : Layout) (d : Decimal) : List Char :=
  if l.positional (d.digits.length + d.exponent) then l.position d else withExponent d

/-- A finite float in this layout; a zero keeps its sign. -/
def writeFinite (l : Layout) (f : Float) : String :=
  let b := Binary.ofFloat f
  let magnitude := if b.mantissa = 0 then '0' :: l.wholeEnd else l.write (b.shortest l.tie)
  String.ofList (if f.toBits.toNat / Nat.pow 2 63 = 1 then '-' :: magnitude else magnitude)

end Layout

/-- The text of any float: its shortest digits in positional notation, and a word for
    each value that is no number. -/
def floatText (f : Float) : String :=
  if f.isNaN then "NaN"
  else if f.isInf then (if f < 0 then "-inf" else "inf")
  else Layout.plain.writeFinite f

end GuardErasure.Decimal
