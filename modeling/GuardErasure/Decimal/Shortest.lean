namespace GuardErasure

/-!
# Shortest decimals

The decimal text of a floating point number shows as few digits as still read back
as that number.  This module picks the digits by exact integer arithmetic; where the
point goes is the business of `Decimal.Layout`.

* `Binary` — the exact magnitude `mantissa · 2 ^ exponent` of a finite float;
* `Binary.window` — the reals that round to it, as a closed or open interval;
* `Decimal` — digits and a power of ten;
* `Binary.shortest` — the shortest decimal in the window, the nearest one if two of
  that length are in it, and on a tie the one a `Tie` asks for.
-/

/-- Which of two equally near decimals is written. -/
inductive Tie where
  /-- The larger one. -/
  | up
  /-- The one with an even last digit. -/
  | even
deriving DecidableEq

/-- The magnitude `mantissa · 2 ^ exponent` of a finite float, with the spacing to
    the next smaller float when that is only half of the usual one. -/
structure Binary where
  mantissa : Nat
  exponent : Int
  /-- Is the gap below half the gap above?  So at a power of two. -/
  narrowBelow : Bool := false
deriving DecidableEq

/-- A decimal magnitude `digits · 10 ^ exponent`, the digits written out without a
    zero at either end. -/
structure Decimal where
  digits : List Char
  exponent : Int
deriving DecidableEq

namespace Binary

/-- The magnitude of a finite float, read off its bits. -/
def ofFloat (f : Float) : Binary :=
  let bits := f.toBits.toNat
  let biased : Nat := bits / Nat.pow 2 52 % Nat.pow 2 11
  let fraction : Nat := bits % Nat.pow 2 52
  if biased = 0 then ⟨fraction, -1074, false⟩
  else ⟨fraction + Nat.pow 2 52, (biased : Int) - 1075, fraction = 0 ∧ 1 < biased⟩

/-- An interval of magnitudes around a value, all three over one denominator. -/
structure Window where
  low : Nat
  value : Nat
  high : Nat
  denominator : Nat
  /-- Do the two ends themselves round to the value? -/
  closed : Bool

/-- The magnitudes that round to a float: half a unit above it, half a unit (or a
    quarter, where the gap is narrow) below it, the ends included exactly when the
    mantissa is even. -/
def window (b : Binary) : Window :=
  let num := Nat.pow 2 (b.exponent - 2).toNat
  { low := (4 * b.mantissa - if b.narrowBelow then 1 else 2) * num
    value := 4 * b.mantissa * num
    high := (4 * b.mantissa + 2) * num
    denominator := Nat.pow 2 (2 - b.exponent).toNat
    closed := b.mantissa % 2 = 0 }

/-- The number of digits of a natural number, none for zero. -/
def digitCount (n : Nat) : Nat := if n = 0 then 0 else (Nat.toDigits 10 n).length

/-- The power of ten `e` with `10 ^ e ≤ value < 10 ^ (e + 1)`. -/
def Window.magnitude (w : Window) : Int :=
  if w.denominator ≤ w.value then digitCount (w.value / w.denominator) - 1
  else -(digitCount ((w.denominator - 1) / w.value))

/-- The multiple of `10 ^ k` in the window that is nearest to the value, if one of the
    value's two neighbours on that grid lies in the window. -/
def Window.onGrid? (w : Window) (tie : Tie) (k : Int) : Option Nat :=
  let step := Nat.pow 10 k.toNat * w.denominator
  let scale := Nat.pow 10 (-k).toNat
  let down := w.value * scale / step
  let below := w.value * scale - down * step
  let above := step - below
  let inLow : Bool := if w.closed then w.low * scale ≤ down * step else w.low * scale < down * step
  let inHigh : Bool := if w.closed then (down + 1) * step ≤ w.high * scale
    else (down + 1) * step < w.high * scale
  let upWins : Bool := match tie with
    | .up => above ≤ below
    | .even => above < below ∨ above = below ∧ down % 2 = 1
  if inLow ∧ ¬(inHigh ∧ upWins) then some down
  else if inHigh then some (down + 1)
  else none

end Binary

namespace Decimal

/-- The decimal `d · 10 ^ k`, with the zeros at the end of `d` moved to the power. -/
def ofNat (d : Nat) (k : Int) : Decimal :=
  let written := (Nat.toDigits 10 d).reverse
  let kept := written.dropWhile (· == '0')
  ⟨kept.reverse, k + (written.length - kept.length : Nat)⟩

end Decimal

namespace Binary

/-- The shortest decimal that reads back as a positive magnitude.  Grids of one to
    seventeen digits are tried in turn; seventeen always suffice. -/
def shortest (tie : Tie) (b : Binary) : Decimal :=
  let w := b.window
  let e := w.magnitude
  ((List.range 17).findSome? fun (n : Nat) =>
      (w.onGrid? tie (e - n)).map (Decimal.ofNat · (e - n))).getD ⟨['0'], 0⟩

end Binary

end GuardErasure
