import Mathlib.Data.List.TakeWhile
import GuardErasure.Json.Parser

namespace GuardErasure

/-!
# Numbers in JSON text

A number has no end mark, so that it is read to the first character that it cannot go on with:

* `Decimal.EndsNumber` — the texts that a number does not go on into;
* `Json.scanNumber?_append` — what is read from the front of a text does not depend on what follows,
  as long as that ends the number;
* `Json.opensNumber_of_scanNumber?` — what is read as a number begins with a sign or a digit;
* `Json.scanNumber?_int` — an integer within 64 bits is read back from its digits.
-/

namespace Decimal

/-! ### Parts of a literal -/

/-- The fraction at the front of a text, and what follows it. -/
def scanFraction : List Char → Option (List Char) × List Char
  | '.' :: cs => (some (cs.takeWhile Char.isDigit), cs.dropWhile Char.isDigit)
  | cs => (none, cs)

/-- The exponent at the front of a text, and what follows it. -/
def scanExponent : List Char → Option (Bool × List Char) × List Char
  | c :: cs =>
    if c = 'e' ∨ c = 'E' then
      (some ((takeSign cs).1, (takeSign cs).2.takeWhile Char.isDigit),
        (takeSign cs).2.dropWhile Char.isDigit)
    else (none, c :: cs)
  | [] => (none, [])

/-- A literal is read part by part. -/
theorem scanLiteral_eq (cs : List Char) :
    scanLiteral cs =
      let fraction := scanFraction (cs.dropWhile Char.isDigit)
      let exponent := scanExponent fraction.2
      (⟨cs.takeWhile Char.isDigit, fraction.1, exponent.1⟩, exponent.2) := rfl

/-! ### The end of a number -/

/-- May a number go on with this character, whatever came before? -/
def goesOn (c : Char) : Bool := c.isDigit || c == '.' || c == 'e' || c == 'E'

/-- A number does not go on into this text. -/
def EndsNumber (rest : List Char) : Prop := ∀ c ∈ rest.head?, goesOn c = false

theorem EndsNumber.isDigit {rest : List Char} (h : EndsNumber rest) :
    ∀ c ∈ rest.head?, c.isDigit = false := by
  intro c hc
  have hgoes : goesOn c = false := h c hc
  simp only [goesOn, Bool.or_eq_false_iff] at hgoes
  exact hgoes.1.1.1

section Append

variable {p : Char → Bool} {rest : List Char}

/-- A run of characters ends before a text whose first character does not belong to it. -/
theorem takeWhile_append_of_head (h : ∀ c ∈ rest.head?, p c = false) (cs : List Char) :
    (cs ++ rest).takeWhile p = cs.takeWhile p := by
  induction cs with
  | nil =>
    cases rest with
    | nil => rfl
    | cons c cs => simp [h c rfl]
  | cons d ds ih => simp only [List.cons_append, List.takeWhile_cons, ih]

theorem dropWhile_append_of_head (h : ∀ c ∈ rest.head?, p c = false) (cs : List Char) :
    (cs ++ rest).dropWhile p = cs.dropWhile p ++ rest := by
  induction cs with
  | nil =>
    cases rest with
    | nil => rfl
    | cons c cs => simp [h c rfl]
  | cons d ds ih =>
    simp only [List.cons_append, List.dropWhile_cons, ih]
    split <;> rfl

theorem scanFraction_append (h : EndsNumber rest) (cs : List Char) :
    scanFraction (cs ++ rest) = ((scanFraction cs).1, (scanFraction cs).2 ++ rest) := by
  match cs, rest with
  | [], [] => rfl
  | [], c :: cs =>
    have hdot : c ≠ '.' := by
      rintro rfl
      exact absurd (h '.' rfl) (by decide)
    simp [scanFraction, hdot]
  | c :: cs, rest =>
    by_cases hdot : c = '.'
    · subst hdot
      simp only [List.cons_append, scanFraction, takeWhile_append_of_head h.isDigit,
        dropWhile_append_of_head h.isDigit]
    · simp [scanFraction, hdot]

theorem takeSign_append {cs : List Char} (hcs : cs ≠ []) (rest : List Char) :
    takeSign (cs ++ rest) = ((takeSign cs).1, (takeSign cs).2 ++ rest) := by
  match cs with
  | c :: cs =>
    by_cases hminus : c = '-'
    · subst hminus
      rfl
    · by_cases hplus : c = '+'
      · subst hplus
        rfl
      · simp [takeSign, hminus, hplus]

/-- An exponent has digits, or else it might take its sign from what follows. -/
theorem scanExponent_append (h : EndsNumber rest) {cs : List Char}
    (hdigits : (scanExponent cs).1.any (·.2.isEmpty) = false) :
    scanExponent (cs ++ rest) = ((scanExponent cs).1, (scanExponent cs).2 ++ rest) := by
  match cs, rest with
  | [], [] => rfl
  | [], c :: cs =>
    have hexponent : ¬(c = 'e' ∨ c = 'E') := by
      rintro (rfl | rfl)
      · exact absurd (h 'e' rfl) (by decide)
      · exact absurd (h 'E' rfl) (by decide)
    simp [scanExponent, hexponent]
  | c :: cs, rest =>
    by_cases hexponent : c = 'e' ∨ c = 'E'
    · have hcs : cs ≠ [] := by
        rintro rfl
        simp [scanExponent, hexponent, takeSign] at hdigits
      simp only [scanExponent, List.cons_append, if_pos hexponent, takeSign_append hcs,
        takeWhile_append_of_head h.isDigit, dropWhile_append_of_head h.isDigit]
    · simp [scanExponent, hexponent]

theorem scanLiteral_append (h : EndsNumber rest) {cs : List Char}
    (hdigits : (scanLiteral cs).1.exponent.any (·.2.isEmpty) = false) :
    scanLiteral (cs ++ rest) = ((scanLiteral cs).1, (scanLiteral cs).2 ++ rest) := by
  simp only [scanLiteral_eq] at hdigits ⊢
  rw [takeWhile_append_of_head h.isDigit, dropWhile_append_of_head h.isDigit,
    scanFraction_append h]
  simp only [scanExponent_append h hdigits]

end Append

/-! ### Digits -/

/-- A number has the value that its digits spell. -/
theorem digitsValue_toDigits (n : Nat) : digitsValue (Nat.toDigits 10 n) = n :=
  Nat.ofDigitChars_toDigits (by decide) (by decide)

theorem isDigit_toDigits (n : Nat) : ∀ c ∈ Nat.toDigits 10 n, c.isDigit = true :=
  fun _ hc => Nat.isDigit_of_mem_toDigits (by decide) (by decide) hc

/-- No number but zero begins with a zero. -/
theorem toDigits_ne_zero_cons {n : Nat} (h : 0 < n) (ds : List Char) :
    Nat.toDigits 10 n ≠ '0' :: ds := by
  induction n using Nat.strongRecOn generalizing ds with
  | ind n ih =>
    intro heq
    by_cases hlt : n < 10
    · rw [Nat.toDigits_of_lt_base hlt] at heq
      have hzero : n = 0 := Nat.digitChar_eq_zero.mp (List.cons.inj heq).1
      omega
    · rw [Nat.toDigits_of_base_le (by decide) (by omega)] at heq
      -- the first digit is that of the number without its last one
      cases hds : Nat.toDigits 10 (n / 10) with
      | nil => exact Nat.toDigits_ne_nil hds
      | cons d rest =>
        rw [hds] at heq
        have hd : d = '0' := (List.cons.inj heq).1
        rw [hd] at hds
        exact ih (n / 10) (by omega) (by omega) rest hds

theorem toList_ofNat (n : Nat) : (toString (Int.ofNat n)).toList = Nat.toDigits 10 n :=
  Nat.toList_repr

theorem toList_negSucc (n : Nat) :
    (toString (Int.negSucc n)).toList = '-' :: Nat.toDigits 10 (n + 1) := by
  show ("-" ++ (n + 1).repr).toList = _
  rw [String.toList_append, Nat.toList_repr]
  rfl

section Runs

variable {ds tail : List Char}

theorem endsDigits_nil : ∀ c ∈ ([] : List Char).head?, c.isDigit = false := by simp

theorem takeWhile_digits (hds : ∀ c ∈ ds, c.isDigit = true)
    (htail : ∀ c ∈ tail.head?, c.isDigit = false) : (ds ++ tail).takeWhile Char.isDigit = ds := by
  rw [takeWhile_append_of_head htail]
  exact List.takeWhile_eq_self_iff.mpr hds

theorem dropWhile_digits (hds : ∀ c ∈ ds, c.isDigit = true)
    (htail : ∀ c ∈ tail.head?, c.isDigit = false) : (ds ++ tail).dropWhile Char.isDigit = tail := by
  rw [dropWhile_append_of_head htail, List.dropWhile_eq_nil_iff.mpr hds, List.nil_append]

/-- Digits at the front of a text are the whole part of a literal. -/
theorem scanLiteral_append_digits (hds : ∀ c ∈ ds, c.isDigit = true)
    (htail : ∀ c ∈ tail.head?, c.isDigit = false) :
    scanLiteral (ds ++ tail)
      = (⟨ds, (scanFraction tail).1, (scanExponent (scanFraction tail).2).1⟩,
        (scanExponent (scanFraction tail).2).2) := by
  rw [scanLiteral_eq, takeWhile_digits hds htail, dropWhile_digits hds htail]

/-- Digits alone are read as a literal of digits alone. -/
theorem scanLiteral_digits (hds : ∀ c ∈ ds, c.isDigit = true) :
    scanLiteral ds = (⟨ds, none, none⟩, []) := by
  have hscan := scanLiteral_append_digits hds endsDigits_nil
  rwa [List.append_nil] at hscan

/-- Digits behind a point are a fraction. -/
theorem scanFraction_digits (hds : ∀ c ∈ ds, c.isDigit = true)
    (htail : ∀ c ∈ tail.head?, c.isDigit = false) :
    scanFraction ('.' :: (ds ++ tail)) = (some ds, tail) := by
  rw [scanFraction, takeWhile_digits hds htail, dropWhile_digits hds htail]

end Runs

end Decimal

namespace Json

open Decimal

/-! ### Numbers -/

/-- The number whose magnitude is at the front of a text. -/
def scanMagnitude? (negative : Bool) (cs : List Char) : Option (Json × List Char) :=
  if isNumber (scanLiteral cs).1 then
    some (ofLiteral negative (scanLiteral cs).1, (scanLiteral cs).2)
  else none

theorem scanNumber?_of_ne {c : Char} (hc : c ≠ '-') (cs : List Char) :
    scanNumber? (c :: cs) = scanMagnitude? false (c :: cs) := by
  simp [scanNumber?, scanMagnitude?, hc]

theorem scanMagnitude?_append {negative : Bool} {cs r rest : List Char} {v : Json}
    (h : EndsNumber rest) (hcs : scanMagnitude? negative cs = some (v, r)) :
    scanMagnitude? negative (cs ++ rest) = some (v, r ++ rest) := by
  obtain ⟨hnumber, heq⟩ := Option.ite_none_right_eq_some.mp hcs
  have hdigits : (scanLiteral cs).1.exponent.any (·.2.isEmpty) = false := by
    simp only [isNumber, Bool.and_eq_true, Bool.not_eq_true'] at hnumber
    exact hnumber.2
  rw [scanMagnitude?, scanLiteral_append h hdigits, if_pos hnumber]
  cases heq
  rfl

/-- **What follows a number** does not matter, as long as the number does not go on into it. -/
theorem scanNumber?_append {cs r rest : List Char} {v : Json} (h : EndsNumber rest)
    (hcs : scanNumber? cs = some (v, r)) : scanNumber? (cs ++ rest) = some (v, r ++ rest) := by
  match cs with
  | [] => cases hcs
  | c :: cs =>
    by_cases hminus : c = '-'
    · subst hminus
      exact scanMagnitude?_append h hcs
    · rw [scanNumber?_of_ne hminus] at hcs
      rw [List.cons_append, scanNumber?_of_ne hminus]
      exact scanMagnitude?_append h hcs

/-- A number in the grammar begins with a digit. -/
theorem isDigit_of_isNumber {cs : List Char} (h : isNumber (scanLiteral cs).1 = true) :
    ∃ d ds, cs = d :: ds ∧ d.isDigit = true := by
  cases cs with
  | nil => cases h
  | cons d ds =>
    refine ⟨d, ds, rfl, ?_⟩
    by_contra hd
    simp [scanLiteral_eq, isNumber, hd] at h

/-- The first characters of numbers. -/
def opensNumber (c : Char) : Bool := c == '-' || c.isDigit

/-- What is read as a number begins like one. -/
theorem opensNumber_of_scanNumber? {c : Char} {cs r : List Char} {v : Json}
    (h : scanNumber? (c :: cs) = some (v, r)) : opensNumber c = true := by
  by_cases hminus : c = '-'
  · simp [opensNumber, hminus]
  · rw [scanNumber?_of_ne hminus] at h
    obtain ⟨hnumber, -⟩ := Option.ite_none_right_eq_some.mp h
    obtain ⟨d, ds, heq, hd⟩ := isDigit_of_isNumber hnumber
    obtain rfl : c = d := (List.cons.inj heq).1
    simp [opensNumber, hd]

/-- The digits of a number are a number in the grammar: no zero stands in front. -/
theorem isNumber_toDigits (n : Nat) : isNumber ⟨Nat.toDigits 10 n, none, none⟩ = true := by
  by_cases hzero : n = 0
  · subst hzero
    rfl
  · cases hds : Nat.toDigits 10 n with
    | nil => exact absurd hds Nat.toDigits_ne_nil
    | cons d ds =>
      have hd : d ≠ '0' := by
        rintro rfl
        exact toDigits_ne_zero_cons (Nat.pos_of_ne_zero hzero) ds hds
      simp [isNumber, hd]

/-- Digits are read as the integer that they stand for. -/
theorem scanMagnitude?_toDigits (negative : Bool) (n : Nat) :
    scanMagnitude? negative (Nat.toDigits 10 n)
      = some (ofLiteral negative ⟨Nat.toDigits 10 n, none, none⟩, []) := by
  rw [scanMagnitude?, scanLiteral_digits (isDigit_toDigits n), if_pos (isNumber_toDigits n)]

/-- A sign stands in front of the magnitude. -/
theorem scanNumber?_signed {negative : Bool} {cs : List Char} {v : Json × List Char}
    (h : scanMagnitude? negative cs = some v) :
    scanNumber? (if negative then '-' :: cs else cs) = some v := by
  cases negative with
  | true => exact h
  | false =>
    obtain ⟨hnumber, -⟩ := Option.ite_none_right_eq_some.mp h
    obtain ⟨d, ds, rfl, hd⟩ := isDigit_of_isNumber hnumber
    have hminus : d ≠ '-' := by
      rintro rfl
      exact absurd hd (by decide)
    exact (scanNumber?_of_ne hminus ds).trans h

/-- **Integers** within 64 bits, with or without a sign, are read back from their digits. -/
theorem scanNumber?_int {i : Int} (hlow : Int64.minValue.toInt ≤ i) (hhigh : i < UInt64.size) :
    scanNumber? (toString i).toList = some (int i, []) := by
  cases i with
  | ofNat n =>
    have hn : n < UInt64.size := by
      have hcast : (Int.ofNat n) = (n : Int) := rfl
      omega
    rw [toList_ofNat]
    refine (scanNumber?_signed (scanMagnitude?_toDigits false n)).trans ?_
    simp [ofLiteral, Literal.isWhole, digitsValue_toDigits, hn]
  | negSucc n =>
    have hn : Int64.minValue.toInt ≤ -((n + 1 : Nat) : Int) := hlow
    rw [toList_negSucc]
    refine (scanNumber?_signed (scanMagnitude?_toDigits true (n + 1))).trans ?_
    simp only [ofLiteral, Literal.isWhole, digitsValue_toDigits]
    rw [if_neg (by simp), if_pos ⟨rfl, trivial, Nat.succ_pos n, hn⟩]
    rfl

end Json

end GuardErasure
