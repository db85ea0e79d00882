import GuardErasure.Decimal.Layout
import GuardErasure.Proofs.Decimal.Shortest
import GuardErasure.Proofs.Json.Number

namespace GuardErasure

/-!
# The text of a float

The compact layout writes a decimal as a literal of the same value, so that who reads it has the float
again:

* `Decimal.value`, `Decimal.Literal.value` — the numbers that decimals and literals stand for;
* `Decimal.value_ofNat`, `Decimal.trimmed_ofNat` — zeros at the end of a decimal are moved to its power,
  and there are none in front;
* `Decimal.Spells` — a text is a literal of some value, with a point or an exponent;
* `Decimal.Layout.spells_write` — so is each decimal in the compact layout;
* `Json.scanNumber?_writeFinite` — the text of a finite float is read as the float.
-/

namespace Decimal

/-! ### Values -/

theorem digitsValue_append_zeros (ds : List Char) (n : ℕ) :
    digitsValue (ds ++ List.replicate n '0') = 10 ^ n * digitsValue ds := by
  have happend := Nat.ofDigitChars_append (b := 10) (l := ds) (m := List.replicate n '0') 0
  rw [Nat.ofDigitChars_replicate_zero] at happend
  exact happend

theorem digitsValue_zeros_append (n : ℕ) (ds : List Char) :
    digitsValue (List.replicate n '0' ++ ds) = digitsValue ds := by
  have happend := Nat.ofDigitChars_append (b := 10) (l := List.replicate n '0') (m := ds) 0
  rw [Nat.ofDigitChars_replicate_zero] at happend
  exact happend

/-- The number that a decimal stands for. -/
def value (d : Decimal) : ℚ := digitsValue d.digits * 10 ^ d.exponent

/-- The number that a literal stands for. -/
def Literal.value (l : Literal) : ℚ :=
  digitsValue (l.whole ++ l.fraction.getD []) * 10 ^ (l.power - (l.fraction.getD []).length)

/-- Digits, with no zero in front. -/
structure Trimmed (d : Decimal) : Prop where
  digits : ∀ c ∈ d.digits, c.isDigit = true
  first : ∃ c cs, d.digits = c :: cs ∧ c ≠ '0'

/-- The digits of a number are those that are kept and the zeros at the end. -/
theorem toDigits_eq (d : ℕ) (k : ℤ) :
    Nat.toDigits 10 d
      = (ofNat d k).digits ++ List.replicate ((ofNat d k).exponent - k).toNat '0' := by
  have hzeros : ((Nat.toDigits 10 d).reverse.takeWhile (· == '0'))
      = List.replicate ((ofNat d k).exponent - k).toNat '0' := by
    refine List.eq_replicate_iff.mpr ⟨?_, fun c hc => ?_⟩
    · have hlength := congrArg List.length
        (List.takeWhile_append_dropWhile (p := (· == '0')) (l := (Nat.toDigits 10 d).reverse))
      rw [List.length_append] at hlength
      simp only [ofNat]
      omega
    · simpa using List.mem_takeWhile_imp hc
  rw [← List.reverse_inj, List.reverse_append, List.reverse_replicate, ← hzeros]
  simp only [ofNat, List.reverse_reverse, List.takeWhile_append_dropWhile]

/-- The zeros at the end are in the power instead. -/
theorem value_ofNat (d : ℕ) (k : ℤ) : (ofNat d k).value = d * 10 ^ k := by
  have hle : k ≤ (ofNat d k).exponent := by
    simp only [ofNat]
    omega
  obtain ⟨n, hn⟩ := Int.eq_ofNat_of_zero_le (Int.sub_nonneg.mpr hle)
  have hexponent : (ofNat d k).exponent = n + k := by omega
  have hdigits := congrArg digitsValue (toDigits_eq d k)
  rw [digitsValue_toDigits, digitsValue_append_zeros, hn, Int.toNat_natCast] at hdigits
  calc (ofNat d k).value = digitsValue (ofNat d k).digits * (10 ^ n * 10 ^ k) := by
        rw [value, hexponent, zpow_add₀ (by norm_num), zpow_natCast]
    _ = (10 ^ n * digitsValue (ofNat d k).digits : ℕ) * 10 ^ k := by
        push_cast
        ring
    _ = d * 10 ^ k := by rw [← hdigits]

theorem trimmed_ofNat {d : ℕ} (hd : 0 < d) (k : ℤ) : (ofNat d k).Trimmed := by
  have hdigits := toDigits_eq d k
  refine ⟨fun c hc => ?_, ?_⟩
  · exact isDigit_toDigits d c (by rw [hdigits]; exact List.mem_append_left _ hc)
  · cases hkept : (ofNat d k).digits with
    | nil =>
      -- there would be nothing but zeros
      have hvalue := congrArg digitsValue hdigits
      rw [hkept, digitsValue_toDigits, digitsValue_append_zeros] at hvalue
      have hzero : digitsValue [] = 0 := rfl
      rw [hzero] at hvalue
      omega
    | cons c cs =>
      refine ⟨c, cs, rfl, ?_⟩
      rintro rfl
      rw [hkept] at hdigits
      exact toDigits_ne_zero_cons hd _ hdigits

/-! ### Literals -/

/-- The text is a literal of that value, and neither digits alone nor outside the grammar of numbers. -/
def Spells (cs : List Char) (x : ℚ) : Prop :=
  ∃ l, scanLiteral cs = (l, []) ∧ Json.isNumber l = true ∧ l.isWhole = false ∧ l.value = x

/-- The text of an exponent. -/
def exponentText (power : ℤ) : List Char :=
  'e' :: ((if power < 0 then "" else "+").toList ++ (toString power).toList)

theorem scanExponent_signed (negative : Bool) (n : ℕ) :
    scanExponent ('e' :: (if negative then '-' else '+') :: Nat.toDigits 10 n)
      = (some (negative, Nat.toDigits 10 n), []) := by
  have htake : (Nat.toDigits 10 n).takeWhile Char.isDigit = Nat.toDigits 10 n :=
    List.takeWhile_eq_self_iff.mpr (isDigit_toDigits n)
  have hdrop : (Nat.toDigits 10 n).dropWhile Char.isDigit = [] :=
    List.dropWhile_eq_nil_iff.mpr (isDigit_toDigits n)
  cases negative <;> simp [scanExponent, takeSign, htake, hdrop]

/-- An exponent is read back. -/
theorem scanExponent_exponentText (power : ℤ) :
    ∃ negative ds, scanExponent (exponentText power) = (some (negative, ds), []) ∧ ds ≠ []
      ∧ (if negative then -(digitsValue ds : ℤ) else digitsValue ds) = power := by
  cases power with
  | ofNat n =>
    have hsign : ¬Int.ofNat n < 0 := Int.not_lt.mpr (Int.natCast_nonneg n)
    have htext : exponentText (.ofNat n) = 'e' :: '+' :: Nat.toDigits 10 n := by
      rw [exponentText, if_neg hsign, toList_ofNat]
      rfl
    refine ⟨false, Nat.toDigits 10 n, htext ▸ scanExponent_signed false n, Nat.toDigits_ne_nil, ?_⟩
    rw [digitsValue_toDigits]
    rfl
  | negSucc n =>
    have htext : exponentText (.negSucc n) = 'e' :: '-' :: Nat.toDigits 10 (n + 1) := by
      rw [exponentText, if_pos (Int.negSucc_lt_zero n), toList_negSucc]
      rfl
    refine ⟨true, Nat.toDigits 10 (n + 1), htext ▸ scanExponent_signed true (n + 1),
      Nat.toDigits_ne_nil, ?_⟩
    rw [digitsValue_toDigits]
    rfl

/-! ### Layouts -/

namespace Layout

variable {d : Decimal}

/-- Digits with a point among them. -/
theorem spells_point (whole fraction : List Char) (hwhole : ∀ c ∈ whole, c.isDigit = true)
    (hfraction : ∀ c ∈ fraction, c.isDigit = true) (hsome : fraction ≠ [])
    (hfirst : whole = ['0'] ∨ ∃ c cs, whole = c :: cs ∧ c ≠ '0') :
    Spells (whole ++ '.' :: fraction)
      (digitsValue (whole ++ fraction) * 10 ^ (-(fraction.length : ℤ))) := by
  refine ⟨⟨whole, some fraction, none⟩, ?_, ?_, rfl, ?_⟩
  · have hscan := scanFraction_digits hfraction endsDigits_nil
    rw [List.append_nil] at hscan
    rw [scanLiteral_append_digits hwhole (by simp), hscan]
    rfl
  · rcases hfirst with rfl | ⟨c, cs, rfl, hc⟩
    · simp [Json.isNumber, hsome]
    · simp [Json.isNumber, hsome, hc]
  · simp [Literal.value, Literal.power]

theorem isDigit_zeros (n : ℕ) : ∀ c ∈ List.replicate n '0', c.isDigit = true := by
  intro c hc
  rw [List.eq_of_mem_replicate hc]
  rfl

/-- Zeros fill the places before the point. -/
theorem spells_whole (hd : d.Trimmed) (hexponent : 0 ≤ d.exponent) :
    Spells (d.digits ++ List.replicate d.exponent.toNat '0' ++ ['.', '0']) d.value := by
  obtain ⟨c, cs, hdigits, hc⟩ := hd.first
  obtain ⟨n, hn⟩ := Int.eq_ofNat_of_zero_le hexponent
  rw [hn, Int.toNat_natCast]
  have hspells := spells_point (d.digits ++ List.replicate n '0') ['0']
    (List.forall_mem_append.mpr ⟨hd.digits, isDigit_zeros n⟩) (isDigit_zeros 1) (by simp)
    (.inr ⟨c, cs ++ List.replicate n '0', by rw [hdigits]; rfl, hc⟩)
  have hvalue : d.value = digitsValue (d.digits ++ List.replicate n '0' ++ ['0'])
      * 10 ^ (-((['0'] : List Char).length : ℤ)) := by
    rw [List.append_assoc, ← List.replicate_succ', digitsValue_append_zeros, value, hn,
      zpow_natCast, List.length_singleton, zpow_neg]
    push_cast
    rw [pow_succ]
    field_simp
  rw [hvalue]
  exact hspells

/-- The point stands among the digits. -/
theorem spells_within (hd : d.Trimmed) (hexponent : d.exponent < 0)
    (hpoint : 0 < d.digits.length + d.exponent) :
    Spells (d.digits.take (d.digits.length + d.exponent).toNat
      ++ '.' :: d.digits.drop (d.digits.length + d.exponent).toNat) d.value := by
  obtain ⟨c, cs, hdigits, hc⟩ := hd.first
  obtain ⟨n, hn⟩ : ∃ n, (d.digits.length + d.exponent).toNat = n + 1 :=
    ⟨(d.digits.length + d.exponent).toNat - 1, by omega⟩
  have hlength : -((d.digits.drop (n + 1)).length : ℤ) = d.exponent := by
    rw [List.length_drop]
    omega
  have hsome : d.digits.drop (n + 1) ≠ [] := by
    intro hnil
    rw [hnil, List.length_nil] at hlength
    omega
  have hspells := spells_point (d.digits.take (n + 1)) (d.digits.drop (n + 1))
    (fun c hc => hd.digits c (List.mem_of_mem_take hc))
    (fun c hc => hd.digits c (List.mem_of_mem_drop hc)) hsome
    (.inr ⟨c, cs.take n, by rw [hdigits, List.take_succ_cons], hc⟩)
  rw [List.take_append_drop, hlength] at hspells
  rw [hn]
  exact hspells

/-- Zeros fill the places behind the point. -/
theorem spells_below (hd : d.Trimmed) (hpoint : d.digits.length + d.exponent ≤ 0) :
    Spells ('0' :: '.' :: (List.replicate (-(d.digits.length + d.exponent)).toNat '0' ++ d.digits))
      d.value := by
  obtain ⟨c, cs, hdigits, hc⟩ := hd.first
  have hspells := spells_point ['0']
    (List.replicate (-(d.digits.length + d.exponent)).toNat '0' ++ d.digits) (isDigit_zeros 1)
    (List.forall_mem_append.mpr ⟨isDigit_zeros _, hd.digits⟩) (by simp [hdigits]) (.inl rfl)
  have hvalue : digitsValue (['0'] ++ (List.replicate (-(d.digits.length + d.exponent)).toNat '0'
      ++ d.digits)) = digitsValue d.digits :=
    digitsValue_zeros_append ((-(d.digits.length + d.exponent)).toNat + 1) d.digits
  have hlength : -((List.replicate (-(d.digits.length + d.exponent)).toNat '0'
      ++ d.digits).length : ℤ) = d.exponent := by
    rw [List.length_append, List.length_replicate]
    omega
  rw [hvalue, hlength] at hspells
  exact hspells

theorem spells_position (hd : d.Trimmed) : Spells (compact.position d) d.value := by
  simp only [position]
  split
  · rename_i hexponent
    exact spells_whole hd hexponent
  · rename_i hexponent
    split
    · rename_i hpoint
      exact spells_within hd (Int.not_le.mp hexponent) hpoint
    · rename_i hpoint
      exact spells_below hd (Int.not_lt.mp hpoint)

/-- A digit with an exponent, and perhaps a fraction between them. -/
theorem spells_exponent (fraction : Option (List Char)) (power : ℤ) {c : Char} {tail : List Char}
    (hdigit : c.isDigit = true) (hc : c ≠ '0') (htail : ∀ c ∈ tail.head?, c.isDigit = false)
    (hscan : scanFraction tail = (fraction, exponentText power))
    (hsome : fraction.any List.isEmpty = false) :
    Spells (c :: tail)
      (digitsValue (c :: fraction.getD []) * 10 ^ (power - (fraction.getD []).length)) := by
  obtain ⟨negative, ds, hexponent, hds, hpower⟩ := scanExponent_exponentText power
  refine ⟨⟨[c], fraction, some (negative, ds)⟩, ?_, ?_, ?_, ?_⟩
  · have hwhole := scanLiteral_append_digits (List.forall_mem_singleton.mpr hdigit) htail
    rw [hscan, hexponent] at hwhole
    exact hwhole
  · simp [Json.isNumber, hc, hsome, hds]
  · simp [Literal.isWhole]
  · have hread : (Literal.mk [c] fraction (some (negative, ds))).power = power := hpower
    rw [Literal.value, hread]
    rfl

theorem spells_withExponent (hd : d.Trimmed) : Spells (withExponent d) d.value := by
  obtain ⟨c, cs, hdigits, hc⟩ := hd.first
  have hall := hd.digits
  rw [hdigits, List.forall_mem_cons] at hall
  have hhead (power : ℤ) : ∀ c ∈ (exponentText power).head?, c.isDigit = false := by
    intro c hc
    obtain rfl := Option.some.inj hc
    rfl
  cases cs with
  | nil =>
    have hspells := spells_exponent none (1 + d.exponent - 1) hall.1 hc (hhead _) rfl rfl
    have hvalue : d.value = digitsValue [c] * 10 ^ (1 + d.exponent - 1 - (0 : ℕ)) := by
      rw [value, hdigits]
      congr 2
      omega
    have htext : withExponent d = c :: exponentText (1 + d.exponent - 1) := by
      simp only [withExponent, hdigits]
      rfl
    rw [htext, hvalue]
    exact hspells
  | cons c' cs =>
    have hspells := spells_exponent (some (c' :: cs)) ((c :: c' :: cs).length + d.exponent - 1)
      hall.1 hc (by simp) (scanFraction_digits hall.2 (hhead _)) rfl
    have hvalue : d.value = digitsValue (c :: c' :: cs)
        * 10 ^ ((c :: c' :: cs).length + d.exponent - 1 - ((c' :: cs).length : ℤ)) := by
      rw [value, hdigits]
      congr 2
      rw [List.length_cons]
      push_cast
      omega
    have htext : withExponent d = c :: '.' :: (c' :: cs
        ++ exponentText ((c :: c' :: cs).length + d.exponent - 1)) := by
      simp only [withExponent, hdigits]
      rfl
    rw [htext, hvalue]
    exact hspells

/-- **A decimal** in the compact layout is a literal of its value. -/
theorem spells_write (hd : d.Trimmed) : Spells (compact.write d) d.value := by
  rw [write]
  split
  · exact spells_position hd
  · exact spells_withExponent hd

end Layout

end Decimal

/-! ### Floats -/

namespace Json

open Decimal

/-- A literal in the window of a magnitude is read as its float. -/
theorem scanMagnitude?_of_spells {b : Binary} (hc : b.Canonical) {cs : List Char} {x : ℚ}
    (hspells : Spells cs x) (hx : b.Covers x) (negative : Bool) :
    scanMagnitude? negative cs
      = some (real (b.toFloat hc (if negative then .negative else .positive)), []) := by
  obtain ⟨l, hscan, hnumber, hwhole, rfl⟩ := hspells
  rw [scanMagnitude?, hscan, if_pos hnumber, ← Binary.Covers.nearest_eq hc hx negative, ofLiteral,
    if_neg (by simp [hwhole]), if_neg (by simp [hwhole])]
  rfl

/-- The text of a finite float without its sign. -/
def magnitudeText (f : Float) : List Char :=
  if (Binary.ofFloat f).mantissa = 0 then ['0', '.', '0']
  else Layout.compact.write ((Binary.ofFloat f).shortest .even)

theorem toList_writeFinite (f : Float) :
    (Layout.compact.writeFinite f).toList
      = if decide (f.toBits.toNat / Nat.pow 2 63 = 1) then '-' :: magnitudeText f
        else magnitudeText f := by
  rw [Layout.writeFinite, String.toList_ofList]
  simp only [decide_eq_true_eq]
  rfl

/-- The magnitude of a float is read as the float, where the sign is known. -/
theorem scanMagnitude?_magnitudeText {f : Float} (hf : f.isFinite = true) {negative : Bool}
    (hsign : signOf f = if negative then .negative else .positive) :
    scanMagnitude? negative (magnitudeText f) = some (real f, []) := by
  rw [magnitudeText]
  rcases Binary.wordOf_eq hf with ⟨hzero, hword⟩ | ⟨hc, hword⟩
  · rw [if_pos hzero]
    have hread : nearest negative 0 (-1) = f := by
      refine Binary.eq_of_wordOf ?_
      rw [hword, hsign]
      cases negative <;> rfl
    exact hread ▸ rfl
  · rw [if_neg (Nat.pos_iff_ne_zero.mp hc.pos)]
    obtain ⟨d, k, hd, hcovers⟩ := Binary.shortest_eq hc .even
    have hpos : 0 < d := Nat.pos_of_ne_zero (hcovers.exponent_bounds hc).1
    have hspells := Layout.spells_write (trimmed_ofNat hpos k)
    rw [value_ofNat, ← hd] at hspells
    rw [scanMagnitude?_of_spells hc hspells hcovers, ← hsign, Binary.toFloat_ofFloat hc hword]

/-- **A finite float** is read back from its text. -/
theorem scanNumber?_writeFinite {f : Float} (hf : f.isFinite = true) :
    scanNumber? (Layout.compact.writeFinite f).toList = some (real f, []) := by
  have hsign : signOf f = if decide (f.toBits.toNat / Nat.pow 2 63 = 1) then .negative
      else .positive := by
    rw [signOf_eq]
    simp only [decide_eq_true_eq]
  rw [toList_writeFinite]
  exact scanNumber?_signed (scanMagnitude?_magnitudeText hf hsign)

end Json

end GuardErasure
