import GuardErasure.Decimal.Reader
import GuardErasure.Proofs.Decimal.Unpacked

namespace GuardErasure

/-!
# Rounding decimals

Each float has a window of numbers that are nearer to it than to any other float.  A decimal in the
window is read as that float:

* `StandsFor` — what is known of a number from a mantissa and the residual bits behind it; one shift to
  the right halves the number, so any shift divides it (`StandsFor.shiftRight`), and rounding gives the
  nearest integer, on a tie the even one (`StandsFor.roundedMantissa_eq`);
* `Binary.Covers` — a number lies in the window of a magnitude;
* `Binary.Covers.roundWithAccuracy_eq` — rounding a number in the window gives the magnitude;
* `Binary.Covers.nearest_eq` — so the float nearest to a decimal in the window is that of the magnitude.
-/

open Float.Model (Format UnpackedFloat totalExponent)
open Float.Model.UnpackedFloat

/-! ### Residual bits -/

/-- The number that a mantissa with residual bits stands for, as far as they tell. -/
inductive StandsFor : ExtendedMantissa → ℚ → Prop where
  | exact {m : ℕ} {y : ℚ} (h : y = m) : StandsFor ⟨m, false, false⟩ y
  | below {m : ℕ} {y : ℚ} (hlow : m < y) (hhigh : y < m + 1 / 2) : StandsFor ⟨m, false, true⟩ y
  | half {m : ℕ} {y : ℚ} (h : y = m + 1 / 2) : StandsFor ⟨m, true, false⟩ y
  | above {m : ℕ} {y : ℚ} (hlow : m + 1 / 2 < y) (hhigh : y < m + 1) : StandsFor ⟨m, true, true⟩ y

namespace StandsFor

variable {em : ExtendedMantissa} {y : ℚ}

theorem shiftRightOne_even (n : ℕ) (r s : Bool) :
    (ExtendedMantissa.mk (2 * n) r s).shiftRightOne = ⟨n, false, r || s⟩ := by
  simp [ExtendedMantissa.shiftRightOne]

theorem shiftRightOne_odd (n : ℕ) (r s : Bool) :
    (ExtendedMantissa.mk (2 * n + 1) r s).shiftRightOne = ⟨n, true, r || s⟩ := by
  have hhalf : (2 * n + 1) / 2 = n := by omega
  simp [ExtendedMantissa.shiftRightOne, hhalf]

/-- One shift to the right halves the number. -/
theorem shiftRightOne (h : StandsFor em y) : StandsFor em.shiftRightOne (y / 2) := by
  have hparity (m : ℕ) : ∃ n, m = 2 * n ∨ m = 2 * n + 1 := ⟨m / 2, by omega⟩
  cases h with
  | @exact m _ h =>
    obtain ⟨n, rfl | rfl⟩ := hparity m <;> push_cast at h
    · exact shiftRightOne_even n _ _ ▸ .exact (by linarith)
    · exact shiftRightOne_odd n _ _ ▸ .half (by linarith)
  | @below m _ hlow hhigh =>
    obtain ⟨n, rfl | rfl⟩ := hparity m <;> push_cast at hlow hhigh
    · exact shiftRightOne_even n _ _ ▸ .below (by linarith) (by linarith)
    · exact shiftRightOne_odd n _ _ ▸ .above (by linarith) (by linarith)
  | @half m _ h =>
    obtain ⟨n, rfl | rfl⟩ := hparity m <;> push_cast at h
    · exact shiftRightOne_even n _ _ ▸ .below (by linarith) (by linarith)
    · exact shiftRightOne_odd n _ _ ▸ .above (by linarith) (by linarith)
  | @above m _ hlow hhigh =>
    obtain ⟨n, rfl | rfl⟩ := hparity m <;> push_cast at hlow hhigh
    · exact shiftRightOne_even n _ _ ▸ .below (by linarith) (by linarith)
    · exact shiftRightOne_odd n _ _ ▸ .above (by linarith) (by linarith)

/-- **Shifting to the right** divides the number by a power of two. -/
theorem shiftRight (h : StandsFor em y) (n : ℕ) : StandsFor (em >>> n) (y / 2 ^ n) := by
  show StandsFor (n.repeat ExtendedMantissa.shiftRightOne em) _
  induction n with
  | zero =>
    rw [pow_zero, div_one]
    exact h
  | succ n ih =>
    have hpow : y / 2 ^ (n + 1) = y / 2 ^ n / 2 := by rw [pow_succ, div_mul_eq_div_div]
    rw [hpow]
    exact ih.shiftRightOne

/-- **Rounding** gives the number that is not further away than a half; one that is a half away is
    even. -/
theorem roundedMantissa_eq (h : StandsFor em y) {n : ℕ} (hlow : n - 1 / 2 ≤ y)
    (hhigh : y ≤ n + 1 / 2) (hodd : n % 2 = 1 → n - 1 / 2 < y ∧ y < n + 1 / 2) :
    em.roundedMantissa = n := by
  cases h with
  | @exact m _ h =>
    have hle : n < m + 1 := by exact_mod_cast (by linarith : (n : ℚ) < m + 1)
    have hge : m < n + 1 := by exact_mod_cast (by linarith : (m : ℚ) < n + 1)
    show m = n
    omega
  | @below m _ hm hm' =>
    have hle : n < m + 1 := by exact_mod_cast (by linarith : (n : ℚ) < m + 1)
    have hge : m < n + 1 := by exact_mod_cast (by linarith : (m : ℚ) < n + 1)
    show m = n
    omega
  | @half m _ h =>
    have hle : n ≤ m + 1 := by exact_mod_cast (by linarith : (n : ℚ) ≤ m + 1)
    have hge : m ≤ n := by exact_mod_cast (by linarith : (m : ℚ) ≤ n)
    -- both neighbours are half a unit away, and the even one is meant
    have heven : n % 2 = 0 := by
      by_contra hne
      obtain ⟨hstrict, hstrict'⟩ := hodd (by omega)
      have hlt : n < m + 1 := by exact_mod_cast (by linarith : (n : ℚ) < m + 1)
      have hgt : m < n := by exact_mod_cast (by linarith : (m : ℚ) < n)
      omega
    show m + m % 2 = n
    omega
  | @above m _ hm hm' =>
    have hle : n < m + 2 := by exact_mod_cast (by linarith : (n : ℚ) < m + 2)
    have hge : m < n := by exact_mod_cast (by linarith : (m : ℚ) < n)
    show m + 1 = n
    omega

/-- The integer part of the number. -/
theorem bounds (h : StandsFor em y) : em.mantissa ≤ y ∧ y < em.mantissa + 1 := by
  cases h with
  | exact h => exact ⟨by simp [h], by simp [h]⟩
  | below hlow hhigh => exact ⟨hlow.le, by linarith⟩
  | half h => exact ⟨by simp [h], by rw [h]; linarith⟩
  | above hlow hhigh => exact ⟨by linarith, hhigh⟩

theorem of_exact (n : ℕ) : StandsFor (.ofMantissaAndAccuracy n .exact) n := .exact rfl

/-- A quotient and its remainder. -/
theorem of_fraction (q : ℕ) {n d : ℕ} (hd : n < d) :
    StandsFor (.ofMantissaAndAccuracy q (accuracyOfFraction n d)) (q + n / d) := by
  have hpos : (0 : ℚ) < d := by exact_mod_cast Nat.zero_lt_of_lt hd
  have hlt : (n : ℚ) / d < 1 := by
    rw [div_lt_one hpos]
    exact_mod_cast hd
  rw [accuracyOfFraction]
  split
  · rename_i h
    exact .exact (by simp [h])
  · rename_i h
    have hn : (0 : ℚ) < n := by exact_mod_cast Nat.pos_of_ne_zero h
    cases hcompare : compare (2 * n) d with
    | lt =>
      have hless : (2 * n : ℚ) < d := by exact_mod_cast Nat.compare_eq_lt.mp hcompare
      refine .below (by linarith [div_pos hn hpos]) ?_
      have : (n : ℚ) / d < 1 / 2 := by rw [div_lt_div_iff₀ hpos two_pos]; linarith
      linarith
    | eq =>
      have heq : (2 * n : ℚ) = d := by exact_mod_cast Nat.compare_eq_eq.mp hcompare
      refine .half ?_
      rw [← heq]
      field_simp
    | gt =>
      have hgreater : (d : ℚ) < 2 * n := by exact_mod_cast Nat.compare_eq_gt.mp hcompare
      refine .above ?_ (by linarith)
      have : 1 / 2 < (n : ℚ) / d := by rw [div_lt_div_iff₀ two_pos hpos]; linarith
      linarith

end StandsFor

/-! ### Exponents -/

theorem two_zpow_pos (e : ℤ) : (0 : ℚ) < 2 ^ e := zpow_pos two_pos e

theorem two_zpow_sub_one (e : ℤ) : (2 : ℚ) ^ (e - 1) = 2 ^ e / 2 := zpow_sub_one₀ two_ne_zero e

/-- A number less than two to the total exponent. -/
theorem lt_totalExponent (m : ℕ) (e : ℤ) : ((m : ℚ) + 1) * 2 ^ e ≤ 2 ^ totalExponent m e := by
  have hlt : m + 1 ≤ 2 ^ (m.log2 + 1) := Nat.lt_log2_self
  have hcast : (m : ℚ) + 1 ≤ 2 ^ (m.log2 + 1) := by exact_mod_cast hlt
  have hsplit : (2 : ℚ) ^ totalExponent m e = 2 ^ (m.log2 + 1) * 2 ^ e := by
    rw [totalExponent, zpow_add₀ two_ne_zero]
    norm_cast
  rw [hsplit]
  exact mul_le_mul_of_nonneg_right hcast (two_zpow_pos e).le

theorem totalExponent_le {m : ℕ} (hm : m ≠ 0) (e : ℤ) :
    (2 : ℚ) ^ (totalExponent m e - 1) ≤ m * 2 ^ e := by
  have hle : 2 ^ m.log2 ≤ m := Nat.log2_self_le hm
  have hcast : (2 : ℚ) ^ m.log2 ≤ m := by exact_mod_cast hle
  have hsplit : (2 : ℚ) ^ (totalExponent m e - 1) = 2 ^ m.log2 * 2 ^ e := by
    have hexponent : totalExponent m e - 1 = m.log2 + e := by
      rw [totalExponent]
      ring
    rw [hexponent, zpow_add₀ two_ne_zero, zpow_natCast]
  rw [hsplit]
  exact mul_le_mul_of_nonneg_right hcast (two_zpow_pos e).le

/-- The total exponent tells how large a number is whose mantissa and residual bits are known. -/
theorem StandsFor.lt_two_zpow {em : ExtendedMantissa} {x : ℚ} {e : ℤ}
    (h : StandsFor em (x / 2 ^ e)) : x < 2 ^ totalExponent em.mantissa e := by
  have hceil := h.bounds.2
  rw [div_lt_iff₀ (two_zpow_pos e)] at hceil
  exact hceil.trans_le (lt_totalExponent _ e)

theorem mantissa_ofMantissaAndAccuracy (m : ℕ) (acc : Accuracy) :
    (ExtendedMantissa.ofMantissaAndAccuracy m acc).mantissa = m := by
  cases acc with
  | exact => rfl
  | inexact o => cases o <;> rfl

theorem targetExponent_eq (t : ℤ) : Format.binary64.targetExponent t = max (t - 53) (-1074) := rfl

/-! ### Windows -/

namespace Binary

/-- The magnitude as a number. -/
def value (b : Binary) : ℚ := b.mantissa * 2 ^ b.exponent

/-- The lower end of the window: half a unit below, or a quarter where the gap is narrow. -/
def low (b : Binary) : ℚ := (b.mantissa - if b.narrowBelow then 1 / 4 else 1 / 2) * 2 ^ b.exponent

/-- The upper end of the window. -/
def high (b : Binary) : ℚ := (b.mantissa + 1 / 2) * 2 ^ b.exponent

/-- **The window** of a magnitude.  The ends belong to it if the mantissa is even. -/
structure Covers (b : Binary) (x : ℚ) : Prop where
  low : b.low ≤ x
  high : x ≤ b.high
  odd : b.mantissa % 2 = 1 → b.low < x ∧ x < b.high

variable {b : Binary} {x : ℚ}

theorem low_ge (b : Binary) : (b.mantissa - 1 / 2 : ℚ) * 2 ^ b.exponent ≤ b.low := by
  refine mul_le_mul_of_nonneg_right ?_ (two_zpow_pos _).le
  split <;> linarith

theorem Canonical.high_lt (hc : b.Canonical) : b.high < 2 ^ (b.exponent + 53) := by
  have hlt : b.mantissa + 1 ≤ 2 ^ 53 := hc.lt
  have hcast : (b.mantissa : ℚ) + 1 ≤ 2 ^ 53 := by exact_mod_cast hlt
  rw [zpow_add₀ two_ne_zero, mul_comm]
  refine mul_lt_mul_of_pos_right ?_ (two_zpow_pos _)
  show (b.mantissa + 1 / 2 : ℚ) < 2 ^ 53
  linarith

/-- Where the exponent could be lower, the window begins above the numbers with a lower one, but for
    the least mantissa. -/
theorem Canonical.lt_low (hc : b.Canonical) (h : -1074 < b.exponent) :
    (2 : ℚ) ^ (b.exponent + 51) < b.low ∧ (b.mantissa ≠ 2 ^ 52 → 2 ^ (b.exponent + 52) < b.low) := by
  have hfull : 2 ^ 52 ≤ b.mantissa := hc.full.resolve_right (by omega)
  have hcast : (2 : ℚ) ^ 52 ≤ b.mantissa := by exact_mod_cast hfull
  have hpos := two_zpow_pos b.exponent
  constructor
  · refine lt_of_lt_of_le ?_ b.low_ge
    rw [zpow_add₀ two_ne_zero, mul_comm]
    refine mul_lt_mul_of_pos_right ?_ hpos
    show (2 : ℚ) ^ 51 < _
    linarith
  · intro hne
    have hmore : 2 ^ 52 + 1 ≤ b.mantissa := by omega
    have hcast' : (2 : ℚ) ^ 52 + 1 ≤ b.mantissa := by exact_mod_cast hmore
    refine lt_of_lt_of_le ?_ b.low_ge
    rw [zpow_add₀ two_ne_zero, mul_comm]
    refine mul_lt_mul_of_pos_right ?_ hpos
    show (2 : ℚ) ^ 52 < _
    linarith

/-- The exponent that a number in the window is rounded to is that of the magnitude.  Only just below
    a power of two it is the one below. -/
theorem Covers.targetExponent (hx : b.Covers x) (hc : b.Canonical) {em : ExtendedMantissa} {e : ℤ}
    (h : StandsFor em (x / 2 ^ e))
    (he : e ≤ Format.binary64.targetExponent (totalExponent em.mantissa e)) :
    Format.binary64.targetExponent (totalExponent em.mantissa e) = b.exponent
      ∨ Format.binary64.targetExponent (totalExponent em.mantissa e) = b.exponent - 1
        ∧ b.mantissa = 2 ^ 52 ∧ -1074 < b.exponent ∧ x < 2 ^ (b.exponent + 52) := by
  have hlt := h.lt_two_zpow
  have hfloor := h.bounds.1
  rw [le_div_iff₀ (two_zpow_pos e)] at hfloor
  have hlow := hc.low
  rw [targetExponent_eq] at he ⊢
  have hupper : totalExponent em.mantissa e - 53 ≤ b.exponent := by
    by_cases hzero : em.mantissa = 0
    · have htotal : totalExponent em.mantissa e = 1 + e := by simp [totalExponent, hzero]
      omega
    · have hpow : (2 : ℚ) ^ (totalExponent em.mantissa e - 1) < 2 ^ (b.exponent + 53) :=
        ((totalExponent_le hzero e).trans hfloor).trans_lt (hx.high.trans_lt hc.high_lt)
      have hexponent := (zpow_lt_zpow_iff_right₀ one_lt_two).mp hpow
      omega
  by_cases hleast : b.exponent = -1074
  · left
    omega
  · obtain ⟨hmore, hfull⟩ := hc.lt_low (by omega)
    have hexponent := (zpow_lt_zpow_iff_right₀ one_lt_two).mp ((hmore.trans_le hx.low).trans hlt)
    by_cases htotal : totalExponent em.mantissa e = b.exponent + 52
    · refine .inr ⟨by omega, ?_, by omega, htotal ▸ hlt⟩
      by_contra hne
      have hcontra := ((hfull hne).trans_le hx.low).trans hlt
      rw [htotal] at hcontra
      exact lt_irrefl _ hcontra
    · left
      omega

theorem shiftToExponent_eq {m : ℕ} {e t : ℤ} {acc : Accuracy} {y : ℚ}
    (h : StandsFor (.ofMantissaAndAccuracy m acc) (y / 2 ^ e)) (he : e ≤ t) :
    StandsFor (shiftToExponent m e acc t).1 (y / 2 ^ t) ∧ (shiftToExponent m e acc t).2 = t := by
  constructor
  · have hshift := h.shiftRight (t - e).toNat
    have hpow : y / 2 ^ e / 2 ^ (t - e).toNat = y / 2 ^ t := by
      rw [div_div, ← zpow_natCast, ← zpow_add₀ two_ne_zero]
      congr 2
      omega
    rw [hpow] at hshift
    exact hshift
  · show e + ((t - e).toNat : ℤ) = t
    omega

/-- A canonical exponent is the one that is asked for. -/
theorem Canonical.targetExponent (hc : b.Canonical) :
    Format.binary64.targetExponent (totalExponent b.mantissa b.exponent) = b.exponent := by
  have hlow := hc.low
  rw [targetExponent_eq, totalExponent]
  rcases hc.log2 with ⟨-, hlog⟩ | ⟨-, hleast, hlog⟩ <;> omega

/-- The mantissa with the exponent of the magnitude. -/
theorem Covers.roundedMantissa_same (hx : b.Covers x) {em : ExtendedMantissa}
    (h : StandsFor em (x / 2 ^ b.exponent)) : em.roundedMantissa = b.mantissa := by
  have hpos := two_zpow_pos b.exponent
  obtain ⟨hlow, hhigh, hodd⟩ := hx
  refine h.roundedMantissa_eq ?_ ?_ fun hm => ?_
  · rw [le_div_iff₀ hpos]
    exact b.low_ge.trans hlow
  · rw [div_le_iff₀ hpos]
    exact hhigh
  · obtain ⟨hstrict, hstrict'⟩ := hodd hm
    rw [lt_div_iff₀ hpos, div_lt_iff₀ hpos]
    exact ⟨b.low_ge.trans_lt hstrict, hstrict'⟩

/-- The mantissa with the exponent below, where the spacing is half of what it is at the magnitude. -/
theorem Covers.roundedMantissa_below (hx : b.Covers x) (hc : b.Canonical) {em : ExtendedMantissa}
    (h : StandsFor em (x / 2 ^ (b.exponent - 1))) (hm : b.mantissa = 2 ^ 52)
    (hleast : -1074 < b.exponent) (hlt : x < 2 ^ (b.exponent + 52)) :
    em.roundedMantissa = 2 ^ 53 := by
  have hlow := hx.low
  have hnarrow : b.narrowBelow = true := by
    rw [hc.narrow]
    exact decide_eq_true ⟨hm, hleast⟩
  rw [Binary.low, hnarrow, if_pos rfl, hm] at hlow
  have hpow : (2 : ℚ) ^ (52 : ℤ) = 2 ^ 52 := by norm_num
  rw [zpow_add₀ two_ne_zero, hpow] at hlt
  have hlower : ((2 ^ 53 : ℕ) : ℚ) - 1 / 2 ≤ x / 2 ^ (b.exponent - 1) := by
    rw [le_div_iff₀ (two_zpow_pos _), two_zpow_sub_one]
    push_cast at hlow ⊢
    linarith
  have hupper : x / 2 ^ (b.exponent - 1) < ((2 ^ 53 : ℕ) : ℚ) := by
    rw [div_lt_iff₀ (two_zpow_pos _), two_zpow_sub_one]
    push_cast
    linarith
  exact h.roundedMantissa_eq hlower (by linarith) (fun h => absurd h (by decide))

/-- What is rounded has the value of the magnitude, with its exponent or the one below. -/
theorem Covers.roundedMantissa (hx : b.Covers x) (hc : b.Canonical) {em : ExtendedMantissa} {t : ℤ}
    (h : StandsFor em (x / 2 ^ t))
    (ht : t = b.exponent ∨ t = b.exponent - 1 ∧ b.mantissa = 2 ^ 52 ∧ -1074 < b.exponent
      ∧ x < 2 ^ (b.exponent + 52)) :
    (em.roundedMantissa : ℚ) * 2 ^ t = b.value ∧ t ≤ b.exponent
      ∧ Format.binary64.targetExponent (totalExponent em.roundedMantissa t) = b.exponent := by
  rcases ht with rfl | ⟨rfl, hm, hleast, hlt⟩
  · rw [hx.roundedMantissa_same h]
    exact ⟨rfl, le_refl _, hc.targetExponent⟩
  · rw [hx.roundedMantissa_below hc h hm hleast hlt, value, hm, two_zpow_sub_one]
    refine ⟨?_, by omega, ?_⟩
    · push_cast
      ring
    · have hlog : (2 ^ 53).log2 = 53 := Nat.log2_two_pow
      rw [targetExponent_eq, totalExponent, hlog]
      omega

/-- Shifting a mantissa with the value of the magnitude to its exponent drops zeros only. -/
theorem mantissa_shiftToExponent {r : ℕ} {t : ℤ} (hvalue : (r : ℚ) * 2 ^ t = b.value)
    (ht : t ≤ b.exponent) :
    (shiftToExponent r t .exact b.exponent).1.mantissa = b.mantissa
      ∧ (shiftToExponent r t .exact b.exponent).2 = b.exponent := by
  have hexact : StandsFor (.ofMantissaAndAccuracy r .exact) (b.value / 2 ^ t) := by
    rw [← hvalue, mul_div_cancel_right₀ _ (two_zpow_pos t).ne']
    exact .of_exact r
  obtain ⟨hstands, hexponent⟩ := shiftToExponent_eq hexact ht
  rw [value, mul_div_cancel_right₀ _ (two_zpow_pos _).ne'] at hstands
  obtain ⟨hfloor, hceil⟩ := hstands.bounds
  have hle : (shiftToExponent r t .exact b.exponent).1.mantissa ≤ b.mantissa := by
    exact_mod_cast hfloor
  have hge : b.mantissa < (shiftToExponent r t .exact b.exponent).1.mantissa + 1 := by
    exact_mod_cast hceil
  exact ⟨by omega, hexponent⟩

theorem roundWithAccuracy_of {m r : ℕ} {e t : ℤ} {acc : Accuracy} {em : ExtendedMantissa}
    (hfirst : shiftToTargetExponent Format.binary64 m e acc = (em, t))
    (hr : em.roundedMantissa = r)
    (ht : Format.binary64.targetExponent (totalExponent r t) = b.exponent)
    (hvalue : (r : ℚ) * 2 ^ t = b.value) (hle : t ≤ b.exponent) (hc : b.Canonical) (s : Sign) :
    roundWithAccuracy Format.binary64 s m e acc = b.signed hc s := by
  obtain ⟨hmantissa, hexponent⟩ := mantissa_shiftToExponent hvalue hle
  have hsecond : shiftToTargetExponent Format.binary64 r t .exact
      = shiftToExponent r t .exact b.exponent := by rw [shiftToTargetExponent, ht]
  rw [roundWithAccuracy]
  simp only [hfirst, hr, hsecond, hmantissa, hexponent]
  exact dif_neg (Nat.pos_iff_ne_zero.mp hc.pos)

/-- **Rounding a number in the window** of a magnitude gives the magnitude. -/
theorem Covers.roundWithAccuracy_eq (hx : b.Covers x) (hc : b.Canonical) {m : ℕ} {e : ℤ}
    {acc : Accuracy} (h : StandsFor (.ofMantissaAndAccuracy m acc) (x / 2 ^ e))
    (he : e ≤ Format.binary64.targetExponent (totalExponent m e)) (s : Sign) :
    roundWithAccuracy Format.binary64 s m e acc = b.signed hc s := by
  have hm := mantissa_ofMantissaAndAccuracy m acc
  have htarget := hx.targetExponent hc h (hm.symm ▸ he)
  rw [hm] at htarget
  obtain ⟨hstands, hexponent⟩ := shiftToExponent_eq h he
  obtain ⟨hvalue, hle, hagain⟩ := hx.roundedMantissa hc hstands htarget
  have hfirst : shiftToTargetExponent Format.binary64 m e acc
      = ((shiftToExponent m e acc (Format.binary64.targetExponent (totalExponent m e))).1,
        Format.binary64.targetExponent (totalExponent m e)) := by
    rw [shiftToTargetExponent]
    exact Prod.ext (Eq.refl _) hexponent
  exact roundWithAccuracy_of hfirst rfl hagain hvalue hle hc s

/-! ### Decimals -/

theorem Canonical.least_le_low (hc : b.Canonical) : (2 : ℚ) ^ (-1075 : ℤ) ≤ b.low := by
  have hone : (1 : ℚ) ≤ b.mantissa := by exact_mod_cast hc.pos
  have hpow : (2 : ℚ) ^ (-1074 : ℤ) ≤ 2 ^ b.exponent := zpow_le_zpow_right₀ one_le_two hc.low
  have hpos := two_zpow_pos b.exponent
  calc (2 : ℚ) ^ (-1075 : ℤ) = 2⁻¹ * 2 ^ (-1074 : ℤ) := by
        rw [← zpow_neg_one, ← zpow_add₀ two_ne_zero]
        rfl
    _ ≤ (b.mantissa - 1 / 2) * 2 ^ b.exponent := by
        refine mul_le_mul ?_ hpow (two_zpow_pos _).le ?_ <;> linarith
    _ ≤ b.low := b.low_ge

theorem Canonical.high_lt_greatest (hc : b.Canonical) : b.high < (2 : ℚ) ^ (1024 : ℤ) := by
  have hhigh := hc.high
  exact hc.high_lt.trans_le (zpow_le_zpow_right₀ one_le_two (by omega))

/-- The exponent of a decimal in the window. -/
theorem Covers.exponent_bounds (hc : b.Canonical) {m : ℕ} {k : ℤ} (hx : b.Covers (m * 10 ^ k)) :
    m ≠ 0 ∧ k < 1024 ∧ -(m.log2 : ℤ) - 1076 ≤ k := by
  have hlow := hc.least_le_low.trans hx.low
  have hhigh := hx.high.trans_lt hc.high_lt_greatest
  have hm : m ≠ 0 := by
    rintro rfl
    have hpos := two_zpow_pos (-1075)
    rw [Nat.cast_zero, zero_mul] at hlow
    linarith
  have hone : (1 : ℚ) ≤ m := by exact_mod_cast Nat.pos_of_ne_zero hm
  have hten : (0 : ℚ) < 10 ^ k := zpow_pos (by norm_num) k
  refine ⟨hm, ?_, ?_⟩
  · by_contra hk
    have hpow : (2 : ℚ) ^ (1024 : ℤ) ≤ 10 ^ k :=
      (zpow_le_zpow_right₀ one_le_two (by omega)).trans
        (zpow_le_zpow_left₀ (by omega) (by norm_num) (by norm_num))
    have : (10 : ℚ) ^ k ≤ m * 10 ^ k := le_mul_of_one_le_left hten.le hone
    linarith
  · by_contra hk
    have hfive : (10 : ℚ) ^ k ≤ 2 ^ k := by
      have hsplit : (10 : ℚ) ^ k = 2 ^ k * 5 ^ k := by
        rw [← mul_zpow]
        norm_num
      rw [hsplit]
      exact mul_le_of_le_one_right (two_zpow_pos k).le
        (zpow_le_one_of_nonpos₀ (by norm_num) (by omega))
    have hpow : (2 : ℚ) ^ totalExponent m k ≤ 2 ^ (-1075 : ℤ) :=
      zpow_le_zpow_right₀ one_le_two (by rw [totalExponent]; omega)
    have hlt : (m : ℚ) * 10 ^ k < 2 ^ totalExponent m k :=
      calc (m : ℚ) * 10 ^ k ≤ m * 2 ^ k := mul_le_mul_of_nonneg_left hfive (by linarith)
        _ < (m + 1) * 2 ^ k := by linarith [two_zpow_pos k]
        _ ≤ 2 ^ totalExponent m k := lt_totalExponent m k
    linarith

/-- Dividing finds the quotient with enough bits, and what its rest says of the number. -/
theorem divCore_spec {m d : ℕ} (hm : m ≠ 0) (hd : d ≠ 0) :
    let r := divCore Format.binary64 m 0 d 0
    StandsFor (.ofMantissaAndAccuracy r.1 r.2.2) (m / d / 2 ^ r.2.1)
      ∧ r.2.1 ≤ Format.binary64.targetExponent (totalExponent r.1 r.2.1) := by
  have hd' : (0 : ℚ) < d := by exact_mod_cast Nat.pos_of_ne_zero hd
  simp only [divCore, sub_self]
  generalize ht : Format.binary64.targetExponent (totalExponent m 0 - totalExponent d 0) = t
  have hstands : StandsFor (.ofMantissaAndAccuracy ((m <<< (0 - min 0 t).toNat) / d)
      (accuracyOfFraction ((m <<< (0 - min 0 t).toNat) % d) d)) (m / d / 2 ^ min 0 t) := by
    have hshift : ((m <<< (0 - min 0 t).toNat : ℕ) : ℚ) = m / 2 ^ min 0 t := by
      rw [Nat.shiftLeft_eq, Nat.cast_mul, Nat.cast_pow, Nat.cast_ofNat, ← zpow_natCast, div_eq_mul_inv,
        ← zpow_neg]
      congr 2
      omega
    have hquotient : (m / d / 2 ^ min 0 t : ℚ) = ((m <<< (0 - min 0 t).toNat) / d : ℕ)
        + ((m <<< (0 - min 0 t).toNat) % d : ℕ) / d := by
      rw [div_right_comm, ← hshift]
      have hsplit := Nat.div_add_mod (m <<< (0 - min 0 t).toNat) d
      rw [div_eq_iff hd'.ne', add_mul, div_mul_cancel₀ _ hd'.ne', mul_comm]
      exact_mod_cast hsplit.symm
    rw [hquotient]
    exact .of_fraction _ (Nat.mod_lt _ (Nat.pos_of_ne_zero hd))
  refine ⟨hstands, ?_⟩
  have hlt := hstands.lt_two_zpow
  rw [mantissa_ofMantissaAndAccuracy] at hlt
  have hnumerator := totalExponent_le hm 0
  have hdenominator := lt_totalExponent d 0
  rw [zpow_zero, mul_one] at hnumerator hdenominator
  have hgt : (2 : ℚ) ^ (totalExponent m 0 - 1 - totalExponent d 0) < m / d := by
    rw [zpow_sub₀ two_ne_zero, div_lt_div_iff₀ (two_zpow_pos _) hd']
    have hpos := two_zpow_pos (totalExponent m 0 - 1)
    nlinarith
  have hexponent := (zpow_lt_zpow_iff_right₀ one_lt_two).mp (hgt.trans hlt)
  rw [targetExponent_eq] at ht ⊢
  omega

/-- Multiplying is exact. -/
theorem mul_spec {m : ℕ} (hm : m ≠ 0) (n : ℕ) :
    StandsFor (.ofMantissaAndAccuracy (m <<< 53 * 10 ^ n) .exact) (m * 10 ^ n / 2 ^ (-53 : ℤ))
      ∧ -53 ≤ Format.binary64.targetExponent (totalExponent (m <<< 53 * 10 ^ n) (-53)) := by
  have hstands : StandsFor (.ofMantissaAndAccuracy (m <<< 53 * 10 ^ n) .exact)
      (m * 10 ^ n / 2 ^ (-53 : ℤ)) := by
    refine .exact ?_
    rw [Nat.shiftLeft_eq]
    push_cast
    norm_num
    ring
  refine ⟨hstands, ?_⟩
  have hone : (2 : ℚ) ^ (0 : ℤ) ≤ m * 10 ^ n := by
    have hm' : (1 : ℚ) ≤ m := by exact_mod_cast Nat.pos_of_ne_zero hm
    rw [zpow_zero]
    exact one_le_mul_of_one_le_of_one_le hm' (one_le_pow₀ (by norm_num))
  have hexponent := (zpow_lt_zpow_iff_right₀ one_lt_two).mp (hone.trans_lt hstands.lt_two_zpow)
  rw [mantissa_ofMantissaAndAccuracy] at hexponent
  rw [targetExponent_eq]
  omega

/-- A decimal in the window of a magnitude is rounded to the magnitude. -/
theorem Covers.ofScientific_eq (hc : b.Canonical) {m : ℕ} {k : ℤ} (hx : b.Covers (m * 10 ^ k)) :
    UnpackedFloat.ofScientific Format.binary64 m k = b.signed hc .positive := by
  obtain ⟨hm, hhigh, hlow⟩ := hx.exponent_bounds hc
  rw [UnpackedFloat.ofScientific, dif_neg hm, if_neg (by show ¬k > 2048; omega),
    if_neg (by show ¬k < -(2048 + _); omega)]
  split
  · rename_i hk
    obtain ⟨n, rfl⟩ := Int.eq_ofNat_of_zero_le hk
    obtain ⟨hstands, hexponent⟩ := mul_spec hm n
    rw [← zpow_natCast] at hstands
    rw [UnpackedFloat.mul, Int.toNat_natCast]
    exact hx.roundWithAccuracy_eq hc hstands hexponent _
  · rename_i hk
    obtain ⟨n, rfl⟩ : ∃ n : ℕ, k = -n := ⟨k.natAbs, by omega⟩
    obtain ⟨hstands, hexponent⟩ := divCore_spec hm (pow_ne_zero n (by decide : (10 : ℕ) ≠ 0))
    have hvalue : (m / (10 ^ n : ℕ) : ℚ) = m * 10 ^ (-(n : ℤ)) := by
      rw [zpow_neg, zpow_natCast, div_eq_mul_inv]
      push_cast
      rfl
    rw [hvalue] at hstands
    rw [UnpackedFloat.div, neg_neg, Int.toNat_natCast]
    exact hx.roundWithAccuracy_eq hc hstands hexponent _

/-- **The float nearest to a decimal** in the window of a magnitude is that of the magnitude. -/
theorem Covers.nearest_eq (hc : b.Canonical) {m : ℕ} {k : ℤ} (hx : b.Covers (m * 10 ^ k))
    (negative : Bool) :
    Decimal.nearest negative m k = b.toFloat hc (if negative then .negative else .positive) := by
  have hmagnitude : Float.ofModel (Float.Model.ofScientific m k) = b.toFloat hc .positive := by
    rw [Float.Model.ofScientific, hx.ofScientific_eq hc]
    rfl
  rw [Decimal.nearest, hmagnitude]
  cases negative with
  | false => rfl
  | true => exact neg_toFloat hc .positive

end Binary

end GuardErasure
