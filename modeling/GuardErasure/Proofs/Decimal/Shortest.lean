import GuardErasure.Decimal.Shortest
import GuardErasure.Proofs.Decimal.Rounding

namespace GuardErasure

/-!
# Shortest decimals lie in the window

The search for the shortest decimal of a magnitude works with integers, over a denominator that makes
them of its window and of the grid:

* `Binary.window_low`, `Binary.window_value`, `Binary.window_high` — the window of integers is the
  window of numbers;
* `Binary.covers_of_onGrid?` — what is found on a grid lies in the window;
* `Binary.width_le_of_onGrid?` — a grid with nothing in the window is at least as wide as the window,
  which one of seventeen digits is not (`Binary.lt_width`);
* `Binary.shortest_eq` — so the search ends in the window.
-/

/-- The two natural powers that an integer power is the quotient of. -/
theorem pow_toNat_eq {a : ℚ} (ha : a ≠ 0) (k : ℤ) : a ^ k.toNat = a ^ k * a ^ (-k).toNat := by
  have hsplit : (k.toNat : ℤ) = k + (-k).toNat := by omega
  rw [← zpow_natCast, ← zpow_natCast, ← zpow_add₀ ha, ← hsplit]

namespace Binary

variable {b : Binary}

/-! ### The window of integers -/

theorem window_scale (b : Binary) :
    ((Nat.pow 2 (b.exponent - 2).toNat : ℕ) : ℚ) = 2 ^ b.exponent / 4 * b.window.denominator := by
  have hquarter : (2 : ℚ) ^ b.exponent / 4 = 2 ^ (b.exponent - 2) := by
    rw [zpow_sub₀ two_ne_zero]
    norm_num
  have hneg : -(b.exponent - 2) = 2 - b.exponent := by ring
  have hpow := pow_toNat_eq (two_ne_zero (α := ℚ)) (b.exponent - 2)
  rw [hneg] at hpow
  rw [hquarter]
  exact_mod_cast hpow

theorem window_value (b : Binary) : (b.window.value : ℚ) = b.value * b.window.denominator := by
  have hvalue : b.window.value = 4 * b.mantissa * Nat.pow 2 (b.exponent - 2).toNat := rfl
  rw [hvalue, Nat.cast_mul, window_scale, value]
  push_cast
  ring

theorem window_high (b : Binary) : (b.window.high : ℚ) = b.high * b.window.denominator := by
  have hhigh : b.window.high = (4 * b.mantissa + 2) * Nat.pow 2 (b.exponent - 2).toNat := rfl
  rw [hhigh, Nat.cast_mul, window_scale, high]
  push_cast
  ring

theorem window_low (hc : b.Canonical) : (b.window.low : ℚ) = b.low * b.window.denominator := by
  have hlow : b.window.low
      = (4 * b.mantissa - if b.narrowBelow then 1 else 2) * Nat.pow 2 (b.exponent - 2).toNat := rfl
  have hpos := hc.pos
  have hcast : ((4 * b.mantissa - if b.narrowBelow then 1 else 2 : ℕ) : ℚ)
      = 4 * (b.mantissa - if b.narrowBelow then 1 / 4 else 1 / 2) := by
    split
    · rw [Nat.cast_sub (by omega)]
      push_cast
      ring
    · rw [Nat.cast_sub (by omega)]
      push_cast
      ring
  rw [hlow, Nat.cast_mul, window_scale, low, hcast]
  ring

theorem denominator_pos (b : Binary) : 0 < b.window.denominator :=
  Nat.pow_pos (by decide)

theorem low_lt_value (b : Binary) : b.low < b.value := by
  refine mul_lt_mul_of_pos_right ?_ (two_zpow_pos _)
  split <;> linarith

theorem value_lt_high (b : Binary) : b.value < b.high :=
  mul_lt_mul_of_pos_right (by linarith) (two_zpow_pos _)

/-! ### Grids -/

/-- What the numbers of the window and of a grid are multiplied with, to make integers of them. -/
def factor (b : Binary) (k : ℤ) : ℚ := b.window.denominator * 10 ^ (-k).toNat

theorem factor_pos (b : Binary) (k : ℤ) : 0 < b.factor k := by
  have hden : (0 : ℚ) < b.window.denominator := by exact_mod_cast b.denominator_pos
  exact mul_pos hden (pow_pos (by norm_num) _)

/-- Whether a number is in the window is told by integers. -/
theorem admits_iff {closed : Bool} {m n : ℕ} {x y c : ℚ} (hc : 0 < c) (hm : (m : ℚ) = x * c)
    (hn : (n : ℚ) = y * c) :
    (if closed then decide (m ≤ n) else decide (m < n)) = true
      ↔ if closed then x ≤ y else x < y := by
  have hle : m ≤ n ↔ x ≤ y := by
    rw [← Nat.cast_le (α := ℚ), hm, hn, mul_le_mul_iff_left₀ hc]
  have hlt : m < n ↔ x < y := by
    rw [← Nat.cast_lt (α := ℚ), hm, hn, mul_lt_mul_iff_left₀ hc]
  cases closed with
  | false => simp [hlt]
  | true => simp [hle]

section Grid

variable {tie : Tie} {k : ℤ} {d : ℕ}

theorem cast_scaled {m : ℕ} {x : ℚ} (hm : (m : ℚ) = x * b.window.denominator) (k : ℤ) :
    ((m * Nat.pow 10 (-k).toNat : ℕ) : ℚ) = x * b.factor k := by
  have hpow : ((Nat.pow 10 (-k).toNat : ℕ) : ℚ) = 10 ^ (-k).toNat := by norm_cast
  rw [Nat.cast_mul, hm, hpow, factor, mul_assoc]

theorem cast_multiple (b : Binary) (k : ℤ) (n : ℕ) :
    ((n * (Nat.pow 10 k.toNat * b.window.denominator) : ℕ) : ℚ) = n * 10 ^ k * b.factor k := by
  have hpow : ((Nat.pow 10 k.toNat : ℕ) : ℚ) = 10 ^ k.toNat := by norm_cast
  rw [Nat.cast_mul, Nat.cast_mul, hpow, pow_toNat_eq (by norm_num) k, factor]
  ring

/-- The value lies between two neighbours on the grid. -/
theorem value_between (b : Binary) (k : ℤ) :
    let down := b.window.value * Nat.pow 10 (-k).toNat
      / (Nat.pow 10 k.toNat * b.window.denominator)
    (down : ℚ) * 10 ^ k ≤ b.value ∧ b.value < ((down + 1 : ℕ) : ℚ) * 10 ^ k := by
  intro down
  have hstep : 0 < Nat.pow 10 k.toNat * b.window.denominator :=
    Nat.mul_pos (Nat.pow_pos (by decide)) b.denominator_pos
  have hle := Nat.div_mul_le_self (b.window.value * Nat.pow 10 (-k).toNat)
    (Nat.pow 10 k.toNat * b.window.denominator)
  have hlt := (Nat.div_lt_iff_lt_mul hstep).mp (Nat.lt_succ_self down)
  rw [← Nat.cast_le (α := ℚ), cast_multiple, cast_scaled b.window_value,
    mul_le_mul_iff_left₀ (b.factor_pos k)] at hle
  rw [← Nat.cast_lt (α := ℚ), cast_multiple, cast_scaled b.window_value,
    mul_lt_mul_iff_left₀ (b.factor_pos k)] at hlt
  exact ⟨hle, hlt⟩

theorem Covers.of_le_value {x : ℚ} (hlow : if b.window.closed then b.low ≤ x else b.low < x)
    (hvalue : x ≤ b.value) : b.Covers x := by
  have hhigh := hvalue.trans_lt b.value_lt_high
  split at hlow
  · rename_i heven
    have hmantissa : b.mantissa % 2 = 0 := of_decide_eq_true heven
    exact ⟨hlow, hhigh.le, fun hodd => by omega⟩
  · exact ⟨hlow.le, hhigh.le, fun _ => ⟨hlow, hhigh⟩⟩

theorem Covers.of_value_le {x : ℚ} (hhigh : if b.window.closed then x ≤ b.high else x < b.high)
    (hvalue : b.value ≤ x) : b.Covers x := by
  have hlow := b.low_lt_value.trans_le hvalue
  split at hhigh
  · rename_i heven
    have hmantissa : b.mantissa % 2 = 0 := of_decide_eq_true heven
    exact ⟨hlow.le, hhigh, fun hodd => by omega⟩
  · exact ⟨hlow.le, hhigh.le, fun _ => ⟨hlow, hhigh⟩⟩

/-- The neighbour below is taken, or that above, or neither is in the window. -/
theorem neighbour_cases (inLow inHigh upWins : Bool) (down : ℕ) :
    let found := if inLow ∧ ¬(inHigh ∧ upWins) then some down
      else if inHigh then some (down + 1) else none
    (found = some down ∧ inLow = true) ∨ (found = some (down + 1) ∧ inHigh = true)
      ∨ (found = none ∧ ¬inLow = true ∧ ¬inHigh = true) := by
  cases inLow <;> cases inHigh <;> cases upWins <;> simp

/-- **The search on a grid** in numbers. -/
theorem onGrid?_cases (hc : b.Canonical) (tie : Tie) (k : ℤ) :
    ∃ down : ℕ, (down : ℚ) * 10 ^ k ≤ b.value ∧ b.value < ((down + 1 : ℕ) : ℚ) * 10 ^ k ∧
      ((b.window.onGrid? tie k = some down
          ∧ if b.window.closed then b.low ≤ down * 10 ^ k else b.low < down * 10 ^ k) ∨
        (b.window.onGrid? tie k = some (down + 1)
          ∧ if b.window.closed then ((down + 1 : ℕ) : ℚ) * 10 ^ k ≤ b.high
            else ((down + 1 : ℕ) : ℚ) * 10 ^ k < b.high) ∨
        (b.window.onGrid? tie k = none
          ∧ (¬if b.window.closed then b.low ≤ down * 10 ^ k else b.low < down * 10 ^ k)
          ∧ ¬if b.window.closed then ((down + 1 : ℕ) : ℚ) * 10 ^ k ≤ b.high
            else ((down + 1 : ℕ) : ℚ) * 10 ^ k < b.high)) := by
  obtain ⟨hbelow, habove⟩ := b.value_between k
  refine ⟨_, hbelow, habove, ?_⟩
  rw [← admits_iff (b.factor_pos k) (cast_scaled (window_low hc) k) (b.cast_multiple k _),
    ← admits_iff (b.factor_pos k) (b.cast_multiple k _) (cast_scaled b.window_high k)]
  exact neighbour_cases _ _ _ _

/-- **What is found on a grid** lies in the window. -/
theorem covers_of_onGrid? (hc : b.Canonical) (h : b.window.onGrid? tie k = some d) :
    b.Covers (d * 10 ^ k) := by
  obtain ⟨down, hbelow, habove, ⟨hfound, hlow⟩ | ⟨hfound, hhigh⟩ | ⟨hfound, -⟩⟩ :=
    onGrid?_cases hc tie k
  · obtain rfl := Option.some.inj (hfound.symm.trans h)
    exact .of_le_value hlow hbelow
  · obtain rfl := Option.some.inj (hfound.symm.trans h)
    exact .of_value_le hhigh habove.le
  · cases hfound.symm.trans h

/-- A grid without a number in the window is at least as wide as the window. -/
theorem width_le_of_onGrid? (hc : b.Canonical) (h : b.window.onGrid? tie k = none) :
    b.high - b.low ≤ 10 ^ k := by
  obtain ⟨down, -, -, ⟨hfound, -⟩ | ⟨hfound, -⟩ | ⟨-, hlow, hhigh⟩⟩ := onGrid?_cases hc tie k
  · cases hfound.symm.trans h
  · cases hfound.symm.trans h
  · have hbelow := le_of_not_gt fun hlt => hlow (by split <;> [exact hlt.le; exact hlt])
    have habove := le_of_not_gt fun hlt => hhigh (by split <;> [exact hlt.le; exact hlt])
    push_cast at habove
    linarith

end Grid

/-! ### Digits -/

theorem pow_digitCount_le {n : ℕ} (hn : 0 < n) : 10 ^ (digitCount n - 1) ≤ n := by
  rw [digitCount, if_neg (by omega)]
  by_contra hlt
  rcases Nat.eq_zero_or_pos ((Nat.toDigits 10 n).length - 1) with hzero | hpos
  · rw [hzero] at hlt
    omega
  · have hlength := (Nat.length_toDigits_le_iff (by decide) hpos).mpr (Nat.lt_of_not_le hlt)
    omega

theorem lt_pow_digitCount (n : ℕ) : n < 10 ^ digitCount n := by
  rw [digitCount]
  split
  · rename_i hzero
    simp [hzero]
  · exact (Nat.length_toDigits_le_iff (by decide) Nat.length_toDigits_pos).mp le_rfl

/-- **The magnitude** of the window is the power of ten that begins the value. -/
theorem magnitude_le (hc : b.Canonical) : (10 : ℚ) ^ b.window.magnitude ≤ b.value := by
  have hden : (0 : ℚ) < b.window.denominator := by exact_mod_cast b.denominator_pos
  have hvalue : 0 < b.window.value := by
    have hpos := mul_pos (mul_pos (Nat.cast_pos (α := ℚ).mpr hc.pos) (two_zpow_pos b.exponent)) hden
    rw [← value, ← window_value] at hpos
    exact_mod_cast hpos
  rw [← mul_le_mul_iff_left₀ hden, ← window_value, Window.magnitude]
  split
  · rename_i hle
    have hquotient : 0 < b.window.value / b.window.denominator :=
      Nat.div_pos hle b.denominator_pos
    have hdigits := (Nat.le_div_iff_mul_le b.denominator_pos).mp (pow_digitCount_le hquotient)
    have hcount : (digitCount (b.window.value / b.window.denominator) : ℤ) - 1
        = (digitCount (b.window.value / b.window.denominator) - 1 : ℕ) := by
      have hsome : 0 < digitCount (b.window.value / b.window.denominator) := by
        rw [digitCount, if_neg (by omega)]
        exact Nat.length_toDigits_pos
      omega
    rw [hcount, zpow_natCast]
    exact_mod_cast hdigits
  · have hdigits := (Nat.div_lt_iff_lt_mul hvalue).mp
      (lt_pow_digitCount ((b.window.denominator - 1) / b.window.value))
    have hle : b.window.denominator
        ≤ 10 ^ digitCount ((b.window.denominator - 1) / b.window.value) * b.window.value := by
      omega
    rw [zpow_neg, zpow_natCast, inv_mul_le_iff₀ (by positivity)]
    exact_mod_cast hle

/-- The window is wider than a grid of seventeen digits. -/
theorem lt_width (hc : b.Canonical) : b.value < (b.high - b.low) * 10 ^ 16 := by
  have hpos := two_zpow_pos b.exponent
  have hwidth : b.high - b.low
      = (1 / 2 + if b.narrowBelow then 1 / 4 else 1 / 2 : ℚ) * 2 ^ b.exponent := by
    rw [high, low]
    ring
  rw [hwidth, value, mul_right_comm]
  refine mul_lt_mul_of_pos_right ?_ hpos
  have hmantissa : (b.mantissa : ℚ) < 2 ^ 53 := by exact_mod_cast hc.lt
  split
  · rename_i hnarrow
    -- where the gap is narrow, the mantissa is the least one
    rw [hc.narrow, decide_eq_true_eq] at hnarrow
    rw [hnarrow.1]
    norm_num
  · linarith

/-- Seventeen digits suffice. -/
theorem onGrid?_ne_none (hc : b.Canonical) (tie : Tie) :
    b.window.onGrid? tie (b.window.magnitude - 16) ≠ none := by
  intro hnone
  have hwide := width_le_of_onGrid? hc hnone
  have hpow : (10 : ℚ) ^ (b.window.magnitude - 16) * 10 ^ 16 = 10 ^ b.window.magnitude := by
    rw [zpow_sub₀ (by norm_num), zpow_ofNat, div_mul_cancel₀ _ (by norm_num)]
  have hvalue := magnitude_le hc
  have hwidth := lt_width hc
  linarith

/-- **The shortest decimal** of a magnitude is written from a number in the window. -/
theorem shortest_eq (hc : b.Canonical) (tie : Tie) :
    ∃ (d : ℕ) (k : ℤ), b.shortest tie = Decimal.ofNat d k ∧ b.Covers (d * 10 ^ k) := by
  rw [shortest]
  cases hfound : (List.range 17).findSome? fun n : ℕ =>
      (b.window.onGrid? tie (b.window.magnitude - n)).map
        (Decimal.ofNat · (b.window.magnitude - n)) with
  | none =>
    have hlast := List.findSome?_eq_none_iff.mp hfound 16 (by decide)
    exact absurd (Option.map_eq_none_iff.mp hlast) (onGrid?_ne_none hc tie)
  | some written =>
    obtain ⟨n, -, hn⟩ := List.exists_of_findSome?_eq_some hfound
    obtain ⟨d, hd, rfl⟩ := Option.map_eq_some_iff.mp hn
    exact ⟨d, _, rfl, covers_of_onGrid? hc hd⟩

end Binary

end GuardErasure
