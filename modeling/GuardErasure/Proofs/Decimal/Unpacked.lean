import Mathlib
import GuardErasure.Decimal.Shortest

namespace GuardErasure

/-!
# Words of floats

A float is a word of 64 bits, in which its sign, exponent and mantissa have their fields.  Reading the
fields gives the float in parts, and packing the parts gives the word again:

* `toNat_unpackMantissa`, `toNat_unpackExponent`, `toNat_unpackSign` — the fields as numbers;
* `Binary.Canonical` — the magnitudes that are those of floats, with `Binary.unpack_word` and
  `Binary.pack_signed`: unpacking the word of such a magnitude and packing the magnitude are inverse;
* `Binary.wordOf_eq` — the magnitude of a finite float is zero or of this form, and the float's word is
  that of the magnitude;
* `Binary.toFloat` — the float of a magnitude; `Binary.neg_toFloat`, `Binary.toFloat_ofFloat`.
-/

open Float.Model (Format UnpackedFloat)
open Float.Model.UnpackedFloat

/-! ### Fields of a word -/

theorem toNat_unpackMantissa (b : BitVec Format.binary64.numBits) :
    (unpackMantissa b).toNat = b.toNat % 2 ^ 52 := by
  rw [unpackMantissa, BitVec.toNat_cast, BitVec.extractLsb_toNat]
  rfl

theorem toNat_unpackExponent (b : BitVec Format.binary64.numBits) :
    (unpackExponent b).toNat = b.toNat / 2 ^ 52 % 2 ^ 11 := by
  rw [unpackExponent, BitVec.toNat_cast, BitVec.extractLsb_toNat, Nat.shiftRight_eq_div_pow]
  rfl

theorem toNat_unpackSign (b : BitVec Format.binary64.numBits) :
    (unpackSign b).toNat = b.toNat / 2 ^ 63 := by
  rw [unpackSign, BitVec.toNat_cast, BitVec.extractLsb_toNat, Nat.shiftRight_eq_div_pow]
  have hlt : b.toNat < 2 ^ 64 := b.isLt
  exact Nat.mod_eq_of_lt (by show b.toNat / 2 ^ 63 < 2; omega)

/-! ### Magnitudes in canonical form -/

namespace Binary

/-- A magnitude in the form in which a float has it: the mantissa is as long as it can be, unless the
    exponent is as low as it can be. -/
structure Canonical (b : Binary) : Prop where
  pos : 0 < b.mantissa
  lt : b.mantissa < 2 ^ 53
  low : -1074 ≤ b.exponent
  high : b.exponent ≤ 971
  full : 2 ^ 52 ≤ b.mantissa ∨ b.exponent = -1074
  narrow : b.narrowBelow = decide (b.mantissa = 2 ^ 52 ∧ -1074 < b.exponent)

/-- The exponent as a word stores it. -/
def biased (b : Binary) : Nat := if 2 ^ 52 ≤ b.mantissa then (b.exponent + 1075).toNat else 0

/-- The word of a signed magnitude. -/
def word (b : Binary) (s : Sign) : BitVec Format.binary64.numBits :=
  packComponents Format.binary64 s (BitVec.ofNat 11 b.biased) (BitVec.ofNat 52 b.mantissa)

/-- The parts of the float of a signed magnitude. -/
def signed (b : Binary) (hc : b.Canonical) (s : Sign) : UnpackedFloat :=
  .finite s b.mantissa b.exponent hc.pos

variable {b : Binary}

/-- The length of the mantissa. -/
theorem Canonical.log2 (hc : b.Canonical) :
    (2 ^ 52 ≤ b.mantissa ∧ b.mantissa.log2 = 52)
      ∨ (b.mantissa < 2 ^ 52 ∧ b.exponent = -1074 ∧ b.mantissa.log2 < 52) := by
  have hne : b.mantissa ≠ 0 := Nat.pos_iff_ne_zero.mp hc.pos
  by_cases hfull : 2 ^ 52 ≤ b.mantissa
  · exact .inl ⟨hfull, (Nat.log2_eq_iff hne).mpr ⟨hfull, hc.lt⟩⟩
  · have hlt : b.mantissa < 2 ^ 52 := Nat.lt_of_not_le hfull
    exact .inr ⟨hlt, hc.full.resolve_left hfull, (Nat.log2_lt hne).mpr hlt⟩

theorem word_eq {s : Sign} {e : BitVec 11} {m : BitVec 52} (he : b.biased = e.toNat)
    (hm : b.mantissa % 2 ^ 52 = m.toNat) : b.word s = packComponents Format.binary64 s e m := by
  have hmantissa : BitVec.ofNat 52 b.mantissa = m := BitVec.eq_of_toNat_eq hm
  rw [word, hmantissa, he, BitVec.ofNat_toNat, BitVec.setWidth_eq]

theorem Canonical.biased_lt (hc : b.Canonical) : b.biased < 2047 := by
  have hlow := hc.low
  have hhigh := hc.high
  rw [biased]
  split <;> omega

/-- The field of the exponent holds it. -/
theorem Canonical.toNat_biased (hc : b.Canonical) : (BitVec.ofNat 11 b.biased).toNat = b.biased := by
  have hlt := hc.biased_lt
  rw [BitVec.toNat_ofNat, Nat.mod_eq_of_lt (by omega)]

/-- The field is not the one of the words that are no numbers. -/
theorem Canonical.ofNat_biased_ne (hc : b.Canonical) : BitVec.ofNat 11 b.biased ≠ -1#11 := by
  intro h
  have hfield := hc.toNat_biased
  rw [h] at hfield
  have htop : 2047 = b.biased := hfield
  have hlt := hc.biased_lt
  omega

theorem unpack_word (hc : b.Canonical) (s : Sign) :
    UnpackedFloat.unpack Format.binary64 (b.word s) = b.signed hc s := by
  have hlow := hc.low
  have hlt := hc.lt
  rw [UnpackedFloat.unpack, word]
  simp only [unpackMantissa_packComponents, unpackExponent_packComponents,
    unpackSign_packComponents, Sign.ofBitVec_toBitVec]
  rw [signed, if_neg hc.ofNat_biased_ne]
  rcases hc.log2 with ⟨hfull, -⟩ | ⟨hless, hleast, -⟩
  · have hbiased : b.biased = (b.exponent + 1075).toNat := if_pos hfull
    have hzero : BitVec.ofNat 11 b.biased ≠ 0#11 := by
      intro h
      have hfield := hc.toNat_biased
      rw [h] at hfield
      have hnone : 0 = b.biased := hfield
      omega
    rw [if_neg hzero]
    have hmantissa : (1#1 ++ BitVec.ofNat 52 b.mantissa).toNat = b.mantissa := by
      rw [BitVec.toNat_append, ← Nat.shiftLeft_add_eq_or_of_lt (BitVec.isLt _), Nat.shiftLeft_eq,
        BitVec.toNat_ofNat]
      show 1 * 2 ^ 52 + b.mantissa % 2 ^ 52 = _
      omega
    have hexponent : ((BitVec.ofNat 11 b.biased).toNat : Int) - (Format.binary64.exponentBias
        + Format.binary64.mantissaBitsWithoutImplicit) = b.exponent := by
      rw [hc.toNat_biased, hbiased]
      show ((b.exponent + 1075).toNat : Int) - ((1023 : Nat) + (52 : Nat)) = _
      omega
    simp only [hmantissa, hexponent]
  · have hbiased : b.biased = 0 := if_neg (Nat.not_le_of_lt hless)
    have hmantissa : (BitVec.ofNat 52 b.mantissa).toNat = b.mantissa := by
      rw [BitVec.toNat_ofNat, Nat.mod_eq_of_lt hless]
    have hne : BitVec.ofNat 52 b.mantissa ≠ 0#52 := by
      intro h
      have hpos := hc.pos
      rw [h] at hmantissa
      have hnone : 0 = b.mantissa := hmantissa
      omega
    rw [hbiased, if_pos rfl, dif_neg hne]
    simp only [hmantissa, hleast]
    rfl

/-- Packing is the inverse. -/
theorem pack_signed (hc : b.Canonical) (s : Sign) :
    UnpackedFloat.pack Format.binary64 (b.signed hc s) = b.word s := by
  have hvalid : Format.binary64.Valid (b.word s) :=
    ⟨fun htop => absurd ((unpackExponent_packComponents ..).symm.trans htop) hc.ofNat_biased_ne⟩
  rw [← unpack_word hc, pack_unpack_of_valid hvalid]

end Binary

/-! ### Floats -/

/-- The word of a float. -/
def wordOf (f : Float) : BitVec Format.binary64.numBits := f.toBits.toBitVec

/-- The sign of a float. -/
def signOf (f : Float) : Sign := Sign.ofBitVec (unpackSign (wordOf f))

theorem signOf_eq (f : Float) :
    signOf f = if f.toBits.toNat / Nat.pow 2 63 = 1 then .negative else .positive := by
  have hfield : (unpackSign (wordOf f)).toNat = f.toBits.toNat / Nat.pow 2 63 := toNat_unpackSign _
  rw [signOf, Sign.ofBitVec, ← hfield]
  rcases BitVec.eq_zero_or_eq_one (unpackSign (wordOf f)) with h | h <;> rw [h] <;> rfl

/-- The exponent of a finite float is not the greatest. -/
theorem unpackExponent_ne {f : Float} (hf : f.isFinite = true) :
    unpackExponent (wordOf f) ≠ -1#11 := by
  intro h
  have hfinite : (UnpackedFloat.unpack Format.binary64 (wordOf f)).isFinite = true := hf
  rw [UnpackedFloat.unpack, if_pos h] at hfinite
  simp only at hfinite
  split at hfinite <;> cases hfinite

namespace Binary

variable {f : Float}

/-- The magnitude of a float from the fields of its word. -/
theorem ofFloat_eq (f : Float) :
    ofFloat f =
      if (unpackExponent (wordOf f)).toNat = 0 then ⟨(unpackMantissa (wordOf f)).toNat, -1074, false⟩
      else ⟨(unpackMantissa (wordOf f)).toNat + 2 ^ 52, (unpackExponent (wordOf f)).toNat - 1075,
        (unpackMantissa (wordOf f)).toNat = 0 ∧ 1 < (unpackExponent (wordOf f)).toNat⟩ := by
  rw [toNat_unpackExponent, toNat_unpackMantissa]
  rfl

/-- **The word of a finite float** is that of a zero, or of a magnitude in canonical form. -/
theorem wordOf_eq (hf : f.isFinite = true) :
    ((ofFloat f).mantissa = 0 ∧ wordOf f = packedZero Format.binary64 (signOf f))
      ∨ ((ofFloat f).Canonical ∧ wordOf f = (ofFloat f).word (signOf f)) := by
  have htop : (unpackExponent (wordOf f)).toNat ≠ 2047 := fun h =>
    unpackExponent_ne hf (BitVec.eq_of_toNat_eq h)
  have hexponent : (unpackExponent (wordOf f)).toNat < 2 ^ 11 := (unpackExponent (wordOf f)).isLt
  have hfraction : (unpackMantissa (wordOf f)).toNat < 2 ^ 52 := (unpackMantissa (wordOf f)).isLt
  have hword : packComponents Format.binary64 (signOf f) (unpackExponent (wordOf f))
      (unpackMantissa (wordOf f)) = wordOf f :=
    packComponents_unpackSign_unpackExponent_unpackMantissa (wordOf f)
  by_cases hzero : (unpackExponent (wordOf f)).toNat = 0
  · have hb := (ofFloat_eq f).trans (if_pos hzero)
    have hm : (ofFloat f).mantissa = (unpackMantissa (wordOf f)).toNat := by rw [hb]
    have he : (ofFloat f).exponent = -1074 := by rw [hb]
    have hn : (ofFloat f).narrowBelow = false := by rw [hb]
    have hfield : unpackExponent (wordOf f) = 0#11 := BitVec.eq_of_toNat_eq hzero
    by_cases hnone : (unpackMantissa (wordOf f)).toNat = 0
    · have hrest : unpackMantissa (wordOf f) = 0#52 := BitVec.eq_of_toNat_eq hnone
      rw [hfield, hrest] at hword
      exact .inl ⟨hm.trans hnone, hword.symm⟩
    · refine .inr ⟨⟨by omega, by omega, by omega, by omega, .inr he, ?_⟩, ?_⟩
      · rw [hn, he]
        simp
      · have hbiased : (ofFloat f).biased = (unpackExponent (wordOf f)).toNat := by
          rw [biased, if_neg (by omega), hzero]
        rw [word_eq hbiased (by rw [hm, Nat.mod_eq_of_lt hfraction]), hword]
  · have hb := (ofFloat_eq f).trans (if_neg hzero)
    have hm : (ofFloat f).mantissa = (unpackMantissa (wordOf f)).toNat + 2 ^ 52 := by rw [hb]
    have he : (ofFloat f).exponent = (unpackExponent (wordOf f)).toNat - 1075 := by rw [hb]
    have hn : (ofFloat f).narrowBelow = decide ((unpackMantissa (wordOf f)).toNat = 0
        ∧ 1 < (unpackExponent (wordOf f)).toNat) := by rw [hb]
    refine .inr ⟨⟨by omega, by omega, by omega, by omega, .inl (by omega), ?_⟩, ?_⟩
    · rw [hn, decide_eq_decide]
      omega
    · have hbiased : (ofFloat f).biased = (unpackExponent (wordOf f)).toNat := by
        rw [biased, if_pos (by omega)]
        omega
      have hrest : (ofFloat f).mantissa % 2 ^ 52 = (unpackMantissa (wordOf f)).toNat := by
        rw [hm, Nat.add_mod_right, Nat.mod_eq_of_lt hfraction]
      rw [word_eq hbiased hrest, hword]

/-- The float of a signed magnitude. -/
def toFloat (b : Binary) (hc : b.Canonical) (s : Sign) : Float :=
  .ofModel (.pack (b.signed hc s))

theorem neg_toFloat {b : Binary} (hc : b.Canonical) (s : Sign) : -b.toFloat hc s = b.toFloat hc (-s) := by
  have hunpack : (Float.Model.pack (b.signed hc s)).unpack = b.signed hc s := by
    show UnpackedFloat.unpack Format.binary64 (UnpackedFloat.pack Format.binary64 (b.signed hc s)) = _
    rw [pack_signed, unpack_word]
  show Float.ofModel (.pack (Float.Model.pack (b.signed hc s)).unpack.neg) = _
  rw [hunpack]
  rfl

/-- A float is told by its word. -/
theorem eq_of_wordOf {f g : Float} (h : wordOf f = wordOf g) : f = g :=
  Float.toBits_inj.mp (UInt64.toBitVec_inj.mp h)

theorem toFloat_ofFloat (hc : (ofFloat f).Canonical)
    (h : wordOf f = (ofFloat f).word (signOf f)) : (ofFloat f).toFloat hc (signOf f) = f := by
  refine eq_of_wordOf ?_
  rw [h]
  exact pack_signed hc _

end Binary

end GuardErasure
