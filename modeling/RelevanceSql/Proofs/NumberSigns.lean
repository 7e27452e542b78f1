import RelevanceSql.Proofs.Numerals

/-!
# Signs of numbers

A comparison with zero unpacks a number first. What it comes to can be read off the fields of the bits: a
number is less than zero if the sign bit is set on anything but zero and NaN (`lt_zero_iff`). `Unpacks` is
the list of cases that an unpacked number is in, each with the fields that lead to it.
-/

namespace RelevanceSql.Number

open Float.Model (Format UnpackedFloat)
open Float.Model.UnpackedFloat (Sign unpackExponent unpackMantissa unpackSign)

/-- NaN: the largest exponent, with a fraction. -/
def IsNaN (x : Float) : Prop := exponentField x = 2047 ∧ fractionField x ≠ 0

instance (x : Float) : Decidable (IsNaN x) := inferInstanceAs (Decidable (_ ∧ _))

/-- The sign bit, on a number other than zero. -/
def IsBelowZero (x : Float) : Prop := isNegative x = true ∧ (magnitude x).significand ≠ 0

instance (x : Float) : Decidable (IsBelowZero x) := inferInstanceAs (Decidable (_ ∧ _))

/-- The sign bit of a number as a sign. -/
def sign (x : Float) : Sign := if isNegative x then .negative else .positive

/-- The unpacked exponent is the field of eleven bits behind the sign. -/
theorem unpackExponent_eq_iff (x : Float) {n : Nat} (h : n < 2 ^ 11) :
    @unpackExponent Format.binary64 x.toModel.toBits.toBitVec = BitVec.ofNat 11 n ↔
      exponentField x = n := by
  rw [exponentField_eq, ← BitVec.toNat_inj, BitVec.toNat_ofNat, Nat.mod_eq_of_lt h]

/-- The unpacked fraction is the field of the last 52 bits. -/
theorem fractionField_eq (x : Float) :
    fractionField x = (@unpackMantissa Format.binary64 x.toModel.toBits.toBitVec).toNat := by
  unfold fractionField unpackMantissa Float.toBits
  simp only [BitVec.toNat_cast, BitVec.extractLsb_toNat]
  rfl

theorem unpackMantissa_eq_zero_iff (x : Float) :
    @unpackMantissa Format.binary64 x.toModel.toBits.toBitVec = 0#52 ↔ fractionField x = 0 := by
  rw [fractionField_eq, ← BitVec.toNat_inj, BitVec.toNat_ofNat, Nat.zero_mod]

/-- The unpacked sign is the first bit. -/
theorem ofBitVec_unpackSign (x : Float) :
    Sign.ofBitVec (@unpackSign Format.binary64 x.toModel.toBits.toBitVec) = sign x := by
  have hbound : x.toBits.toNat < 2 ^ 64 := x.toBits.toNat_lt
  have hfield : (@unpackSign Format.binary64 x.toModel.toBits.toBitVec).toNat =
      x.toBits.toNat / 2 ^ 63 := by
    -- one bit is left above the 63 others
    have hmod : x.toBits.toNat / 2 ^ 63 % 2 = x.toBits.toNat / 2 ^ 63 := Nat.mod_eq_of_lt (by omega)
    rw [← hmod]
    simp [unpackSign, Float.toBits, BitVec.extractLsb, BitVec.extractLsb', Nat.shiftRight_eq_div_pow]
  have hpositive : @unpackSign Format.binary64 x.toModel.toBits.toBitVec = 0#1 ↔
      isNegative x = false := by
    have hpow : Nat.pow 2 63 = 2 ^ 63 := rfl
    rw [← BitVec.toNat_inj, hfield, isNegative, decide_eq_false_iff_not, hpow]
    show x.toBits.toNat / 2 ^ 63 = 0 ↔ _
    omega
  unfold Sign.ofBitVec sign
  simp only [hpositive]
  cases isNegative x <;> rfl

/-- What a number is taken for, by its bits. -/
inductive Unpacks (x : Float) : UnpackedFloat → Prop where
  | infinity (exponent : exponentField x = 2047) (fraction : fractionField x = 0) :
    Unpacks x (.infinity (sign x))
  | notANumber (h : IsNaN x) : Unpacks x .notANumber
  | zero (exponent : exponentField x = 0) (fraction : fractionField x = 0) : Unpacks x (.zero (sign x))
  | finite (exponent : exponentField x ≠ 2047) (h : exponentField x ≠ 0 ∨ fractionField x ≠ 0)
    (m : Nat) (e : Int) (hm : 0 < m) : Unpacks x (.finite (sign x) m e hm)

/-- Unpacking decides by the exponent first, and by the fraction for the least and the largest one. -/
theorem unpacks_unpack (x : Float) : Unpacks x x.toModel.unpack := by
  have hones : (-1#11) = BitVec.ofNat 11 2047 := by decide
  rw [Float.Model.unpack, UnpackedFloat.unpack]
  simp only [ofBitVec_unpackSign, hones]
  by_cases hlarge : exponentField x = 2047
  · rw [if_pos ((unpackExponent_eq_iff x (by decide)).2 hlarge)]
    by_cases hfraction : fractionField x = 0
    · rw [if_pos ((unpackMantissa_eq_zero_iff x).2 hfraction)]
      exact .infinity hlarge hfraction
    · rw [if_neg (mt (unpackMantissa_eq_zero_iff x).1 hfraction)]
      exact .notANumber ⟨hlarge, hfraction⟩
  · rw [if_neg (mt (unpackExponent_eq_iff x (by decide)).1 hlarge)]
    by_cases hsmall : exponentField x = 0
    · rw [if_pos ((unpackExponent_eq_iff x (by decide)).2 hsmall)]
      by_cases hfraction : fractionField x = 0
      · rw [dif_pos ((unpackMantissa_eq_zero_iff x).2 hfraction)]
        exact .zero hsmall hfraction
      · rw [dif_neg (mt (unpackMantissa_eq_zero_iff x).1 hfraction)]
        exact .finite hlarge (.inr hfraction) ..
    · rw [if_neg (mt (unpackExponent_eq_iff x (by decide)).1 hsmall)]
      exact .finite hlarge (.inl hsmall) ..

/-- Zero is the one number whose fields are both zero, with either sign. -/
theorem significand_eq_zero_iff (x : Float) :
    (magnitude x).significand = 0 ↔ exponentField x = 0 ∧ fractionField x = 0 := by
  unfold magnitude
  split
  · next h => simp [h]
  · next h =>
    have hlead : 0 < Nat.pow 2 52 := by decide
    simp [h]

theorem isBelowZero_iff (x : Float) :
    IsBelowZero x ↔ isNegative x = true ∧ (exponentField x ≠ 0 ∨ fractionField x ≠ 0) := by
  rw [IsBelowZero, ne_eq, significand_eq_zero_iff, not_and_or]

/-- A number compares as less than zero if it is one below zero; NaN compares as nothing. -/
theorem lt_zero_iff {x : Float} : x < 0.0 ↔ IsBelowZero x ∧ ¬IsNaN x := by
  -- the comparison is that of the unpacked numbers, and each case of `Unpacks` decides it
  have hlt : x < 0.0 ↔ x.toModel.unpack.lt (.zero .positive) = true := by
    have hzero : (0.0 : Float).toModel.unpack = .zero .positive := by rfl
    rw [← hzero]
    show decide _ = true ↔ _
    exact decide_eq_true_iff
  rw [hlt, isBelowZero_iff]
  have hread := unpacks_unpack x
  -- nothing but the case is needed of the unpacked number
  generalize x.toModel.unpack = u at hread
  cases hread with
  | infinity hexponent hfraction =>
    have hsome : ¬IsNaN x := fun h => h.2 hfraction
    cases hsign : isNegative x <;>
      simp [sign, hsign, hexponent, hsome, UnpackedFloat.lt, UnpackedFloat.compare]
  | notANumber h => simp [h, UnpackedFloat.lt, UnpackedFloat.compare]
  | zero hexponent hfraction =>
    cases sign x <;> simp [hexponent, hfraction, UnpackedFloat.lt, UnpackedFloat.compare]
  | finite hexponent h m e hm =>
    have hsome : ¬IsNaN x := fun h => hexponent h.1
    cases hsign : isNegative x <;>
      simp [sign, hsign, h, hsome, UnpackedFloat.lt, UnpackedFloat.compare]

/-- What is taken for no number is NaN by its bits. -/
theorem isNaN_eq_true_iff {x : Float} : x.isNaN = true ↔ IsNaN x := by
  have hnan : x.isNaN = x.toModel.unpack.isNaN := rfl
  rw [hnan]
  have hread := unpacks_unpack x
  generalize x.toModel.unpack = u at hread
  cases hread with
  | infinity hexponent hfraction => simp [IsNaN, hfraction, UnpackedFloat.isNaN]
  | notANumber h => simp [h, UnpackedFloat.isNaN]
  | zero hexponent hfraction => simp [IsNaN, hfraction, UnpackedFloat.isNaN]
  | finite hexponent h m e hm => simp [IsNaN, hexponent, UnpackedFloat.isNaN]

end RelevanceSql.Number
