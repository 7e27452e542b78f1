import Mathlib
import RelevanceSql.Number.Layout
import RelevanceSql.Number.Reading
import RelevanceSql.Text.Alphanumeric
import RelevanceSql.Text.Fields

/-!
# Numbers that SQL can read

A number is written as a numeral, digits with a minus and a point where they are wanted, exactly if it
is finite (`isPositional_literal`); infinities and NaN are written as words, which SQL takes for names.
A weight of a score is a product, and finite factors may have an infinite one. `isFinite_mul` gives a
bound below which they do not: a significand of a product has at most one bit more than those of its
factors together, so it is enough that the exponents stay away from the largest one.
-/

namespace RelevanceSql.Number

open RelevanceSql.Text
open Float.Model

/-! ## Numerals -/

/-- One ASCII digit or more. -/
def isDigits (cs : List Char) : Bool := !cs.isEmpty && cs.all isAsciiDigit

/-- Digits, and behind a point more digits if wanted. -/
def isUnsigned (cs : List Char) : Bool :=
  match fields (· == '.') cs with
  | [whole] => isDigits whole
  | [whole, fraction] => isDigits whole && isDigits fraction
  | _ => false

/-- A numeral of SQL: digits with a point among them if wanted, and a minus in front if wanted. -/
def isPositional (sql : String) : Bool :=
  isUnsigned sql.toList || (sql.toList.head? == some '-' && isUnsigned sql.toList.tail)

theorem isDigits_append {cs ds : List Char} (hc : cs.all isAsciiDigit = true) (hd : isDigits ds = true) :
    isDigits (cs ++ ds) = true := by
  simp only [isDigits, Bool.and_eq_true, Bool.not_eq_true', List.isEmpty_eq_false_iff] at hd ⊢
  refine ⟨fun h => hd.1 (List.append_eq_nil_iff.1 h).2, ?_⟩
  rw [List.all_append, hc, hd.2, Bool.and_self]

theorem isDigits_toString (n : Nat) : isDigits (toString n).toList = true := by
  rw [Nat.toString_eq_ofList_toDigits, String.toList_ofList]
  simp only [isDigits, Bool.and_eq_true, Bool.not_eq_true', List.isEmpty_eq_false_iff, List.all_eq_true]
  refine ⟨Nat.toDigits_ne_nil, fun c hc => ?_⟩
  have hdigit := Nat.isDigit_of_mem_toDigits (by decide) (by decide) hc
  simpa [isAsciiDigit, Char.isDigit, UInt32.le_iff_toNat_le] using hdigit

theorem exists_of_isDigits {cs : List Char} (h : isDigits cs = true) :
    ∃ d ds, cs = d :: ds ∧ isAsciiDigit d = true := by
  cases cs with
  | nil => cases h
  | cons d ds =>
    rw [isDigits, Bool.and_eq_true, List.all_cons, Bool.and_eq_true] at h
    exact ⟨d, ds, rfl, h.2.1⟩

theorem ofDigits_toString (n : Nat) : ofDigits (toString n).toList = n := by
  rw [Nat.toString_eq_ofList_toDigits, String.toList_ofList]
  exact Nat.ofDigitChars_ten_toDigits

/-- Digits are cut off from a text behind them that begins with no digit. -/
theorem span_of_isDigits {digits rest : List Char} (hdigits : digits.all isAsciiDigit = true)
    (hrest : ∀ c ∈ rest.head?, isAsciiDigit c = false) :
    (digits ++ rest).takeWhile isAsciiDigit = digits ∧
      (digits ++ rest).dropWhile isAsciiDigit = rest := by
  have hall : ∀ c ∈ digits, isAsciiDigit c = true := List.all_eq_true.1 hdigits
  rw [List.takeWhile_append_of_pos hall, List.dropWhile_append_of_pos hall]
  cases rest with
  | nil => exact ⟨List.append_nil digits, rfl⟩
  | cons c cs =>
    have hc : ¬isAsciiDigit c = true := by
      rw [hrest c rfl]
      exact Bool.false_ne_true
    rw [List.takeWhile_cons_of_neg hc, List.dropWhile_cons_of_neg hc]
    exact ⟨List.append_nil digits, rfl⟩

theorem isDigits_padded (width n : Nat) : isDigits (padded width n).toList = true := by
  rw [padded, String.toList_append]
  refine isDigits_append ?_ (isDigits_toString n)
  rw [zeros, String.toList_ofList, List.all_eq_true]
  intro c hc
  rw [List.eq_of_mem_replicate hc]
  decide

/-- Digits hold no point. -/
theorem fields_of_isDigits {cs : List Char} (h : isDigits cs = true) : fields (· == '.') cs = [cs] := by
  apply fields_of_no_sep
  intro c hc
  simp only [isDigits, Bool.and_eq_true, List.all_eq_true] at h
  have hdigit := h.2 c hc
  rw [beq_eq_false_iff_ne]
  rintro rfl
  exact absurd hdigit (by decide)

theorem isUnsigned_positional (x : Decimal) : isUnsigned x.positional.toList = true := by
  unfold Decimal.positional
  split
  · rw [isUnsigned, fields_of_isDigits (isDigits_toString _)]
    exact isDigits_toString _
  · have hpoint : ".".toList = ['.'] := rfl
    rw [String.toList_append, String.toList_append, hpoint, List.append_assoc, List.singleton_append,
      isUnsigned, fields_append_sep rfl, fields_of_isDigits (isDigits_toString _),
      fields_of_isDigits (isDigits_padded _ _)]
    show (_ && _) = true
    rw [isDigits_toString, isDigits_padded, Bool.and_self]

theorem isPositional_signText (x : Float) {sql : String} (h : isUnsigned sql.toList = true) :
    isPositional (signText x ++ sql) = true := by
  unfold signText isPositional
  split
  · rw [String.toList_append]
    show (_ || ((some '-' == some '-') && isUnsigned sql.toList)) = true
    rw [h]
    simp
  · rw [String.empty_append, h, Bool.true_or]

/-! ## Finite numbers -/

theorem exponentField_eq (x : Float) :
    exponentField x =
      (@UnpackedFloat.unpackExponent Format.binary64 x.toModel.toBits.toBitVec).toNat := by
  unfold exponentField UnpackedFloat.unpackExponent Float.toBits
  simp only [BitVec.toNat_cast, BitVec.extractLsb_toNat]
  rw [Nat.shiftRight_eq_div_pow]
  rfl

/-- An unpacked number that is zero, or has a significand of 53 bits and an exponent up to a bound. -/
def Bounded : UnpackedFloat → Int → Prop
  | .zero _, _ => True
  | .finite _ significand exponent _, bound => significand < 2 ^ 53 ∧ exponent ≤ bound
  | .infinity _, _ | .notANumber, _ => False

/-- A number that is finite by its exponent field is unpacked as such. -/
theorem bounded_unpack {x : Float} (h : isFinite x = true) :
    Bounded x.toModel.unpack (max (exponentField x) 1 - 1075) := by
  rw [isFinite, decide_eq_true_eq, exponentField_eq] at h
  have hfraction : (@UnpackedFloat.unpackMantissa Format.binary64
      x.toModel.toBits.toBitVec).toNat < 2 ^ 52 := BitVec.isLt _
  have hbias : (Format.exponentBias Format.binary64 : Int) = 1023 := rfl
  rw [exponentField_eq, Float.Model.unpack, UnpackedFloat.unpack]
  simp only [hbias]
  -- an exponent field of ones only would be an infinity or NaN
  split
  · next hall =>
    rw [hall] at h
    exact absurd rfl h
  · split
    · next hnone =>
      split
      · trivial
      · have hzero := congrArg BitVec.toNat hnone
        exact ⟨by omega, by rw [hzero]; decide⟩
    · exact ⟨BitVec.isLt _, by omega⟩

/-- A number that is unpacked as finite is finite by its exponent field. -/
theorem isFinite_of_bounded {x : Float} {bound : Int} (h : Bounded x.toModel.unpack bound) :
    isFinite x = true := by
  rw [isFinite, decide_eq_true_eq, exponentField_eq]
  -- with an exponent field of ones only the number is unpacked as an infinity or NaN
  intro hall
  rw [Float.Model.unpack, UnpackedFloat.unpack] at h
  simp only at h
  rw [if_pos (BitVec.eq_of_toNat_eq hall)] at h
  split at h
  · exact h
  · exact h

theorem isNaN_eq_false_of_isFinite {x : Float} (h : isFinite x = true) : x.isNaN = false := by
  have hbounded := bounded_unpack h
  show x.toModel.unpack.isNaN = false
  cases hx : x.toModel.unpack with
  | notANumber =>
    rw [hx] at hbounded
    exact hbounded.elim
  | _ => rfl

/-- Nothing but the two zeros is equal to zero. -/
theorem isFinite_of_eq_zero {x : Float} (h : (x == 0.0) = true) : isFinite x = true := by
  have hzero : (0.0 : Float).toModel.unpack = .zero .positive := rfl
  have hbeq : x.toModel.unpack.beq (.zero .positive) = true := by
    rw [← hzero]
    exact h
  -- numbers are compared by their kind, and no other kind is equal to a zero
  cases hx : x.toModel.unpack with
  | zero => exact isFinite_of_bounded (show Bounded x.toModel.unpack 0 by rw [hx]; trivial)
  | finite sign significand exponent hpos =>
    rw [hx] at hbeq
    cases sign <;> cases hbeq
  | notANumber =>
    rw [hx] at hbeq
    cases hbeq
  | infinity sign =>
    rw [hx] at hbeq
    cases sign <;> cases hbeq

/-! ## Numbers as text -/

/-- An infinity or NaN is written as a word. -/
theorem literal_of_isFinite_eq_false {x : Float} (h : isFinite x = false) :
    literal x = "NaN" ∨ literal x = "inf" ∨ literal x = "-inf" := by
  have hne : ¬(x == 0.0) = true := fun hzero => by
    rw [isFinite_of_eq_zero hzero] at h
    cases h
  unfold literal plain signText
  rw [if_neg hne]
  split
  · exact Or.inl rfl
  · rw [if_neg (by rw [h]; decide)]
    split
    · exact Or.inr (Or.inr rfl)
    · exact Or.inr (Or.inl rfl)

theorem isPositional_literal_of_isFinite {x : Float} (h : isFinite x = true) :
    isPositional (literal x) = true := by
  unfold literal
  split
  · decide
  · unfold plain
    rw [if_neg (by rw [isNaN_eq_false_of_isFinite h]; decide), if_pos h]
    exact isPositional_signText x (isUnsigned_positional _)

/-- **Numerals are the finite numbers.** -/
theorem isPositional_literal (x : Float) : isPositional (literal x) = isFinite x := by
  cases h : isFinite x with
  | true => exact isPositional_literal_of_isFinite h
  | false => rcases literal_of_isFinite_eq_false h with hx | hx | hx <;> rw [hx] <;> decide

/-- Digits take a fraction. -/
theorem isUnsigned_append_fraction {cs : List Char} (h : isUnsigned cs = true)
    (hpoint : ∀ c ∈ cs, (c == '.') = false) : isUnsigned (cs ++ ['.', '0']) = true := by
  rw [isUnsigned, fields_of_no_sep hpoint] at h
  rw [isUnsigned, fields_append_sep rfl, fields_of_no_sep hpoint]
  have hdigits : isDigits cs = true := h
  show (isDigits cs && isDigits ['0']) = true
  rw [hdigits]
  decide

theorem isPositional_append_fraction {sql : String} (h : isPositional sql = true)
    (hpoint : sql.toList.contains '.' = false) : isPositional (sql ++ ".0") = true := by
  have hpoint : ∀ c ∈ sql.toList, (c == '.') = false := by
    intro c hc
    rw [beq_eq_false_iff_ne]
    rintro rfl
    rw [List.contains_iff_mem.2 hc] at hpoint
    cases hpoint
  have hfraction : ".0".toList = ['.', '0'] := rfl
  unfold isPositional at h ⊢
  rw [String.toList_append, hfraction]
  -- from here on the characters matter, and not the text
  generalize sql.toList = cs at h hpoint ⊢
  rcases Bool.or_eq_true_iff.1 h with h | h
  · rw [isUnsigned_append_fraction h hpoint, Bool.true_or]
  · obtain ⟨hminus, h⟩ := Bool.and_eq_true_iff.1 h
    cases cs with
    | nil => cases hminus
    | cons c cs =>
      have hrest := isUnsigned_append_fraction h fun d hd => hpoint d (List.mem_of_mem_tail hd)
      rw [Bool.or_eq_true_iff, Bool.and_eq_true_iff]
      exact Or.inr ⟨hminus, hrest⟩

/-- With a point that is always shown, numerals are the finite numbers as well. -/
theorem isPositional_decimalLiteral (x : Float) : isPositional (decimalLiteral x) = isFinite x := by
  cases h : isFinite x with
  | true =>
    simp only [decimalLiteral]
    split
    · exact isPositional_literal_of_isFinite h
    · next hpoint =>
      exact isPositional_append_fraction (isPositional_literal_of_isFinite h) (by simpa using hpoint)
  | false =>
    unfold decimalLiteral
    rcases literal_of_isFinite_eq_false h with hx | hx | hx <;> rw [hx] <;> decide

/-! ## Products -/

theorem mantissa_shiftRight (em : UnpackedFloat.ExtendedMantissa) (n : Nat) :
    (em >>> n).mantissa = em.mantissa / 2 ^ n := by
  show (n.repeat UnpackedFloat.ExtendedMantissa.shiftRightOne em).mantissa = _
  induction n with
  | zero => rw [Nat.repeat, Nat.pow_zero, Nat.div_one]
  | succ n ih =>
    rw [Nat.repeat, UnpackedFloat.ExtendedMantissa.shiftRightOne, ih, Nat.div_div_eq_div_mul, Nat.pow_succ]

/-- Rounding goes up by one at most. -/
theorem roundedMantissa_le (em : UnpackedFloat.ExtendedMantissa) :
    em.roundedMantissa ≤ em.mantissa + 1 := by
  unfold UnpackedFloat.ExtendedMantissa.roundedMantissa
  have heven : em.mantissa % 2 < 2 := Nat.mod_lt _ (by decide)
  cases em.accuracy with
  | exact => exact Nat.le_succ _
  | inexact side => cases side <;> simp only [UnpackedFloat.Accuracy.roundToNearestEven] <;> omega

theorem targetExponent_binary64 (total : Int) :
    Format.binary64.targetExponent total = max (total - 53) (-1074) := rfl

theorem exponent_shiftToTargetExponent (m : Nat) (e : Int) :
    (UnpackedFloat.shiftToTargetExponent Format.binary64 m e .exact).2 =
      max e (max (m.log2 + 1 + e - 53) (-1074)) := by
  simp only [UnpackedFloat.shiftToTargetExponent, UnpackedFloat.shiftToExponent, targetExponent_binary64,
    totalExponent]
  omega

/-- What is shifted to its exponent has at most 53 bits. -/
theorem mantissa_shiftToTargetExponent_lt (m : Nat) (e : Int) :
    (UnpackedFloat.shiftToTargetExponent Format.binary64 m e .exact).1.mantissa < 2 ^ 53 := by
  simp only [UnpackedFloat.shiftToTargetExponent, UnpackedFloat.shiftToExponent, targetExponent_binary64,
    totalExponent, mantissa_shiftRight, UnpackedFloat.ExtendedMantissa.ofMantissaAndAccuracy]
  have hm : m < 2 ^ (m.log2 + 1) := Nat.lt_log2_self
  apply Nat.div_lt_of_lt_mul
  refine Nat.lt_of_lt_of_le hm ?_
  rw [← Nat.pow_add]
  exact Nat.pow_le_pow_right (by decide) (by omega)

theorem log2_le_of_lt {n k : Nat} (h : n < 2 ^ (k + 1)) : n.log2 ≤ k := by
  by_cases hn : n = 0
  · rw [hn]
    exact Nat.zero_le k
  · exact Nat.lt_succ_iff.1 ((Nat.log2_lt hn).2 h)

/-- Rounding a significand of up to 106 bits makes the exponent larger by 54 at most: 53 bits are cut
off, and rounding up may make one more. -/
theorem bounded_roundWithAccuracy (sign : UnpackedFloat.Sign) {m : Nat} (hm : m < 2 ^ 106) {e bound : Int}
    (he : e + 54 ≤ bound) (hbound : -1073 ≤ bound) :
    Bounded (UnpackedFloat.roundWithAccuracy Format.binary64 sign m e .exact) bound := by
  let first := UnpackedFloat.shiftToTargetExponent Format.binary64 m e .exact
  have hfirst : first.2 = max e (max (m.log2 + 1 + e - 53) (-1074)) := exponent_shiftToTargetExponent m e
  have hbits : m.log2 ≤ 105 := log2_le_of_lt hm
  have hrounded : first.1.roundedMantissa.log2 ≤ 53 := by
    have hle := roundedMantissa_le first.1
    have hlt : first.1.mantissa < 2 ^ 53 := mantissa_shiftToTargetExponent_lt m e
    exact log2_le_of_lt (by omega)
  have hsecond := exponent_shiftToTargetExponent first.1.roundedMantissa first.2
  simp only [UnpackedFloat.roundWithAccuracy]
  split
  · trivial
  · refine ⟨mantissa_shiftToTargetExponent_lt _ _, ?_⟩
    show (UnpackedFloat.shiftToTargetExponent Format.binary64 first.1.roundedMantissa first.2 .exact).2 ≤ _
    omega

theorem bounded_mul {u v : UnpackedFloat} {a b bound : Int} (hu : Bounded u a) (hv : Bounded v b)
    (h : a + b + 54 ≤ bound) (hbound : -1073 ≤ bound) :
    Bounded (UnpackedFloat.mul Format.binary64 u v) bound := by
  cases u with
  | notANumber | infinity => exact hu.elim
  | zero sign =>
    cases v with
    | notANumber | infinity => exact hv.elim
    | zero | finite => trivial
  | finite sign m e hm =>
    cases v with
    | notANumber | infinity => exact hv.elim
    | zero => trivial
    | finite sign' m' e' hm' =>
      obtain ⟨hm, he⟩ := hu
      obtain ⟨hm', he'⟩ := hv
      have hproduct : m * m' < 2 ^ 53 * 2 ^ 53 := Nat.mul_lt_mul'' hm hm'
      exact bounded_roundWithAccuracy _ hproduct (by omega) hbound

/-- A number is packed as finite if its exponent is not too large. -/
theorem isFinite_pack {u : UnpackedFloat} (h : Bounded u 971) : isFinite ⟨Float.Model.pack u⟩ = true := by
  have hbias : (Format.exponentBias Format.binary64 : Int) = 1023 := rfl
  rw [isFinite, decide_eq_true_eq, exponentField_eq]
  show (UnpackedFloat.unpackExponent (UnpackedFloat.pack Format.binary64 u)).toNat ≠ 2047
  unfold UnpackedFloat.pack
  cases u with
  | notANumber | infinity => exact h.elim
  | zero sign => simp [UnpackedFloat.packedZero]
  | finite sign m e hm =>
    have he := h.2
    simp only [hbias]
    split
    · next hover =>
      simp at hover
      omega
    · next hover =>
      simp at hover
      split
      · simp
        omega
      · simp

/-- **Finite products.** Two finite numbers whose exponents stay away from the largest one together have
a finite product. -/
theorem isFinite_mul {x y : Float} (hx : isFinite x = true) (hy : isFinite y = true)
    (h : exponentField x + exponentField y ≤ 3066) : isFinite (x * y) = true := by
  -- a number without a leading one has the exponent of the smallest number with one
  have hexponents : ((max (exponentField x) 1 - 1075) + (max (exponentField y) 1 - 1075) + 54 : Int) ≤ 971 := by
    omega
  exact isFinite_pack (bounded_mul (bounded_unpack hx) (bounded_unpack hy) hexponents (by decide))

/-- Whether a number is below `2 ^ 511` in size. -/
def isModest (x : Float) : Bool := decide (exponentField x ≤ 1533)

theorem isFinite_of_isModest {x : Float} (h : isModest x = true) : isFinite x = true := by
  have hfield := of_decide_eq_true h
  rw [isFinite, decide_eq_true_eq]
  omega

theorem isFinite_mul_of_isModest {x y : Float} (hx : isModest x = true) (hy : isModest y = true) :
    isFinite (x * y) = true := by
  have hxfield := of_decide_eq_true hx
  have hyfield := of_decide_eq_true hy
  exact isFinite_mul (isFinite_of_isModest hx) (isFinite_of_isModest hy) (by omega)

example : isModest 6.7e153 = true ∧ isModest 6.71e153 = false := by decide +kernel

end RelevanceSql.Number
