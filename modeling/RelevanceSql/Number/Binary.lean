/-!
# Binary64 numbers taken apart

A finite binary64 number is its sign and a magnitude `significand · 2 ^ exponent`, which are read off
its bits. Everything that is later said about decimal texts and rounding is said about these natural
numbers.
-/

namespace RelevanceSql.Number

/-- The number `significand · 2 ^ exponent`, and whether the next smaller one is half as far away. -/
structure Magnitude where
  significand : Nat
  exponent : Int
  atPowerOfTwo : Bool
  deriving DecidableEq, Repr

/-- The eleven exponent bits. -/
def exponentField (x : Float) : Nat := x.toBits.toNat / Nat.pow 2 52 % Nat.pow 2 11

/-- The fifty-two bits after the leading one. -/
def fractionField (x : Float) : Nat := x.toBits.toNat % Nat.pow 2 52

/-- Whether the sign bit is set; it is for negative zero. -/
def isNegative (x : Float) : Bool := decide (Nat.pow 2 63 ≤ x.toBits.toNat)

/-- Whether a number is neither infinite nor NaN. -/
def isFinite (x : Float) : Bool := decide (exponentField x ≠ 2047)

/-- The magnitude of a finite number; exponent field zero marks the numbers without a leading one. -/
def magnitude (x : Float) : Magnitude :=
  if exponentField x = 0 then ⟨fractionField x, -1074, false⟩
  else
    ⟨Nat.pow 2 52 + fractionField x, (exponentField x : Int) - 1075,
      decide (fractionField x = 0) && decide (1 < exponentField x)⟩

/--
The nearest integer, a half going away from zero. A number without fraction bits, an infinity and NaN
stay as they are.
-/
def roundHalfAway (x : Float) : Float :=
  match isFinite x, (magnitude x).exponent with
  | true, .negSucc places =>
    let whole := (2 * (magnitude x).significand + Nat.pow 2 (places + 1)) / Nat.pow 2 (places + 2)
    if isNegative x then -(Float.ofNat whole) else Float.ofNat whole
  | _, _ => x

/-- The number rounded to two decimal places. -/
def roundHundredths (x : Float) : Float := roundHalfAway (x * 100.0) / 100.0

end RelevanceSql.Number
