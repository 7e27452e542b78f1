import RelevanceSql.Number.Reading
import RelevanceSql.Number.Shortest

/-!
# Numbers in documents

A number in a document is kept as it is written: digits, perhaps with a fraction or an exponent. It
is an integer only if it has neither. As a binary64 number it is worth a significand below `2 ^ 64`,
made of as many leading digits as fit, times or divided by one power of ten. A binary64 number is
written with its shortest digits, always with a fraction or an exponent; the exponent stands from
`10 ^ 16` on and below `10 ^ -5`.
-/

namespace RelevanceSql.Document

open RelevanceSql.Number

/-- A number as written: its sign, its digits before and after the point, and its exponent. -/
structure Numeral where
  negative : Bool
  whole : List Char
  fraction : List Char := []
  exponent : Option Int := none
  deriving DecidableEq, Repr

/-- Adds digits to a significand while it stays below `2 ^ 64`; the second part counts them. -/
def absorb (significand : Nat) : List Char → Nat × Nat
  | [] => (significand, 0)
  | c :: cs =>
    let next := 10 * significand + digitValue c
    if next < countBound then ((absorb next cs).1, (absorb next cs).2 + 1) else (significand, 0)

/-- The largest power of ten that is a binary64 number. -/
def topPower : Nat := 308

/-- A power of ten up to the largest one. -/
def powerOfTen (n : Nat) : Float := Float.ofScientific 1 false n

/--
A significand times a power of ten; `none` if that is too large. A power below the reach of one
division takes two, and below the reach of two the result is zero for every significand.
-/
def scale? (significand : Nat) (exponent : Int) : Option Float :=
  let x := Float.ofNat significand
  match exponent with
  | .ofNat e =>
    if significand = 0 then some 0.0
    else if topPower < e then none
    else
      let y := x * powerOfTen e
      if isFinite y then some y else none
  | .negSucc e =>
    if e < topPower then some (x / powerOfTen (e + 1))
    else if e < 2 * topPower then some (x / powerOfTen topPower / powerOfTen (e + 1 - topPower))
    else some 0.0

namespace Numeral

/-- The binary64 number; `none` if it is too large. -/
def toFloat? (n : Numeral) : Option Float :=
  let (significand, wholeTaken) := absorb 0 n.whole
  let (significand, fractionTaken) := absorb significand n.fraction
  let exponent := ((n.whole.length - wholeTaken : Nat) : Int) - fractionTaken + n.exponent.getD 0
  (scale? significand exponent).map fun x => if n.negative then -x else x

/--
The integer, for a number written without fraction and exponent that lies between `-2 ^ 63` and
`2 ^ 64`. A zero with a minus is no integer.
-/
def toInt? (n : Numeral) : Option Int :=
  let size := ofDigits n.whole
  if !n.fraction.isEmpty || n.exponent.isSome then none
  else if n.negative then
    if size ≠ 0 ∧ size ≤ Nat.pow 2 63 then some (-(size : Int)) else none
  else if size < countBound then some size else none

/-- An integer as a numeral. -/
def ofInt (i : Int) : Numeral := ⟨decide (i < 0), (toString i.natAbs).toList, [], none⟩

/-- The digits of a decimal with a fraction or an exponent, a minus in front if wanted. -/
def ofDecimal (negative : Bool) (d : Decimal) : Numeral :=
  let digits := (toString d.coefficient).toList
  let point := (digits.length : Int) + d.exponent
  if d.coefficient = 0 then ⟨negative, ['0'], ['0'], none⟩
  else if 16 < point ∨ point < -4 then ⟨negative, digits.take 1, digits.drop 1, some (point - 1)⟩
  else if 0 ≤ d.exponent then
    ⟨negative, digits ++ List.replicate d.exponent.toNat '0', ['0'], none⟩
  else if 0 < point then ⟨negative, digits.take point.toNat, digits.drop point.toNat, none⟩
  else ⟨negative, ['0'], List.replicate (-point).toNat '0' ++ digits, none⟩

/-- A finite binary64 number as a numeral: shortest digits, a tie going to the even one. -/
def ofFloat (x : Float) : Numeral := ofDecimal (isNegative x) ((magnitude x).shortest .even)

/-- The text of a numeral. -/
def render (n : Numeral) : List Char :=
  (if n.negative then ['-'] else []) ++ n.whole ++
    (if n.fraction.isEmpty then [] else '.' :: n.fraction) ++
    (match n.exponent with
      | some e => 'e' :: (toString e).toList
      | none => [])

end Numeral

end RelevanceSql.Document
