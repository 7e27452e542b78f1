import RelevanceSql.Text.Alphanumeric

/-!
# Decimal texts as numbers

How a number on the command line or in the environment is read: a count of at most 64 bits, or a
binary64 number in positional or exponent form, or one of the words for infinity and NaN. A decimal
is rounded to the nearest binary64 number.
-/

namespace RelevanceSql.Number

open RelevanceSql.Text

/-- The first count that does not fit into 64 bits. -/
def countBound : Nat := Nat.pow 2 64

/-- The value of a digit. -/
def digitValue (c : Char) : Nat := c.toNat - 0x30

/-- The number a row of digits stands for. -/
def ofDigits (digits : List Char) : Nat := digits.foldl (fun n c => 10 * n + digitValue c) 0

/-- The text without a leading sign, and whether that was a minus. -/
def splitSign : List Char → Bool × List Char
  | '-' :: cs => (true, cs)
  | '+' :: cs => (false, cs)
  | cs => (false, cs)

/-- A count: one ASCII digit or more, a plus sign allowed in front, below `2 ^ 64`. -/
def readCount? (cs : List Char) : Option Nat :=
  let digits := match cs with
    | '+' :: rest => rest
    | _ => cs
  if !digits.isEmpty && digits.all isAsciiDigit && decide (ofDigits digits < countBound) then
    some (ofDigits digits)
  else none

/--
The binary64 number nearest to `coefficient · 10 ^ exponent`. Powers so large or so small that the
result is infinite or zero whatever the digits are, are not multiplied out.
-/
def nearest (coefficient : Nat) (exponent : Int) : Float :=
  let size := ((toString coefficient).length : Int) + exponent
  if coefficient = 0 then 0.0
  else if 400 < size then 1.0 / 0.0
  else if size < -400 then 0.0
  else match exponent with
    | .ofNat e => Float.ofScientific coefficient false e
    | .negSucc e => Float.ofScientific coefficient true (e + 1)

/-- The exponent at the end of a decimal; nothing at all stands for zero. -/
def readExponent? : List Char → Option Int
  | [] => some 0
  | c :: cs =>
    let (negative, digits) := splitSign cs
    if c.toLower == 'e' && !digits.isEmpty && digits.all isAsciiDigit then
      some (if negative then -(ofDigits digits : Int) else ofDigits digits)
    else none

/-- A decimal without sign: digits, a point among or beside them if wanted, an exponent if wanted. -/
def readMagnitude? (cs : List Char) : Option Float :=
  let whole := cs.takeWhile isAsciiDigit
  let afterWhole := cs.dropWhile isAsciiDigit
  let (fraction, rest) := match afterWhole with
    | '.' :: tail => (tail.takeWhile isAsciiDigit, tail.dropWhile isAsciiDigit)
    | _ => ([], afterWhole)
  if whole.isEmpty && fraction.isEmpty then none
  else (readExponent? rest).map fun e => nearest (ofDigits (whole ++ fraction)) (e - fraction.length)

/-- A binary64 number with an optional sign; the words for infinity and NaN in any ASCII case. -/
def readFloat? (cs : List Char) : Option Float :=
  let (negative, body) := splitSign cs
  let size := match String.ofList (body.map Char.toLower) with
    | "inf" | "infinity" => some (1.0 / 0.0)
    | "nan" => some (0.0 / 0.0)
    | _ => readMagnitude? body
  size.map fun x => if negative then -x else x

end RelevanceSql.Number
