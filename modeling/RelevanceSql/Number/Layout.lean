import RelevanceSql.Number.Shortest

/-!
# Numbers in plain form

How a binary64 number is written in SQL, in messages and for bound values: the shortest digits that
are read back as the same number, never with an exponent, and without a point if it is an integer.
-/

namespace RelevanceSql.Number

/-- A row of zeros. -/
def zeros (n : Nat) : String := String.ofList (List.replicate n '0')

/-- The digits of a number, filled up with zeros on the left to a given width. -/
def padded (width n : Nat) : String := zeros (width - (toString n).length) ++ toString n

/-- A decimal without an exponent, and without a point if it is an integer. -/
def Decimal.positional (d : Decimal) : String :=
  match d.exponent with
  | .ofNat e => toString (d.coefficient * Nat.pow 10 e)
  | .negSucc e =>
    toString (d.coefficient / Nat.pow 10 (e + 1)) ++ "." ++
      padded (e + 1) (d.coefficient % Nat.pow 10 (e + 1))

/-- The sign of a number as text, also for negative zero. -/
def signText (x : Float) : String := if isNegative x then "-" else ""

/-- The plain form: shortest digits, a tie going up, with neither exponent nor superfluous point. -/
def plain (x : Float) : String :=
  if x.isNaN then "NaN"
  else if isFinite x then signText x ++ ((magnitude x).shortest .up).positional
  else signText x ++ "inf"

/-- A number in SQL: the plain form, where both zeros are `0`. -/
def literal (x : Float) : String := if x == 0.0 then "0" else plain x

/-- A number in SQL that the database must not take for an integer: it always shows a point. -/
def decimalLiteral (x : Float) : String :=
  let text := literal x
  if text.toList.contains '.' then text else text ++ ".0"

end RelevanceSql.Number
