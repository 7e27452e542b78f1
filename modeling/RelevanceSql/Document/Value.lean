import RelevanceSql.Document.Numeral

/-!
# Values of documents

What a JSON document can hold. A text is a row of code points, because an escape can name half of a
surrogate pair; only a text without such halves is a string. Members of an object keep their order,
and a name may stand there more than once.
-/

namespace RelevanceSql.Document

/-- A JSON value. -/
inductive Value where
  | null
  | bool (b : Bool)
  | number (n : Numeral)
  | text (points : List Nat)
  | list (items : List Value)
  | object (members : List (List Nat × Value))
  deriving Repr

/-- The code points of a string. -/
def pointsOf (s : String) : List Nat := s.toList.map Char.toNat

/-- The string with given code points, if none of them is half of a pair or out of range. -/
def stringOf? (points : List Nat) : Option String :=
  if points.all fun n => decide n.isValidChar then some (String.ofList (points.map Char.ofNat)) else none

/-- A string that has been written is read. -/
theorem stringOf?_pointsOf (s : String) : stringOf? (pointsOf s) = some s := by
  have hvalid : ∀ c : Char, c.toNat.isValidChar := fun c => c.valid
  have hmap : (s.toList.map Char.toNat).map Char.ofNat = s.toList := by
    rw [List.map_map]
    conv => rhs; rw [← List.map_id s.toList]
    exact List.map_congr_left fun c _ => Char.ofNat_toNat c
  simp [stringOf?, pointsOf, hvalid, hmap]

namespace Value

/-- A string as a value. -/
def ofString (s : String) : Value := .text (pointsOf s)

/-- A finite binary64 number as a value; infinities and NaN have none and are written as null. -/
def ofFloat (x : Float) : Value := if Number.isFinite x then .number (.ofFloat x) else .null

/-- An integer as a value. -/
def ofInt (i : Int) : Value := .number (.ofInt i)

/-- A count as a value. -/
def ofNat (n : Nat) : Value := .ofInt n

/-- A list of strings as a value. -/
def ofStrings (ss : List String) : Value := .list (ss.map ofString)

/-- An object with the given members. -/
def ofMembers (members : List (String × Value)) : Value :=
  .object (members.map fun (name, v) => (pointsOf name, v))

/-- The string, if the value is one. -/
def string? : Value → Option String
  | .text points => stringOf? points
  | _ => none

/-- The items, if the value is a list. -/
def items? : Value → Option (List Value)
  | .list items => some items
  | _ => none

/-- The members, if the value is an object and all its names are strings. -/
def members? : Value → Option (List (String × Value))
  | .object members => members.mapM fun (points, v) => (stringOf? points).map fun name => (name, v)
  | _ => none

/-- The binary64 number, if the value is a number that is not too large. -/
def float? : Value → Option Float
  | .number n => n.toFloat?
  | _ => none

/-- The integer, if the value is one. -/
def int? : Value → Option Int
  | .number n => n.toInt?
  | _ => none

/-- The count, if the value is one that fits into 64 bits. -/
def count? (v : Value) : Option UInt64 :=
  match v.int? with
  | some (.ofNat n) => if n < Number.countBound then some n.toUInt64 else none
  | _ => none

theorem string?_ofString (s : String) : (ofString s).string? = some s := stringOf?_pointsOf s

end Value

end RelevanceSql.Document
