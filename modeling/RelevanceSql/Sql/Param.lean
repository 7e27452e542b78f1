import RelevanceSql.Number.Layout
import RelevanceSql.Sql.Quoted

/-!
# Bound values

A value handed to the database beside the SQL text, one for each placeholder of the text.
-/

namespace RelevanceSql.Sql

/-- A text, a 64-bit integer, a binary64 number or NULL. -/
inductive Param where
  | text (s : String)
  | integer (n : Int64)
  | float (x : Float)
  | null
  deriving BEq, Repr

/-- The text of a value that is one. -/
def Param.text? : Param → Option String
  | .text s => some s
  | _ => none

/-- The value as it is shown to a reader; single quotes inside a text are doubled. -/
def Param.display : Param → String
  | .text s => String.ofList (enclosed '\'' s.toList)
  | .integer n => toString n.toInt
  | .float x => Number.plain x
  | .null => "NULL"

end RelevanceSql.Sql
