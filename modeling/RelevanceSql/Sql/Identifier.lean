import RelevanceSql.Text.Alphanumeric
import RelevanceSql.Text.Blank

/-!
# Names of columns and tables

A column is named alone or after its table and a dot; a table may itself be named by a path. This
module says which table a column belongs to and which texts can be names at all.
-/

namespace RelevanceSql.Sql

open RelevanceSql.Text

/-- The column with its table in front, unless it names a table already. -/
def qualify (table column : String) : String :=
  if column.toList.contains '.' then column else table ++ "." ++ column

/-- What stands before the last dot of a column name. -/
def tableOf? (column : String) : Option String :=
  match column.toList.reverse.dropWhile (· != '.') with
  | [] => none
  | _ :: before => some (String.ofList before.reverse)

/-- A character that may begin the name of a function. -/
def isNameStart (c : Char) : Bool := isAsciiLetter c || c == '_'

/-- A character that may go on in the name of a function. -/
def isNamePart (c : Char) : Bool := isNameStart c || isAsciiDigit c

/-- The name of a function: ASCII letters, digits and underscores, no digit in front. -/
def isIdentifier (s : String) : Bool :=
  match s.toList with
  | [] => false
  | c :: cs => isNameStart c && cs.all isNamePart

/-- The path of a column: one segment or more between dots, none of them empty or with a blank. -/
def isIdentifierPath (s : String) : Bool :=
  (fields (· == '.') s.toList).all fun segment => !segment.isEmpty && !segment.any isBlank

theorem qualify_of_contains {column : String} (h : column.toList.contains '.' = true)
    (table : String) : qualify table column = column := by
  rw [qualify, if_pos h]

/-- Qualifying a second time changes nothing. -/
theorem qualify_qualify (table column : String) :
    qualify table (qualify table column) = qualify table column := by
  apply qualify_of_contains
  rw [qualify]
  split
  · assumption
  · simp

end RelevanceSql.Sql
