import RelevanceSql.Matcher.Kind
import RelevanceSql.Sql.Quoted
import RelevanceSql.Text.Blank

/-!
# SQL dialects

All that differs between databases: how identifiers are quoted, what the length function is called,
which matchers and full-text search are there, how values are marked, where the relevance of a row
may be compared, and how rows are limited.
-/

namespace RelevanceSql.Sql

open RelevanceSql.Text

/-- The known databases, and a common profile for all others. -/
inductive Dialect where
  | mysql
  | pgsql
  | sqlite
  | sqlsrv
  | generic
  deriving DecidableEq, Repr

/-- Where a row's relevance is compared with the threshold. -/
inductive RelevanceFilter where
  | having
  | outerWhere
  deriving DecidableEq, Repr

/-- How a query says that it wants only some rows. -/
inductive LimitStyle where
  | limit
  | top
  deriving DecidableEq, Repr

namespace Dialect

/-- All dialects. -/
def all : List Dialect := [.mysql, .pgsql, .sqlite, .sqlsrv, .generic]

/-- The name of a dialect. -/
def name : Dialect → String
  | .mysql => "mysql"
  | .pgsql => "pgsql"
  | .sqlite => "sqlite"
  | .sqlsrv => "sqlsrv"
  | .generic => "generic"

/-- The dialect of a driver name, read without regard to ASCII case and to blanks at its ends. -/
def ofDriver (driver : String) : Dialect :=
  match String.ofList ((strip isBlank driver.toList).map Char.toLower) with
  | "mysql" | "mariadb" => .mysql
  | "pgsql" | "postgres" | "postgresql" => .pgsql
  | "sqlite" | "sqlite3" => .sqlite
  | "sqlsrv" | "mssql" | "sqlserver" => .sqlsrv
  | _ => .generic

/-- The mark around identifiers. -/
def quoteMark : Dialect → Char
  | .pgsql | .sqlsrv => '"'
  | _ => '\x60'

/-- The name of the function that counts characters. -/
def lengthFunction : Dialect → String
  | .sqlite => "LENGTH"
  | .sqlsrv => "LEN"
  | _ => "CHAR_LENGTH"

/-- The number of characters of an expression. -/
def length (d : Dialect) (expr : String) : String := d.lengthFunction ++ "(" ++ expr ++ ")"

/-- Whether the database can search full-text columns. -/
def supportsFullText (d : Dialect) : Bool := decide (d ≠ .sqlite)

/-- Whether a matcher can be written; comparing by sound is missing from two databases. -/
def supports (d : Dialect) (m : Matcher) : Bool :=
  match d with
  | .sqlite | .sqlsrv => decide (m ≠ .similarString)
  | _ => true

/-- Where the relevance is compared. -/
def relevanceFilter : Dialect → RelevanceFilter
  | .pgsql | .sqlsrv => .outerWhere
  | _ => .having

/-- How rows are limited. -/
def limitStyle : Dialect → LimitStyle
  | .sqlsrv => .top
  | _ => .limit

/-- The full-text score of a column against one bound value. -/
def fullText (d : Dialect) (column : String) : String :=
  match d with
  | .pgsql => "ts_rank(to_tsvector(" ++ column ++ "), plainto_tsquery(?))"
  | .sqlsrv => "CASE WHEN FREETEXT(" ++ column ++ ", ?) THEN 1 ELSE 0 END"
  | _ => "MATCH(" ++ column ++ ") AGAINST (?)"

/-- The condition that a column sounds like one bound value. -/
def soundsLike (d : Dialect) (column : String) : String :=
  match d with
  | .pgsql | .sqlsrv => "SOUNDEX(" ++ column ++ ") = SOUNDEX(?)"
  | _ => column ++ " SOUNDS LIKE ?"

/-- The mark of the n-th bound value. -/
def placeholder (d : Dialect) (n : Nat) : String :=
  match d with
  | .pgsql => "$" ++ toString n
  | _ => "?"

/-- One segment of an identifier between quotes; a star alone stays bare. -/
def quoteSegment (d : Dialect) (segment : List Char) : List Char :=
  if segment = ['*'] then segment else enclosed d.quoteMark segment

/-- An identifier with each of its dot-separated segments quoted. -/
def quoteIdentifier (d : Dialect) (identifier : String) : String :=
  String.ofList (['.'].intercalate ((fields (· == '.') identifier.toList).map d.quoteSegment))

theorem mem_all (d : Dialect) : d ∈ all := by cases d <;> simp [all]

/-- Every dialect is found under its own name. -/
theorem ofDriver_name (d : Dialect) : ofDriver d.name = d := by cases d <;> decide

end Dialect

end RelevanceSql.Sql
