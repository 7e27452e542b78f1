import RelevanceSql.Sql.Param
import RelevanceSql.Sql.Placeholder

/-!
# SQL fragments

A piece of SQL together with the values of its placeholders, in order. Fragments are added with
`plus`, where a fragment without SQL adds only its values, and a list of them with `sum`, which
leaves out the fragments without SQL and has no result if none is left.
-/

namespace RelevanceSql.Sql

/-- SQL text and the values of its placeholders. -/
structure Fragment where
  sql : String
  params : List Param := []
  deriving BEq, Repr

/-- The fragment without SQL and without values. -/
def Fragment.empty : Fragment := ⟨"", []⟩

/-- Whether a fragment has no SQL. -/
def Fragment.isEmpty (f : Fragment) : Bool := decide (f.sql = "")

/-- The sum of two SQL texts, of which an empty one is not written. -/
def addSql (a b : String) : String := if a = "" then b else if b = "" then a else a ++ " + " ++ b

/-- The sum of two fragments; the values of the first come first. -/
def Fragment.plus (f g : Fragment) : Fragment := ⟨addSql f.sql g.sql, f.params ++ g.params⟩

/-- The sum of the fragments that have SQL. -/
def Fragment.sum (fs : List Fragment) : Option Fragment :=
  match fs.filter fun f => !f.isEmpty with
  | [] => none
  | f :: rest => some (rest.foldl Fragment.plus f)

/-- The fragment in parentheses; without SQL it stays as it is. -/
def Fragment.parenthesized (f : Fragment) : Fragment :=
  if f.sql = "" then f else { f with sql := "(" ++ f.sql ++ ")" }

/-- The number of placeholders in the SQL. -/
def Fragment.placeholderCount (f : Fragment) : Nat := Placeholder.count f.sql

/-- The constant zero. -/
def Fragment.zero : Fragment := ⟨"0", []⟩

/-- The sum of fragments, which is zero if none of them has SQL. -/
def Fragment.total (fs : List Fragment) : Fragment := (Fragment.sum fs).getD .zero

theorem Fragment.params_plus (f g : Fragment) : (f.plus g).params = f.params ++ g.params := rfl

theorem Fragment.empty_plus (f : Fragment) : Fragment.empty.plus f = f := by
  simp [plus, empty, addSql]

theorem Fragment.plus_empty (f : Fragment) : f.plus Fragment.empty = f := by
  obtain ⟨sql, params⟩ := f
  by_cases h : sql = "" <;> simp [plus, empty, addSql, h]

end RelevanceSql.Sql
