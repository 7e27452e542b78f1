import RelevanceSql.Sql.Param

/-!
# Joined tables

A table joined to a query by the equality of two columns, and refined by further conditions on its
rows, whose values stand in the order of the conditions.
-/

namespace RelevanceSql.Sql

/-- A condition on the rows of a joined table: a column has one value, or one of several. -/
inductive JoinFilter where
  | equals (column : String) (value : Param)
  | member (column : String) (values : List Param)
  deriving BEq, Repr

/-- The values that a condition binds. -/
def JoinFilter.params : JoinFilter → List Param
  | .equals _ value => [value]
  | .member _ values => values

/-- A table, the two columns that have to be equal, and the conditions on its rows. -/
structure Join where
  table : String
  first : String
  second : String
  filters : List JoinFilter := []
  deriving BEq, Repr

/-- The values that a join binds, condition by condition. -/
def Join.params (j : Join) : List Param := j.filters.flatMap JoinFilter.params

end RelevanceSql.Sql
