import RelevanceSql.Query.Basic
import RelevanceSql.Sql.Dialect
import RelevanceSql.Sql.Fragment

/-!
# Queries as SQL

Each clause is rendered by a function of its own, and a clause without entries by nothing at all. The
placeholders are numbered last, once over the whole text, so that the numbers run on through nested
queries.
-/

namespace RelevanceSql

open RelevanceSql.Sql

/-- A column of a select list. -/
def Column.render (d : Dialect) : Column → String
  | .named name => d.quoteIdentifier name
  | .raw sql => sql

/-- The condition that a column has one of several bound values; of none, it never holds. -/
def renderMember (column : String) (count : Nat) : String :=
  if count = 0 then "1 = 0"
  else column ++ " IN (" ++ ", ".intercalate (List.replicate count "?") ++ ")"

/-- A condition on the rows of a joined table. -/
def Sql.JoinFilter.render (d : Dialect) : JoinFilter → String
  | .equals column _ => d.quoteIdentifier column ++ " = ?"
  | .member column values => renderMember (d.quoteIdentifier column) values.length

/-- One joined table with its conditions. -/
def Sql.Join.render (d : Dialect) (j : Join) : String :=
  " LEFT JOIN " ++ d.quoteIdentifier j.table ++ " ON " ++ d.quoteIdentifier j.first ++ " = " ++
    d.quoteIdentifier j.second ++
    String.join (j.filters.map fun f => " AND " ++ f.render d)

/-- A condition of a WHERE clause; one in SQL stands in parentheses. -/
def Condition.render (d : Dialect) : Condition → String
  | .raw sql => "(" ++ sql ++ ")"
  | .equals column => d.quoteIdentifier column ++ " = ?"
  | .member column count => renderMember (d.quoteIdentifier column) count

/-- The SQL word for a direction. -/
def Direction.render : Direction → String
  | .ascending => "ASC"
  | .descending => "DESC"

/-- A clause with its keyword in front and separators between its entries; nothing without entries. -/
def renderClause (keyword separator : String) (entries : List String) : String :=
  if entries = [] then "" else keyword ++ separator.intercalate entries

namespace Clauses

/-- The select list. -/
def renderColumns (d : Dialect) (c : Clauses) : String :=
  if c.columns.isEmpty then "*" else ", ".intercalate (c.columns.map (Column.render d))

/-- The joined tables. -/
def renderJoins (d : Dialect) (c : Clauses) : String := String.join (c.joins.map (Join.render d))

/-- The WHERE clause. -/
def renderWheres (d : Dialect) (c : Clauses) : String :=
  renderClause " WHERE " " AND " (c.wheres.map (Condition.render d))

/-- The GROUP BY clause. -/
def renderGroups (d : Dialect) (c : Clauses) : String :=
  renderClause " GROUP BY " ", " (c.groups.map d.quoteIdentifier)

/-- The HAVING clause. -/
def renderHavings (c : Clauses) : String := renderClause " HAVING " " AND " c.havings

/-- The ORDER BY clause. -/
def renderOrders (d : Dialect) (c : Clauses) : String :=
  renderClause " ORDER BY " ", "
    (c.orders.map fun (column, direction) => d.quoteIdentifier column ++ " " ++ direction.render)

/-- What limits the rows at the front of a query. -/
def renderTop (d : Dialect) (c : Clauses) : String :=
  match d.limitStyle, c.limit, c.offset with
  | .top, some limit, none => "TOP " ++ toString limit ++ " "
  | _, _, _ => ""

/-- What limits the rows at the end of a query. -/
def renderLimit (d : Dialect) (c : Clauses) : String :=
  match d.limitStyle, c.limit, c.offset with
  | .limit, some limit, some offset => " LIMIT " ++ toString limit ++ " OFFSET " ++ toString offset
  | .limit, some limit, none => " LIMIT " ++ toString limit
  | .limit, none, some offset => " LIMIT -1 OFFSET " ++ toString offset
  | .top, limit, some offset =>
    (if c.orders.isEmpty then " ORDER BY (SELECT NULL)" else "") ++ " OFFSET " ++ toString offset ++
      " ROWS" ++
      (match limit with
        | some limit => " FETCH NEXT " ++ toString limit ++ " ROWS ONLY"
        | none => "")
  | _, _, _ => ""

/-- The clauses of a query around the text of what it reads from. -/
def render (d : Dialect) (c : Clauses) (source : String) : String :=
  "SELECT " ++ c.renderTop d ++ c.renderColumns d ++ " FROM " ++ source ++ c.renderJoins d ++
    c.renderWheres d ++ c.renderGroups d ++ c.renderHavings ++ c.renderOrders d ++ c.renderLimit d

end Clauses

namespace Query

/-- A query as SQL, its placeholders still unnumbered. -/
def render (d : Dialect) : Query → String
  | .onTable name c => c.render d (d.quoteIdentifier name)
  | .onQuery inner name c =>
    c.render d ("(" ++ inner.render d ++ ") AS " ++ d.quoteIdentifier name)

/-- A query as SQL for a dialect, with its values in the order of the placeholders. -/
def toSql (q : Query) (d : Dialect) : Fragment :=
  ⟨Placeholder.number d.placeholder (q.render d), q.bindings.flatten⟩

theorem params_toSql (q : Query) (d : Dialect) : (q.toSql d).params = q.bindings.flatten := rfl

end Query

end RelevanceSql
