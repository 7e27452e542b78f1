import RelevanceSql.Query.Render
import RelevanceSql.Search.Model
import RelevanceSql.Search.Score

/-!
# Compiled queries

A search turns the caller's query into a scored query, which selects the columns of the table and the
relevance, and then puts the caller's query on top of it. In between the scored query, the threshold,
the limit and the grouping can still be changed. The relevance is compared in the HAVING clause of
the scored query, or where a dialect does not allow that, in the WHERE clause of the caller's query.
-/

namespace RelevanceSql

open RelevanceSql.Sql

/-- A scored query and all that is needed to put a query on top of it. -/
structure CompiledQuery where
  query : Query
  table : String
  relevance : Fragment
  threshold : Float
  limit : Nat
  groupBy : List String
  filter : RelevanceFilter
  deriving BEq, Repr

namespace CompiledQuery

/-- Changes the threshold. -/
def setThreshold (c : CompiledQuery) (threshold : Float) : CompiledQuery :=
  { c with threshold := threshold }

/-- Changes the number of rows. -/
def setLimit (c : CompiledQuery) (limit : Nat) : CompiledQuery := { c with limit := limit }

/-- Changes the grouping. -/
def setGroupBy (c : CompiledQuery) (columns : List String) : CompiledQuery :=
  { c with groupBy := columns }

/-- Changes the scored query. -/
def mapQuery (c : CompiledQuery) (f : Query → Query) : CompiledQuery := { c with query := f c.query }

end CompiledQuery

/-- Whether a column belongs to a table that the model joins. -/
def Model.isJoinedColumn (model : Model) (column : String) : Bool :=
  match tableOf? column with
  | some table => decide (table ≠ model.table) && model.search.joins.contains table
  | none => false

/--
The grouping that keeps one row for each row of the table: the configured one, or the key together
with the searched columns of joined tables, each once.
-/
def Model.grouping (model : Model) : List String :=
  match model.search.groupBy with
  | some groupBy => groupBy.names.map (qualify model.table)
  | none =>
    (model.search.weightedColumns.map fun e => qualify model.table e.1).foldl
      (fun columns column =>
        if model.isJoinedColumn column && !columns.contains column then columns ++ [column] else columns)
      [qualify model.table model.key]

/-- Adds tables to a query, one after the other. -/
def Query.leftJoins (q : Query) (joins : List Join) : Query := joins.foldl Query.leftJoin q

/-- The scored query for a caller's query; its relevance is selected, and its values are not yet bound. -/
def prepare (base : Query) (model : Model) (score : Score) (threshold : Float) (limit : Nat)
    (d : Dialect) : Except ConfigFault CompiledQuery := do
  let joins ← model.search.joinClauses
  let relevance := score.selectExpression d
  return {
    query := ((base.selectTableColumns model.table).leftJoins joins).selectRaw relevance.sql
    table := model.table
    relevance := relevance
    threshold := threshold
    limit := limit
    groupBy := model.grouping
    filter := d.relevanceFilter }

/-- The condition on the computed relevance inside the scored query. -/
def havingCondition (d : Dialect) (threshold : Float) : String :=
  d.quoteIdentifier relevanceName ++ " >= " ++ Number.literal threshold

/-- The condition on the relevance of a derived table. -/
def outerCondition (d : Dialect) (table : String) (threshold : Float) : String :=
  "CAST(" ++ d.quoteIdentifier (table ++ "." ++ relevanceName) ++ " AS DECIMAL(10,2)) >= " ++
    Number.literal threshold

/-- Binds the values of the relevance in front of all other values of the select list. -/
def Query.bindRelevance (q : Query) (params : List Param) : Query :=
  q.setBindings ((Bindings.empty.extend .select params).append q.bindings)

/-- The scored query with its grouping, condition, ordering, limit and values. -/
def CompiledQuery.scored (c : CompiledQuery) (d : Dialect) : Query :=
  let filtered := match c.filter with
    | .having => (c.query.groupBy c.groupBy).havingRaw (havingCondition d c.threshold)
    | .outerWhere => c.query
  ((filtered.reorderDesc relevanceName).limit c.limit).bindRelevance c.relevance.params

/-- The caller's query on top of the scored query. -/
def CompiledQuery.finalize (c : CompiledQuery) (base : Query) (d : Dialect) : Query :=
  let merged := base.readFrom (c.scored d) c.table
  match c.filter with
  | .having => merged
  | .outerWhere => merged.whereRaw (outerCondition d c.table c.threshold)

end RelevanceSql
