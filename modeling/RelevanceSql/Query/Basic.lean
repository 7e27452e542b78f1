import RelevanceSql.Sql.Bindings
import RelevanceSql.Sql.Join

/-!
# Queries

A query reads from a table, or from another query under an alias. Beside its clauses it keeps the
values of their placeholders, clause by clause. The operations that add to a clause bind the values
of what they add; those that replace a clause drop the values of what they replace; those for raw
SQL leave the values to whoever wrote the SQL.
-/

namespace RelevanceSql

open RelevanceSql.Sql

/-- An entry of a select list. -/
inductive Column where
  | named (name : String)
  | raw (sql : String)
  deriving BEq, Repr

/-- A condition of a WHERE clause; its values are kept with the query. -/
inductive Condition where
  | raw (sql : String)
  | equals (column : String)
  | member (column : String) (count : Nat)
  deriving BEq, Repr

/-- The direction of an ordering. -/
inductive Direction where
  | ascending
  | descending
  deriving DecidableEq, Repr

/-- The clauses of one query, FROM apart, and the values of their placeholders. -/
structure Clauses where
  columns : List Column := []
  joins : List Join := []
  wheres : List Condition := []
  groups : List String := []
  havings : List String := []
  orders : List (String × Direction) := []
  limit : Option Nat := none
  offset : Option Nat := none
  bindings : Bindings := {}
  deriving BEq, Repr

/-- A query on a table, or on a query under an alias. -/
inductive Query where
  | onTable (name : String) (clauses : Clauses)
  | onQuery (inner : Query) (name : String) (clauses : Clauses)
  deriving BEq, Repr

namespace Query

/-- All columns and rows of a table. -/
def table (name : String) : Query := .onTable name {}

/-- The clauses of the outermost level. -/
def clauses : Query → Clauses
  | .onTable _ c => c
  | .onQuery _ _ c => c

/-- Changes the clauses of the outermost level. -/
def modify (q : Query) (f : Clauses → Clauses) : Query :=
  match q with
  | .onTable name c => .onTable name (f c)
  | .onQuery inner name c => .onQuery inner name (f c)

/-- The name of the table that is read, or the alias of the query. -/
def sourceName : Query → String
  | .onTable name _ => name
  | .onQuery _ name _ => name

/-- The query that is read from, if it is not a table. -/
def inner? : Query → Option Query
  | .onTable _ _ => none
  | .onQuery inner _ _ => some inner

/-- The values of the placeholders. -/
def bindings (q : Query) : Bindings := q.clauses.bindings

/-- Puts other values in the place of all values. -/
def setBindings (q : Query) (b : Bindings) : Query := q.modify fun c => { c with bindings := b }

/-- Adds columns to the select list. -/
def select (q : Query) (columns : List String) : Query :=
  q.modify fun c => { c with columns := c.columns ++ columns.map .named }

/-- Adds an expression to the select list; its values are not bound. -/
def selectRaw (q : Query) (sql : String) : Query :=
  q.modify fun c => { c with columns := c.columns ++ [.raw sql] }

/-- Selects all columns of one table and nothing else. -/
def selectTableColumns (q : Query) (table : String) : Query :=
  q.modify fun c =>
    { c with columns := [.named (table ++ ".*")], bindings := c.bindings.replace .select [] }

/-- Adds the condition that a column has a value. -/
def whereEq (q : Query) (column : String) (value : Param) : Query :=
  q.modify fun c =>
    { c with wheres := c.wheres ++ [.equals column], bindings := c.bindings.push .filter value }

/-- Adds the condition that a column has one of several values. -/
def whereIn (q : Query) (column : String) (values : List Param) : Query :=
  q.modify fun c =>
    { c with
      wheres := c.wheres ++ [.member column values.length]
      bindings := c.bindings.extend .filter values }

/-- Adds a condition in SQL together with its values. -/
def whereRawWith (q : Query) (sql : String) (params : List Param) : Query :=
  q.modify fun c =>
    { c with wheres := c.wheres ++ [.raw sql], bindings := c.bindings.extend .filter params }

/-- Adds a condition in SQL; its values are not bound. -/
def whereRaw (q : Query) (sql : String) : Query :=
  q.modify fun c => { c with wheres := c.wheres ++ [.raw sql] }

/-- Adds a condition on groups in SQL; its values are not bound. -/
def havingRaw (q : Query) (sql : String) : Query :=
  q.modify fun c => { c with havings := c.havings ++ [sql] }

/-- Joins a table. -/
def leftJoin (q : Query) (join : Join) : Query :=
  q.modify fun c =>
    { c with joins := c.joins ++ [join], bindings := c.bindings.extend .join join.params }

/-- Adds columns to the grouping. -/
def groupBy (q : Query) (columns : List String) : Query :=
  q.modify fun c => { c with groups := c.groups ++ columns }

/-- Adds a column to the ordering. -/
def orderBy (q : Query) (column : String) (direction : Direction) : Query :=
  q.modify fun c => { c with orders := c.orders ++ [(column, direction)] }

/-- Orders by one column, largest first, and by nothing else. -/
def reorderDesc (q : Query) (column : String) : Query :=
  q.modify fun c =>
    { c with orders := [(column, .descending)], bindings := c.bindings.replace .order [] }

/-- Wants at most so many rows. -/
def limit (q : Query) (count : Nat) : Query := q.modify fun c => { c with limit := some count }

/-- Leaves out so many rows at the start. -/
def offset (q : Query) (count : Nat) : Query := q.modify fun c => { c with offset := some count }

/--
Reads from another query under an alias. The joins, conditions and grouping are taken to be in the
other query already, so they and their values go; all values of the other query become values of
the FROM clause.
-/
def readFrom (q inner : Query) (name : String) : Query :=
  .onQuery inner name
    { q.clauses with
      joins := []
      wheres := []
      groups := []
      havings := []
      bindings :=
        (((q.bindings.replace .join []).replace .filter []).replace .having []).replace .source
          inner.bindings.flatten }

theorem clauses_modify (q : Query) (f : Clauses → Clauses) : (q.modify f).clauses = f q.clauses := by
  cases q <;> rfl

theorem modify_modify (q : Query) (f g : Clauses → Clauses) :
    (q.modify f).modify g = q.modify fun c => g (f c) := by cases q <;> rfl

theorem sourceName_modify (q : Query) (f : Clauses → Clauses) :
    (q.modify f).sourceName = q.sourceName := by cases q <;> rfl

theorem inner?_modify (q : Query) (f : Clauses → Clauses) : (q.modify f).inner? = q.inner? := by
  cases q <;> rfl

end Query

end RelevanceSql
