import RelevanceSql.Search.Compiled

/-!
# Changes to a query

The steps by which a caller builds a query, as data. A refinement adds conditions, joined tables or
grouping columns and takes nothing away, so that it is described by the clauses it adds
(`refine_eq_modify`). An edit is a refinement or one of the other steps of building a query. An
amendment is what a restriction may do to the scored query of a search: refine it, or change the
threshold, the limit or the grouping that the search will use. `amendAll` runs a list of amendments,
and the theorems about it say what such a run leaves alone and which values it adds to which clause.
-/

namespace RelevanceSql

open RelevanceSql.Sql

/-- A step that only adds conditions, joined tables or grouping columns. -/
inductive Refinement where
  | whereEq (column : String) (value : Param)
  | whereIn (column : String) (values : List Param)
  | whereRawWith (sql : String) (params : List Param)
  | whereRaw (sql : String)
  | havingRaw (sql : String)
  | havingRawWith (sql : String) (params : List Param)
  | leftJoin (join : Join)
  | groupBy (columns : List String)

/-- The clauses that a refinement adds. -/
def Refinement.added : Refinement → Clauses
  | .whereEq column value => { wheres := [.equals column], bindings := { filter := [value] } }
  | .whereIn column values => { wheres := [.member column values.length], bindings := { filter := values } }
  | .whereRawWith sql params => { wheres := [.raw sql], bindings := { filter := params } }
  | .whereRaw sql => { wheres := [.raw sql] }
  | .havingRaw sql => { havings := [sql] }
  | .havingRawWith sql params => { havings := [sql], bindings := { having := params } }
  | .leftJoin join => { joins := [join], bindings := { join := join.params } }
  | .groupBy columns => { groups := columns }

/-- A refinement binds values in the joins, the WHERE clause and the HAVING clause only. -/
theorem Refinement.get_added_eq_nil (r : Refinement) {clause : Clause} (hjoin : clause ≠ .join)
    (hfilter : clause ≠ .filter) (hhaving : clause ≠ .having) : r.added.bindings.get clause = [] := by
  cases clause with
  | select | source | order => cases r <;> rfl
  | join => exact absurd rfl hjoin
  | filter => exact absurd rfl hfilter
  | having => exact absurd rfl hhaving

/-- The entries and values of other clauses behind those that are there. -/
def Clauses.adding (c added : Clauses) : Clauses :=
  { c with
    columns := c.columns ++ added.columns
    joins := c.joins ++ added.joins
    wheres := c.wheres ++ added.wheres
    groups := c.groups ++ added.groups
    havings := c.havings ++ added.havings
    orders := c.orders ++ added.orders
    bindings := c.bindings.append added.bindings }

namespace Query

/-- Does one refinement. Values for a HAVING condition are put in through the bindings. -/
def refine (q : Query) : Refinement → Query
  | .whereEq column value => q.whereEq column value
  | .whereIn column values => q.whereIn column values
  | .whereRawWith sql params => q.whereRawWith sql params
  | .whereRaw sql => q.whereRaw sql
  | .havingRaw sql => q.havingRaw sql
  | .havingRawWith sql params => (q.havingRaw sql).setBindings (q.bindings.extend .having params)
  | .leftJoin join => q.leftJoin join
  | .groupBy columns => q.groupBy columns

theorem refine_eq_modify (q : Query) (r : Refinement) :
    q.refine r = q.modify fun c => c.adding r.added := by
  cases q <;> cases r <;>
    simp [refine, whereEq, whereIn, whereRawWith, whereRaw, havingRaw, leftJoin, groupBy, modify,
      setBindings, bindings, clauses, Clauses.adding, Refinement.added, Bindings.append,
      Bindings.push, Bindings.extend, Bindings.get, Bindings.replace, Clause.all]

end Query

/-- One step of building a query. -/
inductive Edit where
  | refine (r : Refinement)
  | select (columns : List String)
  | selectTableColumns (table : String)
  | orderBy (column : String) (direction : Direction)
  | reorderDesc (column : String)
  | limit (count : Nat)
  | offset (count : Nat)

/-- Does one step. -/
def Query.edit (q : Query) : Edit → Query
  | .refine r => q.refine r
  | .select columns => q.select columns
  | .selectTableColumns table => q.selectTableColumns table
  | .orderBy column direction => q.orderBy column direction
  | .reorderDesc column => q.reorderDesc column
  | .limit count => q.limit count
  | .offset count => q.offset count

/-- One step of a restriction that only adds to the scored query or changes what the search will use. -/
inductive Amendment where
  | refine (r : Refinement)
  | setThreshold (threshold : Float)
  | setLimit (limit : Nat)
  | setGroupBy (columns : List String)

/-- The values that an amendment adds to a clause. -/
def Amendment.values (clause : Clause) : Amendment → List Param
  | .refine r => r.added.bindings.get clause
  | _ => []

theorem Amendment.flatMap_values_eq_nil (amendments : List Amendment) {clause : Clause}
    (hjoin : clause ≠ .join) (hfilter : clause ≠ .filter) (hhaving : clause ≠ .having) :
    amendments.flatMap (Amendment.values clause) = [] := by
  rw [List.flatMap_eq_nil_iff]
  intro a _
  cases a with
  | refine r => exact r.get_added_eq_nil hjoin hfilter hhaving
  | setThreshold _ | setLimit _ | setGroupBy _ => rfl

namespace CompiledQuery

/-- Does one amendment. -/
def amend (c : CompiledQuery) : Amendment → CompiledQuery
  | .refine r => c.mapQuery (·.refine r)
  | .setThreshold threshold => c.setThreshold threshold
  | .setLimit limit => c.setLimit limit
  | .setGroupBy columns => c.setGroupBy columns

/-- Does one amendment after the other. -/
def amendAll (c : CompiledQuery) (amendments : List Amendment) : CompiledQuery :=
  amendments.foldl amend c

/-- Amendments keep the table, the relevance, and where the relevance is compared. -/
theorem amend_frame (c : CompiledQuery) (a : Amendment) :
    (c.amend a).table = c.table ∧ (c.amend a).relevance = c.relevance ∧ (c.amend a).filter = c.filter := by
  cases a <;> exact ⟨rfl, rfl, rfl⟩

theorem amendAll_frame (c : CompiledQuery) (amendments : List Amendment) :
    (c.amendAll amendments).table = c.table ∧ (c.amendAll amendments).relevance = c.relevance ∧
      (c.amendAll amendments).filter = c.filter := by
  induction amendments generalizing c with
  | nil => exact ⟨rfl, rfl, rfl⟩
  | cons a as ih =>
    obtain ⟨htable, hrelevance, hfilter⟩ := amend_frame c a
    rw [← htable, ← hrelevance, ← hfilter]
    exact ih (c.amend a)

/-- An amendment binds its values behind those of each clause. -/
theorem get_bindings_amend (c : CompiledQuery) (a : Amendment) (clause : Clause) :
    (c.amend a).query.bindings.get clause = c.query.bindings.get clause ++ a.values clause := by
  -- only a refinement touches the query
  cases a with
  | refine r =>
    show (c.query.refine r).clauses.bindings.get clause = _
    rw [Query.refine_eq_modify, Query.clauses_modify]
    exact Bindings.get_append _ _ _
  | setThreshold _ | setLimit _ | setGroupBy _ => exact (List.append_nil _).symm

theorem get_bindings_amendAll (c : CompiledQuery) (amendments : List Amendment) (clause : Clause) :
    (c.amendAll amendments).query.bindings.get clause =
      c.query.bindings.get clause ++ amendments.flatMap (Amendment.values clause) := by
  induction amendments generalizing c with
  | nil => rw [List.flatMap_nil, List.append_nil]; rfl
  | cons a as ih =>
    show ((c.amend a).amendAll as).query.bindings.get clause = _
    rw [ih, get_bindings_amend, List.flatMap_cons, List.append_assoc]

end CompiledQuery

/-- A restriction by a condition with a value, and a lower threshold. -/
def usersAmendments : List Amendment :=
  [.refine (.whereRawWith "score > ?" [.integer 1]), .setThreshold 2.0]

end RelevanceSql
