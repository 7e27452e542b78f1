import RelevanceSql.Proofs.Changes
import RelevanceSql.Proofs.Placeholders
import RelevanceSql.Proofs.Searching

/-!
# Queries whose values stand at their placeholders

A query keeps its values by clause, and a rendered query shows its clauses in a fixed order. The k-th
value belongs to the k-th placeholder if every clause renders as many placeholders as it has values.
`Clauses.Aligned d pending c` is the invariant that carries this: each clause binds its values entry
by entry, except that the select list may have a number of placeholders whose values are still
pending. `Query.Aligned` asks it of all levels of a query, and that the values of FROM are those of
the query that is read.

The first half derives what is rendered from the invariant (`Aligned.binds_clauseSql` for one clause,
`Aligned.binds_render` for the whole text); the second half says how the invariant is kept when
clauses are added to, and when one query is read by another.
-/

namespace RelevanceSql

open RelevanceSql.Sql

/-! ## Plain names -/

/-- The column that a condition on a joined table is about. -/
def Sql.JoinFilter.column : JoinFilter → String
  | .equals column _ => column
  | .member column _ => column

/-- A join whose table and columns have plain names. -/
structure Sql.Join.Plain (j : Join) : Prop where
  table : IsPlain j.table
  first : IsPlain j.first
  second : IsPlain j.second
  filters : ∀ f ∈ j.filters, IsPlain f.column

/-! ## Entries of clauses -/

theorem bindsAll_replicate (n : Nat) : BindsAll (List.replicate n "?") n := by
  induction n with
  | zero => exact .nil
  | succ n ih =>
    have hmark : Binds "?" 1 := by decide
    rw [List.replicate_succ, Nat.add_comm]
    exact .cons hmark ih

/-- A condition on a list has a placeholder for each of its values. -/
theorem binds_renderMember {column : String} (h : IsPlain column) (count : Nat) :
    Binds (renderMember column count) count := by
  have hopen : Binds " IN (" 0 := by decide
  have hcomma : Binds ", " 0 := by decide
  have hclose : Binds ")" 0 := by decide
  unfold renderMember
  split
  · -- of no values, a condition that never holds and binds nothing
    next hcount =>
    rw [hcount]
    decide
  · have hlist := ((h.binds.append hopen).append ((bindsAll_replicate count).intercalate hcomma)).append hclose
    simpa only [Nat.zero_add, Nat.add_zero] using hlist

theorem binds_equals {column : String} (h : IsPlain column) : Binds (column ++ " = ?") 1 := by
  have hvalue : Binds " = ?" 1 := by decide
  exact h.binds.append hvalue

/-- A filter of a join binds the values that it lists. -/
theorem binds_renderFilter (d : Dialect) {f : JoinFilter} (h : IsPlain f.column) :
    Binds (f.render d) f.params.length := by
  cases f with
  | equals column value => exact binds_equals (isPlain_quoteIdentifier h d)
  | member column values => exact binds_renderMember (isPlain_quoteIdentifier h d) values.length

/-- A join binds the values of its filters, in their order. -/
theorem binds_renderJoin (d : Dialect) {j : Join} (h : j.Plain) : Binds (j.render d) j.params.length := by
  have hjoin : Binds " LEFT JOIN " 0 := by decide
  have hon : Binds " ON " 0 := by decide
  have hequals : Binds " = " 0 := by decide
  have hand : Binds " AND " 0 := by decide
  have hfilters : BindsAll (j.filters.map fun f => " AND " ++ f.render d)
      (j.filters.map fun f => 0 + f.params.length).sum :=
    bindsAll_map fun f hf => hand.append (binds_renderFilter d (h.filters f hf))
  have htable := hjoin.append (isPlain_quoteIdentifier h.table d).binds
  have hfirst := (htable.append hon).append (isPlain_quoteIdentifier h.first d).binds
  have hkeys := (hfirst.append hequals).append (isPlain_quoteIdentifier h.second d).binds
  have hall := hkeys.append hfilters.join
  simp only [Nat.zero_add] at hall
  rw [Join.params, List.length_flatMap]
  exact hall

/-- A condition of the caller binds the values that came with it. -/
theorem binds_renderRaw (d : Dialect) {sql : String} {params : List Param} (h : FitsValues sql params) :
    Binds (Condition.render d (.raw sql)) params.length :=
  h.binds.between (by decide) (by decide)

/-! ## The invariant -/

/-- Each clause binds its values, the select list also as many as are pending. -/
structure Clauses.Aligned (d : Dialect) (pending : Nat) (c : Clauses) : Prop where
  columns : BindsAll (c.columns.map (Column.render d)) (pending + (c.bindings.get .select).length)
  joins : BindsAll (c.joins.map (Join.render d)) (c.bindings.get .join).length
  wheres : BindsAll (c.wheres.map (Condition.render d)) (c.bindings.get .filter).length
  groups : ∀ g ∈ c.groups, IsPlain g
  havings : BindsAll c.havings (c.bindings.get .having).length
  orders : ∀ o ∈ c.orders, IsPlain o.1
  order_values : c.bindings.get .order = []

/-- All levels are aligned, and the values of FROM are those of the query that is read. -/
def Query.Aligned (d : Dialect) : Nat → Query → Prop
  | pending, .onTable name c => IsPlain name ∧ c.bindings.get .source = [] ∧ c.Aligned d pending
  | pending, .onQuery inner name c =>
    inner.Aligned d 0 ∧ IsPlain name ∧ c.bindings.get .source = inner.bindings.flatten ∧
      c.Aligned d pending

/-- The clauses of an aligned query are aligned. -/
theorem Query.Aligned.clauses {d : Dialect} {pending : Nat} {q : Query} (h : q.Aligned d pending) :
    q.clauses.Aligned d pending := by
  cases q with
  | onTable name c => exact h.2.2
  | onQuery inner name c => exact h.2.2.2

/-! ## What aligned clauses render -/

namespace Clauses.Aligned

variable {d : Dialect} {pending : Nat} {c : Clauses}

/-- The select list binds its values and those that are pending. -/
theorem binds_renderColumns (h : c.Aligned d pending) :
    Binds (c.renderColumns d) (pending + (c.bindings.get .select).length) := by
  have hcomma : Binds ", " 0 := by decide
  have hcolumns := h.columns
  unfold renderColumns
  split
  · -- a star for no columns, which then have no values either
    next hempty =>
    rw [List.isEmpty_iff.1 hempty, List.map_nil] at hcolumns
    generalize pending + (c.bindings.get .select).length = n at hcolumns
    cases hcolumns
    decide
  · exact hcolumns.intercalate hcomma

theorem binds_renderJoins (h : c.Aligned d pending) :
    Binds (c.renderJoins d) (c.bindings.get .join).length :=
  h.joins.join

theorem binds_renderWheres (h : c.Aligned d pending) :
    Binds (c.renderWheres d) (c.bindings.get .filter).length :=
  h.wheres.renderClause (by decide) (by decide)

/-- GROUP BY lists plain names and binds nothing. -/
theorem binds_renderGroups (h : c.Aligned d pending) : Binds (c.renderGroups d) 0 :=
  (bindsAll_map_plain fun g hg => isPlain_quoteIdentifier (h.groups g hg) d).renderClause
    (by decide) (by decide)

theorem binds_renderHavings (h : c.Aligned d pending) :
    Binds c.renderHavings (c.bindings.get .having).length :=
  h.havings.renderClause (by decide) (by decide)

/-- ORDER BY lists plain names, and aligned clauses have no values for it. -/
theorem binds_renderOrders (h : c.Aligned d pending) :
    Binds (c.renderOrders d) (c.bindings.get .order).length := by
  have hdirection : ∀ direction : Direction, IsPlain direction.render := by
    intro direction
    cases direction <;> decide
  rw [h.order_values]
  refine BindsAll.renderClause (bindsAll_map_plain ?_) (by decide) (by decide)
  rintro ⟨column, direction⟩ ho
  exact ((isPlain_quoteIdentifier (h.orders _ ho) d).append (by decide)).append (hdirection direction)

end Clauses.Aligned

theorem isPlain_renderTop (d : Dialect) (c : Clauses) : IsPlain (c.renderTop d) := by
  unfold Clauses.renderTop
  split
  · exact (IsPlain.append (by decide) (isPlain_toString _)).append (by decide)
  · decide

/-- Limit and offset are written as numerals, in every dialect. -/
theorem isPlain_renderLimit (d : Dialect) (c : Clauses) : IsPlain (c.renderLimit d) := by
  have hlimit (n : Nat) : IsPlain (" LIMIT " ++ toString n) :=
    IsPlain.append (by decide) (isPlain_toString n)
  have hoffset (n : Nat) : IsPlain (" OFFSET " ++ toString n) :=
    IsPlain.append (by decide) (isPlain_toString n)
  unfold Clauses.renderLimit
  split
  · exact ((hlimit _).append (by decide)).append (isPlain_toString _)
  · exact hlimit _
  · exact IsPlain.append (by decide) (isPlain_toString _)
  · refine IsPlain.append (IsPlain.append (IsPlain.append (IsPlain.append ?_ (by decide))
      (isPlain_toString _)) (by decide)) ?_
    · split <;> decide
    · split
      · exact (IsPlain.append (by decide) (isPlain_toString _)).append (by decide)
      · decide
  · decide

namespace Query

/-- The text of what a query reads from. -/
def sourceSql (d : Dialect) : Query → String
  | .onTable name _ => d.quoteIdentifier name
  | .onQuery inner name _ => "(" ++ inner.render d ++ ") AS " ++ d.quoteIdentifier name

/-- The text of one clause of a query, as it stands in the rendered query. -/
def clauseSql (d : Dialect) (q : Query) : Clause → String
  | .select => q.clauses.renderColumns d
  | .source => q.sourceSql d
  | .join => q.clauses.renderJoins d
  | .filter => q.clauses.renderWheres d
  | .having => q.clauses.renderHavings
  | .order => q.clauses.renderOrders d

/-- A rendered query is made of its clauses in the order in which values are listed. -/
theorem render_eq_clauseSql (d : Dialect) (q : Query) :
    q.render d = "SELECT " ++ q.clauses.renderTop d ++ q.clauseSql d .select ++ " FROM " ++
      q.clauseSql d .source ++ q.clauseSql d .join ++ q.clauseSql d .filter ++
      q.clauses.renderGroups d ++ q.clauseSql d .having ++ q.clauseSql d .order ++
      q.clauses.renderLimit d := by
  cases q <;> rfl

/-- If all clauses bind their values, so does the whole text. -/
theorem binds_render_of_clauseSql {d : Dialect} {q : Query}
    (hgroups : Binds (q.clauses.renderGroups d) 0)
    (h : ∀ clause, Binds (q.clauseSql d clause) (q.bindings.get clause).length) :
    Binds (q.render d) q.bindings.flatten.length := by
  have hselect : Binds "SELECT " 0 := by decide
  have hfrom : Binds " FROM " 0 := by decide
  have htop := hselect.append (isPlain_renderTop d q.clauses).binds
  have hsource := ((htop.append (h .select)).append hfrom).append (h .source)
  have hfilter := (hsource.append (h .join)).append (h .filter)
  have horder := ((hfilter.append hgroups).append (h .having)).append (h .order)
  have hall := horder.append (isPlain_renderLimit d q.clauses).binds
  rw [render_eq_clauseSql, Bindings.flatten_eq]
  simpa only [List.length_append, Nat.zero_add, Nat.add_zero] using hall

/-- The clauses other than FROM bind their values whatever the query reads from. -/
theorem binds_clauseSql_of_ne_source {d : Dialect} {q : Query} (h : q.clauses.Aligned d 0)
    {clause : Clause} (hne : clause ≠ .source) :
    Binds (q.clauseSql d clause) (q.bindings.get clause).length := by
  cases clause with
  | select =>
    have hselect := h.binds_renderColumns
    rwa [Nat.zero_add] at hselect
  | source => exact absurd rfl hne
  | join => exact h.binds_renderJoins
  | filter => exact h.binds_renderWheres
  | having => exact h.binds_renderHavings
  | order => exact h.binds_renderOrders

/-- In an aligned query every clause renders as many placeholders as it has values. -/
theorem Aligned.binds_clauseSql {d : Dialect} {q : Query} (h : q.Aligned d 0) (clause : Clause) :
    Binds (q.clauseSql d clause) (q.bindings.get clause).length := by
  induction q generalizing clause with
  | onTable name c =>
    obtain ⟨hname, hsource, hc⟩ := h
    by_cases hclause : clause = .source
    · -- the name of a table binds nothing
      subst hclause
      show Binds (d.quoteIdentifier name) (c.bindings.get .source).length
      rw [hsource]
      exact (isPlain_quoteIdentifier hname d).binds
    · exact binds_clauseSql_of_ne_source hc hclause
  | onQuery inner name c ih =>
    obtain ⟨hinner, hname, hsource, hc⟩ := h
    by_cases hclause : clause = .source
    · -- the values of FROM are all values of the inner query, whose text stands in the parentheses
      subst hclause
      have htext := binds_render_of_clauseSql hinner.clauses.binds_renderGroups (ih hinner)
      have hopen : IsPlain "(" := by decide
      have has : IsPlain ") AS " := by decide
      have hall := (htext.between hopen has).append (isPlain_quoteIdentifier hname d).binds
      show Binds ("(" ++ inner.render d ++ ") AS " ++ d.quoteIdentifier name) (c.bindings.get .source).length
      rw [hsource]
      exact hall
    · exact binds_clauseSql_of_ne_source hc hclause

/-- An aligned query binds its values, those of all levels together. -/
theorem Aligned.binds_render {d : Dialect} {q : Query} (h : q.Aligned d 0) :
    Binds (q.render d) q.bindings.flatten.length :=
  binds_render_of_clauseSql h.clauses.binds_renderGroups h.binds_clauseSql

end Query

/-! ## How the invariant is kept -/

/-- A bare table is aligned if its name is plain. -/
theorem aligned_table {name : String} (h : IsPlain name) (d : Dialect) : (Query.table name).Aligned d 0 :=
  ⟨h, rfl, .nil, .nil, .nil, by simp, .nil, by simp, rfl⟩

/-- Aligned clauses may be added to aligned clauses. -/
theorem Clauses.Aligned.adding {d : Dialect} {m n : Nat} {c added : Clauses} (hc : c.Aligned d m)
    (ha : added.Aligned d n) : (c.adding added).Aligned d (m + n) where
  columns := by
    have hcolumns := hc.columns.append ha.columns
    rw [← List.map_append, Nat.add_add_add_comm, ← List.length_append, ← Bindings.get_append] at hcolumns
    exact hcolumns
  joins := by
    have hjoins := hc.joins.append ha.joins
    rwa [← List.map_append, ← List.length_append, ← Bindings.get_append] at hjoins
  wheres := by
    have hwheres := hc.wheres.append ha.wheres
    rwa [← List.map_append, ← List.length_append, ← Bindings.get_append] at hwheres
  groups := by
    intro g hg
    exact (List.mem_append.1 hg).elim (hc.groups g) (ha.groups g)
  havings := by
    have hhavings := hc.havings.append ha.havings
    rwa [← List.length_append, ← Bindings.get_append] at hhavings
  orders := by
    intro o ho
    exact (List.mem_append.1 ho).elim (hc.orders o) (ha.orders o)
  order_values := by
    show (c.bindings.append added.bindings).get .order = []
    rw [Bindings.get_append, hc.order_values, ha.order_values]
    rfl

namespace Query

/-- A change of the clauses of one level keeps the rest of the query aligned. -/
theorem Aligned.modify {d : Dialect} {m n : Nat} {q : Query} {f : Clauses → Clauses} (h : q.Aligned d m)
    (hsource : (f q.clauses).bindings.get .source = q.clauses.bindings.get .source)
    (hf : (f q.clauses).Aligned d n) : (q.modify f).Aligned d n := by
  cases q with
  | onTable name c => exact ⟨h.1, hsource.trans h.2.1, hf⟩
  | onQuery inner name c => exact ⟨h.1, h.2.1, hsource.trans h.2.2.1, hf⟩

/-- Reading from another query drops what was copied there, with its values. -/
theorem Aligned.readFrom {d : Dialect} {q inner : Query} {name : String} (h : q.Aligned d 0)
    (hinner : inner.Aligned d 0) (hname : IsPlain name) : (q.readFrom inner name).Aligned d 0 := by
  have hclauses := h.clauses
  refine ⟨hinner, hname, by simp, ?_⟩
  -- only the select list and the ordering are left, and they keep their values
  exact {
    columns := by simpa [Bindings.get_replace, Query.bindings] using hclauses.columns
    joins := by simpa [Bindings.get_replace] using BindsAll.nil
    wheres := by simpa [Bindings.get_replace] using BindsAll.nil
    groups := by simp
    havings := by simpa [Bindings.get_replace] using BindsAll.nil
    orders := hclauses.orders
    order_values := by simpa [Bindings.get_replace, Query.bindings] using hclauses.order_values }

/-- Every level of an aligned query is aligned by itself. -/
theorem Aligned.of_mem_levels {d : Dialect} {q level : Query} (h : q.Aligned d 0)
    (hlevel : level ∈ q.levels) : level.Aligned d 0 := by
  induction q with
  | onTable name c =>
    rw [List.mem_singleton.1 hlevel]
    exact h
  | onQuery inner name c ih =>
    rcases List.mem_cons.1 hlevel with rfl | hbelow
    · exact h
    · exact ih h.1 hbelow

end Query

end RelevanceSql
