import RelevanceSql.Proofs.Alignment
import RelevanceSql.Proofs.Terms

/-!
# Sessions

A session is everything a caller does with one query: it begins with a table, goes on with edits, with
reading from the query of another session, and with searches whose restrictions only amend the scored
query. The names that are used are plain, and raw SQL fits the values that come with it.

Every step keeps the query aligned. A search is the one step that breaks the invariant in between: its
scored query selects the relevance long before the values of the relevance are bound. There the values
of the relevance are the pending ones (`CompiledQuery.Aligned`), a restriction keeps them pending
(`Aligned.amendAll`), and finishing the scored query binds them (`Aligned.scored`). So in the query of
any session each clause of each level has a value for each of its placeholders
(`placeholders_eq_values`).
-/

namespace RelevanceSql

open RelevanceSql.Sql RelevanceSql.Search

/-! ## Steps with plain names and fitting SQL -/

/-- A refinement by plain names and by SQL that fits its values. -/
def Refinement.Proper : Refinement → Prop
  | .whereEq column _ => IsPlain column
  | .whereIn column _ => IsPlain column
  | .whereRawWith sql params => FitsValues sql params
  | .whereRaw sql => FitsValues sql []
  | .havingRaw sql => FitsValues sql []
  | .havingRawWith sql params => FitsValues sql params
  | .leftJoin join => join.Plain
  | .groupBy columns => ∀ column ∈ columns, IsPlain column

/-- A step of building a query by plain names and by SQL that fits its values. -/
def Edit.Proper : Edit → Prop
  | .refine r => r.Proper
  | .select columns => ∀ column ∈ columns, IsPlain column
  | .selectTableColumns table => IsPlain table
  | .orderBy column _ => IsPlain column
  | .reorderDesc column => IsPlain column
  | .limit _ => True
  | .offset _ => True

/-- An amendment by plain names and by SQL that fits its values. -/
def Amendment.Proper : Amendment → Prop
  | .refine r => r.Proper
  | .setGroupBy columns => ∀ column ∈ columns, IsPlain column
  | .setThreshold _ => True
  | .setLimit _ => True

/-- The description of a join by plain columns. -/
structure JoinSpec.Plain (spec : JoinSpec) : Prop where
  keys : ∀ key ∈ spec.keys, IsPlain key
  filters : ∀ f ∈ spec.filters, IsPlain f.column

/-- A model whose table, key, columns and joins have plain names. -/
structure Model.Plain (model : Model) : Prop where
  table : IsPlain model.table
  key : IsPlain model.key
  columns : ∀ entry ∈ model.search.weightedColumns, IsPlain entry.1
  joins : ∀ entry ∈ model.search.joins.entries, IsPlain entry.1 ∧ entry.2.Plain
  groupBy : ∀ groupBy, model.search.groupBy = some groupBy → ∀ name ∈ groupBy.names, IsPlain name

/-- A restriction that does nothing but proper amendments. -/
def OnlyAmends (restriction : CompiledQuery → CompiledQuery) : Prop :=
  ∀ c, ∃ amendments : List Amendment, (∀ a ∈ amendments, a.Proper) ∧ restriction c = c.amendAll amendments

/-- The queries that a caller can arrive at. -/
inductive Session : Query → Prop where
  | table {name : String} (hname : IsPlain name) : Session (Query.table name)
  | edit {q : Query} {e : Edit} (hq : Session q) (he : e.Proper) : Session (q.edit e)
  | readFrom {q inner : Query} {name : String} (hq : Session q) (hinner : Session inner)
    (hname : IsPlain name) : Session (q.readFrom inner name)
  | search {q r : Query} {s : Searcher} {model : Model} {text : String} {options : SearchOptions}
    (hq : Session q) (hmodel : model.Plain) (hrestriction : OnlyAmends options.restriction)
    (hr : s.searchWith model q text options = .ok r) : Session r

/-! ## Steps of building a query -/

/-- One condition with its values. -/
theorem aligned_condition {d : Dialect} {condition : Condition} {params : List Param}
    (h : Binds (condition.render d) params.length) :
    Clauses.Aligned d 0 { wheres := [condition], bindings := { filter := params } } :=
  ⟨.nil, .nil, bindsAll_singleton h, by simp, .nil, by simp, rfl⟩

/-- One condition on groups with its values. -/
theorem aligned_having (d : Dialect) {sql : String} {params : List Param} (h : Binds sql params.length) :
    Clauses.Aligned d 0 { havings := [sql], bindings := { having := params } } :=
  ⟨.nil, .nil, .nil, by simp, bindsAll_singleton h, by simp, rfl⟩

theorem aligned_added (d : Dialect) {r : Refinement} (h : r.Proper) : r.added.Aligned d 0 := by
  cases r with
  | whereEq column value => exact aligned_condition (binds_equals (isPlain_quoteIdentifier h d))
  | whereIn column values =>
    exact aligned_condition (binds_renderMember (isPlain_quoteIdentifier h d) values.length)
  | whereRawWith sql params => exact aligned_condition (binds_renderRaw d h)
  | whereRaw sql => exact aligned_condition (binds_renderRaw d h)
  | havingRaw sql => exact aligned_having d h.binds
  | havingRawWith sql params => exact aligned_having d h.binds
  | leftJoin join =>
    exact ⟨.nil, bindsAll_singleton (binds_renderJoin d h), .nil, by simp [Refinement.added], .nil,
      by simp [Refinement.added], rfl⟩
  | groupBy columns => exact ⟨.nil, .nil, .nil, h, .nil, by simp [Refinement.added], rfl⟩

namespace Query

variable {d : Dialect} {q : Query} {m : Nat}

theorem Aligned.refine (h : q.Aligned d m) {r : Refinement} (hr : r.Proper) :
    (q.refine r).Aligned d m := by
  rw [refine_eq_modify]
  refine h.modify ?_ (h.clauses.adding (aligned_added d hr))
  show (q.clauses.bindings.append r.added.bindings).get .source = _
  rw [Bindings.get_append, r.get_added_eq_nil (by decide) (by decide) (by decide), List.append_nil]

theorem Aligned.select (h : q.Aligned d m) {columns : List String}
    (hcolumns : ∀ column ∈ columns, IsPlain column) : (q.select columns).Aligned d m := by
  have hnamed : BindsAll ((columns.map Column.named).map (Column.render d)) 0 := by
    rw [List.map_map]
    exact bindsAll_map_plain fun column hc => isPlain_quoteIdentifier (hcolumns column hc) d
  refine h.modify rfl { h.clauses with columns := ?_ }
  rw [List.map_append]
  exact h.clauses.columns.append hnamed

/-- A new select list has no values, and none are pending any more. -/
theorem Aligned.selectTableColumns (h : q.Aligned d m) {table : String} (htable : IsPlain table) :
    (q.selectTableColumns table).Aligned d 0 := by
  have hcolumn : Binds (d.quoteIdentifier (table ++ ".*")) 0 :=
    (isPlain_quoteIdentifier (htable.append (by decide)) d).binds
  exact h.modify rfl { h.clauses with columns := bindsAll_singleton hcolumn }

theorem Aligned.orderBy (h : q.Aligned d m) {column : String} (hcolumn : IsPlain column)
    (direction : Direction) : (q.orderBy column direction).Aligned d m := by
  refine h.modify rfl { h.clauses with orders := ?_ }
  intro o ho
  rcases List.mem_append.1 ho with ho | ho
  · exact h.clauses.orders o ho
  · rw [List.mem_singleton.1 ho]
    exact hcolumn

theorem Aligned.reorderDesc (h : q.Aligned d m) {column : String} (hcolumn : IsPlain column) :
    (q.reorderDesc column).Aligned d m := by
  refine h.modify rfl { h.clauses with orders := ?_, order_values := rfl }
  intro o ho
  rw [List.mem_singleton.1 ho]
  exact hcolumn

/-- One step of building a query keeps it aligned. -/
theorem Aligned.edit (h : q.Aligned d 0) {e : Edit} (he : e.Proper) : (q.edit e).Aligned d 0 := by
  cases e with
  | refine r => exact h.refine he
  | select columns => exact h.select he
  | selectTableColumns table => exact h.selectTableColumns he
  | orderBy column direction => exact h.orderBy he direction
  | reorderDesc column => exact h.reorderDesc he
  | limit count => exact h.modify rfl { h.clauses with }
  | offset count => exact h.modify rfl { h.clauses with }

theorem Aligned.leftJoins (h : q.Aligned d m) {joins : List Join} (hjoins : ∀ j ∈ joins, j.Plain) :
    (q.leftJoins joins).Aligned d m := by
  unfold Query.leftJoins
  induction joins generalizing q with
  | nil => exact h
  | cons join joins ih =>
    have hjoin : Refinement.Proper (.leftJoin join) := hjoins join (by simp)
    exact ih (h.refine hjoin) fun j hj => hjoins j (by simp [hj])

/-- The values of a raw expression are pending until they are bound. -/
theorem Aligned.selectRaw (h : q.Aligned d m) {sql : String} {n : Nat} (hsql : Binds sql n) :
    (q.selectRaw sql).Aligned d (m + n) := by
  refine h.modify rfl { h.clauses with columns := ?_ }
  rw [List.map_append, Nat.add_right_comm]
  exact h.clauses.columns.concat hsql

end Query

/-! ## The scored query -/

/-- A scored query that still has to be finished: only the values of the relevance are pending. -/
structure CompiledQuery.Aligned (d : Dialect) (c : CompiledQuery) : Prop where
  query : c.query.Aligned d c.relevance.params.length
  table : IsPlain c.table
  groupBy : ∀ column ∈ c.groupBy, IsPlain column

theorem plain_of_joinClauses {model : Model} (hmodel : model.Plain) {joins : List Join}
    (h : model.search.joinClauses = .ok joins) : ∀ j ∈ joins, j.Plain := by
  intro j hj
  obtain ⟨entry, hentry, hjoin⟩ := exists_of_mem_mapM h hj
  obtain ⟨first, second, hkeys, rfl⟩ := JoinSpec.toJoin_eq_ok hjoin
  obtain ⟨htable, hspec⟩ := hmodel.joins entry hentry
  exact ⟨htable, hspec.keys first (by simp [hkeys]), hspec.keys second (by simp [hkeys]), hspec.filters⟩

/-- Columns that are each taken once all come from what was there or from the list. -/
theorem mem_of_mem_foldl_taken {α : Type} {take : List α → α → Bool} {xs taken : List α} {x : α}
    (h : x ∈ xs.foldl (fun taken x => if take taken x then taken ++ [x] else taken) taken) :
    x ∈ taken ∨ x ∈ xs := by
  induction xs generalizing taken with
  | nil => exact Or.inl h
  | cons y ys ih =>
    rw [List.foldl_cons] at h
    rcases ih h with h | h
    · split at h
      · rcases List.mem_append.1 h with h | h
        · exact Or.inl h
        · exact Or.inr (List.mem_cons.2 (Or.inl (List.mem_singleton.1 h)))
      · exact Or.inl h
    · exact Or.inr (List.mem_cons_of_mem _ h)

theorem isPlain_of_mem_grouping {model : Model} (hmodel : model.Plain) {column : String}
    (h : column ∈ model.grouping) : IsPlain column := by
  unfold Model.grouping at h
  split at h
  · -- the configured grouping
    next groupBy hgroupBy =>
    obtain ⟨name, hname, rfl⟩ := List.mem_map.1 h
    exact isPlain_qualify hmodel.table (hmodel.groupBy groupBy hgroupBy name hname)
  · -- the key, or the searched column of a joined table
    rcases mem_of_mem_foldl_taken h with h | h
    · rw [List.mem_singleton.1 h]
      exact isPlain_qualify hmodel.table hmodel.key
    · obtain ⟨entry, hentry, rfl⟩ := List.mem_map.1 h
      exact isPlain_qualify hmodel.table (hmodel.columns entry hentry)

/-- Before a restriction, all that is pending are the values of the relevance. -/
theorem aligned_compiledWith {d : Dialect} (s : Searcher) {model : Model} (hmodel : model.Plain)
    (hfault : model.search.fault? = none) {base : Query} (hbase : base.Aligned d 0) (tokens : Tokens)
    {joins : List Join} (hjoins : model.search.joinClauses = .ok joins) (limit : Nat)
    (threshold : Option Float) :
    (s.compiledWith model base tokens joins limit threshold).Aligned d where
  query := by
    have hterms : ∀ t ∈ (s.score model tokens).terms, t.fragment.Balanced := fun t ht =>
      balanced_of_mem_build hfault hmodel.table hmodel.columns ht
    have hrelevance := Score.balanced_selectExpression hterms s.dialect
    have hselected := ((hbase.selectTableColumns hmodel.table).leftJoins
      (plain_of_joinClauses hmodel hjoins)).selectRaw hrelevance
    rwa [Nat.zero_add] at hselected
  table := hmodel.table
  groupBy := fun _ h => isPlain_of_mem_grouping hmodel h

namespace CompiledQuery

variable {d : Dialect} {c : CompiledQuery}

theorem Aligned.amend (h : c.Aligned d) {a : Amendment} (ha : a.Proper) : (c.amend a).Aligned d := by
  cases a with
  | refine r => exact { h with query := h.query.refine ha }
  | setThreshold threshold => exact { h with }
  | setLimit limit => exact { h with }
  | setGroupBy columns => exact { h with groupBy := ha }

/-- A restriction keeps the values of the relevance pending. -/
theorem Aligned.amendAll (h : c.Aligned d) {amendments : List Amendment}
    (hall : ∀ a ∈ amendments, a.Proper) : (c.amendAll amendments).Aligned d := by
  unfold CompiledQuery.amendAll
  induction amendments generalizing c with
  | nil => exact h
  | cons a as ih => exact ih (h.amend (hall a (by simp))) fun b hb => hall b (by simp [hb])

theorem isPlain_havingCondition (d : Dialect) (threshold : Float) :
    IsPlain (havingCondition d threshold) :=
  ((isPlain_quoteIdentifier (by decide) d).append (by decide)).append (isPlain_literal threshold)

theorem isPlain_outerCondition (d : Dialect) {table : String} (h : IsPlain table) (threshold : Float) :
    IsPlain (outerCondition d table threshold) := by
  have hname : IsPlain (table ++ "." ++ relevanceName) := (h.append (by decide)).append (by decide)
  exact (((IsPlain.append (by decide) (isPlain_quoteIdentifier hname d)).append (by decide))).append
    (isPlain_literal threshold)

/-- Finishing the scored query binds the values of the relevance, and nothing is pending any more. -/
theorem Aligned.scored (h : c.Aligned d) (e : Dialect) : (c.scored e).Aligned d 0 := by
  have hclauses := h.query.clauses
  have hhavings : BindsAll (c.filter.inHaving [havingCondition e c.threshold]) 0 := by
    cases c.filter with
    | having => exact bindsAll_singleton (isPlain_havingCondition e c.threshold).binds
    | outerWhere => exact .nil
  have hgroups : ∀ g ∈ c.filter.inHaving c.groupBy, IsPlain g := by
    cases c.filter with
    | having => exact h.groupBy
    | outerWhere => exact fun g hg => nomatch hg
  rw [scored_eq_modify]
  refine h.query.modify (by simp [Bindings.get_replace, Bindings.get_extend]) ?_
  -- the pending values become bound in front of the select list, and the dropped ordering had none
  exact {
    columns := by
      rw [Bindings.get_append, Bindings.get_extend, Bindings.get_replace]
      simpa using hclauses.columns
    joins := by
      rw [Bindings.get_append, Bindings.get_extend, Bindings.get_replace]
      simpa using hclauses.joins
    wheres := by
      rw [Bindings.get_append, Bindings.get_extend, Bindings.get_replace]
      simpa using hclauses.wheres
    groups := fun g hg => (List.mem_append.1 hg).elim (hclauses.groups g) (hgroups g)
    havings := by
      rw [Bindings.get_append, Bindings.get_extend, Bindings.get_replace]
      simpa using hclauses.havings.append hhavings
    orders := by
      intro o ho
      rw [List.mem_singleton.1 ho]
      show IsPlain relevanceName
      decide
    order_values := by
      rw [Bindings.get_append, Bindings.get_extend, Bindings.get_replace]
      rfl }

/-- Putting an aligned query on top of the scored query gives an aligned query. -/
theorem Aligned.finalize (h : c.Aligned d) {base : Query} (hbase : base.Aligned d 0) (e : Dialect) :
    (c.finalize base e).Aligned d 0 := by
  have hclauses := (hbase.readFrom (h.scored e) h.table).clauses
  have hplain := isPlain_outerCondition e h.table c.threshold
  have hwheres : BindsAll ((c.filter.onTop [Condition.raw (outerCondition e c.table c.threshold)]).map
      (Condition.render d)) 0 := by
    cases c.filter with
    | having => exact .nil
    | outerWhere => exact bindsAll_singleton (hplain.binds.between (by decide) (by decide))
  rw [finalize_eq]
  exact ⟨h.scored e, h.table, by simp, { hclauses with wheres := hwheres }⟩

end CompiledQuery

/-! ## Whole sessions -/

/-- A search keeps a query aligned. -/
theorem Query.Aligned.search {d : Dialect} {q r : Query} (hq : q.Aligned d 0) {s : Searcher}
    {model : Model} (hmodel : model.Plain) {text : String} {options : SearchOptions}
    (hrestriction : OnlyAmends options.restriction)
    (hr : s.searchWith model q text options = .ok r) : r.Aligned d 0 := by
  cases htokens : Tokens.parse text (s.cap model) with
  | none =>
    -- the caller's query comes back as it is
    rw [Searcher.eq_of_searchWith_of_none htokens hr]
    exact hq
  | some tokens =>
    obtain ⟨_, _, hfault, joins, hjoins, _, rfl⟩ := (Searcher.searchWith_eq_ok_iff htokens).1 hr
    -- pending while the restriction is at work, bound when the search is finished
    have hcompiled := aligned_compiledWith s hmodel hfault hq tokens hjoins options.limit options.threshold
    obtain ⟨amendments, hproper, hamended⟩ := hrestriction
      (s.compiledWith model q tokens joins options.limit options.threshold)
    rw [hamended]
    exact (hcompiled.amendAll hproper).finalize hq s.dialect

theorem Session.aligned {q : Query} (h : Session q) (d : Dialect) : q.Aligned d 0 := by
  induction h with
  | table hname => exact aligned_table hname d
  | edit _ he ih => exact ih.edit he
  | readFrom _ _ hname ihq ihinner => exact ihq.readFrom ihinner hname
  | search _ hmodel hrestriction hr ih => exact ih.search hmodel hrestriction hr

/-- **Placeholders and values agree.** In the query of any session, for any database, every clause of
every level renders as many placeholders as it has values, and so does the whole text of the level. -/
theorem placeholders_eq_values {q : Query} (h : Session q) (d : Dialect) :
    ∀ level ∈ q.levels,
      (∀ clause, Placeholder.count (level.clauseSql d clause) = (level.bindings.get clause).length) ∧
        Placeholder.count (level.render d) = (level.toSql d).params.length := by
  intro level hlevel
  have haligned := (h.aligned d).of_mem_levels hlevel
  exact ⟨fun clause => (haligned.binds_clauseSql clause).count_eq, haligned.binds_render.count_eq⟩

theorem plain_usersModel : usersModel.Plain where
  table := by decide
  key := by decide
  columns := by decide
  joins := by
    intro entry hentry
    rw [entries_joins_usersModel] at hentry
    rw [List.mem_singleton.1 hentry]
    exact ⟨by decide, by decide, by decide⟩
  groupBy := by
    intro groupBy hgroupBy
    cases hgroupBy

theorem session_usersQuery : Session usersQuery := by
  have hselect : Edit.Proper (.select ["users.name"]) := by
    simp only [Edit.Proper]
    decide
  have hwhere : Edit.Proper (.refine (.whereRawWith "note = '?' AND age > ?" [.integer 3])) := by
    simp only [Edit.Proper, Refinement.Proper]
    decide
  have hhaving : Edit.Proper (.refine (.havingRaw "COUNT(*) > 1")) := by
    simp only [Edit.Proper, Refinement.Proper]
    decide
  exact (((Session.table (by decide)).edit hselect).edit hwhere).edit hhaving

/-- A search among the users with a restriction. -/
def restrictedUsers (d : Dialect) : Query :=
  (((usersSearcher d).compiledWith usersModel usersQuery usersTokens [postsJoin] defaultLimit none).amendAll
    usersAmendments).finalize usersQuery d

theorem session_restrictedUsers (d : Dialect) : Session (restrictedUsers d) := by
  have hproper : ∀ a ∈ usersAmendments, a.Proper := by
    intro a ha
    simp only [usersAmendments, List.mem_cons, List.not_mem_nil, or_false] at ha
    rcases ha with rfl | rfl
    · simp only [Amendment.Proper, Refinement.Proper]
      decide
    · trivial
  have hfinite : Number.isFinite 2.0 = true := by decide
  have hsearch := searchWith_users d { restriction := (·.amendAll usersAmendments) }
    (Nat.succ_ne_zero _) (by simp) hfinite
  exact .search session_usersQuery plain_usersModel (fun _ => ⟨usersAmendments, hproper, rfl⟩) hsearch

theorem placeholders_eq_values_restrictedUsers :
    Session (restrictedUsers .mysql) ∧ ∀ level ∈ (restrictedUsers .mysql).levels,
      (∀ clause, Placeholder.count (level.clauseSql .pgsql clause) = (level.bindings.get clause).length) ∧
        Placeholder.count (level.render .pgsql) = (level.toSql .pgsql).params.length :=
  ⟨session_restrictedUsers .mysql, placeholders_eq_values (session_restrictedUsers .mysql) .pgsql⟩

end RelevanceSql
