import RelevanceSql.Proofs.Searching

/-!
# The levels of a search

Where the clauses of a caller's query are after a search. The scored query is read from by a query that
keeps the caller's select list, ordering and limit. The joins, conditions and grouping of the caller
are in the scored query and nowhere else, followed there by what the search adds; what the caller's
query reads from, the scored query reads from. `NestedIn` says this clause by clause, and
`nestedIn_of_searchWith` says it of every search with tokens.
-/

namespace RelevanceSql

open RelevanceSql.Sql RelevanceSql.Search

namespace Query

/-- The entries of one kind of clause on all levels of a query, outermost first. -/
def collect {α : Type} (q : Query) (entries : Clauses → List α) : List α :=
  q.levels.flatMap fun level => entries level.clauses

/-- If a new level is put on top of a query and entries are added below it, then no other entries are
gained, lost or repeated. -/
theorem collect_perm {α : Type} {r inner base : Query} {entries : Clauses → List α} {top added : List α}
    (hlevels : r.levels = r :: inner :: base.levels.tail) (hr : entries r.clauses = top)
    (hinner : entries inner.clauses = entries base.clauses ++ added) :
    (r.collect entries).Perm (base.collect entries ++ (top ++ added)) := by
  let rest := base.levels.tail.flatMap fun level => entries level.clauses
  have hcollect : r.collect entries = top ++ (entries base.clauses ++ added ++ rest) := by
    rw [collect, hlevels, List.flatMap_cons, List.flatMap_cons, hr, hinner]
  have hbase : base.collect entries = entries base.clauses ++ rest := by
    rw [collect, levels_eq_cons, List.flatMap_cons]
  -- the entries on top move behind all others, then the added ones behind those further below
  have htop : (top ++ (entries base.clauses ++ added ++ rest)).Perm
      (entries base.clauses ++ added ++ rest ++ top) := List.perm_append_comm
  have hadded : (added ++ (rest ++ top)).Perm (rest ++ top ++ added) := List.perm_append_comm
  have hmoved := hadded.append_left (entries base.clauses)
  rw [hcollect, hbase]
  simp only [List.append_assoc] at htop hmoved ⊢
  exact htop.trans hmoved

end Query

/-- What a search with the given joins, relevance, threshold and limit makes of a caller's query: `inner`
is the scored query and `r` the query on top of it. -/
structure NestedIn (r inner base : Query) (model : Model) (joins : List Join) (relevance : String)
    (threshold : Float) (limit : Nat) (d : Dialect) : Prop where
  top_inner? : r.inner? = some inner
  top_name : r.sourceName = model.table
  top_columns : r.clauses.columns = base.clauses.columns
  top_joins : r.clauses.joins = []
  top_wheres : r.clauses.wheres =
    d.relevanceFilter.onTop [.raw (outerCondition d model.table threshold)]
  top_groups : r.clauses.groups = []
  top_havings : r.clauses.havings = []
  top_orders : r.clauses.orders = base.clauses.orders
  top_limit : r.clauses.limit = base.clauses.limit
  inner_inner? : inner.inner? = base.inner?
  inner_name : inner.sourceName = base.sourceName
  inner_columns : inner.clauses.columns = [.named (model.table ++ ".*"), .raw relevance]
  inner_joins : inner.clauses.joins = base.clauses.joins ++ joins
  inner_wheres : inner.clauses.wheres = base.clauses.wheres
  inner_groups : inner.clauses.groups =
    base.clauses.groups ++ d.relevanceFilter.inHaving model.grouping
  inner_havings : inner.clauses.havings =
    base.clauses.havings ++ d.relevanceFilter.inHaving [havingCondition d threshold]
  inner_orders : inner.clauses.orders = [(relevanceName, .descending)]
  inner_limit : inner.clauses.limit = some limit
  levels : r.levels = r :: inner :: base.levels.tail

namespace NestedIn

variable {r inner base : Query} {model : Model} {joins : List Join} {relevance : String}
  {threshold : Float} {limit : Nat} {d : Dialect}

/-! Each entry of the caller's query is still there, on one level, beside those of the search. -/

theorem joins_perm (h : NestedIn r inner base model joins relevance threshold limit d) :
    (r.collect Clauses.joins).Perm (base.collect Clauses.joins ++ joins) :=
  Query.collect_perm h.levels h.top_joins h.inner_joins

theorem wheres_perm (h : NestedIn r inner base model joins relevance threshold limit d) :
    (r.collect Clauses.wheres).Perm (base.collect Clauses.wheres ++
      d.relevanceFilter.onTop [.raw (outerCondition d model.table threshold)]) := by
  have hinner : inner.clauses.wheres = base.clauses.wheres ++ [] := by
    rw [h.inner_wheres, List.append_nil]
  have hperm := Query.collect_perm h.levels h.top_wheres hinner
  rwa [List.append_nil] at hperm

theorem groups_perm (h : NestedIn r inner base model joins relevance threshold limit d) :
    (r.collect Clauses.groups).Perm
      (base.collect Clauses.groups ++ d.relevanceFilter.inHaving model.grouping) :=
  Query.collect_perm h.levels h.top_groups h.inner_groups

theorem havings_perm (h : NestedIn r inner base model joins relevance threshold limit d) :
    (r.collect Clauses.havings).Perm (base.collect Clauses.havings ++
      d.relevanceFilter.inHaving [havingCondition d threshold]) :=
  Query.collect_perm h.levels h.top_havings h.inner_havings

end NestedIn

namespace Searcher

variable {s : Searcher} {model : Model} {base : Query} {text : String} {tokens : Tokens}

/-- The query on top of the scored query of a search, clause by clause. -/
theorem nestedIn_finalize (s : Searcher) (model : Model) (base : Query) (tokens : Tokens)
    (joins : List Join) (limit : Nat) (threshold : Option Float) :
    NestedIn ((s.compiledWith model base tokens joins limit threshold).finalize base s.dialect)
      ((s.compiledWith model base tokens joins limit threshold).scored s.dialect) base model joins
      ((s.score model tokens).selectExpression s.dialect).sql
      (threshold.getD (thresholdOf (s.score model tokens))) limit s.dialect := by
  let c := s.compiledWith model base tokens joins limit threshold
  obtain ⟨f, hf⟩ := s.exists_query_compiledWith_eq_modify model base tokens joins limit threshold
  have hclauses := s.clauses_query_compiledWith model base tokens joins limit threshold
  have hscored := c.clauses_scored s.dialect
  -- what is on top is written down in `finalize_eq`; below, the clauses are those of the scored query
  rw [CompiledQuery.finalize_eq]
  exact {
    top_inner? := rfl
    top_name := rfl
    top_columns := rfl
    top_joins := rfl
    top_wheres := rfl
    top_groups := rfl
    top_havings := rfl
    top_orders := rfl
    top_limit := rfl
    inner_inner? := by
      rw [CompiledQuery.scored_eq_modify, Query.inner?_modify, hf, Query.inner?_modify]
    inner_name := by
      rw [CompiledQuery.scored_eq_modify, Query.sourceName_modify, hf, Query.sourceName_modify]
    inner_columns := by rw [hscored, hclauses]
    inner_joins := by rw [hscored, hclauses]
    inner_wheres := by rw [hscored, hclauses]
    inner_groups := by rw [hscored, hclauses]; rfl
    inner_havings := by rw [hscored, hclauses]; rfl
    inner_orders := by rw [hscored]
    inner_limit := by rw [hscored]; rfl
    levels := by
      show _ :: (c.scored s.dialect).levels = _
      rw [CompiledQuery.scored_eq_modify, Query.levels_modify, hf, Query.levels_modify]
      rfl }

/-- **A search nests the caller's query.** A search with tokens puts a query on top of the scored query,
each with the clauses that `NestedIn` gives. On all levels together, each join, condition and grouping
of the caller's query is found as often as before, beside those that the search adds. -/
theorem nestedIn_of_searchWith (htokens : Tokens.parse text (s.cap model) = some tokens) {limit : Nat}
    {threshold : Option Float} {r : Query}
    (hr : s.searchWith model base text { limit := limit, threshold := threshold } = .ok r) :
    ∃ inner joins, model.search.joinClauses = .ok joins ∧
      NestedIn r inner base model joins ((s.score model tokens).selectExpression s.dialect).sql
        (threshold.getD (thresholdOf (s.score model tokens))) limit s.dialect ∧
      (r.collect Clauses.joins).Perm (base.collect Clauses.joins ++ joins) ∧
      (r.collect Clauses.wheres).Perm (base.collect Clauses.wheres ++
        s.dialect.relevanceFilter.onTop [.raw (outerCondition s.dialect model.table
          (threshold.getD (thresholdOf (s.score model tokens))))]) ∧
      (r.collect Clauses.groups).Perm (base.collect Clauses.groups ++
        s.dialect.relevanceFilter.inHaving model.grouping) ∧
      (r.collect Clauses.havings).Perm (base.collect Clauses.havings ++
        s.dialect.relevanceFilter.inHaving [havingCondition s.dialect
          (threshold.getD (thresholdOf (s.score model tokens)))]) := by
  -- without a restriction the scored query is the one that was built
  obtain ⟨_, _, _, joins, hjoins, _, rfl⟩ := (searchWith_eq_ok_iff htokens).1 hr
  have hnested := nestedIn_finalize s model base tokens joins limit threshold
  exact ⟨_, joins, hjoins, hnested, hnested.joins_perm, hnested.wheres_perm, hnested.groups_perm,
    hnested.havings_perm⟩

/-- The relevance is compared in the scored query of one dialect and on top of it in another one. -/
theorem nestedIn_of_searchWith_users :
    (∃ r inner, (usersSearcher .mysql).searchWith usersModel usersQuery "Jo 'x?"
        { limit := 10, threshold := some 2.0 } = .ok r ∧
      NestedIn r inner usersQuery usersModel [postsJoin]
        (((usersSearcher .mysql).score usersModel usersTokens).selectExpression .mysql).sql 2.0 10 .mysql ∧
      (r.collect Clauses.joins).Perm [postsJoin] ∧
      (r.collect Clauses.havings).Perm ["COUNT(*) > 1", havingCondition .mysql 2.0]) ∧
    ∃ r inner, (usersSearcher .pgsql).searchWith usersModel usersQuery "Jo 'x?"
        { limit := 10, threshold := some 2.0 } = .ok r ∧
      NestedIn r inner usersQuery usersModel [postsJoin]
        (((usersSearcher .pgsql).score usersModel usersTokens).selectExpression .pgsql).sql 2.0 10 .pgsql ∧
      (r.collect Clauses.wheres).Perm
        [.raw "note = '?' AND age > ?", .raw (outerCondition .pgsql "users" 2.0)] ∧
      (r.collect Clauses.havings).Perm ["COUNT(*) > 1"] := by
  have hmysql := searchWith_tenUsers .mysql usersQuery
  have hpgsql := searchWith_tenUsers .pgsql usersQuery
  obtain ⟨inner, joins, hjoins, hnested, hjoined, -, -, hhavings⟩ :=
    nestedIn_of_searchWith (parse_usersTokens .mysql) hmysql
  obtain ⟨inner', joins', hjoins', hnested', -, hwheres', -, hhavings'⟩ :=
    nestedIn_of_searchWith (parse_usersTokens .pgsql) hpgsql
  rw [joinClauses_usersModel] at hjoins hjoins'
  cases hjoins
  cases hjoins'
  exact ⟨⟨_, inner, hmysql, hnested, hjoined, hhavings⟩, _, inner', hpgsql, hnested', hwheres', hhavings'⟩

end Searcher

end RelevanceSql
