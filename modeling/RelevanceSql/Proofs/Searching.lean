import Mathlib.Data.List.Forall2
import RelevanceSql.Search.Searcher

/-!
# What a search does

A search with tokens passes a row of checks, builds the scored query, lets the restriction change it,
checks the threshold once more, and puts the caller's query on top. Only the scored query depends on
the search text: `searchWith_eq_bind` gives the checks and the scored query `compiledWith` as one
chain, and `searchWith_eq_ok_iff` says when a search succeeds and with which query.

The second half gives the clauses of the queries that come out: those of the query before the
restriction (`clauses_query_compiledWith`), those of the finished scored query (`clauses_scored`) and
those of the caller's query on top of it (`finalize_eq`). The levels of a query are the query itself
and the queries it reads from, outermost first.
-/

namespace RelevanceSql

open RelevanceSql.Sql RelevanceSql.Search

/-! ## Checks -/

/-- A chain of two steps succeeds if both do, the second one with what the first one gives. -/
theorem bind_eq_ok {ε α β : Type} {x : Except ε α} {f : α → Except ε β} {b : β} :
    x >>= f = .ok b ↔ ∃ a, x = .ok a ∧ f a = .ok b := by
  cases x with
  | error e =>
    show Except.error e = .ok b ↔ _
    simp
  | ok a =>
    show f a = .ok b ↔ _
    simp

/-- All limits but that of no rows pass. -/
theorem checkLimit_eq_ok_iff {limit : Nat} {u : Unit} : checkLimit limit = .ok u ↔ limit ≠ 0 := by
  unfold checkLimit
  split <;> simp [*]

/-- The thresholds that pass are the finite ones. -/
theorem checkThreshold_eq_ok_iff {threshold : Float} {u : Unit} :
    checkThreshold threshold = .ok u ↔ Number.isFinite threshold = true := by
  unfold checkThreshold
  split <;> simp [*]

/-- A search that gives no threshold passes this check as well. -/
theorem forM_checkThreshold_eq_ok_iff {threshold : Option Float} {u : Unit} :
    threshold.forM checkThreshold = .ok u ↔ ∀ t, threshold = some t → Number.isFinite t = true := by
  cases threshold with
  | none => simp [Option.forM, pure, Except.pure]
  | some t => simp [Option.forM, checkThreshold_eq_ok_iff]

/-- What is a fault of the configuration is one of the search, and nothing else is. -/
theorem configResult_eq_ok_iff {α : Type} {x : Except ConfigFault α} {a : α} :
    configResult x = .ok a ↔ x = .ok a := by
  cases x <;> simp [configResult]

/-- A specification passes if no fault is found in it. -/
theorem validate_eq_ok_iff {spec : SearchSpec} {u : Unit} :
    spec.validate = .ok u ↔ spec.fault? = none := by
  unfold SearchSpec.validate
  split <;> simp [*]

/-- With a threshold that is given, the condition on given thresholds is about that one. -/
theorem isFinite_of_some_eq_some {given : Float} (h : Number.isFinite given = true) :
    ∀ t, some given = some t → Number.isFinite t = true := by
  intro t ht
  cases ht
  exact h

/-! ## Joins -/

/-- A run over a list succeeds with the results of its steps. -/
theorem forall₂_of_mapM_eq_ok {ε α β : Type} {f : α → Except ε β} {xs : List α} {ys : List β}
    (h : xs.mapM f = .ok ys) : List.Forall₂ (fun x y => f x = .ok y) xs ys := by
  induction xs generalizing ys with
  | nil =>
    rw [List.mapM_nil] at h
    cases h
    exact .nil
  | cons x xs ih =>
    -- the first step gives `y`, and the run over the others gives `zs`
    rw [List.mapM_cons, bind_eq_ok] at h
    obtain ⟨y, hy, h⟩ := h
    rw [bind_eq_ok] at h
    obtain ⟨zs, hzs, h⟩ := h
    cases h
    exact .cons hy (ih hzs)

/-- Every result of a run comes from an element of the list. -/
theorem exists_of_mem_mapM {ε α β : Type} {f : α → Except ε β} {xs : List α} {ys : List β}
    (h : xs.mapM f = .ok ys) {y : β} (hy : y ∈ ys) : ∃ x ∈ xs, f x = .ok y := by
  have hsteps := forall₂_of_mapM_eq_ok h
  clear h
  -- the induction is on the steps, each of which names the element that its result comes from
  induction hsteps with
  | nil => cases hy
  | @cons x z xs zs hx _ ih =>
    rcases List.mem_cons.1 hy with rfl | hy
    · exact ⟨x, by simp, hx⟩
    · obtain ⟨x', hx', hfx'⟩ := ih hy
      exact ⟨x', by simp [hx'], hfx'⟩

/-- A run over a list succeeds if each of its steps does. -/
theorem exists_mapM_eq_ok {ε α β : Type} {f : α → Except ε β} {xs : List α}
    (h : ∀ x ∈ xs, ∃ y, f x = .ok y) : ∃ ys, xs.mapM f = .ok ys := by
  induction xs with
  | nil => exact ⟨[], List.mapM_nil⟩
  | cons x xs ih =>
    obtain ⟨y, hy⟩ := h x (by simp)
    obtain ⟨ys, hys⟩ := ih fun x hx => h x (by simp [hx])
    refine ⟨y :: ys, ?_⟩
    rw [List.mapM_cons, hy, hys]
    rfl

/-- A run over a list fails at the first element at which it fails. -/
theorem mapM_eq_error_iff {ε α β : Type} {f : α → Except ε β} {xs : List α} {e : ε} :
    xs.mapM f = .error e ↔ ∃ before x after,
      xs = before ++ x :: after ∧ (∀ y ∈ before, ∃ z, f y = .ok z) ∧ f x = .error e := by
  induction xs with
  | nil =>
    rw [List.mapM_nil]
    constructor
    · intro h
      cases h
    · rintro ⟨before, x, after, heq, -⟩
      simp at heq
  | cons a as ih =>
    rw [List.mapM_cons]
    constructor
    · intro h
      cases ha : f a with
      | error e' =>
        rw [ha] at h
        cases h
        exact ⟨[], a, as, rfl, by simp, ha⟩
      | ok z =>
        -- the first element passes, and the fault is that of a later one
        have hrest : as.mapM f = .error e := by
          rw [ha] at h
          cases hs : as.mapM f with
          | error e' => rw [hs] at h; cases h; rfl
          | ok zs => rw [hs] at h; cases h
        obtain ⟨before, x, after, rfl, hbefore, hx⟩ := ih.1 hrest
        exact ⟨a :: before, x, after, rfl, List.forall_mem_cons.2 ⟨⟨z, ha⟩, hbefore⟩, hx⟩
    · rintro ⟨before, x, after, heq, hbefore, hx⟩
      -- the elements in front of the one at fault pass: there are none, or the first one is passed
      cases before with
      | nil =>
        cases heq
        rw [hx]
        rfl
      | cons y before =>
        cases heq
        obtain ⟨⟨z, hz⟩, hbefore⟩ := List.forall_mem_cons.1 hbefore
        rw [hz, ih.2 ⟨before, x, after, rfl, hbefore, hx⟩]
        rfl

/-- A joined table as a clause has the two keys and the conditions of its description. -/
theorem JoinSpec.toJoin_eq_ok {spec : JoinSpec} {table : String} {join : Join}
    (h : spec.toJoin table = .ok join) :
    ∃ first second, spec.keys = [first, second] ∧ join = ⟨table, first, second, spec.filters⟩ := by
  unfold JoinSpec.toJoin at h
  split at h
  · next first second _ hkeys =>
    cases h
    exact ⟨first, second, hkeys, rfl⟩
  · cases h
  · cases h

/-- A description without a flaw becomes a clause. -/
theorem JoinSpec.exists_toJoin_eq_ok {spec : JoinSpec} {table : String} (h : spec.flaw? table = none) :
    ∃ join, spec.toJoin table = .ok join := by
  have hlength : spec.keys.length = 2 := by
    -- any other number of keys is a flaw, unless the name of the table is one already
    by_contra hnot
    unfold JoinSpec.flaw? at h
    rw [if_pos hnot] at h
    split at h <;> cases h
  obtain ⟨first, second, hkeys⟩ := List.length_eq_two.1 hlength
  exact ⟨⟨table, first, second, spec.filters⟩, by simp [JoinSpec.toJoin, h, hkeys]⟩

/-! ## The scored query of a search -/

namespace Searcher

/-- The scored query of a search for given tokens, once the joins of the model are clauses. -/
def compiledWith (s : Searcher) (model : Model) (base : Query) (tokens : Tokens) (joins : List Join)
    (limit : Nat) (threshold : Option Float) : CompiledQuery :=
  let relevance := (s.score model tokens).selectExpression s.dialect
  { query := ((base.selectTableColumns model.table).leftJoins joins).selectRaw relevance.sql
    table := model.table
    relevance := relevance
    threshold := threshold.getD (thresholdOf (s.score model tokens))
    limit := limit
    groupBy := model.grouping
    filter := s.dialect.relevanceFilter }

/-- Nothing but a malformed join keeps a scored query from being built. -/
theorem prepare_eq_map (base : Query) (model : Model) (score : Score) (threshold : Float) (limit : Nat)
    (d : Dialect) :
    prepare base model score threshold limit d = model.search.joinClauses.map fun joins =>
      { query := ((base.selectTableColumns model.table).leftJoins joins).selectRaw
          (score.selectExpression d).sql
        table := model.table
        relevance := score.selectExpression d
        threshold := threshold
        limit := limit
        groupBy := model.grouping
        filter := d.relevanceFilter } := by
  unfold prepare
  cases model.search.joinClauses <;> rfl

variable {s : Searcher} {model : Model} {base : Query} {text : String} {options : SearchOptions}

/-- Building the scored query as a chain of checks, none of which looks at the tokens. -/
theorem compile_eq_bind {tokens : Tokens} (h : Tokens.parse text (s.cap model) = some tokens)
    (limit : Nat) (threshold : Option Float) :
    s.compile model base text limit threshold = do
      checkLimit limit
      threshold.forM checkThreshold
      configResult model.search.validate
      let joins ← configResult model.search.joinClauses
      return some (s.compiledWith model base tokens joins limit threshold) := by
  unfold compile
  rw [h]
  -- a check that fails ends both chains with its fault
  cases checkLimit limit with
  | error fault => rfl
  | ok u =>
    cases threshold.forM checkThreshold with
    | error fault => rfl
    | ok u =>
      cases configResult model.search.validate with
      | error fault => rfl
      | ok u =>
        simp only [prepare_eq_map]
        cases model.search.joinClauses <;> rfl

/-- When the scored query of a search with tokens is built, and which one it is. -/
theorem compile_eq_ok_iff {tokens : Tokens} (h : Tokens.parse text (s.cap model) = some tokens)
    {limit : Nat} {threshold : Option Float} {c : Option CompiledQuery} :
    s.compile model base text limit threshold = .ok c ↔
      limit ≠ 0 ∧ (∀ t, threshold = some t → Number.isFinite t = true) ∧ model.search.fault? = none ∧
        ∃ joins, model.search.joinClauses = .ok joins ∧
          some (s.compiledWith model base tokens joins limit threshold) = c := by
  -- each check of the chain is one of the conditions
  rw [compile_eq_bind h]
  simp only [bind_eq_ok, checkLimit_eq_ok_iff, forM_checkThreshold_eq_ok_iff, configResult_eq_ok_iff,
    validate_eq_ok_iff, pure, Except.pure, Except.ok.injEq, exists_const]

/-- A search with tokens as a chain of checks, of which only the last looks at the tokens. -/
theorem searchWith_eq_bind {tokens : Tokens} (h : Tokens.parse text (s.cap model) = some tokens) :
    s.searchWith model base text options = do
      checkLimit options.limit
      options.threshold.forM checkThreshold
      configResult model.search.validate
      let joins ← configResult model.search.joinClauses
      let compiled := options.restriction
        (s.compiledWith model base tokens joins options.limit options.threshold)
      checkThreshold compiled.threshold
      return compiled.finalize base s.dialect := by
  -- what follows the scored query is added to each way the chain of checks can end
  unfold searchWith
  rw [compile_eq_bind h]
  cases checkLimit options.limit with
  | error fault => rfl
  | ok u =>
    cases options.threshold.forM checkThreshold with
    | error fault => rfl
    | ok u =>
      cases configResult model.search.validate with
      | error fault => rfl
      | ok u => cases configResult model.search.joinClauses <;> rfl

/-- Without tokens a search checks what it was given and leaves the query as it is. -/
theorem searchWith_eq_bind_of_none (h : Tokens.parse text (s.cap model) = none) :
    s.searchWith model base text options = do
      checkLimit options.limit
      options.threshold.forM checkThreshold
      configResult model.search.validate
      return base := by
  unfold searchWith compile
  rw [h]
  cases checkLimit options.limit with
  | error fault => rfl
  | ok u =>
    cases options.threshold.forM checkThreshold with
    | error fault => rfl
    | ok u => cases configResult model.search.validate <;> rfl

/-- When a search with tokens succeeds, and with which query. -/
theorem searchWith_eq_ok_iff {tokens : Tokens} (h : Tokens.parse text (s.cap model) = some tokens)
    {r : Query} :
    s.searchWith model base text options = .ok r ↔
      options.limit ≠ 0 ∧ (∀ t, options.threshold = some t → Number.isFinite t = true) ∧
        model.search.fault? = none ∧ ∃ joins, model.search.joinClauses = .ok joins ∧
          Number.isFinite (options.restriction
            (s.compiledWith model base tokens joins options.limit options.threshold)).threshold = true ∧
          (options.restriction (s.compiledWith model base tokens joins options.limit
            options.threshold)).finalize base s.dialect = r := by
  rw [searchWith_eq_bind h]
  simp only [bind_eq_ok, checkLimit_eq_ok_iff, forM_checkThreshold_eq_ok_iff, configResult_eq_ok_iff,
    validate_eq_ok_iff, checkThreshold_eq_ok_iff, pure, Except.pure, Except.ok.injEq, exists_const]

/-- A search without tokens that succeeds gives the caller's query back. -/
theorem eq_of_searchWith_of_none (h : Tokens.parse text (s.cap model) = none) {r : Query}
    (hr : s.searchWith model base text options = .ok r) : r = base := by
  rw [searchWith_eq_bind_of_none h] at hr
  simp only [bind_eq_ok, pure, Except.pure, Except.ok.injEq] at hr
  obtain ⟨_, _, _, _, _, _, hbase⟩ := hr
  exact hbase.symm

end Searcher

/-! ## Clauses -/

namespace Query

/-- A query and the queries it reads from, outermost first. -/
def levels : Query → List Query
  | .onTable name c => [.onTable name c]
  | .onQuery inner name c => .onQuery inner name c :: inner.levels

/-- The outermost level of a query is the query itself. -/
theorem levels_eq_cons (q : Query) : q.levels = q :: q.levels.tail := by
  cases q <;> rfl

/-- The levels below the outermost one stay as they are when only its clauses change. -/
theorem levels_modify (q : Query) (f : Clauses → Clauses) :
    (q.modify f).levels = q.modify f :: q.levels.tail := by
  cases q <;> rfl

/-- Joins come behind those that are there, and so do their values. -/
theorem clauses_leftJoins (q : Query) (joins : List Join) :
    (q.leftJoins joins).clauses =
      { q.clauses with
        joins := q.clauses.joins ++ joins
        bindings := q.clauses.bindings.extend .join (joins.flatMap Join.params) } := by
  unfold leftJoins
  -- joining the first table changes the query that the others are joined to
  induction joins generalizing q with
  | nil => simp [Bindings.extend, Bindings.get, Bindings.replace]
  | cons join joins ih =>
    rw [List.foldl_cons, ih]
    simp [leftJoin, clauses_modify, Bindings.extend, Bindings.get, Bindings.replace]

/-- Joins change nothing but the clauses of the outermost level. -/
theorem exists_leftJoins_eq_modify (q : Query) (joins : List Join) :
    ∃ f, q.leftJoins joins = q.modify f := by
  unfold leftJoins
  induction joins generalizing q with
  | nil => exact ⟨id, by cases q <;> rfl⟩
  | cons join joins ih =>
    -- one join after the other is one change of the clauses after the other
    obtain ⟨f, hf⟩ := ih (q.leftJoin join)
    rw [List.foldl_cons, hf, leftJoin, modify_modify]
    exact ⟨_, rfl⟩

end Query

namespace Searcher

variable (s : Searcher) (model : Model) (base : Query) (tokens : Tokens) (joins : List Join)
  (limit : Nat) (threshold : Option Float)

/-- The query of a search before a restriction: the select list is new, the joins are added. -/
theorem clauses_query_compiledWith :
    (s.compiledWith model base tokens joins limit threshold).query.clauses =
      { base.clauses with
        columns := [.named (model.table ++ ".*"),
          .raw ((s.score model tokens).selectExpression s.dialect).sql]
        joins := base.clauses.joins ++ joins
        bindings := (base.clauses.bindings.replace .select []).extend .join (joins.flatMap Join.params) } := by
  -- the relevance is selected last, behind the columns of the table
  simp only [compiledWith, Query.selectRaw, Query.clauses_modify, Query.clauses_leftJoins,
    Query.selectTableColumns, List.singleton_append]

/-- Building the scored query changes the caller's query on its outermost level only. -/
theorem exists_query_compiledWith_eq_modify :
    ∃ f, (s.compiledWith model base tokens joins limit threshold).query = base.modify f := by
  obtain ⟨f, hf⟩ := Query.exists_leftJoins_eq_modify (base.selectTableColumns model.table) joins
  simp only [compiledWith, Query.selectRaw, hf]
  rw [Query.selectTableColumns, Query.modify_modify, Query.modify_modify]
  exact ⟨_, rfl⟩

/-- The query of a search has as many levels as that of the caller, until it is put below it. -/
theorem length_levels_compiledWith :
    (s.compiledWith model base tokens joins limit threshold).query.levels.length = base.levels.length := by
  obtain ⟨f, hf⟩ := s.exists_query_compiledWith_eq_modify model base tokens joins limit threshold
  rw [hf, Query.levels_modify, base.levels_eq_cons]
  rfl

end Searcher

/-- What belongs into the scored query where a dialect compares the relevance there. -/
def Sql.RelevanceFilter.inHaving {α : Type} : RelevanceFilter → List α → List α
  | .having, xs => xs
  | .outerWhere, _ => []

/-- What belongs on top of the scored query where a dialect compares the relevance only there. -/
def Sql.RelevanceFilter.onTop {α : Type} : RelevanceFilter → List α → List α
  | .having, _ => []
  | .outerWhere, xs => xs

namespace CompiledQuery

/-- The finished scored query: grouping and threshold are added, ordering, limit and values set. -/
theorem scored_eq_modify (c : CompiledQuery) (d : Dialect) :
    c.scored d = c.query.modify fun clauses =>
      { clauses with
        groups := clauses.groups ++ c.filter.inHaving c.groupBy
        havings := clauses.havings ++ c.filter.inHaving [havingCondition d c.threshold]
        orders := [(relevanceName, .descending)]
        limit := some c.limit
        bindings := (Bindings.empty.extend .select c.relevance.params).append
          (clauses.bindings.replace .order []) } := by
  -- all four cases change one record of clauses, field by field
  unfold scored
  cases c.query <;> cases c.filter <;>
    simp [RelevanceFilter.inHaving, Query.bindRelevance, Query.limit, Query.reorderDesc,
      Query.havingRaw, Query.groupBy, Query.modify, Query.setBindings, Query.bindings, Query.clauses]

/-- The clauses of the finished scored query, one by one. -/
theorem clauses_scored (c : CompiledQuery) (d : Dialect) :
    (c.scored d).clauses =
      { c.query.clauses with
        groups := c.query.clauses.groups ++ c.filter.inHaving c.groupBy
        havings := c.query.clauses.havings ++ c.filter.inHaving [havingCondition d c.threshold]
        orders := [(relevanceName, .descending)]
        limit := some c.limit
        bindings := (Bindings.empty.extend .select c.relevance.params).append
          (c.query.clauses.bindings.replace .order []) } := by
  rw [scored_eq_modify, Query.clauses_modify]

/-- The caller's query on top: joins, conditions and grouping are gone, all values are below. -/
theorem finalize_eq (c : CompiledQuery) (base : Query) (d : Dialect) :
    c.finalize base d = .onQuery (c.scored d) c.table
      { base.clauses with
        joins := []
        wheres := c.filter.onTop [.raw (outerCondition d c.table c.threshold)]
        groups := []
        havings := []
        bindings :=
          (((base.bindings.replace .join []).replace .filter []).replace .having []).replace .source
            (c.scored d).bindings.flatten } := by
  unfold finalize
  cases c.filter <;> rfl

end CompiledQuery

/-! ## Users and their posts

A small model with a joined table whose conditions bind values, and a query of a caller who binds a
value as well: something to search in.
-/

def usersModel : Model where
  table := "users"
  search :=
    { columns := .ofList [("name", 10.0), ("posts.title", 5.0)]
      fulltextColumns := .ofList [("bio", 2.0)]
      joins := .ofList [("posts",
        { keys := ["users.id", "posts.user_id"]
          equals := some ("posts.status", .text "it's")
          member := some ("posts.kind", [.integer 1, .integer 2]) })]
      mutations := .ofList [("name", "UNACCENT")] }

/-- The join of the users model as a clause. -/
def postsJoin : Join :=
  ⟨"posts", "users.id", "posts.user_id",
    [.equals "posts.status" (.text "it's"), .member "posts.kind" [.integer 1, .integer 2]]⟩

/-- Two matchers for phrases, two for single tokens, and at most five tokens. -/
def usersSearcher (d : Dialect) : Searcher :=
  ⟨[(.exactFull, 100.0), (.startOfString, 50.0), (.consecutiveCharacters, 40.0), (.timesInString, 8.0)],
    5, d⟩

/-- A query with a selected column, a condition that binds a value, and a condition on groups. -/
def usersQuery : Query :=
  (((Query.table "users").select ["users.name"]).whereRawWith "note = '?' AND age > ?"
    [.integer 3]).havingRaw "COUNT(*) > 1"

def usersTokens : Tokens := ⟨["jo", "'x?"], by decide⟩

theorem parse_usersTokens (d : Dialect) :
    Tokens.parse "Jo 'x?" ((usersSearcher d).cap usersModel) = some usersTokens := by
  show Tokens.parse "Jo 'x?" 5 = some usersTokens
  decide

theorem fault?_usersModel : usersModel.search.fault? = none := by decide

theorem entries_joins_usersModel : usersModel.search.joins.entries = [("posts",
    { keys := ["users.id", "posts.user_id"]
      equals := some ("posts.status", .text "it's")
      member := some ("posts.kind", [.integer 1, .integer 2]) })] := rfl

theorem joinClauses_usersModel : usersModel.search.joinClauses = .ok [postsJoin] := by
  rw [SearchSpec.joinClauses, entries_joins_usersModel]
  rfl

/-- A search among the users on top of any query succeeds unless its limit or a threshold is refused. -/
theorem searchWith_usersModel (d : Dialect) (base : Query) (options : SearchOptions)
    (hlimit : options.limit ≠ 0)
    (hgiven : ∀ t, options.threshold = some t → Number.isFinite t = true)
    (hfinite : Number.isFinite (options.restriction ((usersSearcher d).compiledWith usersModel base
      usersTokens [postsJoin] options.limit options.threshold)).threshold = true) :
    (usersSearcher d).searchWith usersModel base "Jo 'x?" options =
      .ok ((options.restriction ((usersSearcher d).compiledWith usersModel base usersTokens
        [postsJoin] options.limit options.threshold)).finalize base d) :=
  (Searcher.searchWith_eq_ok_iff (parse_usersTokens d)).2
    ⟨hlimit, hgiven, fault?_usersModel, [postsJoin], joinClauses_usersModel, hfinite, rfl⟩

/-- The search on top of the query with a value of its own. -/
theorem searchWith_users (d : Dialect) (options : SearchOptions) (hlimit : options.limit ≠ 0)
    (hgiven : ∀ t, options.threshold = some t → Number.isFinite t = true)
    (hfinite : Number.isFinite (options.restriction ((usersSearcher d).compiledWith usersModel usersQuery
      usersTokens [postsJoin] options.limit options.threshold)).threshold = true) :
    (usersSearcher d).searchWith usersModel usersQuery "Jo 'x?" options =
      .ok ((options.restriction ((usersSearcher d).compiledWith usersModel usersQuery usersTokens
        [postsJoin] options.limit options.threshold)).finalize usersQuery d) :=
  searchWith_usersModel d usersQuery options hlimit hgiven hfinite

/-- A search for ten users with a threshold of two, on top of any query. -/
theorem searchWith_tenUsers (d : Dialect) (base : Query) :
    (usersSearcher d).searchWith usersModel base "Jo 'x?" { limit := 10, threshold := some 2.0 } =
      .ok (((usersSearcher d).compiledWith usersModel base usersTokens [postsJoin] 10
        (some 2.0)).finalize base d) := by
  have hfinite : Number.isFinite 2.0 = true := by decide
  exact searchWith_usersModel d base { limit := 10, threshold := some 2.0 } (by decide)
    (isFinite_of_some_eq_some hfinite) hfinite

end RelevanceSql
