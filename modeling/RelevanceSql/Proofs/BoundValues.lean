import RelevanceSql.Proofs.Changes
import RelevanceSql.Proofs.Searching
import RelevanceSql.Proofs.Terms

/-!
# The values of a search

In which order the values of a search come. The caller's select list keeps its values, and so does
the caller's ordering. Everything else the caller has bound moves into the scored query, where the
values of the score come first (`params_finalize`). The values of the model's joins come behind those
of the caller's joins, and what a restriction adds to a clause binds its values behind all that is
there in the same clause, and so never in front of the score (`params_searchWith`).
-/

namespace RelevanceSql

open RelevanceSql.Sql RelevanceSql.Search

/-! ## Values of joins -/

/-- The values of the conditions of a join: the one value first, the several values behind it. -/
def JoinSpec.values (spec : JoinSpec) : List Param :=
  (spec.equals.map Prod.snd).toList ++ (spec.member.map Prod.snd).getD []

/-- The values of the joins of a model, join by join. -/
def SearchSpec.joinValues (spec : SearchSpec) : List Param :=
  spec.joins.entries.flatMap fun entry => entry.2.values

theorem JoinSpec.flatMap_params_filters (spec : JoinSpec) :
    spec.filters.flatMap JoinFilter.params = spec.values := by
  unfold filters values
  rw [List.flatMap_append]
  congr 1
  · cases spec.equals <;> rfl
  · cases spec.member with
    | none => rfl
    | some c => exact List.append_nil _

theorem SearchSpec.flatMap_params_of_joinClauses {spec : SearchSpec} {joins : List Join}
    (h : spec.joinClauses = .ok joins) : joins.flatMap Join.params = spec.joinValues := by
  have hsteps := forall₂_of_mapM_eq_ok h
  clear h
  -- from here on all that counts is which join came from which entry
  unfold joinValues
  generalize spec.joins.entries = entries at hsteps
  induction hsteps with
  | nil => rfl
  | @cons entry join entries joins hjoin _ ih =>
    obtain ⟨first, second, _, rfl⟩ := JoinSpec.toJoin_eq_ok hjoin
    rw [List.flatMap_cons, List.flatMap_cons, ih]
    exact congrArg (· ++ _) entry.2.flatMap_params_filters

/-- Joins without flaws all become clauses. -/
theorem SearchSpec.exists_joinClauses_eq_ok {spec : SearchSpec}
    (h : ∀ entry ∈ spec.joins.entries, entry.2.flaw? entry.1 = none) :
    ∃ joins, spec.joinClauses = .ok joins :=
  exists_mapM_eq_ok fun entry hentry => JoinSpec.exists_toJoin_eq_ok (h entry hentry)

/-! ## Values of the parts of a search -/

/-- A finished search has the values of the caller's select list, then all values of the scored query,
those of the relevance first, then the values of the caller's ordering. -/
theorem CompiledQuery.params_finalize (c : CompiledQuery) (base : Query) (d e : Dialect) :
    ((c.finalize base d).toSql e).params =
      base.bindings.get .select ++
        (c.relevance.params ++ c.query.bindings.get .select ++ c.query.bindings.get .source ++
          c.query.bindings.get .join ++ c.query.bindings.get .filter ++ c.query.bindings.get .having) ++
        base.bindings.get .order := by
  have hscored : (c.scored d).bindings.flatten =
      c.relevance.params ++ c.query.bindings.get .select ++ c.query.bindings.get .source ++
        c.query.bindings.get .join ++ c.query.bindings.get .filter ++ c.query.bindings.get .having := by
    rw [Query.bindings, clauses_scored, Bindings.flatten_eq]
    simp [Bindings.get_extend, Bindings.get_replace, Query.bindings]
  have hbindings : (c.finalize base d).bindings =
      (((base.bindings.replace .join []).replace .filter []).replace .having []).replace .source
        (c.scored d).bindings.flatten := by
    rw [finalize_eq]
    rfl
  rw [Query.params_toSql, hbindings, hscored, Bindings.flatten_eq]
  simp [Bindings.get_replace]

namespace Searcher

variable {s : Searcher} {model : Model} {text : String} {tokens : Tokens}

/-- The relevance binds the values of the score's terms, in order. -/
theorem params_relevance (s : Searcher) (model : Model) (tokens : Tokens) :
    ((s.score model tokens).selectExpression s.dialect).params = (s.score model tokens).params :=
  Score.params_toFragment fun _ ht => sql_ne_empty_of_mem_build ht

/-- The values of the scored query before a restriction: those of the caller's select list are gone. -/
theorem get_bindings_compiledWith (base : Query) (tokens : Tokens) {joins : List Join}
    (hjoins : model.search.joinClauses = .ok joins) (limit : Nat) (threshold : Option Float)
    (clause : Clause) :
    (s.compiledWith model base tokens joins limit threshold).query.bindings.get clause =
      if clause = .join then base.bindings.get .join ++ model.search.joinValues
      else if clause = .select then []
      else base.bindings.get clause := by
  rw [Query.bindings, clauses_query_compiledWith]
  show ((base.bindings.replace .select []).extend .join (joins.flatMap Join.params)).get clause = _
  rw [SearchSpec.flatMap_params_of_joinClauses hjoins, Bindings.get_extend, Bindings.get_replace,
    Bindings.get_replace]
  rfl

/-- The values of a search: those of the score behind the caller's select list, and in each of the other
clauses those of the caller, then those of the model, then those of the amendments. -/
def values (s : Searcher) (model : Model) (base : Query) (tokens : Tokens)
    (amendments : List Amendment) : List Param :=
  base.bindings.get .select ++ (s.score model tokens).params ++ base.bindings.get .source ++
    (base.bindings.get .join ++ model.search.joinValues ++
      amendments.flatMap (Amendment.values .join)) ++
    (base.bindings.get .filter ++ amendments.flatMap (Amendment.values .filter)) ++
    (base.bindings.get .having ++ amendments.flatMap (Amendment.values .having)) ++
    base.bindings.get .order

/-- The values of a search whose restriction did nothing but amend the scored query. -/
theorem params_finalize_amendAll (base : Query) (tokens : Tokens) {joins : List Join}
    (hjoins : model.search.joinClauses = .ok joins) (limit : Nat) (threshold : Option Float)
    (amendments : List Amendment) (d e : Dialect) :
    ((((s.compiledWith model base tokens joins limit threshold).amendAll amendments).finalize base
        d).toSql e).params = s.values model base tokens amendments := by
  let c := s.compiledWith model base tokens joins limit threshold
  have hselect : amendments.flatMap (Amendment.values .select) = [] :=
    Amendment.flatMap_values_eq_nil amendments (by decide) (by decide) (by decide)
  have hsource : amendments.flatMap (Amendment.values .source) = [] :=
    Amendment.flatMap_values_eq_nil amendments (by decide) (by decide) (by decide)
  have hrelevance : (c.amendAll amendments).relevance.params = (s.score model tokens).params := by
    rw [(c.amendAll_frame amendments).2.1]
    exact params_relevance s model tokens
  rw [CompiledQuery.params_finalize, hrelevance]
  simp only [CompiledQuery.get_bindings_amendAll, hselect, hsource,
    get_bindings_compiledWith base tokens hjoins]
  simp [values]

/-- A search with tokens and without flaws succeeds with the amendments of its restriction. -/
theorem exists_searchWith_eq_ok (base : Query)
    (htokens : Tokens.parse text (s.cap model) = some tokens) (options : SearchOptions)
    (hlimit : options.limit ≠ 0)
    (hthreshold : ∀ t, options.threshold = some t → Number.isFinite t = true)
    (hfault : model.search.fault? = none) {joins : List Join}
    (hjoins : model.search.joinClauses = .ok joins) (amendments : List Amendment)
    (hrestriction : options.restriction
      (s.compiledWith model base tokens joins options.limit options.threshold) =
        (s.compiledWith model base tokens joins options.limit options.threshold).amendAll amendments)
    (hfinite : Number.isFinite (options.restriction
      (s.compiledWith model base tokens joins options.limit options.threshold)).threshold = true)
    (d : Dialect) :
    ∃ r, s.searchWith model base text options = .ok r ∧
      (r.toSql d).params = s.values model base tokens amendments := by
  refine ⟨_, (searchWith_eq_ok_iff htokens).2 ⟨hlimit, hthreshold, hfault, joins, hjoins, hfinite, rfl⟩, ?_⟩
  rw [hrestriction]
  exact params_finalize_amendAll base tokens hjoins _ _ amendments s.dialect d

/-- **The values of a search.** A search with tokens, a limit, a finite threshold, a specification without
fault and joins without flaw succeeds. Its values are those of the caller, clause by clause, with the
values of the score directly behind the caller's select list and the values of the model's joins
directly behind the caller's joins. If its restriction amends the scored query, the values that the
amendments bind in a clause come directly behind all other values of that clause. -/
theorem params_searchWith (base : Query) (htokens : Tokens.parse text (s.cap model) = some tokens)
    {limit : Nat} (hlimit : limit ≠ 0) {threshold : Option Float}
    (hthreshold : Number.isFinite (threshold.getD (thresholdOf (s.score model tokens))) = true)
    (hfault : model.search.fault? = none)
    (hjoins : ∀ entry ∈ model.search.joins.entries, entry.2.flaw? entry.1 = none) (d : Dialect) :
    (∃ r, s.searchWith model base text { limit := limit, threshold := threshold } = .ok r ∧
      (r.toSql d).params =
        base.bindings.get .select ++ (s.score model tokens).params ++ base.bindings.get .source ++
          (base.bindings.get .join ++ model.search.joinValues) ++ base.bindings.get .filter ++
          base.bindings.get .having ++ base.bindings.get .order) ∧
    ∃ compiled, s.compile model base text limit threshold = .ok (some compiled) ∧
      ∀ (restriction : CompiledQuery → CompiledQuery) (amendments : List Amendment),
        restriction compiled = compiled.amendAll amendments →
        Number.isFinite (restriction compiled).threshold = true →
        ∃ r, s.searchWith model base text
            { limit := limit, threshold := threshold, restriction := restriction } = .ok r ∧
          (r.toSql d).params = s.values model base tokens amendments := by
  have hgiven : ∀ t, threshold = some t → Number.isFinite t = true := by
    rintro t rfl
    exact hthreshold
  obtain ⟨joins, hclauses⟩ := SearchSpec.exists_joinClauses_eq_ok hjoins
  constructor
  · -- no restriction is one without amendments
    have hplain := exists_searchWith_eq_ok base htokens { limit := limit, threshold := threshold } hlimit
      hgiven hfault hclauses [] rfl hthreshold d
    simpa [values] using hplain
  · refine ⟨s.compiledWith model base tokens joins limit threshold,
      (compile_eq_ok_iff htokens).2 ⟨hlimit, hgiven, hfault, joins, hclauses, rfl⟩, ?_⟩
    intro restriction amendments hrestriction hfinite
    exact exists_searchWith_eq_ok base htokens
      { limit := limit, threshold := threshold, restriction := restriction } hlimit hgiven hfault hclauses
      amendments hrestriction hfinite d

theorem params_searchWith_users :
    (∃ r, (usersSearcher .mysql).searchWith usersModel usersQuery "Jo 'x?" { limit := 10 } = .ok r ∧
      (r.toSql .mysql).params = ((usersSearcher .mysql).score usersModel usersTokens).params ++
        [.text "it's", .integer 1, .integer 2] ++ [.integer 3]) ∧
    ∃ r, (usersSearcher .mysql).searchWith usersModel usersQuery "Jo 'x?"
        { limit := 10, restriction := (·.amendAll usersAmendments) } = .ok r ∧
      (r.toSql .mysql).params = ((usersSearcher .mysql).score usersModel usersTokens).params ++
        [.text "it's", .integer 1, .integer 2] ++ [.integer 3, .integer 1] := by
  have hjoins : ∀ entry ∈ usersModel.search.joins.entries, entry.2.flaw? entry.1 = none := by
    rw [entries_joins_usersModel]
    decide
  have hlimit : 10 ≠ 0 := by decide
  have hthreshold : Number.isFinite ((none : Option Float).getD
      (thresholdOf ((usersSearcher .mysql).score usersModel usersTokens))) = true := by decide +kernel
  have hvalues : usersModel.search.joinValues = [.text "it's", .integer 1, .integer 2] := by
    rw [SearchSpec.joinValues, entries_joins_usersModel]
    rfl
  obtain ⟨hplain, compiled, _, hamended⟩ := params_searchWith usersQuery (parse_usersTokens .mysql)
    hlimit hthreshold fault?_usersModel hjoins .mysql
  have hfinite : Number.isFinite (compiled.amendAll usersAmendments).threshold = true := by
    show Number.isFinite 2.0 = true
    decide
  obtain ⟨r, hr, hparams⟩ := hplain
  obtain ⟨r', hr', hparams'⟩ := hamended (·.amendAll usersAmendments) usersAmendments rfl hfinite
  refine ⟨⟨r, hr, ?_⟩, r', hr', ?_⟩
  · rw [hparams, hvalues]
    rfl
  · rw [hparams', values, hvalues]
    rfl

end Searcher

end RelevanceSql
