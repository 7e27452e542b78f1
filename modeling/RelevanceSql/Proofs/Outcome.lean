import RelevanceSql.Proofs.Searching
import RelevanceSql.Proofs.Tokenizing

/-!
# How a search ends

Some searches are settled before there is a scored query: by their limit, by a threshold that was
given, by the specification, by a text without tokens, or by a joined table. `earlyOutcomes` lists
these ends in the order in which they are looked at, and the first that applies is the outcome
(`Searcher.outcome_of_searchWith`). In all other searches the restriction is run on the scored query,
and only its threshold can still be refused. What comes out otherwise is said clause by clause, for the
query on top and the scored one that it reads from (`CompiledQuery.Merged`). It has one level more than
the scored query, so that a search for a text with tokens does not hand the caller's query back.

A restriction is a function, and whether a function is run does not show in its results. So the search
is also written for restrictions with effects (`searchWithM`), of which the search itself is the case
without effects (`searchWithM_pure`). An early outcome then comes without any effect.
-/

namespace RelevanceSql

open RelevanceSql.Sql RelevanceSql.Text RelevanceSql.Search

/-! ## Malformed joins -/

namespace JoinSpec

/-- A description that names no table, or not two key columns, or a condition without a column. -/
def Malformed (spec : JoinSpec) (table : String) : Prop :=
  isBlankText table = true ∨ spec.keys.length ≠ 2 ∨ (∃ key ∈ spec.keys, isBlankText key = true) ∨
    (∃ column value, spec.equals = some (column, value) ∧ isBlankText column = true) ∨
    ∃ column values, spec.member = some (column, values) ∧ isBlankText column = true

/-- A condition without a column is one that is there and has a blank name. -/
theorem lacksColumn_iff {α : Type} {condition : Option (String × α)} :
    lacksColumn condition = true ↔
      ∃ column value, condition = some (column, value) ∧ isBlankText column = true := by
  cases condition with
  | none => simp [lacksColumn]
  | some c =>
    obtain ⟨column, value⟩ := c
    simp [lacksColumn]

/-- There is a flaw exactly in the malformed descriptions. -/
theorem isSome_flaw?_iff {spec : JoinSpec} {table : String} :
    (spec.flaw? table).isSome = true ↔ spec.Malformed table := by
  have hkeys : spec.keys.any isBlankText = true ↔ ∃ key ∈ spec.keys, isBlankText key = true :=
    List.any_eq_true
  rw [Malformed, ← hkeys, ← lacksColumn_iff, ← lacksColumn_iff]
  unfold flaw?
  -- the checks in order, each one reached if those before it found nothing
  split
  · simp [*]
  · split
    · simp [*]
    · split
      · simp [*]
      · split
        · simp [*]
        · split <;> simp_all

end JoinSpec

/-- The fault of the first malformed join. -/
def SearchSpec.joinFault? (spec : SearchSpec) : Option ConfigFault :=
  spec.joins.entries.findSome? fun entry => (entry.2.flaw? entry.1).map (.invalidJoin entry.1)

/-- The fault is that of the first entry that is malformed. -/
theorem SearchSpec.joinFault?_eq_some_iff {spec : SearchSpec} {fault : ConfigFault} :
    spec.joinFault? = some fault ↔ ∃ before table join after flaw,
      spec.joins.entries = before ++ (table, join) :: after ∧
        (∀ entry ∈ before, ¬entry.2.Malformed entry.1) ∧ join.Malformed table ∧
          join.flaw? table = some flaw ∧ fault = .invalidJoin table flaw := by
  rw [joinFault?, List.findSome?_eq_some_iff]
  constructor
  · rintro ⟨before, ⟨table, join⟩, after, hentries, hfault, hbefore⟩
    obtain ⟨flaw, hflaw, hfault⟩ := Option.map_eq_some_iff.1 hfault
    refine ⟨before, table, join, after, flaw, hentries, fun entry hentry => ?_, ?_, hflaw, hfault.symm⟩
    · rw [← JoinSpec.isSome_flaw?_iff, Option.map_eq_none_iff.1 (hbefore entry hentry)]
      exact Bool.false_ne_true
    · rw [← JoinSpec.isSome_flaw?_iff, hflaw]
      rfl
  · rintro ⟨before, table, join, after, flaw, hentries, hbefore, _, hflaw, rfl⟩
    refine ⟨before, (table, join), after, hentries, by rw [hflaw]; rfl, fun entry hentry => ?_⟩
    rw [Option.map_eq_none_iff, ← Option.not_isSome_iff_eq_none, JoinSpec.isSome_flaw?_iff]
    exact hbefore entry hentry

/-- The joins are refused with the fault of the first malformed one. -/
theorem SearchSpec.joinClauses_eq_error {spec : SearchSpec} {fault : ConfigFault}
    (h : spec.joinFault? = some fault) : spec.joinClauses = .error fault := by
  obtain ⟨before, entry, after, hentries, hfault, hbefore⟩ := List.findSome?_eq_some_iff.1 h
  obtain ⟨flaw, hflaw, rfl⟩ := Option.map_eq_some_iff.1 hfault
  refine mapM_eq_error_iff.2 ⟨before, entry, after, hentries, fun other hother => ?_, ?_⟩
  · exact JoinSpec.exists_toJoin_eq_ok (Option.map_eq_none_iff.1 (hbefore other hother))
  · exact JoinSpec.toJoin_of_flaw hflaw

/-- Without a malformed one all joins become clauses. -/
theorem SearchSpec.exists_joinClauses_of_joinFault? {spec : SearchSpec} (h : spec.joinFault? = none) :
    ∃ joins, spec.joinClauses = .ok joins :=
  exists_mapM_eq_ok fun entry hentry =>
    JoinSpec.exists_toJoin_eq_ok (Option.map_eq_none_iff.1 (List.findSome?_eq_none_iff.1 h entry hentry))

/-! ## Merged queries -/

namespace CompiledQuery

/-- What comes out on top of a scored query. `r` reads from `inner` under the name of the table and keeps the
select list, the ordering, the limit and the offset of the caller; `inner` is the scored query with its
grouping, condition, ordering, limit and values. Joins, conditions and grouping of the caller are not on
top, and all values of the levels below are values of what is read from. -/
structure Merged (c : CompiledQuery) (base : Query) (d : Dialect) (r inner : Query) : Prop where
  inner? : r.inner? = some inner
  sourceName : r.sourceName = c.table
  clauses : r.clauses =
    { base.clauses with
      joins := []
      wheres := c.filter.onTop [.raw (outerCondition d c.table c.threshold)]
      groups := []
      havings := []
      bindings :=
        (((base.bindings.replace .join []).replace .filter []).replace .having []).replace .source
          inner.bindings.flatten }
  scored : inner = c.query.modify fun clauses =>
    { clauses with
      groups := clauses.groups ++ c.filter.inHaving c.groupBy
      havings := clauses.havings ++ c.filter.inHaving [havingCondition d c.threshold]
      orders := [(relevanceName, .descending)]
      limit := some c.limit
      bindings := (Bindings.empty.extend .select c.relevance.params).append
        (clauses.bindings.replace .order []) }
  levels : r.levels = r :: inner :: c.query.levels.tail

variable {c : CompiledQuery} {base : Query} {d : Dialect} {r inner : Query}

/-- A finished search is merged from the scored query and that of the caller. -/
theorem merged_finalize (c : CompiledQuery) (base : Query) (d : Dialect) :
    c.Merged base d (c.finalize base d) (c.scored d) where
  inner? := by rw [finalize_eq]; rfl
  sourceName := by rw [finalize_eq]; rfl
  clauses := by rw [finalize_eq]; rfl
  scored := c.scored_eq_modify d
  levels := by
    rw [finalize_eq]
    show _ :: (c.scored d).levels = _
    rw [scored_eq_modify, Query.levels_modify]

/-- There is one level more than in the scored query. -/
theorem Merged.length_levels (h : c.Merged base d r inner) :
    r.levels.length = c.query.levels.length + 1 := by
  rw [h.levels, c.query.levels_eq_cons]
  rfl

/-- As long as a restriction keeps the number of levels, the caller's query does not come out unchanged. -/
theorem Merged.ne_base (h : c.Merged base d r inner)
    (hlevels : c.query.levels.length = base.levels.length) : r ≠ base := by
  rintro rfl
  have hmore := h.length_levels
  omega

/-- How a search that comes to a scored query ends: with the fault of a threshold that is infinite or NaN, or
with a query on top of the scored one. -/
inductive EndsAs (c : CompiledQuery) (base : Query) (d : Dialect) : Except SearchFault Query → Prop where
  | refused (h : Number.isFinite c.threshold = false) :
    EndsAs c base d (.error (.invalidThreshold c.threshold))
  | merged {r inner : Query} (h : Number.isFinite c.threshold = true) (hr : c.Merged base d r inner) :
    EndsAs c base d (.ok r)

end CompiledQuery

/-! ## Restrictions with effects -/

namespace Searcher

/-- A search whose restriction may have effects. -/
def searchWithM {m : Type → Type} [Monad m] (s : Searcher) (model : Model) (query : Query)
    (text : String) (limit : Nat) (threshold : Option Float)
    (restriction : CompiledQuery → m CompiledQuery) : m (Except SearchFault Query) :=
  match s.compile model query text limit threshold with
  | .error fault => return .error fault
  | .ok none => return .ok query
  | .ok (some compiled) => do
    let restricted ← restriction compiled
    return do
      checkThreshold restricted.threshold
      return restricted.finalize query s.dialect

/-- A restriction without effects gives the search itself. -/
theorem searchWithM_pure {m : Type → Type} [Monad m] [LawfulMonad m] (s : Searcher) (model : Model)
    (query : Query) (text : String) (options : SearchOptions) :
    s.searchWithM model query text options.limit options.threshold
        (fun compiled => (pure (options.restriction compiled) : m CompiledQuery)) =
      pure (s.searchWith model query text options) := by
  unfold searchWithM searchWith
  cases s.compile model query text options.limit options.threshold with
  | error fault => rfl
  | ok compiled? =>
    cases compiled? with
    | none => rfl
    | some compiled =>
      simp only [pure_bind]
      rfl

/-! ## Outcomes -/

/-- The ends of a search that need no scored query, in the order in which they are looked at. -/
def earlyOutcomes (model : Model) (query : Query) (text : String) (limit : Nat)
    (threshold : Option Float) : List (Option (Except SearchFault Query)) :=
  [ if limit = 0 then some (.error .invalidLimit) else none,
    (threshold.filter fun given => !Number.isFinite given).map fun given =>
      .error (.invalidThreshold given),
    match model.search.validate with
      | .error fault => some (.error (.config fault))
      | .ok () => none,
    if isFillerText text then some (.ok query) else none,
    model.search.joinFault?.map fun fault => .error (.config fault) ]

/-- The end of a search that needs no scored query, if there is one. -/
def earlyOutcome? (model : Model) (query : Query) (text : String) (limit : Nat)
    (threshold : Option Float) : Option (Except SearchFault Query) :=
  (earlyOutcomes model query text limit threshold).findSome? id

variable {config : Config} {d : Dialect} {s : Searcher} {model : Model} {query : Query} {text : String}
  {limit : Nat} {threshold : Option Float}

/-- No accepted configuration and no valid specification caps the tokens at zero. -/
theorem cap_ne_zero (hs : ofConfig config d = .ok s) (hfault : model.search.fault? = none) :
    s.cap model ≠ 0 := by
  have hconfig : s.maxWords ≠ 0 := by
    unfold ofConfig at hs
    obtain ⟨matchers, hmatchers, hs⟩ := bind_eq_ok.1 hs
    cases hs
    intro hzero
    rw [configResult_eq_ok_iff, Config.validate, if_pos hzero] at hmatchers
    cases hmatchers
  have hspec : model.search.maxWords ≠ some 0 := by
    intro hzero
    simp [SearchSpec.fault?, hzero] at hfault
  have htoNat : ∀ words : UInt64, words ≠ 0 → words.toNat ≠ 0 := fun words hwords h =>
    hwords (UInt64.toNat_inj.1 h)
  -- a specification without a cap leaves that of the configuration
  unfold cap
  cases hwords : model.search.maxWords with
  | none => exact htoNat _ hconfig
  | some words =>
    refine htoNat words ?_
    rintro rfl
    exact hspec hwords

/-- A search goes on to a scored query if none of the five ends applies. -/
theorem earlyOutcome?_eq_none_iff :
    earlyOutcome? model query text limit threshold = none ↔
      limit ≠ 0 ∧ (∀ t, threshold = some t → Number.isFinite t = true) ∧ model.search.fault? = none ∧
        isFillerText text = false ∧ model.search.joinFault? = none := by
  have hvalid : (match model.search.validate with
      | .error fault => some (Except.error (SearchFault.config fault))
      | .ok () => (none : Option (Except SearchFault Query))) = none ↔ model.search.fault? = none := by
    unfold SearchSpec.validate
    cases model.search.fault? <;> simp
  simp only [earlyOutcome?, earlyOutcomes, List.findSome?_eq_none_iff, List.forall_mem_cons, id, hvalid]
  simp [Option.filter_eq_none_iff]

/-- An early outcome is that of building the scored query, where none is built. -/
theorem compile_of_earlyOutcome? (hs : ofConfig config d = .ok s) {outcome : Except SearchFault Query}
    (h : earlyOutcome? model query text limit threshold = some outcome) :
    s.compile model query text limit threshold = outcome.map fun _ => none := by
  unfold compile
  by_cases hlimit : limit = 0
  · have houtcome : .error .invalidLimit = outcome := by
      simpa [earlyOutcome?, earlyOutcomes, hlimit] using h
    rw [← houtcome, checkLimit, if_pos hlimit]
    rfl
  have hlimitOk : checkLimit limit = .ok () := checkLimit_eq_ok_iff.2 hlimit
  rw [hlimitOk]
  by_cases hgiven : ∃ t, threshold = some t ∧ Number.isFinite t = false
  · obtain ⟨t, hsome, ht⟩ := hgiven
    have houtcome : .error (.invalidThreshold t) = outcome := by
      simpa [earlyOutcome?, earlyOutcomes, hlimit, hsome, ht] using h
    have hcheck : (some t).forM checkThreshold = .error (.invalidThreshold t) := by
      simp [Option.forM, checkThreshold, ht]
    rw [← houtcome, hsome, hcheck]
    rfl
  have hfinite : ∀ t, threshold = some t → Number.isFinite t = true := by
    intro t ht
    by_contra hnot
    exact hgiven ⟨t, ht, by simpa using hnot⟩
  have hkept : (threshold.filter fun given => !Number.isFinite given) = none := by
    simpa [Option.filter_eq_none_iff] using hfinite
  have hfiniteOk : threshold.forM checkThreshold = .ok () := forM_checkThreshold_eq_ok_iff.2 hfinite
  rw [hfiniteOk]
  cases hvalid : model.search.validate with
  | error fault =>
    have houtcome : .error (.config fault) = outcome := by
      simpa [earlyOutcome?, earlyOutcomes, hlimit, hkept, hvalid] using h
    rw [← houtcome]
    rfl
  | ok u =>
    by_cases htext : isFillerText text = true
    · have houtcome : .ok query = outcome := by
        simpa [earlyOutcome?, earlyOutcomes, hlimit, hkept, hvalid, htext] using h
      have hnone : Tokens.parse text (s.cap model) = none := parse_eq_none_iff.2 (Or.inr htext)
      rw [← houtcome, hnone]
      rfl
    · -- the text has tokens, so that the only end left is that of a malformed join
      have hsome : Tokens.parse text (s.cap model) ≠ none := by
        rw [ne_eq, parse_eq_none_iff, not_or]
        exact ⟨cap_ne_zero hs (validate_eq_ok_iff.1 hvalid), htext⟩
      obtain ⟨tokens, htokens⟩ := Option.ne_none_iff_exists'.1 hsome
      have hjoin : (model.search.joinFault?.map fun fault => .error (.config fault)) = some outcome := by
        cases hfault : model.search.joinFault? with
        | none => simp [earlyOutcome?, earlyOutcomes, hlimit, hkept, hvalid, htext, hfault] at h
        | some fault =>
          simpa [earlyOutcome?, earlyOutcomes, hlimit, hkept, hvalid, htext, hfault] using h
      obtain ⟨fault, hfault, houtcome⟩ := Option.map_eq_some_iff.1 hjoin
      rw [← houtcome, htokens]
      simp only [prepare_eq_map, SearchSpec.joinClauses_eq_error hfault]
      rfl

/-- Without an early outcome there is a scored query. -/
theorem exists_compile_eq_ok (hs : ofConfig config d = .ok s)
    (h : earlyOutcome? model query text limit threshold = none) :
    ∃ tokens joins, Tokens.parse text (s.cap model) = some tokens ∧
      model.search.joinClauses = .ok joins ∧
        s.compile model query text limit threshold =
          .ok (some (s.compiledWith model query tokens joins limit threshold)) := by
  obtain ⟨hlimit, hfinite, hfault, htext, hjoin⟩ := earlyOutcome?_eq_none_iff.1 h
  have hsome : Tokens.parse text (s.cap model) ≠ none := by
    rw [ne_eq, parse_eq_none_iff, not_or, htext]
    exact ⟨cap_ne_zero hs hfault, Bool.false_ne_true⟩
  obtain ⟨tokens, htokens⟩ := Option.ne_none_iff_exists'.1 hsome
  obtain ⟨joins, hjoins⟩ := SearchSpec.exists_joinClauses_of_joinFault? hjoin
  exact ⟨tokens, joins, htokens, hjoins,
    (compile_eq_ok_iff htokens).2 ⟨hlimit, hfinite, hfault, joins, hjoins, rfl⟩⟩

/-- The end of a search that comes to a scored query, as the restriction leaves it. -/
def ending (s : Searcher) (query : Query) (c : CompiledQuery) : Except SearchFault Query :=
  if Number.isFinite c.threshold then .ok (c.finalize query s.dialect)
  else .error (.invalidThreshold c.threshold)

/-- The threshold is all that can still be refused. -/
theorem endsAs_ending (s : Searcher) (query : Query) (c : CompiledQuery) :
    c.EndsAs query s.dialect (s.ending query c) := by
  unfold ending
  split
  · next hfinite => exact .merged hfinite (c.merged_finalize query s.dialect)
  · next hfinite => exact .refused (Bool.eq_false_iff.2 hfinite)

theorem searchWithM_of_compile_eq {m : Type → Type} [Monad m] {compiled : CompiledQuery}
    (h : s.compile model query text limit threshold = .ok (some compiled))
    (restriction : CompiledQuery → m CompiledQuery) :
    s.searchWithM model query text limit threshold restriction =
      restriction compiled >>= fun c => pure (s.ending query c) := by
  have hending : ∀ c : CompiledQuery, (do
      checkThreshold c.threshold
      return c.finalize query s.dialect) = s.ending query c := by
    intro c
    rw [ending, checkThreshold]
    split <;> rfl
  -- the restriction is run, and what is done with its result has no effects
  rw [searchWithM, h]
  exact congrArg _ (funext fun c => congrArg pure (hending c))

/-- The only early outcome that is no fault is the caller's query, for a text without tokens. -/
theorem eq_of_earlyOutcome?_eq_ok {r : Query}
    (h : earlyOutcome? model query text limit threshold = some (.ok r)) :
    isFillerText text = true ∧ r = query := by
  obtain ⟨early, hearly, hsome⟩ := List.exists_of_findSome?_eq_some h
  simp only [earlyOutcomes, List.mem_cons, List.not_mem_nil, or_false] at hearly
  rw [id] at hsome
  -- four of the five ends are faults
  rcases hearly with rfl | rfl | rfl | rfl | rfl
  · split at hsome <;> cases hsome
  · simp at hsome
  · split at hsome <;> cases hsome
  · split at hsome
    · next htext =>
      cases hsome
      exact ⟨htext, rfl⟩
    · cases hsome
  · simp at hsome

theorem searchWithM_of_earlyOutcome? {m : Type → Type} [Monad m] (hs : ofConfig config d = .ok s)
    {outcome : Except SearchFault Query}
    (h : earlyOutcome? model query text limit threshold = some outcome)
    (restriction : CompiledQuery → m CompiledQuery) :
    s.searchWithM model query text limit threshold restriction = pure outcome := by
  rw [searchWithM, compile_of_earlyOutcome? hs h]
  cases outcome with
  | error fault => rfl
  | ok r =>
    rw [(eq_of_earlyOutcome?_eq_ok h).2]
    rfl

/-- A restriction without effects is one whose effects are those of the identity. -/
theorem searchWith_eq_run (s : Searcher) (model : Model) (query : Query) (text : String) (limit : Nat)
    (threshold : Option Float) (restriction : CompiledQuery → CompiledQuery) :
    s.searchWith model query text
        { limit := limit, threshold := threshold, restriction := restriction } =
      Id.run (s.searchWithM model query text limit threshold fun c => pure (restriction c)) :=
  (searchWithM_pure (m := Id) s model query text
    { limit := limit, threshold := threshold, restriction := restriction }).symm

/-- An early outcome is that of every search, whatever its restriction is. -/
theorem searchWith_of_earlyOutcome? (hs : ofConfig config d = .ok s) {outcome : Except SearchFault Query}
    (h : earlyOutcome? model query text limit threshold = some outcome)
    (restriction : CompiledQuery → CompiledQuery) :
    s.searchWith model query text
      { limit := limit, threshold := threshold, restriction := restriction } = outcome := by
  rw [searchWith_eq_run, searchWithM_of_earlyOutcome? hs h]
  rfl

/-- Without an early outcome the restriction decides how a search ends. -/
theorem searchWith_of_compile_eq {compiled : CompiledQuery}
    (h : s.compile model query text limit threshold = .ok (some compiled))
    (restriction : CompiledQuery → CompiledQuery) :
    s.searchWith model query text
        { limit := limit, threshold := threshold, restriction := restriction } =
      s.ending query (restriction compiled) := by
  rw [searchWith_eq_run, searchWithM_of_compile_eq h]
  rfl

/-- There is a scored query or a fault for a text with more than blanks and quotation marks. -/
theorem compile_ne_none (hs : ofConfig config d = .ok s) (htext : isFillerText text = false) :
    s.compile model query text limit threshold ≠ .ok none := by
  intro hnone
  cases hearly : earlyOutcome? model query text limit threshold with
  | some outcome =>
    rw [compile_of_earlyOutcome? hs hearly] at hnone
    cases outcome with
    | error fault => cases hnone
    | ok r =>
      rw [(eq_of_earlyOutcome?_eq_ok hearly).1] at htext
      cases htext
  | none =>
    obtain ⟨_, _, _, _, hcompile⟩ := exists_compile_eq_ok hs hearly
    rw [hcompile] at hnone
    cases hnone

/-- A text with more than blanks and quotation marks has tokens, and a search for it that succeeds comes to a
scored query. -/
theorem exists_merged_of_searchWith (hs : ofConfig config d = .ok s) (htext : isFillerText text = false)
    {restriction : CompiledQuery → CompiledQuery} {r : Query}
    (hr : s.searchWith model query text
      { limit := limit, threshold := threshold, restriction := restriction } = .ok r) :
    ∃ tokens joins inner, Tokens.parse text (s.cap model) = some tokens ∧
      model.search.joinClauses = .ok joins ∧
      (restriction (s.compiledWith model query tokens joins limit threshold)).Merged query s.dialect r
        inner := by
  cases hearly : earlyOutcome? model query text limit threshold with
  | some outcome =>
    rw [searchWith_of_earlyOutcome? hs hearly] at hr
    subst hr
    rw [(eq_of_earlyOutcome?_eq_ok hearly).1] at htext
    cases htext
  | none =>
    obtain ⟨tokens, joins, htokens, hjoins, hcompile⟩ := exists_compile_eq_ok hs hearly
    have hends := s.endsAs_ending query
      (restriction (s.compiledWith model query tokens joins limit threshold))
    rw [← searchWith_of_compile_eq hcompile, hr] at hends
    -- a fault would be no query, so that this is the other way to end
    cases hends with
    | merged _ hmerged => exact ⟨tokens, joins, _, htokens, hjoins, hmerged⟩

/-- **How a search ends.** Of a searcher with an accepted configuration, the first early outcome that
applies is the outcome, and no restriction is run. If there is none, the restriction is run on the
scored query for the tokens of the text; then a threshold that is infinite or NaN is refused, and
otherwise a query comes out that reads from the scored one, with the caller's clauses on top
(`CompiledQuery.Merged`). Among the early outcomes the fault of a join is that of the first malformed
one.

A text that holds more than blanks and quotation marks is never passed over: what comes out of a search for
it reads from the scored query that the restriction leaves. It is not the caller's query as long as the
restriction keeps the number of levels, as the restriction that changes nothing does. -/
theorem outcome_of_searchWith (hs : ofConfig config d = .ok s) (model : Model) (query : Query)
    (text : String) (limit : Nat) (threshold : Option Float) :
    (∀ outcome, earlyOutcome? model query text limit threshold = some outcome →
      (∀ restriction, s.searchWith model query text
        { limit := limit, threshold := threshold, restriction := restriction } = outcome) ∧
      ∀ {m : Type → Type} [Monad m] (restriction : CompiledQuery → m CompiledQuery),
        s.searchWithM model query text limit threshold restriction = pure outcome) ∧
    (earlyOutcome? model query text limit threshold = none →
      ∃ tokens joins, Tokens.parse text (s.cap model) = some tokens ∧
        model.search.joinClauses = .ok joins ∧
        (∀ restriction, s.searchWith model query text
            { limit := limit, threshold := threshold, restriction := restriction } =
          s.ending query (restriction (s.compiledWith model query tokens joins limit threshold))) ∧
        ∀ {m : Type → Type} [Monad m] (restriction : CompiledQuery → m CompiledQuery),
          s.searchWithM model query text limit threshold restriction =
            restriction (s.compiledWith model query tokens joins limit threshold) >>= fun c =>
              pure (s.ending query c)) ∧
    (∀ c : CompiledQuery, c.EndsAs query s.dialect (s.ending query c)) ∧
    (∀ fault, model.search.joinFault? = some fault ↔ ∃ before table join after flaw,
      model.search.joins.entries = before ++ (table, join) :: after ∧
        (∀ entry ∈ before, ¬entry.2.Malformed entry.1) ∧ join.Malformed table ∧
          join.flaw? table = some flaw ∧ fault = .invalidJoin table flaw) ∧
    (isFillerText text = false →
      s.compile model query text limit threshold ≠ .ok none ∧
      s.searchWith model query text { limit := limit, threshold := threshold } ≠ .ok query ∧
      ∀ restriction r, s.searchWith model query text
          { limit := limit, threshold := threshold, restriction := restriction } = .ok r →
        ∃ tokens joins inner, Tokens.parse text (s.cap model) = some tokens ∧
          model.search.joinClauses = .ok joins ∧
          (restriction (s.compiledWith model query tokens joins limit threshold)).Merged query s.dialect r
            inner ∧
          ((restriction (s.compiledWith model query tokens joins limit threshold)).query.levels.length =
            query.levels.length → r ≠ query)) := by
  refine ⟨fun outcome h => ⟨searchWith_of_earlyOutcome? hs h, searchWithM_of_earlyOutcome? hs h⟩,
    fun h => ?_, s.endsAs_ending query, fun fault => SearchSpec.joinFault?_eq_some_iff, fun htext =>
    ⟨compile_ne_none hs htext, fun hr => ?_, fun restriction r hr => ?_⟩⟩
  · obtain ⟨tokens, joins, htokens, hjoins, hcompile⟩ := exists_compile_eq_ok hs h
    exact ⟨tokens, joins, htokens, hjoins, searchWith_of_compile_eq hcompile,
      searchWithM_of_compile_eq hcompile⟩
  · obtain ⟨tokens, joins, inner, _, _, hmerged⟩ := exists_merged_of_searchWith hs htext hr
    exact hmerged.ne_base (s.length_levels_compiledWith model query tokens joins limit threshold) rfl
  · obtain ⟨tokens, joins, inner, htokens, hjoins, hmerged⟩ := exists_merged_of_searchWith hs htext hr
    exact ⟨tokens, joins, inner, htokens, hjoins, hmerged, hmerged.ne_base⟩

/-- One matcher for phrases, and up to three tokens. -/
def phraseConfig : Config := { matchers := .ofList [("exactFullMatcher", 100.0)], maxWords := 3 }

/-- A search for two quotation marks ends early, and the restriction, which would count, does not run. In a
search for two tokens it runs once, and a query comes out that reads from the scored one. -/
theorem outcome_of_searchWith_users :
    ∃ s, ofConfig phraseConfig .mysql = .ok s ∧
      (s.searchWith usersModel usersQuery " \"\" " { limit := 10 } = .ok usersQuery ∧
        s.searchWithM usersModel usersQuery " \"\" " 10 none
          (fun c => (modify (· + 1) *> pure c : StateM Nat CompiledQuery)) = pure (.ok usersQuery)) ∧
      isFillerText "Jo 'x?" = false ∧
      ∃ r inner, s.searchWith usersModel usersQuery "Jo 'x?"
          { limit := 10, threshold := some 2.0, restriction := (·.setLimit 5) } = .ok r ∧
        r ≠ usersQuery ∧ r.inner? = some inner ∧ inner.clauses.limit = some 5 ∧
        s.searchWithM usersModel usersQuery "Jo 'x?" 10 (some 2.0)
          (fun c => (modify (· + 1) *> pure (c.setLimit 5) : StateM Nat CompiledQuery)) =
            (modify (· + 1) *> pure (.ok r)) := by
  have hs : ofConfig phraseConfig .mysql = .ok ⟨[(.exactFull, 100.0)], 3, .mysql⟩ := by rfl
  have hvalid : usersModel.search.validate = .ok () := validate_eq_ok_iff.2 fault?_usersModel
  have hquotes : isFillerText " \"\" " = true := by decide
  have hearly : earlyOutcome? usersModel usersQuery " \"\" " 10 none = some (.ok usersQuery) := by
    simp [earlyOutcome?, earlyOutcomes, hvalid, hquotes]
  obtain ⟨hpure, heffects⟩ :=
    (outcome_of_searchWith hs usersModel usersQuery " \"\" " 10 none).1 _ hearly
  have htext : isFillerText "Jo 'x?" = false := by decide
  have hfinite : Number.isFinite 2.0 = true := by decide
  have hjoin : usersModel.search.joinFault? = none := by rfl
  have hlate : earlyOutcome? usersModel usersQuery "Jo 'x?" 10 (some 2.0) = none :=
    earlyOutcome?_eq_none_iff.2
      ⟨by decide, isFinite_of_some_eq_some hfinite, fault?_usersModel, htext, hjoin⟩
  obtain ⟨-, hending, -, -, htokens⟩ :=
    outcome_of_searchWith hs usersModel usersQuery "Jo 'x?" 10 (some 2.0)
  obtain ⟨tokens, joins, -, -, hsearch, hrun⟩ := hending hlate
  -- the restriction leaves the threshold, which is finite
  have hend : ending ⟨[(.exactFull, 100.0)], 3, .mysql⟩ usersQuery ((compiledWith
      ⟨[(.exactFull, 100.0)], 3, .mysql⟩ usersModel usersQuery tokens joins 10 (some 2.0)).setLimit 5) =
        .ok _ := if_pos hfinite
  have hr := (hsearch (·.setLimit 5)).trans hend
  obtain ⟨tokens', joins', inner, -, -, hmerged, hne⟩ := (htokens htext).2.2 _ _ hr
  have hlimit : inner.clauses.limit = some 5 := by
    rw [hmerged.scored, Query.clauses_modify]
    rfl
  refine ⟨_, hs, ⟨hpure id, heffects _⟩, htext, _, inner, hr, hne ?_, hmerged.inner?, hlimit, ?_⟩
  · exact length_levels_compiledWith _ usersModel usersQuery tokens' joins' 10 (some 2.0)
  · rw [hrun]
    funext count
    exact congrArg (fun outcome => (outcome, count + 1)) hend

end Searcher

end RelevanceSql
