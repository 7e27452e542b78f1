import RelevanceSql.Proofs.Paging

/-!
# Row limits of a search

A search asks for a number of rows, and a search for no rows is refused. The number that counts is that
of the scored query when it is finished, and a restriction runs after the check. Whatever it does to
the scored query itself is overwritten (`limit_restrict` for the steps of which restrictions are made),
but a limit that it sets is taken as it is (`limit_of_restriction`): the threshold is looked at once
more, the limit is not. A restriction that keeps the limit from zero keeps the promise, and behind any
successful search one that sets it to zero succeeds as well, with a scored query that finds nothing.
-/

namespace RelevanceSql

open RelevanceSql.Sql RelevanceSql.Search

/-! ## Rows under a limit -/

theorem Clauses.length_page_le_of_limit {Row : Type} {c : Clauses} {count : Nat}
    (h : c.limit = some count) (rows : List Row) : (c.page rows).length ≤ count := by
  rw [page_of_limit h]
  exact List.length_take_le _ _

theorem Clauses.page_of_limit_zero {Row : Type} {c : Clauses} (h : c.limit = some 0) (rows : List Row) :
    c.page rows = [] :=
  List.length_eq_zero_iff.1 (Nat.le_zero.1 (length_page_le_of_limit h rows))

/-- A level lets no row through, whatever it finds, exactly if its limit is zero. -/
theorem Clauses.page_eq_nil_iff {Row : Type} [Inhabited Row] {c : Clauses} {count : Nat}
    (h : c.limit = some count) : (∀ rows : List Row, c.page rows = []) ↔ count = 0 := by
  constructor
  · intro hnone
    -- of one row more than the offset leaves out, one is let through if the limit allows it
    have hrows := congrArg List.length (hnone (List.replicate (c.offset.getD 0 + 1) default))
    rw [page_of_limit h, List.length_take, List.length_drop, List.length_replicate,
      List.length_nil] at hrows
    omega
  · rintro rfl rows
    exact page_of_limit_zero h rows

/-! ## Steps of a restriction -/

/-- One step of a restriction: it sets a number or the grouping, or changes the scored query at will. -/
inductive RestrictionStep where
  | setThreshold (threshold : Float)
  | setLimit (limit : Nat)
  | setGroupBy (columns : List String)
  | mapQuery (change : Query → Query)

/-- The limit that a step sets, if it sets one. -/
def RestrictionStep.limit? : RestrictionStep → Option Nat
  | .setLimit limit => some limit
  | _ => none

namespace CompiledQuery

/-- Does one step. -/
def restrictStep (c : CompiledQuery) : RestrictionStep → CompiledQuery
  | .setThreshold threshold => c.setThreshold threshold
  | .setLimit limit => c.setLimit limit
  | .setGroupBy columns => c.setGroupBy columns
  | .mapQuery change => c.mapQuery change

/-- Does one step after the other. -/
def restrict (c : CompiledQuery) (steps : List RestrictionStep) : CompiledQuery :=
  steps.foldl restrictStep c

/-- Of what is set for one part of a scored query, the last counts, if no other step has a part in it. -/
theorem get_restrict {α : Type} {get : CompiledQuery → α} {set? : RestrictionStep → Option α}
    (h : ∀ c step, get (c.restrictStep step) = (set? step).getD (get c)) (c : CompiledQuery)
    (steps : List RestrictionStep) :
    get (c.restrict steps) = (steps.filterMap set?).getLast?.getD (get c) := by
  unfold restrict
  induction steps generalizing c with
  | nil => rfl
  | cons step steps ih =>
    rw [List.foldl_cons, ih, h, List.filterMap_cons]
    cases set? step with
    | none => rfl
    | some value =>
      rw [Option.getD_some, List.getLast?_cons, Option.getD_some]

theorem limit_restrictStep (c : CompiledQuery) (step : RestrictionStep) :
    (c.restrictStep step).limit = step.limit?.getD c.limit := by
  cases step <;> rfl

theorem limit_restrict (c : CompiledQuery) (steps : List RestrictionStep) :
    (c.restrict steps).limit = (steps.filterMap RestrictionStep.limit?).getLast?.getD c.limit :=
  get_restrict limit_restrictStep c steps

/-- The finished scored query has the limit that the restriction has left, and no other. -/
theorem limit_scored (c : CompiledQuery) (d : Dialect) : (c.scored d).clauses.limit = some c.limit := by
  rw [clauses_scored]

theorem inner?_finalize (c : CompiledQuery) (base : Query) (d : Dialect) :
    (c.finalize base d).inner? = some (c.scored d) := by
  rw [finalize_eq]
  rfl

end CompiledQuery

/-! ## Limits of searches -/

namespace Searcher

variable {s : Searcher} {model : Model} {base : Query} {text : String} {tokens : Tokens}

theorem searchWith_of_limit_eq_zero {options : SearchOptions} (h : options.limit = 0) :
    s.searchWith model base text options = .error .invalidLimit := by
  unfold searchWith compile checkLimit
  rw [if_pos h]
  rfl

/-- A limit set at the end of a restriction changes nothing about whether a search succeeds. -/
theorem searchWith_setLimit (htokens : Tokens.parse text (s.cap model) = some tokens)
    {options : SearchOptions} {r : Query} (hr : s.searchWith model base text options = .ok r)
    (limit : Nat) :
    ∃ r' inner, s.searchWith model base text
        { options with restriction := fun c => (options.restriction c).setLimit limit } = .ok r' ∧
      r'.inner? = some inner ∧ inner.clauses.limit = some limit := by
  obtain ⟨hlimit, hgiven, hfault, joins, hjoins, hfinite, _⟩ := (searchWith_eq_ok_iff htokens).1 hr
  let c := s.compiledWith model base tokens joins options.limit options.threshold
  refine ⟨((options.restriction c).setLimit limit).finalize base s.dialect, _, ?_,
    CompiledQuery.inner?_finalize _ _ _, CompiledQuery.limit_scored _ _⟩
  exact (searchWith_eq_ok_iff htokens).2 ⟨hlimit, hgiven, hfault, joins, hjoins, hfinite, rfl⟩

/-- **The limit of a search.** A search for no rows is refused. Of a search with tokens that succeeds, the
scored query has the limit that the restriction leaves, and it lets no row through exactly if that is
zero. It is not if the restriction makes no limit zero that was not, so in a search without one; and of
a restriction in steps it is the last limit that is set. But the limit is not looked at again: with a
restriction that sets it to zero at the end, the same search succeeds, and it finds nothing. -/
theorem limit_of_restriction (htokens : Tokens.parse text (s.cap model) = some tokens)
    (options : SearchOptions) :
    (options.limit = 0 → s.searchWith model base text options = .error .invalidLimit) ∧
    ∀ r, s.searchWith model base text options = .ok r →
      ∃ compiled inner, s.compile model base text options.limit options.threshold = .ok (some compiled) ∧
        r.inner? = some inner ∧ inner.clauses.limit = some (options.restriction compiled).limit ∧
        (∀ {Row : Type} [Inhabited Row], (∀ rows : List Row, inner.clauses.page rows = []) ↔
          (options.restriction compiled).limit = 0) ∧
        ((∀ c : CompiledQuery, c.limit ≠ 0 → (options.restriction c).limit ≠ 0) →
          1 ≤ (options.restriction compiled).limit) ∧
        (∀ steps : List RestrictionStep, options.restriction compiled = compiled.restrict steps →
          inner.clauses.limit =
            some ((steps.filterMap RestrictionStep.limit?).getLast?.getD options.limit)) ∧
        ∃ r' inner', s.searchWith model base text
            { options with restriction := fun c => (options.restriction c).setLimit 0 } = .ok r' ∧
          r'.inner? = some inner' ∧ ∀ {Row : Type} (rows : List Row), inner'.clauses.page rows = [] := by
  refine ⟨searchWith_of_limit_eq_zero, fun r hr => ?_⟩
  obtain ⟨hlimit, hgiven, hfault, joins, hjoins, hfinite, hfinal⟩ := (searchWith_eq_ok_iff htokens).1 hr
  let c := s.compiledWith model base tokens joins options.limit options.threshold
  have hscored := CompiledQuery.limit_scored (options.restriction c) s.dialect
  obtain ⟨r', inner', hr', hinner', hzero⟩ := searchWith_setLimit htokens hr 0
  refine ⟨c, (options.restriction c).scored s.dialect,
    (compile_eq_ok_iff htokens).2 ⟨hlimit, hgiven, hfault, joins, hjoins, rfl⟩, ?_, hscored,
    Clauses.page_eq_nil_iff hscored, fun hkept => Nat.pos_of_ne_zero (hkept c hlimit), fun steps hsteps => ?_,
    r', inner', hr', hinner', Clauses.page_of_limit_zero hzero⟩
  · rw [← hfinal]
    exact CompiledQuery.inner?_finalize _ _ _
  · rw [hscored, hsteps, CompiledQuery.limit_restrict]
    rfl

/-- A limit of three that stands among other changes, one of them of the scored query's own limit. -/
def usersSteps : List RestrictionStep :=
  [.setLimit 7, .setThreshold 1.5, .setLimit 3, .mapQuery (·.limit 0)]

theorem limit_of_restriction_users :
    ∃ r inner, (usersSearcher .mysql).searchWith usersModel usersQuery "Jo 'x?"
        { limit := 10, restriction := (·.restrict usersSteps) } = .ok r ∧
      r.inner? = some inner ∧ inner.clauses.limit = some 3 := by
  have hfinite : Number.isFinite 1.5 = true := by decide
  have hr := searchWith_users .mysql { limit := 10, restriction := (·.restrict usersSteps) } (by decide)
    (fun t ht => by cases ht) hfinite
  obtain ⟨compiled, inner, _, hinner, _, _, _, hsteps, _⟩ :=
    (limit_of_restriction (parse_usersTokens .mysql) _).2 _ hr
  exact ⟨_, inner, hr, hinner, hsteps usersSteps rfl⟩

/-- A search whose restriction sets the limit to zero succeeds, and no row comes out of it. -/
theorem limit_zero_after_check :
    ∃ r inner, (usersSearcher .mysql).searchWith usersModel usersQuery "Jo 'x?"
        { limit := 10, threshold := some 2.0, restriction := (·.setLimit 0) } = .ok r ∧
      r.inner? = some inner ∧ inner.clauses.limit = some 0 ∧
      inner.clauses.renderLimit .mysql = " LIMIT 0" ∧ inner.clauses.page [1, 2, 3] = [] := by
  have hfinite : Number.isFinite 2.0 = true := by decide
  have hr := searchWith_users .mysql
    { limit := 10, threshold := some 2.0, restriction := (·.setLimit 0) } (by decide)
    (isFinite_of_some_eq_some hfinite) hfinite
  exact ⟨_, _, hr, rfl, rfl, by decide, by decide⟩

end Searcher

end RelevanceSql
