import RelevanceSql.Proofs.RelevanceExpression

/-!
# Columns that are NULL

A matcher gives zero for a column that is NULL, or that its function makes NULL: no condition on it is true,
and what is no condition takes zero for NULL. Full-text search of NULL gives zero where it is a condition or a
`MATCH`. But `ts_rank` gives NULL, and what the rank is multiplied with does not change that, so in the
dialect that writes it one full-text column that is NULL makes the whole relevance NULL
(`relevance_eq_null_iff`). Otherwise the relevance is the sum of its terms.
-/

namespace RelevanceSql

open RelevanceSql.Sql RelevanceSql.Search

section Values

variable {db : Database} {row : Row} {c : ColumnRef}

/-! ## Single terms -/

/-- What a matcher adds up are numbers, all of them zero if the column is NULL. -/
theorem Matcher.eval_summands (m : Matcher) (d : Dialect) (weight : Float) (tokens : Tokens) :
    ∀ e ∈ m.summands d c weight tokens,
      ∃ q, e.eval db row = .ok (.number q) ∧ (db.textOf row c = none → q = 0) := by
  intro e he
  obtain ⟨text, _, rfl⟩ := List.mem_map.1 he
  -- of NULL every form of expression gives zero, and a text is worth its points
  cases hvalue : db.textOf row c with
  | none => exact ⟨0, (form_expression m d c weight text).eval_of_null hvalue, fun _ => rfl⟩
  | some value =>
    refine ⟨_, eval_expression m d hvalue weight text, fun hnone => ?_⟩
    cases hnone

/-- A full-text term is worth what its search gives, as many times as its weight says. -/
theorem eval_fullTextExpr {d : Dialect} {phrase : String} {q : ℚ}
    (h : (searchExpr d c phrase).eval db row = .ok (.number q)) (weight : Float) :
    (fullTextExpr d c weight phrase).eval db row =
      .ok (.number (q * db.numeral (Number.literal weight) * 2 * 100)) := by
  have hparens : (Expr.parens (searchExpr d c phrase)).eval db row = .ok (.number q) := h
  have hweighted := Expr.eval_arith .times hparens (Expr.eval_numeral (Number.literal weight))
  exact Expr.eval_arith .times (Expr.eval_arith .times hweighted (Expr.eval_count 2)) (Expr.eval_count 100)

theorem eval_fullTextExpr_of_null {d : Dialect} {phrase : String}
    (h : (searchExpr d c phrase).eval db row = .ok .null) (weight : Float) :
    (fullTextExpr d c weight phrase).eval db row = .ok .null := by
  have hparens : (Expr.parens (searchExpr d c phrase)).eval db row = .ok .null := h
  have hweighted := Expr.eval_arith .times hparens (Expr.eval_numeral (Number.literal weight))
  exact Expr.eval_arith .times (Expr.eval_arith .times hweighted (Expr.eval_count 2)) (Expr.eval_count 100)

/-- The search of a text gives a number. -/
theorem isNumber_searchExpr (d : Dialect) {value : String} (h : db.textOf row c = some value)
    (phrase : String) : (searchExpr d c phrase).IsNumber db row := by
  have hcolumn := Matcher.eval_column h
  have hphrase : (Expr.bound phrase).eval db row = .ok (.text phrase) := Expr.eval_bound phrase
  cases d with
  | pgsql => exact ⟨_, Expr.eval_rank .tsRank hcolumn hphrase⟩
  | sqlsrv =>
    have hfound := Expr.eval_compare .freeText hcolumn hphrase
    refine ⟨if db.freeText value phrase then 1 else 0, (Expr.eval_caseWhen hfound _ _).trans ?_⟩
    cases db.freeText value phrase <;> simp [Expr.eval]
  | mysql | sqlite | generic => exact ⟨_, Expr.eval_rank .matchAgainst hcolumn hphrase⟩

/-- The search of NULL gives zero, except that `ts_rank` gives NULL. -/
theorem eval_searchExpr_of_null {d : Dialect} (h : db.textOf row c = none) (phrase : String) :
    (searchExpr d c phrase).eval db row = .ok (if d = .pgsql then .null else .number 0) := by
  have hcolumn := Matcher.eval_column_of_null h
  have hphrase : (Expr.bound phrase).eval db row = .ok (.text phrase) := Expr.eval_bound phrase
  cases d with
  | pgsql => exact Expr.eval_rank .tsRank hcolumn hphrase
  | sqlsrv =>
    have hfound := Expr.eval_compare .freeText hcolumn hphrase
    exact (Expr.eval_caseWhen hfound _ _).trans (by simp [Expr.eval])
  | mysql | sqlite | generic => exact Expr.eval_rank .matchAgainst hcolumn hphrase

end Values

/-! ## The terms of a score -/

section Terms

variable {spec : SearchSpec} {table : String} {tokens : Tokens} {matchers : MatcherSet} {d : Dialect}
  {db : Database} {row : Row} {t : WrittenTerm}

/-- Whether a term is the rank of a full-text column that is NULL. -/
def WrittenTerm.IsRankOfNull (d : Dialect) (db : Database) (row : Row) (t : WrittenTerm) : Prop :=
  d = .pgsql ∧ t.term.source = .fullText ∧ db.textOf row t.reference = none

/-- A term comes from a matcher and a searched column, or from a full-text column. -/
theorem mem_writtenTerms (h : t ∈ writtenTerms spec table tokens matchers d) :
    (∃ (m : Matcher) (c : ColumnRef) (weight : Float), t.term.source = .matcher m ∧ t.reference = c ∧
        t.summands = m.summands d c weight tokens) ∨
      d.supportsFullText = true ∧
        ∃ entry ∈ spec.fulltextColumns.entries, t = writtenFullText table d tokens entry := by
  rcases List.mem_append.1 h with h | h
  · obtain ⟨entry, _, ht⟩ := List.mem_flatMap.1 h
    obtain ⟨⟨m, weight⟩, _, rfl⟩ := List.mem_map.1 ht
    exact Or.inl ⟨m, _, _, rfl, rfl, rfl⟩
  · split at h
    · next hsupports =>
      obtain ⟨entry, he, rfl⟩ := List.mem_map.1 h
      exact Or.inr ⟨hsupports, entry, he, rfl⟩
    · cases h

/-- A term is about the column that it is listed under. -/
theorem name_reference_of_mem_writtenTerms (h : t ∈ writtenTerms spec table tokens matchers d) :
    t.reference.name = d.quoteIdentifier t.term.column := by
  rcases List.mem_append.1 h with h | h
  · obtain ⟨entry, _, ht⟩ := List.mem_flatMap.1 h
    obtain ⟨_, _, rfl⟩ := List.mem_map.1 ht
    rfl
  · split at h
    · obtain ⟨entry, _, rfl⟩ := List.mem_map.1 h
      rfl
    · cases h

/-- The summand of a rank of NULL is NULL. -/
theorem eval_of_isRankOfNull (h : t ∈ writtenTerms spec table tokens matchers d)
    (hnull : t.IsRankOfNull d db row) : ∃ e, t.summands = [e] ∧ e.eval db row = .ok .null := by
  obtain ⟨rfl, hsource, hnone⟩ := hnull
  rcases mem_writtenTerms h with ⟨m, c, weight, hmatcher, _⟩ | ⟨_, entry, _, rfl⟩
  · rw [hmatcher] at hsource
    cases hsource
  · exact ⟨_, rfl, eval_fullTextExpr_of_null (eval_searchExpr_of_null hnone _) _⟩

/-- The summands of every other term are numbers, which are zero if the column is NULL. -/
theorem eval_of_not_isRankOfNull (h : t ∈ writtenTerms spec table tokens matchers d)
    (hnot : ¬t.IsRankOfNull d db row) :
    ∀ e ∈ t.summands, ∃ q, e.eval db row = .ok (.number q) ∧ (db.textOf row t.reference = none → q = 0) := by
  rcases mem_writtenTerms h with ⟨m, c, weight, _, rfl, hsummands⟩ | ⟨_, entry, _, rfl⟩
  · rw [hsummands]
    exact m.eval_summands d weight tokens
  · intro e he
    rw [List.mem_singleton.1 he]
    cases hvalue : db.textOf row (writtenFullText table d tokens entry).reference with
    | none =>
      -- a full-text term of NULL that is no rank is written in another dialect
      have hd : d ≠ .pgsql := fun hd => hnot ⟨hd, rfl, hvalue⟩
      have hsearch := eval_searchExpr_of_null (d := d) hvalue tokens.fulltextPhrase
      rw [if_neg hd] at hsearch
      exact ⟨_, eval_fullTextExpr hsearch entry.2, fun _ => by simp⟩
    | some value =>
      obtain ⟨q, hq⟩ := isNumber_searchExpr d hvalue tokens.fulltextPhrase
      refine ⟨_, eval_fullTextExpr hq entry.2, fun hnone => ?_⟩
      cases hnone

theorem isNumeric_of_mem_writtenTerms (h : t ∈ writtenTerms spec table tokens matchers d) :
    ∀ e ∈ t.summands, e.IsNumeric db row := by
  intro e he
  by_cases hnull : t.IsRankOfNull d db row
  · obtain ⟨e', hsummands, hvalue⟩ := eval_of_isRankOfNull h hnull
    rw [hsummands, List.mem_singleton] at he
    rw [he]
    exact Or.inl hvalue
  · obtain ⟨q, hq, _⟩ := eval_of_not_isRankOfNull h hnull e he
    exact Or.inr ⟨q, hq⟩

/-- Ranks of NULL are there exactly if the dialect writes ranks and a full-text column is NULL. -/
theorem exists_isRankOfNull_iff :
    (∃ t ∈ writtenTerms spec table tokens matchers d, t.IsRankOfNull d db row) ↔
      d = .pgsql ∧ ∃ entry ∈ spec.fulltextColumns.entries,
        row (d.quoteIdentifier (qualify table entry.1)) = none := by
  constructor
  · rintro ⟨t, ht, rfl, hsource, hnone⟩
    rcases mem_writtenTerms ht with ⟨m, c, weight, hmatcher, _⟩ | ⟨_, entry, he, rfl⟩
    · rw [hmatcher] at hsource
      cases hsource
    · exact ⟨rfl, entry, he, hnone⟩
  · rintro ⟨rfl, entry, he, hnone⟩
    refine ⟨writtenFullText table .pgsql tokens entry, List.mem_append_right _ ?_, rfl, rfl, hnone⟩
    rw [if_pos (by decide)]
    exact List.mem_map.2 ⟨entry, he, rfl⟩

/-- Without ranks of NULL, the relevance is the sum of the terms. -/
theorem eval_relevance_of_not_isRankOfNull
    (h : ¬∃ t ∈ writtenTerms spec table tokens matchers d, t.IsRankOfNull d db row) :
    (relevanceExpr (writtenTerms spec table tokens matchers d)).eval db row = .ok (.number
      ((writtenTerms spec table tokens matchers d).map fun t => t.expression.amount db row).sum) := by
  apply eval_relevanceExpr
  intro t ht e he
  obtain ⟨q, hq, _⟩ := eval_of_not_isRankOfNull ht (fun hnull => h ⟨t, ht, hnull⟩) e he
  exact ⟨q, hq⟩

/-- The relevance is NULL exactly if one of its terms is the rank of NULL. -/
theorem relevance_eq_null_iff :
    (relevanceExpr (writtenTerms spec table tokens matchers d)).eval db row = .ok .null ↔
      ∃ t ∈ writtenTerms spec table tokens matchers d, t.IsRankOfNull d db row := by
  constructor
  · intro hvalue
    -- without a rank of NULL the relevance is a number
    by_contra hnone
    rw [eval_relevance_of_not_isRankOfNull hnone] at hvalue
    cases hvalue
  · rintro ⟨t, ht, hnull⟩
    obtain ⟨e, hsummands, hvalue⟩ := eval_of_isRankOfNull ht hnull
    exact eval_relevanceExpr_of_null (fun u hu => isNumeric_of_mem_writtenTerms hu)
      ⟨t, ht, e, by simp [hsummands], hvalue⟩

end Terms

/-- **NULL in a relevance.** The relevance of a row is the sum of its terms, which are all numbers, and zero
where the column of the term is NULL in the row or made NULL by its function, with one exception. In the
dialect that writes ranks, the term of a full-text column that is NULL is NULL, and so is the relevance then,
whatever the other columns hold. -/
theorem nulls_in_relevance (spec : SearchSpec) (table : String) (tokens : Tokens) (matchers : MatcherSet)
    (d : Dialect) (db : Database) (row : Row) :
    let terms := writtenTerms spec table tokens matchers d
    terms.map WrittenTerm.term = (Score.build spec table tokens matchers d).terms ∧
    (relevanceExpr terms).fragment = (Score.build spec table tokens matchers d).toFragment ∧
    (relevanceExpr terms).WellBracketed ∧
    (∀ t ∈ terms, t.expression.fragment = t.term.fragment ∧ t.expression.WellBracketed ∧
      t.reference.name = d.quoteIdentifier t.term.column ∧
      (t.IsRankOfNull d db row → t.expression.eval db row = .ok .null) ∧
      (¬t.IsRankOfNull d db row → ∃ q, t.expression.eval db row = .ok (.number q) ∧
        (db.textOf row t.reference = none → q = 0))) ∧
    ((relevanceExpr terms).eval db row = .ok .null ↔
      d = .pgsql ∧ ∃ entry ∈ spec.fulltextColumns.entries,
        row (d.quoteIdentifier (qualify table entry.1)) = none) ∧
    ((relevanceExpr terms).eval db row ≠ .ok .null →
      (relevanceExpr terms).eval db row =
        .ok (.number (terms.map fun t => t.expression.amount db row).sum)) := by
  intro terms
  have hterms : terms.map WrittenTerm.term = (Score.build spec table tokens matchers d).terms :=
    map_term_writtenTerms spec table tokens matchers d
  refine ⟨hterms, fragment_relevanceExpr hterms, wellBracketed_relevanceExpr terms, fun t ht =>
    ⟨t.fragment_total, Expr.wellBracketed_total t.isSummand, name_reference_of_mem_writtenTerms ht,
      fun hnull => ?_, fun hnot => ?_⟩, ?_, fun hvalue => ?_⟩
  · obtain ⟨e, hsummands, hvalue⟩ := eval_of_isRankOfNull ht hnull
    rw [WrittenTerm.expression, hsummands]
    exact hvalue
  · have hnumbers := eval_of_not_isRankOfNull ht hnot
    have hvalue := Expr.eval_total fun e he => Expr.eval_eq_amount ((hnumbers e he).imp fun _ hq => hq.1)
    refine ⟨_, hvalue, fun hnone => ?_⟩
    -- where the column is NULL all summands are zero, and so is their sum
    have hzero : ∀ e ∈ t.summands, e.amount db row = 0 := by
      intro e he
      obtain ⟨q, hq, hq0⟩ := hnumbers e he
      rw [Expr.amount_eq hq, hq0 hnone]
    rw [List.map_congr_left hzero]
    simp [List.sum_replicate]
  · rw [relevance_eq_null_iff, exists_isRankOfNull_iff]
  · exact eval_relevance_of_not_isRankOfNull fun hnull => hvalue (relevance_eq_null_iff.2 hnull)

/-- A person whose name begins with the token, and whose biography is NULL: the term of the name is worth its
weight, and the relevance is NULL. -/
theorem relevance_null_of_biography :
    ∃ tokens, Tokens.parse "Jo" 5 = some tokens ∧
      let spec : SearchSpec :=
        { columns := ⟨[("name", 1.0)], by decide⟩, fulltextColumns := ⟨[("bio", 2.0)], by decide⟩ }
      let row : Row := fun column => if column = "\"people\".\"name\"" then some "jo" else none
      let matchers : MatcherSet := [(.startOfString, 50.0)]
      let terms := writtenTerms spec "people" tokens matchers .pgsql
      (relevanceExpr terms).fragment = (Score.build spec "people" tokens matchers .pgsql).toFragment ∧
      (∃ t ∈ terms, t.term.column = "people.name" ∧ t.expression.eval .plain row = .ok (.number 1)) ∧
      (relevanceExpr terms).eval .plain row = .ok .null := by
  refine ⟨⟨["jo"], by decide⟩, by decide, ?_⟩
  intro spec row matchers terms
  refine ⟨fragment_relevanceExpr (map_term_writtenTerms _ _ _ _ _), ?_, ?_⟩
  · have hname : Database.plain.textOf row ⟨Dialect.pgsql.quoteIdentifier "people.name", none⟩ =
        some "jo" := by decide
    have hfits : Like Database.plain.classes (Database.plain.lower "jo")
        (String.ofList (Matcher.startPattern "jo".toList)) := by decide
    have hworth : Matcher.points .startOfString .plain .pgsql (1.0 * 50.0) "jo" "jo" = 1 := by
      simp only [Matcher.points, if_pos hfits]
      rfl
    have hvalue := Matcher.eval_expression .startOfString .pgsql hname (1.0 * 50.0) "jo"
    rw [hworth] at hvalue
    exact ⟨_, List.mem_cons_self, rfl, hvalue⟩
  · rw [relevance_eq_null_iff, exists_isRankOfNull_iff]
    exact ⟨rfl, ("bio", 2.0), List.mem_singleton.2 rfl, by decide⟩

end RelevanceSql
