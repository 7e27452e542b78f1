import RelevanceSql.Proofs.Noninterference
import RelevanceSql.Proofs.Points

/-!
# The expression of a relevance

Each term of a score is the text of a sum of expressions on one column, kept with it as a `WrittenTerm`. The
relevance is written by adding the terms run by run, with parentheses around the runs of matchers, and so it
is the text of one sum of expressions (`fragment_relevanceExpr`).

The value of this sum is the sum of the values of all terms if these are numbers (`eval_relevanceExpr`), and
it is NULL if one of the summands is (`eval_relevanceExpr_of_null`).
-/

namespace RelevanceSql

open RelevanceSql.Sql RelevanceSql.Search

/-! ## Full-text search -/

/-- What full-text search gives for a column. -/
def searchExpr (d : Dialect) (c : ColumnRef) (phrase : String) : Expr :=
  match d with
  | .pgsql => .rank .tsRank (.column c) (.bound phrase)
  | .sqlsrv => .caseWhen (.compare .freeText (.column c) (.bound phrase)) (.count 1) (.count 0)
  | _ => .rank .matchAgainst (.column c) (.bound phrase)

/-- The term of a full-text column. -/
def fullTextExpr (d : Dialect) (c : ColumnRef) (weight : Float) (phrase : String) : Expr :=
  let weighted : Expr := .arith .times (.parens (searchExpr d c phrase)) (.numeral (Number.literal weight))
  .arith .times (.arith .times weighted (.count 2)) (.count 100)

theorem fragment_searchExpr (d : Dialect) (c : ColumnRef) (phrase : String) :
    (searchExpr d c phrase).fragment = ⟨d.fullText c.sql, [.text phrase]⟩ := by
  have hrank : "ts_rank(to_tsvector(" ++ c.sql ++ "), plainto_tsquery(" ++ "?" ++ "))" =
      "ts_rank(to_tsvector(" ++ c.sql ++ "), plainto_tsquery(?))" := by
    apply String.toList_injective
    simp
  have hcase : "CASE WHEN " ++ ("FREETEXT(" ++ c.sql ++ ", " ++ "?" ++ ")") ++ " THEN " ++ "1" ++ " ELSE " ++
      "0" ++ " END" = "CASE WHEN FREETEXT(" ++ c.sql ++ ", ?) THEN 1 ELSE 0 END" := by
    apply String.toList_injective
    simp
  have hmatch : "MATCH(" ++ c.sql ++ ") AGAINST (" ++ "?" ++ ")" = "MATCH(" ++ c.sql ++ ") AGAINST (?)" := by
    apply String.toList_injective
    simp
  -- the three ways to search, each written as the expression says
  cases d with
  | pgsql => exact congrArg (Fragment.mk · [.text phrase]) hrank
  | sqlsrv => exact congrArg (Fragment.mk · [.text phrase]) hcase
  | mysql | sqlite | generic => exact congrArg (Fragment.mk · [.text phrase]) hmatch

theorem fragment_fullTextExpr (d : Dialect) (c : ColumnRef) (weight : Float) (phrase : String) :
    (fullTextExpr d c weight phrase).fragment =
      ⟨"(" ++ d.fullText c.sql ++ ") * " ++ Number.literal weight ++ " * 2 * 100", [.text phrase]⟩ := by
  have hsearch := fragment_searchExpr d c phrase
  have hsql : (searchExpr d c phrase).sql = d.fullText c.sql := congrArg Fragment.sql hsearch
  have hvalues : (searchExpr d c phrase).values = [.text phrase] := congrArg Fragment.params hsearch
  have htext : "(" ++ (searchExpr d c phrase).sql ++ ")" ++ " * " ++ Number.literal weight ++ " * " ++ "2" ++
      " * " ++ "100" = "(" ++ d.fullText c.sql ++ ") * " ++ Number.literal weight ++ " * 2 * 100" := by
    rw [hsql]
    apply String.toList_injective
    simp
  have hbound : (searchExpr d c phrase).values ++ [] ++ [] ++ [] = [.text phrase] := by simp [hvalues]
  exact congrArg₂ Fragment.mk htext hbound

theorem isSummand_fullTextExpr (d : Dialect) (c : ColumnRef) (weight : Float) (phrase : String) :
    (fullTextExpr d c weight phrase).IsSummand where
  wellBracketed := by
    cases d <;> simp [fullTextExpr, searchExpr, Expr.WellBracketed, Expr.strength]
  strength := Nat.lt_succ_self 2
  sql_ne_empty := by
    show "(" ++ (searchExpr d c phrase).sql ++ ")" ++ " * " ++ Number.literal weight ++ " * " ++ "2" ++
      " * " ++ "100" ≠ ""
    repeat apply append_ne_empty_left
    decide

/-! ## Terms with their expressions -/

/-- A term of a score, the column that it is about, and the expressions that it adds up. -/
structure WrittenTerm where
  term : ScoreTerm
  reference : ColumnRef
  summands : List Expr
  ne_nil : summands ≠ []
  isSummand : ∀ e ∈ summands, e.IsSummand
  fragment_total : (Expr.total summands).fragment = term.fragment

/-- The expression of a term. -/
def WrittenTerm.expression (t : WrittenTerm) : Expr := .total t.summands

/-- The reference to a column, with its function if it has one. -/
def SearchSpec.columnRef (spec : SearchSpec) (d : Dialect) (name qualified : String) : ColumnRef where
  name := d.quoteIdentifier qualified
  function? := spec.mutation? name qualified

theorem SearchSpec.sql_columnRef (spec : SearchSpec) (d : Dialect) (name qualified : String) :
    (spec.columnRef d name qualified).sql = spec.reference d name qualified := by
  unfold columnRef ColumnRef.sql reference
  cases spec.mutation? name qualified <;> rfl

theorem Matcher.texts_ne_nil (m : Matcher) (tokens : Tokens) : m.texts tokens ≠ [] := by
  unfold texts
  split
  · exact List.cons_ne_nil _ _
  · exact tokens.words_ne_nil

/-- The terms of a searched column. -/
def writtenColumn (spec : SearchSpec) (table : String) (d : Dialect) (tokens : Tokens) (matchers : MatcherSet)
    (entry : String × Float) : List WrittenTerm :=
  let qualified := qualify table entry.1
  let c := spec.columnRef d entry.1 qualified
  matchers.map fun (m, matcherWeight) =>
    let weight := entry.2 * matcherWeight
    { term := ⟨qualified, .matcher m, weight, m.score d c.sql weight tokens⟩
      reference := c
      summands := m.summands d c weight tokens
      ne_nil := fun hnil => m.texts_ne_nil tokens (List.map_eq_nil_iff.1 hnil)
      isSummand := Matcher.isSummand_of_mem_summands
      fragment_total := m.fragment_score d c weight tokens }

/-- The term of a full-text column. -/
def writtenFullText (table : String) (d : Dialect) (tokens : Tokens) (entry : String × Float) : WrittenTerm :=
  let c : ColumnRef := ⟨d.quoteIdentifier (qualify table entry.1), none⟩
  { term := fullTextTerm table d tokens entry
    reference := c
    summands := [fullTextExpr d c entry.2 tokens.fulltextPhrase]
    ne_nil := List.cons_ne_nil _ _
    isSummand := fun e he => by
      rw [List.mem_singleton.1 he]
      exact isSummand_fullTextExpr _ _ _ _
    fragment_total := fragment_fullTextExpr d c entry.2 tokens.fulltextPhrase }

/-- The terms of a score. -/
def writtenTerms (spec : SearchSpec) (table : String) (tokens : Tokens) (matchers : MatcherSet)
    (d : Dialect) : List WrittenTerm :=
  spec.columns.entries.flatMap (writtenColumn spec table d tokens (matchers.applicable tokens.count d)) ++
    if d.supportsFullText then spec.fulltextColumns.entries.map (writtenFullText table d tokens) else []

theorem map_term_writtenTerms (spec : SearchSpec) (table : String) (tokens : Tokens) (matchers : MatcherSet)
    (d : Dialect) :
    (writtenTerms spec table tokens matchers d).map WrittenTerm.term =
      (Score.build spec table tokens matchers d).terms := by
  have hcolumn : ∀ entry : String × Float,
      (writtenColumn spec table d tokens (matchers.applicable tokens.count d) entry).map WrittenTerm.term =
        columnTerms spec table d tokens (matchers.applicable tokens.count d) entry := by
    intro entry
    simp only [writtenColumn, columnTerms, List.map_map, ← SearchSpec.sql_columnRef]
    rfl
  simp only [writtenTerms, Score.build, List.map_append, List.map_flatMap, hcolumn]
  congr 1
  split
  · rw [List.map_map]
    rfl
  · rfl

/-! ## The sum of all terms -/

/-- The summands of terms that stand together: their sum in parentheses, unless they come from full-text
search. -/
def chunkSummands (chunk : List WrittenTerm) : List Expr :=
  if chunk.any (·.term.isMatcher) then [.parens (.total (chunk.flatMap (·.summands)))]
  else chunk.flatMap (·.summands)

/-- The runs of terms that stand together. -/
def chunks (ts : List WrittenTerm) : List (List WrittenTerm) :=
  ts.splitBy fun a b => Score.together a.term b.term

/-- The sum of all terms. -/
def relevanceExpr (ts : List WrittenTerm) : Expr := .total ((chunks ts).flatMap chunkSummands)

section Chunks

variable {chunk ts : List WrittenTerm}

theorem isSummand_of_mem_flatMap : ∀ e ∈ chunk.flatMap (·.summands), e.IsSummand := by
  intro e he
  obtain ⟨t, _, he⟩ := List.mem_flatMap.1 he
  exact t.isSummand e he

theorem isSummand_of_mem_chunkSummands : ∀ e ∈ chunkSummands chunk, e.IsSummand := by
  intro e he
  unfold chunkSummands at he
  split at he
  · rw [List.mem_singleton.1 he]
    have hopen : "(" ++ (Expr.total (chunk.flatMap (·.summands))).sql ++ ")" ≠ "" :=
      append_ne_empty_left (append_ne_empty_left (by decide) _) _
    exact ⟨Expr.wellBracketed_total isSummand_of_mem_flatMap, show 2 < 4 by decide, hopen⟩
  · exact isSummand_of_mem_flatMap e he

/-- The total of the terms of a run is that of their summands. -/
theorem total_fragments (chunk : List WrittenTerm) :
    Fragment.total ((chunk.map WrittenTerm.term).map ScoreTerm.fragment) =
      (Expr.total (chunk.flatMap (·.summands))).fragment := by
  have hterm : ∀ t ∈ chunk, t.term.fragment = Fragment.total (t.summands.map Expr.fragment) := fun t _ => by
    rw [← t.fragment_total, Expr.fragment_total t.isSummand]
  rw [Expr.fragment_total isSummand_of_mem_flatMap, List.map_map, List.map_flatMap, ← total_flatMap]
  · exact congrArg Fragment.total (List.map_congr_left hterm)
  · intro t _ hnil
    exact t.ne_nil (List.map_eq_nil_iff.1 hnil)
  · intro t _ f hf
    obtain ⟨e, he, rfl⟩ := List.mem_map.1 hf
    exact (t.isSummand e he).sql_ne_empty

/-- A run is written by adding its summands. -/
theorem chunkFragment_map_term (chunk : List WrittenTerm) :
    Score.chunkFragment (chunk.map WrittenTerm.term) =
      Fragment.total ((chunkSummands chunk).map Expr.fragment) := by
  -- whether there are parentheses is told from the same terms on both sides
  have hany : (chunk.map WrittenTerm.term).any (·.isMatcher) = chunk.any (·.term.isMatcher) := by
    rw [List.any_map]
    rfl
  rw [← Expr.fragment_total isSummand_of_mem_chunkSummands]
  unfold Score.chunkFragment chunkSummands
  rw [hany, total_fragments]
  split
  · rw [Fragment.parenthesized, if_neg]
    · rfl
    · rw [← total_fragments]
      exact sql_total_ne_empty _
  · rfl

theorem chunkSummands_ne_nil (h : chunk ≠ []) : chunkSummands chunk ≠ [] := by
  unfold chunkSummands
  split
  · exact List.cons_ne_nil _ _
  · obtain ⟨t, ts, rfl⟩ := List.exists_cons_of_ne_nil h
    rw [List.flatMap_cons]
    exact List.append_ne_nil_of_left_ne_nil t.ne_nil _

/-- The relevance is written by adding the terms run by run. -/
theorem fragment_relevanceExpr {s : Score} (h : ts.map WrittenTerm.term = s.terms) :
    (relevanceExpr ts).fragment = s.toFragment := by
  -- everything in the sum can be added as it is written
  have hsummands : ∀ e ∈ (chunks ts).flatMap chunkSummands, e.IsSummand := by
    intro e he
    obtain ⟨chunk, _, he⟩ := List.mem_flatMap.1 he
    exact isSummand_of_mem_chunkSummands e he
  rw [relevanceExpr, Expr.fragment_total hsummands, Score.toFragment, ← h, splitBy_map, List.map_map,
    List.map_flatMap, ← total_flatMap]
  · exact congrArg Fragment.total (List.map_congr_left fun chunk _ => (chunkFragment_map_term chunk).symm)
  · intro chunk hchunk hnil
    exact chunkSummands_ne_nil (List.ne_nil_of_mem_splitBy hchunk) (List.map_eq_nil_iff.1 hnil)
  · intro chunk _ f hf
    obtain ⟨e, he, rfl⟩ := List.mem_map.1 hf
    exact (isSummand_of_mem_chunkSummands e he).sql_ne_empty

theorem wellBracketed_relevanceExpr (ts : List WrittenTerm) : (relevanceExpr ts).WellBracketed := by
  apply Expr.wellBracketed_total
  intro e he
  obtain ⟨chunk, _, he⟩ := List.mem_flatMap.1 he
  exact isSummand_of_mem_chunkSummands e he

/-! ## The value of the sum -/

variable {db : Database} {row : Row}

theorem mem_of_mem_chunk (hchunk : chunk ∈ chunks ts) {t : WrittenTerm} (ht : t ∈ chunk) : t ∈ ts := by
  rw [← List.flatten_splitBy (fun a b => Score.together a.term b.term) ts]
  exact List.mem_flatten.2 ⟨chunk, hchunk, ht⟩

theorem sum_map_flatMap {α β : Type} (xs : List α) (g : α → List β) (worth : β → ℚ) :
    ((xs.flatMap g).map worth).sum = (xs.map fun x => ((g x).map worth).sum).sum := by
  rw [List.map_flatMap, List.flatMap_def, List.sum_flatten, List.map_map]
  rfl

/-- The summands of a run have the values of its terms. -/
theorem eval_chunkSummands (h : ∀ t ∈ chunk, ∀ e ∈ t.summands, e.IsNumber db row) :
    (∀ e ∈ chunkSummands chunk, e.IsNumber db row) ∧
      ((chunkSummands chunk).map fun e => e.amount db row).sum =
        (chunk.map fun t => t.expression.amount db row).sum := by
  have hall : ∀ e ∈ chunk.flatMap (·.summands), e.IsNumber db row := by
    intro e he
    obtain ⟨t, ht, he⟩ := List.mem_flatMap.1 he
    exact h t ht e he
  have hsum : ((chunk.flatMap (·.summands)).map fun e => e.amount db row).sum =
      (chunk.map fun t => t.expression.amount db row).sum := by
    rw [sum_map_flatMap]
    congr 1
    exact List.map_congr_left fun t ht => (Expr.amount_total (h t ht)).symm
  unfold chunkSummands
  split
  · refine ⟨fun e he => ?_, ?_⟩
    · rw [List.mem_singleton.1 he]
      exact Expr.isNumber_total hall
    · rw [← hsum, ← Expr.amount_total hall, List.map_singleton, List.sum_singleton]
      rfl
  · exact ⟨hall, hsum⟩

/-- If all summands are numbers, the relevance is the sum of its terms. -/
theorem eval_relevanceExpr (h : ∀ t ∈ ts, ∀ e ∈ t.summands, e.IsNumber db row) :
    (relevanceExpr ts).eval db row = .ok (.number (ts.map fun t => t.expression.amount db row).sum) := by
  have hchunk : ∀ chunk ∈ chunks ts, ∀ t ∈ chunk, ∀ e ∈ t.summands, e.IsNumber db row :=
    fun chunk hchunk t ht => h t (mem_of_mem_chunk hchunk ht)
  have hall : ∀ e ∈ (chunks ts).flatMap chunkSummands, e.IsNumber db row := by
    intro e he
    obtain ⟨chunk, hmem, he⟩ := List.mem_flatMap.1 he
    exact (eval_chunkSummands (hchunk chunk hmem)).1 e he
  have hsum : ((chunks ts).flatMap chunkSummands |>.map fun e => e.amount db row).sum =
      (ts.map fun t => t.expression.amount db row).sum := by
    rw [sum_map_flatMap, List.map_congr_left fun chunk hmem => (eval_chunkSummands (hchunk chunk hmem)).2,
      ← sum_map_flatMap, List.flatMap_id', chunks, List.flatten_splitBy]
  rw [relevanceExpr, Expr.eval_total fun e he => Expr.eval_eq_amount (hall e he), hsum]

/-- If one summand is NULL, and none of the others is anything but a number, the relevance is NULL. -/
theorem eval_relevanceExpr_of_null (h : ∀ t ∈ ts, ∀ e ∈ t.summands, e.IsNumeric db row)
    (hnull : ∃ t ∈ ts, ∃ e ∈ t.summands, e.eval db row = .ok .null) :
    (relevanceExpr ts).eval db row = .ok .null := by
  have hall : ∀ chunk ∈ chunks ts, ∀ e ∈ chunk.flatMap (·.summands), e.IsNumeric db row := by
    intro chunk hchunk e he
    obtain ⟨t, ht, he⟩ := List.mem_flatMap.1 he
    exact h t (mem_of_mem_chunk hchunk ht) e he
  apply Expr.eval_total_of_null
  · intro e he
    obtain ⟨chunk, hchunk, he⟩ := List.mem_flatMap.1 he
    unfold chunkSummands at he
    split at he
    · rw [List.mem_singleton.1 he]
      exact Expr.isNumeric_total (hall chunk hchunk)
    · exact hall chunk hchunk e he
  · obtain ⟨t, ht, e, he, hnone⟩ := hnull
    obtain ⟨chunk, hchunk, htchunk⟩ : ∃ chunk ∈ chunks ts, t ∈ chunk := by
      rw [← List.mem_flatten, chunks, List.flatten_splitBy]
      exact ht
    have hmem : e ∈ chunk.flatMap (·.summands) := List.mem_flatMap.2 ⟨t, htchunk, he⟩
    -- in parentheses or not, the NULL is a summand of the whole
    by_cases hmatcher : chunk.any (·.term.isMatcher) = true
    · refine ⟨.parens (.total (chunk.flatMap (·.summands))), List.mem_flatMap.2 ⟨chunk, hchunk, ?_⟩, ?_⟩
      · rw [chunkSummands, if_pos hmatcher]
        exact List.mem_singleton.2 rfl
      · exact Expr.eval_total_of_null (hall chunk hchunk) ⟨e, hmem, hnone⟩
    · refine ⟨e, List.mem_flatMap.2 ⟨chunk, hchunk, ?_⟩, hnone⟩
      rw [chunkSummands, if_neg hmatcher]
      exact hmem

end Chunks

end RelevanceSql
