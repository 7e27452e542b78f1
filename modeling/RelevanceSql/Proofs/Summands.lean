import RelevanceSql.Proofs.Terms

/-!
# The summands of a relevance expression

A relevance expression is a sum. Its summands are runs of terms of one column, in parentheses, and full-text
terms, and each run is as long as can be: two columns may have one name, and next to each other their terms
make one run. A list of terms falls into summands in one way only (`groups_iff_of_groups`), which is the one
that the expression is written by (`splitBy_of_groups`).

Every term has SQL, and so does every summand, so that the sum has them all and shows them in the order of
the terms (`toFragment_build`). It is zero only if there is nothing to sum: a summand begins with a
parenthesis.
-/

namespace RelevanceSql

open RelevanceSql.Sql RelevanceSql.Search

/-- What a relevance expression adds up: the terms of matchers that stand together, all on one column, or a
full-text term. -/
inductive Summand where
  | run (column : String) (terms : List ScoreTerm) (ne_nil : terms ≠ [])
      (on_column : ∀ t ∈ terms, t.isMatcher = true ∧ t.column = column)
  | fullText (term : ScoreTerm) (from_fullText : term.isMatcher = false)

namespace Summand

/-- The terms of a summand. -/
def terms : Summand → List ScoreTerm
  | run _ ts _ _ => ts
  | fullText t _ => [t]

/-- The column of a run. -/
def column? : Summand → Option String
  | run column _ _ _ => some column
  | fullText _ _ => none

/-- The SQL of a summand: that of a run is a sum in parentheses. -/
def sql : Summand → String
  | run _ ts _ _ => "(" ++ " + ".intercalate (ts.map fun t => t.fragment.sql) ++ ")"
  | fullText t _ => t.fragment.sql

/-- Whether two summands are no parts of one run. -/
def Apart (a b : Summand) : Prop := ∀ column, a.column? = some column → b.column? ≠ some column

theorem terms_ne_nil (summand : Summand) : summand.terms ≠ [] := by
  cases summand with
  | run column ts ne_nil on_column => exact ne_nil
  | fullText t from_fullText => exact List.cons_ne_nil t []

/-- A summand is known by its terms. -/
theorem terms_injective : Function.Injective terms := by
  intro a b h
  cases a with
  | run c ts hne hts =>
    obtain ⟨t, ht⟩ := List.exists_mem_of_ne_nil ts hne
    obtain ⟨hmatcher, hcolumn⟩ := hts t ht
    cases b with
    | run c' ts' hne' hts' =>
      cases h
      have hcolumns : c = c' := hcolumn.symm.trans (hts' t ht).2
      cases hcolumns
      rfl
    | fullText t' hfull =>
      cases h
      rw [List.mem_singleton.1 ht, hfull] at hmatcher
      cases hmatcher
  | fullText t hfull =>
    cases b with
    | run c' ts' hne' hts' =>
      cases h
      have hmatcher := (hts' t (by simp)).1
      rw [hfull] at hmatcher
      cases hmatcher
    | fullText t' hfull' =>
      cases h
      rfl

/-! ## Terms that stand together -/

/-- The terms of a summand stand together. -/
theorem isChain_terms (summand : Summand) :
    summand.terms.IsChain fun t u => Score.together t u = true := by
  cases summand with
  | run column ts ne_nil on_column =>
    apply List.Pairwise.isChain
    apply List.pairwise_of_forall_mem_list
    intro t ht u hu
    obtain ⟨htm, htc⟩ := on_column t ht
    obtain ⟨hum, huc⟩ := on_column u hu
    rw [Score.together, htm, hum, htc, huc, decide_eq_true rfl]
    rfl
  | fullText t from_fullText => exact List.isChain_singleton t

/-- Where two summands meet, their terms do not stand together. -/
theorem Apart.together_eq_false {a b : Summand} (h : a.Apart b) :
    Score.together (a.terms.getLast a.terms_ne_nil) (b.terms.head b.terms_ne_nil) = false := by
  cases a with
  | fullText t hfull =>
    show Score.together t _ = false
    rw [Score.together, hfull]
    rfl
  | run c ts hne hts =>
    cases b with
    | fullText u hfull =>
      show Score.together _ u = false
      rw [Score.together, hfull, Bool.and_false, Bool.false_and]
    | run c' us hne' hus =>
      have hcolumn : (ts.getLast hne).column = c := (hts _ (List.getLast_mem hne)).2
      have hcolumn' : (us.head hne').column = c' := (hus _ (List.head_mem hne')).2
      have hdistinct : c ≠ c' := by
        rintro rfl
        exact h c rfl rfl
      show Score.together (ts.getLast hne) (us.head hne') = false
      rw [Score.together, hcolumn, hcolumn', decide_eq_false hdistinct, Bool.and_false]

end Summand

/-! ## The summands of a list of terms -/

/-- The terms are those of the summands, in order, and no run can be made longer. -/
structure Groups (summands : List Summand) (terms : List ScoreTerm) : Prop where
  flatten : summands.flatMap Summand.terms = terms
  maximal : summands.IsChain Summand.Apart

/-- The summands of a list of terms are its longest runs of terms that stand together. -/
theorem splitBy_of_groups {summands : List Summand} {terms : List ScoreTerm} (h : Groups summands terms) :
    terms.splitBy Score.together = summands.map Summand.terms := by
  rw [List.splitBy_eq_iff]
  refine ⟨?_, ?_, ?_, ?_⟩
  · rw [← h.flatten, List.flatMap_def]
  · intro hnil
    obtain ⟨summand, _, hsummand⟩ := List.mem_map.1 hnil
    exact summand.terms_ne_nil hsummand
  · intro chunk hchunk
    obtain ⟨summand, _, rfl⟩ := List.mem_map.1 hchunk
    exact summand.isChain_terms
  · rw [List.isChain_map]
    exact h.maximal.imp fun a b hapart =>
      ⟨a.terms_ne_nil, b.terms_ne_nil, hapart.together_eq_false⟩

/-- Term by term from the end, a term begins a summand or comes in front of a run on its column. -/
theorem exists_groups (terms : List ScoreTerm) : ∃ summands, Groups summands terms := by
  induction terms with
  | nil => exact ⟨[], rfl, .nil⟩
  | cons t ts ih =>
    obtain ⟨summands, hflatten, hmaximal⟩ := ih
    cases hsource : t.isMatcher with
    | false =>
      refine ⟨.fullText t hsource :: summands, ?_, ?_⟩
      · rw [List.flatMap_cons, hflatten]
        rfl
      · rw [List.isChain_cons]
        refine ⟨fun _ _ column hcolumn => ?_, hmaximal⟩
        cases hcolumn
    | true =>
      have hsingle : ∀ u ∈ [t], u.isMatcher = true ∧ u.column = t.column := by
        intro u hu
        rw [List.mem_singleton.1 hu]
        exact ⟨hsource, rfl⟩
      by_cases hnext : summands.head?.bind Summand.column? = some t.column
      · -- the term comes in front of the run that begins the rest
        cases summands with
        | nil => cases hnext
        | cons summand rest =>
          cases summand with
          | fullText u hfull => cases hnext
          | run column us hne hus =>
            have hcolumn : column = t.column := Option.some.inj hnext
            have hrun : ∀ u ∈ t :: us, u.isMatcher = true ∧ u.column = column := by
              intro u hu
              rcases List.mem_cons.1 hu with rfl | hu
              · exact ⟨hsource, hcolumn.symm⟩
              · exact hus u hu
            refine ⟨.run column (t :: us) (List.cons_ne_nil t us) hrun :: rest, ?_, ?_⟩
            · rw [← hflatten]
              rfl
            · rw [List.isChain_cons] at hmaximal ⊢
              exact hmaximal
      · -- it is a run by itself
        refine ⟨.run t.column [t] (List.cons_ne_nil t []) hsingle :: summands, ?_, ?_⟩
        · rw [List.flatMap_cons, hflatten]
          rfl
        · rw [List.isChain_cons]
          refine ⟨fun b hb column hcolumn hsame => hnext ?_, hmaximal⟩
          cases hcolumn
          rw [Option.mem_def.1 hb]
          exact hsame

/-- There is only one way to group a list of terms. -/
theorem groups_iff_of_groups {summands : List Summand} {terms : List ScoreTerm} (h : Groups summands terms)
    (others : List Summand) : Groups others terms ↔ others = summands := by
  constructor
  · intro hothers
    apply List.map_injective_iff.2 Summand.terms_injective
    rw [← splitBy_of_groups h, ← splitBy_of_groups hothers]
  · rintro rfl
    exact h

/-! ## Sums as text -/

/-- Two texts that are joined already may as well be joined with the others. -/
theorem intercalate_append_cons (sep s t : String) (rest : List String) :
    sep.intercalate ((s ++ sep ++ t) :: rest) = sep.intercalate (s :: t :: rest) := by
  rw [String.intercalate_cons_cons]
  cases rest with
  | nil => rw [String.intercalate_singleton, String.intercalate_singleton]
  | cons u rest =>
    rw [String.intercalate_cons_cons, String.intercalate_cons_cons]
    simp only [String.append_assoc]

/-- A joined text begins with its first part. -/
theorem intercalate_cons_eq_append (sep s : String) (ss : List String) :
    ∃ rest, sep.intercalate (s :: ss) = s ++ rest := by
  cases ss with
  | nil => exact ⟨"", by rw [String.intercalate_singleton, String.append_empty]⟩
  | cons s' ss => exact ⟨_, by rw [String.intercalate_cons_cons, String.append_assoc]⟩

theorem sql_foldl_plus {f : Fragment} {fs : List Fragment} (hf : f.sql ≠ "") (h : ∀ g ∈ fs, g.sql ≠ "") :
    (fs.foldl Fragment.plus f).sql = " + ".intercalate (f.sql :: fs.map Fragment.sql) := by
  induction fs generalizing f with
  | nil => rw [List.foldl_nil, List.map_nil, String.intercalate_singleton]
  | cons g fs ih =>
    have hsum : (f.plus g).sql = f.sql ++ " + " ++ g.sql := by
      show addSql f.sql g.sql = _
      rw [addSql, if_neg hf, if_neg (h g (by simp))]
    rw [List.foldl_cons, ih (sql_plus_ne_empty hf g) fun x hx => h x (by simp [hx]), hsum,
      intercalate_append_cons, List.map_cons]

/-- The total of fragments that all have SQL shows them all in order. -/
theorem sql_total {fs : List Fragment} (hne : fs ≠ []) (h : ∀ f ∈ fs, f.sql ≠ "") :
    (Fragment.total fs).sql = " + ".intercalate (fs.map Fragment.sql) := by
  rw [total_of_sql_ne_empty h]
  cases fs with
  | nil => exact absurd rfl hne
  | cons f rest => exact sql_foldl_plus (h f (by simp)) fun g hg => h g (by simp [hg])

theorem sql_total_fragments {ts : List ScoreTerm} (hne : ts ≠ []) (h : ∀ t ∈ ts, t.fragment.sql ≠ "") :
    (Fragment.total (ts.map (·.fragment))).sql = " + ".intercalate (ts.map fun t => t.fragment.sql) := by
  have hsql : ∀ f ∈ ts.map (·.fragment), f.sql ≠ "" := by
    intro f hf
    obtain ⟨t, ht, rfl⟩ := List.mem_map.1 hf
    exact h t ht
  rw [sql_total (fun hnil => hne (List.map_eq_nil_iff.1 hnil)) hsql, List.map_map]
  rfl

/-- What is written for the terms of a summand is the summand. -/
theorem Summand.sql_chunkFragment {summand : Summand} (h : ∀ t ∈ summand.terms, t.fragment.sql ≠ "") :
    (Score.chunkFragment summand.terms).sql = summand.sql := by
  cases summand with
  | run column ts ne_nil on_column =>
    have hany : ts.any (·.isMatcher) = true := by
      obtain ⟨t, ht⟩ := List.exists_mem_of_ne_nil ts ne_nil
      exact List.any_eq_true.2 ⟨t, ht, (on_column t ht).1⟩
    show (Score.chunkFragment ts).sql = "(" ++ _ ++ ")"
    rw [Score.chunkFragment, if_pos hany, Fragment.parenthesized, if_neg (sql_total_ne_empty _)]
    show "(" ++ (Fragment.total (ts.map (·.fragment))).sql ++ ")" = _
    rw [sql_total_fragments ne_nil h]
  | fullText t from_fullText =>
    have hany : ¬[t].any (·.isMatcher) = true := by simp [from_fullText]
    show (Score.chunkFragment [t]).sql = t.fragment.sql
    rw [Score.chunkFragment, if_neg hany]
    show (Fragment.total ([t].map (·.fragment))).sql = _
    rw [sql_total_fragments (List.cons_ne_nil t []) h, List.map_singleton, String.intercalate_singleton]

/-! ## The relevance expression of a score -/

namespace Score

theorem sql_toFragment {s : Score} (h : ∀ t ∈ s.terms, t.fragment.sql ≠ "") {summands : List Summand}
    (hgroups : Groups summands s.terms) :
    s.toFragment.sql = if s.terms = [] then "0" else " + ".intercalate (summands.map Summand.sql) := by
  have hsql : ∀ summand ∈ summands, (chunkFragment summand.terms).sql = summand.sql := by
    intro summand hsummand
    apply Summand.sql_chunkFragment
    intro t ht
    apply h
    rw [← hgroups.flatten]
    exact List.mem_flatMap.2 ⟨summand, hsummand, ht⟩
  rw [toFragment, splitBy_of_groups hgroups, List.map_map]
  split
  · next hterms =>
    have hnone : summands = [] := by
      have hempty : Groups [] s.terms := ⟨hterms.symm, .nil⟩
      exact ((groups_iff_of_groups hgroups []).1 hempty).symm
    rw [hnone]
    rfl
  · next hterms =>
    have hne : summands.map (chunkFragment ∘ Summand.terms) ≠ [] := by
      intro hnil
      apply hterms
      rw [← hgroups.flatten, List.map_eq_nil_iff.1 hnil]
      rfl
    rw [sql_total hne, List.map_map]
    · congr 1
      exact List.map_congr_left hsql
    · intro f hf
      obtain ⟨summand, _, rfl⟩ := List.mem_map.1 hf
      exact sql_chunkFragment_ne_empty _

/-- The SQL of a full-text term begins with a parenthesis. -/
theorem exists_sql_of_fullText {spec : SearchSpec} {table : String} {tokens : Tokens}
    {matchers : MatcherSet} {d : Dialect} {t : ScoreTerm}
    (h : t ∈ (build spec table tokens matchers d).terms) (hfull : t.isMatcher = false) :
    ∃ rest, t.fragment.sql = "(" ++ rest := by
  rcases List.mem_append.1 h with h | h
  · obtain ⟨entry, _, ht⟩ := List.mem_flatMap.1 h
    obtain ⟨m, _, rfl⟩ := List.mem_map.1 ht
    cases hfull
  · split at h
    · obtain ⟨entry, _, rfl⟩ := List.mem_map.1 h
      simp only [fullTextTerm, String.append_assoc]
      exact ⟨_, rfl⟩
    · cases h

theorem sql_toFragment_eq_zero_iff (spec : SearchSpec) (table : String) (tokens : Tokens)
    (matchers : MatcherSet) (d : Dialect) :
    (build spec table tokens matchers d).toFragment.sql = "0" ↔
      (build spec table tokens matchers d).terms = [] := by
  obtain ⟨summands, hgroups⟩ := exists_groups (build spec table tokens matchers d).terms
  rw [sql_toFragment (fun t => sql_ne_empty_of_mem_build) hgroups]
  split
  · next hterms => simp [hterms]
  · next hterms =>
    refine ⟨fun hzero => ?_, fun hnil => absurd hnil hterms⟩
    cases summands with
    | nil => exact absurd hgroups.flatten.symm hterms
    | cons summand summands =>
      have hopen : ∃ rest, summand.sql = "(" ++ rest := by
        cases summand with
        | run column ts ne_nil on_column => exact ⟨_, String.append_assoc⟩
        | fullText t from_fullText =>
          have hmem : t ∈ (build spec table tokens matchers d).terms := by
            rw [← hgroups.flatten]
            exact List.mem_cons_self
          exact exists_sql_of_fullText hmem from_fullText
      obtain ⟨rest, hrest⟩ := hopen
      obtain ⟨back, hback⟩ := intercalate_cons_eq_append " + " summand.sql (summands.map Summand.sql)
      rw [List.map_cons, hback, hrest] at hzero
      have hchars := congrArg String.toList hzero
      simp at hchars

/-- **The relevance expression has every term once.** The terms of a score fall into summands in one way
only, and the expression is the sum of these, zero exactly if there are none; its values are those of the
terms in order, and so are those of the select expression in any dialect. -/
theorem toFragment_build (spec : SearchSpec) (table : String) (tokens : Tokens) (matchers : MatcherSet)
    (d : Dialect) :
    (∃ summands,
      (∀ others, Groups others (build spec table tokens matchers d).terms ↔ others = summands) ∧
      (build spec table tokens matchers d).toFragment.sql =
        if (build spec table tokens matchers d).terms = [] then "0"
        else " + ".intercalate (summands.map Summand.sql)) ∧
    ((build spec table tokens matchers d).toFragment.sql = "0" ↔
      (build spec table tokens matchers d).terms = []) ∧
    (build spec table tokens matchers d).toFragment.params =
      (build spec table tokens matchers d).params ∧
    ∀ e, ((build spec table tokens matchers d).selectExpression e).params =
      (build spec table tokens matchers d).params := by
  have hsql : ∀ t ∈ (build spec table tokens matchers d).terms, t.fragment.sql ≠ "" := fun _ =>
    sql_ne_empty_of_mem_build
  obtain ⟨summands, hgroups⟩ := exists_groups (build spec table tokens matchers d).terms
  have hparams := params_toFragment hsql
  exact ⟨⟨summands, groups_iff_of_groups hgroups, sql_toFragment hsql hgroups⟩,
    sql_toFragment_eq_zero_iff spec table tokens matchers d, hparams, fun _ => hparams⟩

/-- Two columns of one name make one run. -/
example :
    ((build { columns := .ofList [("name", 10.0), ("people.name", 5.0)],
              fulltextColumns := .ofList [("bio", 2.0), ("people.name", 1.0)] } "people"
          ⟨["jo"], by decide⟩ [(.startOfString, 50.0), (.acronym, 42.0)] .mysql).terms.splitBy
        together).map List.length = [4, 1, 1] := by
  decide

end Score

end RelevanceSql
