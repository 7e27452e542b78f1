import RelevanceSql.Proofs.BoundValues

/-!
# The search text and the SQL

What of a search text can be seen in the SQL of a search. Two texts are alike if they have the same
number of characters, the same number of characters that are not blank, and both or neither have a
letter or digit. The outline of a fragment is its SQL with the number of its values; every matcher
has the same outline for texts that are alike (`Matcher.outline_scoreText`), and sums, parentheses and
the grouping of terms by column can be done on outlines. So searches for texts whose tokens are alike
one by one have the same SQL, and their values differ only where those of the score stand, all of
which are texts (`searchWith_of_alike`).
-/

namespace RelevanceSql

open RelevanceSql.Sql RelevanceSql.Search RelevanceSql.Text

/-- Two texts that no matcher can tell apart in its SQL. -/
structure Alike (a b : String) : Prop where
  length : a.length = b.length
  visible : (Matcher.visible a.toList).length = (Matcher.visible b.toList).length
  alphanumeric : a.toList.any isAlphanumeric = b.toList.any isAlphanumeric

/-! ## Outlines of fragments -/

namespace Sql.Fragment

/-- A fragment with its values taken out. -/
def outline (f : Fragment) : Fragment := ⟨f.sql, f.params.map fun _ => .null⟩

theorem sql_eq_of_outline_eq {f g : Fragment} (h : f.outline = g.outline) : f.sql = g.sql := by
  have hsql := congrArg Fragment.sql h
  exact hsql

theorem length_params_of_outline_eq {f g : Fragment} (h : f.outline = g.outline) :
    f.params.length = g.params.length := by
  have hparams := congrArg (fun f : Fragment => f.params.length) h
  simpa only [outline, List.length_map] using hparams

/-- The outline of a sum shows no more than the outlines of both sides. -/
theorem outline_plus (f g : Fragment) : (f.plus g).outline = f.outline.plus g.outline := by
  simp only [outline, plus, List.map_append]

theorem outline_foldl_plus (fs : List Fragment) (f : Fragment) :
    (fs.foldl plus f).outline = (fs.map outline).foldl plus f.outline := by
  induction fs generalizing f with
  | nil => rfl
  | cons g fs ih => rw [List.foldl_cons, ih, outline_plus, List.map_cons, List.foldl_cons]

/-- Which fragments a total leaves out can be told from their outlines. -/
theorem outline_total (fs : List Fragment) : (total fs).outline = total (fs.map outline) := by
  -- being empty is a matter of the SQL, which an outline keeps
  have hkept : (fs.map outline).filter (fun f => !f.isEmpty) =
      (fs.filter fun f => !f.isEmpty).map outline := by
    rw [List.filter_map]
    rfl
  unfold total sum
  rw [hkept]
  cases fs.filter fun f => !f.isEmpty with
  | nil => rfl
  | cons f rest => exact outline_foldl_plus rest f

theorem outline_parenthesized (f : Fragment) : f.parenthesized.outline = f.outline.parenthesized := by
  unfold parenthesized
  show _ = if f.sql = "" then _ else _
  split <;> rfl

end Sql.Fragment

/-! ## Outlines of what a matcher adds -/

namespace Matcher

/-- There are initials to look for if the text has a letter or a digit. -/
theorem isSome_acronymPattern? (cs : List Char) :
    (acronymPattern? cs).isSome = cs.any isAlphanumeric := by
  unfold acronymPattern?
  split
  · next h =>
    rw [List.filter_eq_nil_iff] at h
    symm
    simpa using h
  · next h =>
    symm
    simpa [List.filter_eq_nil_iff] using h

/-- There are characters to look for in order if one of them is not blank. -/
theorem isSome_subsequencePattern? (cs : List Char) :
    (subsequencePattern? cs).isSome = decide ((visible cs).length ≠ 0) := by
  unfold subsequencePattern?
  split
  · next h => simp [h]
  · next h => simpa using h

/-- Where a matcher needs a pattern, all that shows is whether there is one. -/
theorem outline_of_isSome_eq {p q : Option (List Char)} (h : p.isSome = q.isSome) (sql : String) :
    (match p with
      | some pattern => Fragment.mk sql [.text (String.ofList pattern)]
      | none => .zero).outline =
    (match q with
      | some pattern => Fragment.mk sql [.text (String.ofList pattern)]
      | none => .zero).outline := by
  cases p with
  | none =>
    cases q with
    | none => rfl
    | some _ => cases h
  | some _ =>
    cases q with
    | none => cases h
    | some _ => rfl

/-- For texts that are alike, a matcher adds the same SQL and as many values. -/
theorem outline_scoreText {a b : String} (h : Alike a b) (m : Matcher) (d : Dialect) (column : String)
    (weight : Float) :
    (m.scoreText d column weight a).outline = (m.scoreText d column weight b).outline := by
  cases m with
  | exactFull | exactInString | startOfString | startOfWords | similarString => rfl
  | acronym =>
    have hpatterns := h.alphanumeric
    rw [← isSome_acronymPattern?, ← isSome_acronymPattern?] at hpatterns
    exact outline_of_isSome_eq hpatterns (caseWhen (like column) weight)
  | consecutiveCharacters =>
    have hpatterns : (subsequencePattern? a.toList).isSome = (subsequencePattern? b.toList).isSome := by
      rw [isSome_subsequencePattern?, isSome_subsequencePattern?, h.visible]
    have hlength : subsequenceLength a.toList = subsequenceLength b.toList := by
      rw [subsequenceLength, subsequenceLength, h.visible]
    simp only [scoreText, hlength]
    exact outline_of_isSome_eq hpatterns _
  | timesInString =>
    -- the one matcher whose SQL shows the number of all characters
    have hlength : a.toList.length = b.toList.length := by
      rw [String.length_toList, String.length_toList, h.length]
    have hempty : a.toList = [] ↔ b.toList = [] := by
      rw [← List.length_eq_zero_iff, ← List.length_eq_zero_iff, hlength]
    simp only [scoreText, hlength, hempty]
    split <;> rfl

/-- A matcher for whole phrases writes the same SQL for all of them. -/
theorem outline_scoreText_of_usesWholePhrase {m : Matcher} (h : m.usesWholePhrase = true) (d : Dialect)
    (column : String) (weight : Float) (a b : String) :
    (m.scoreText d column weight a).outline = (m.scoreText d column weight b).outline := by
  cases m with
  | exactFull | exactInString => rfl
  | _ => cases h

/-- What a matcher adds for tokens that are alike one by one has the same outline. -/
theorem outline_score {t₁ t₂ : Tokens} (h : List.Forall₂ Alike t₁.words t₂.words) (m : Matcher)
    (d : Dialect) (column : String) (weight : Float) :
    (m.score d column weight t₁).outline = (m.score d column weight t₂).outline := by
  unfold score
  split
  · next hphrase => exact outline_scoreText_of_usesWholePhrase hphrase d column weight _ _
  · rw [Fragment.outline_total, Fragment.outline_total, List.map_map, List.map_map]
    congr 1
    rw [← List.forall₂_eq_eq_eq, List.forall₂_map_left_iff, List.forall₂_map_right_iff]
    exact h.imp fun a b hab => outline_scoreText hab m d column weight

end Matcher

/-! ## Outlines of scores -/

/-- A term of a score with its values taken out. -/
def ScoreTerm.outline (t : ScoreTerm) : ScoreTerm := { t with fragment := t.fragment.outline }

/-- Splitting a list and changing its elements, from the middle of the work on. -/
theorem splitBy_loop_map {α β : Type} (f : α → β) (r : β → β → Bool) (xs : List α) (x : α)
    (run : List α) (runs : List (List α)) :
    List.splitBy.loop r (xs.map f) (f x) (run.map f) (runs.map (List.map f)) =
      (List.splitBy.loop (fun a b => r (f a) (f b)) xs x run runs).map (List.map f) := by
  -- the open run and the finished ones are changed along with the rest of the list
  induction xs generalizing x run runs with
  | nil => simp [List.splitBy.loop]
  | cons y ys ih =>
    simp only [List.map_cons, List.splitBy.loop]
    split
    · exact ih y (x :: run) runs
    · have hrun : (f x :: run.map f).reverse = ((x :: run).reverse).map f := by simp
      rw [hrun]
      exact ih y [] ((x :: run).reverse :: runs)

/-- Splitting a list and changing its elements can be done in any order. -/
theorem splitBy_map {α β : Type} (f : α → β) (r : β → β → Bool) (xs : List α) :
    (xs.map f).splitBy r = (xs.splitBy fun a b => r (f a) (f b)).map (List.map f) := by
  cases xs with
  | nil => rfl
  | cons x xs => exact splitBy_loop_map f r xs x [] []

namespace Score

theorem outline_chunkFragment (chunk : List ScoreTerm) :
    (chunkFragment chunk).outline = chunkFragment (chunk.map ScoreTerm.outline) := by
  have htotal : (Fragment.total (chunk.map (·.fragment))).outline =
      Fragment.total ((chunk.map ScoreTerm.outline).map (·.fragment)) := by
    rw [Fragment.outline_total, List.map_map, List.map_map]
    rfl
  -- whether there are parentheses depends on where the terms come from, and not on their values
  have hany : (chunk.map ScoreTerm.outline).any (·.isMatcher) = chunk.any (·.isMatcher) := by
    rw [List.any_map]
    rfl
  unfold chunkFragment
  rw [hany, ← htotal]
  split
  · exact Fragment.outline_parenthesized _
  · rfl

/-- The outline of a sum of terms shows no more than the outlines of the terms. -/
theorem outline_toFragment (s : Score) :
    s.toFragment.outline =
      Fragment.total (((s.terms.map ScoreTerm.outline).splitBy together).map chunkFragment) := by
  have htogether : (fun a b : ScoreTerm => together a.outline b.outline) = together := rfl
  rw [toFragment, Fragment.outline_total, splitBy_map, htogether, List.map_map, List.map_map]
  congr 1
  exact List.map_congr_left fun chunk _ => outline_chunkFragment chunk

/-- Scores for tokens that are alike have terms with the same outlines. -/
theorem outline_terms_build {t₁ t₂ : Tokens} (h : List.Forall₂ Alike t₁.words t₂.words)
    (spec : SearchSpec) (table : String) (matchers : MatcherSet) (d : Dialect) :
    (build spec table t₁ matchers d).terms.map ScoreTerm.outline =
      (build spec table t₂ matchers d).terms.map ScoreTerm.outline := by
  have hcount : t₁.count = t₂.count := h.length_eq
  have hcolumn : ∀ entry : String × Float,
      (columnTerms spec table d t₁ (matchers.applicable t₁.count d) entry).map ScoreTerm.outline =
        (columnTerms spec table d t₂ (matchers.applicable t₂.count d) entry).map ScoreTerm.outline := by
    intro entry
    -- as many tokens, so the same matchers take part
    rw [hcount]
    simp only [columnTerms, List.map_map]
    apply List.map_congr_left
    intro m _
    simp only [Function.comp_apply, ScoreTerm.outline, Matcher.outline_score h]
  simp only [build, List.map_append, List.map_flatMap, hcolumn]
  congr 1
  split
  · rw [List.map_map, List.map_map]
    rfl
  · rfl

end Score

/-! ## Values of scores -/

/-- A matcher binds nothing but texts. -/
theorem Matcher.exists_text_of_mem_scoreText {m : Matcher} {d : Dialect} {column : String}
    {weight : Float} {text : String} {p : Param} (h : p ∈ (m.scoreText d column weight text).params) :
    ∃ t, p = .text t := by
  cases m with
  | exactFull | exactInString | startOfString | startOfWords | similarString =>
    exact ⟨_, List.mem_singleton.1 h⟩
  | acronym | consecutiveCharacters | timesInString =>
    simp only [scoreText] at h
    split at h
    all_goals
      first
        | exact ⟨_, List.mem_singleton.1 h⟩
        | cases h

theorem Matcher.exists_text_of_mem_score {m : Matcher} {d : Dialect} {column : String} {weight : Float}
    {tokens : Tokens} {p : Param} (h : p ∈ (m.score d column weight tokens).params) :
    ∃ t, p = .text t := by
  unfold score at h
  split at h
  · exact exists_text_of_mem_scoreText h
  · -- no summand is without SQL, so the sum has the values of all of them
    rw [params_total] at h
    · obtain ⟨f, hf, hp⟩ := List.mem_flatMap.1 h
      obtain ⟨word, _, rfl⟩ := List.mem_map.1 hf
      exact exists_text_of_mem_scoreText hp
    · intro f hf
      obtain ⟨word, _, rfl⟩ := List.mem_map.1 hf
      exact sql_scoreText_ne_empty m d column weight word

/-- Every value of a score is a text. -/
theorem Score.exists_text_of_mem_params {spec : SearchSpec} {table : String} {tokens : Tokens}
    {matchers : MatcherSet} {d : Dialect} {p : Param}
    (h : p ∈ (Score.build spec table tokens matchers d).params) : ∃ t, p = .text t := by
  obtain ⟨t, ht, hp⟩ := List.mem_flatMap.1 h
  rcases mem_terms_build ht with ⟨entry, _, m, weight, hfragment⟩ | ⟨entry, _, rfl⟩
  · rw [hfragment] at hp
    exact Matcher.exists_text_of_mem_score hp
  · exact ⟨_, List.mem_singleton.1 hp⟩

/-! ## Two searches -/

/-- The values of the relevance are in no clause of a finished search but its values. -/
theorem CompiledQuery.render_finalize_withRelevance (c : CompiledQuery) (relevance : Fragment)
    (base : Query) (d e : Dialect) :
    (CompiledQuery.finalize { c with relevance := relevance } base d).render e =
      (c.finalize base d).render e := by
  obtain ⟨query, table, _, threshold, limit, groupBy, filter⟩ := c
  cases query <;> cases filter <;> rfl

namespace Searcher

/-- The tokens of a search text, none if there are none. -/
def words (s : Searcher) (model : Model) (text : String) : List String :=
  match Tokens.parse text (s.cap model) with
  | none => []
  | some tokens => tokens.words

/-- The values that the score of a search binds, none if there are no tokens. -/
def scoringValues (s : Searcher) (model : Model) (text : String) : List Param :=
  match Tokens.parse text (s.cap model) with
  | none => []
  | some tokens => (s.score model tokens).params

variable {s : Searcher} {model : Model} {t₁ t₂ : Tokens}

theorem words_of_parse {text : String} {tokens : Tokens}
    (h : Tokens.parse text (s.cap model) = some tokens) : s.words model text = tokens.words := by
  rw [words, h]

theorem scoringValues_of_parse {text : String} {tokens : Tokens}
    (h : Tokens.parse text (s.cap model) = some tokens) :
    s.scoringValues model text = (s.score model tokens).params := by
  rw [scoringValues, h]

/-- The relevance of both searches has the same SQL and as many values. -/
theorem outline_relevance (s : Searcher) (model : Model)
    (h : List.Forall₂ Alike t₁.words t₂.words) :
    ((s.score model t₁).selectExpression s.dialect).outline =
      ((s.score model t₂).selectExpression s.dialect).outline := by
  have hsum : (s.score model t₁).toFragment.outline = (s.score model t₂).toFragment.outline := by
    rw [Score.outline_toFragment, Score.outline_toFragment]
    simp only [score, Score.outline_terms_build h]
  have hsql := Fragment.sql_eq_of_outline_eq hsum
  have hparams := congrArg Fragment.params hsum
  simp only [Fragment.outline] at hparams
  simp only [Score.selectExpression, Fragment.outline, hsql, hparams]

theorem length_params_score (s : Searcher) (model : Model)
    (h : List.Forall₂ Alike t₁.words t₂.words) :
    (s.score model t₁).params.length = (s.score model t₂).params.length := by
  rw [← params_relevance s model t₁, ← params_relevance s model t₂]
  exact Fragment.length_params_of_outline_eq (outline_relevance s model h)

/-- Before a restriction, the scored queries of two searches differ in the values of the relevance only. -/
theorem compiledWith_of_alike (s : Searcher) (model : Model)
    (h : List.Forall₂ Alike t₁.words t₂.words) (base : Query) (joins : List Join) (limit : Nat)
    (threshold : Option Float) :
    s.compiledWith model base t₂ joins limit threshold =
      { s.compiledWith model base t₁ joins limit threshold with
        relevance := (s.score model t₂).selectExpression s.dialect } := by
  have hsql := Fragment.sql_eq_of_outline_eq (outline_relevance s model h)
  have hthreshold : thresholdOf (s.score model t₁) = thresholdOf (s.score model t₂) := by
    simp only [thresholdOf, score, Score.build]
  simp only [compiledWith, hsql, hthreshold]

/-- The values of a finished search are those of the score and others that the score has no part in. -/
theorem exists_params_finalize_compiledWith (s : Searcher) (model : Model)
    (h : List.Forall₂ Alike t₁.words t₂.words) (base : Query) (joins : List Join) (limit : Nat)
    (threshold : Option Float) :
    ∃ before after, ∀ d,
      (((s.compiledWith model base t₁ joins limit threshold).finalize base s.dialect).toSql d).params =
        before ++ (s.score model t₁).params ++ after ∧
      (((s.compiledWith model base t₂ joins limit threshold).finalize base s.dialect).toSql d).params =
        before ++ (s.score model t₂).params ++ after := by
  let c := s.compiledWith model base t₁ joins limit threshold
  refine ⟨base.bindings.get .select,
    c.query.bindings.get .select ++ c.query.bindings.get .source ++ c.query.bindings.get .join ++
      c.query.bindings.get .filter ++ c.query.bindings.get .having ++ base.bindings.get .order, ?_⟩
  intro d
  constructor
  · rw [CompiledQuery.params_finalize, ← params_relevance s model t₁]
    simp only [List.append_assoc]
    rfl
  · rw [compiledWith_of_alike s model h, CompiledQuery.params_finalize, ← params_relevance s model t₂]
    simp only [List.append_assoc]
    rfl

/-- Two outcomes that differ in the values of the scores only: the same fault, or queries with the same
SQL for every database, whose values are the same in front of and behind those of the scores. -/
def ApartFromScores (values₁ values₂ : List Param) (x y : Except SearchFault Query) : Prop :=
  (∃ fault, x = .error fault ∧ y = .error fault) ∨
    ∃ r₁ r₂ before after, x = .ok r₁ ∧ y = .ok r₂ ∧ ∀ d,
      (r₁.toSql d).sql = (r₂.toSql d).sql ∧
      (r₁.toSql d).params = before ++ values₁ ++ after ∧
      (r₂.toSql d).params = before ++ values₂ ++ after

/-- What has the same first step needs to be compared after that step only. -/
theorem ApartFromScores.bind {values₁ values₂ : List Param} {α : Type} {x : Except SearchFault α}
    {f g : α → Except SearchFault Query} (h : ∀ a, ApartFromScores values₁ values₂ (f a) (g a)) :
    ApartFromScores values₁ values₂ (x >>= f) (x >>= g) := by
  cases x with
  | error fault => exact Or.inl ⟨fault, rfl, rfl⟩
  | ok a => exact h a

/-- Searches without tokens have the same outcome. -/
theorem apartFromScores_of_none (s : Searcher) (model : Model) (base : Query) {text₁ text₂ : String}
    (h₁ : Tokens.parse text₁ (s.cap model) = none) (h₂ : Tokens.parse text₂ (s.cap model) = none)
    (limit : Nat) (threshold : Option Float) :
    ApartFromScores [] []
      (s.searchWith model base text₁ { limit := limit, threshold := threshold })
      (s.searchWith model base text₂ { limit := limit, threshold := threshold }) := by
  rw [searchWith_eq_bind_of_none h₁, searchWith_eq_bind_of_none h₂]
  refine .bind fun _ => .bind fun _ => .bind fun _ => ?_
  refine Or.inr ⟨base, base, base.bindings.flatten, [], rfl, rfl, fun d => ⟨rfl, ?_⟩⟩
  simp [Query.params_toSql]

theorem apartFromScores_of_alike (s : Searcher) (model : Model) (base : Query) {text₁ text₂ : String}
    (h₁ : Tokens.parse text₁ (s.cap model) = some t₁) (h₂ : Tokens.parse text₂ (s.cap model) = some t₂)
    (h : List.Forall₂ Alike t₁.words t₂.words) (limit : Nat) (threshold : Option Float) :
    ApartFromScores (s.score model t₁).params (s.score model t₂).params
      (s.searchWith model base text₁ { limit := limit, threshold := threshold })
      (s.searchWith model base text₂ { limit := limit, threshold := threshold }) := by
  rw [searchWith_eq_bind h₁, searchWith_eq_bind h₂]
  refine .bind fun _ => .bind fun _ => .bind fun _ => .bind fun joins => ?_
  let c := s.compiledWith model base t₁ joins limit threshold
  have hthreshold : (s.compiledWith model base t₂ joins limit threshold).threshold = c.threshold := by
    rw [compiledWith_of_alike s model h]
  -- one threshold for both, which is refused for both or for neither
  simp only [id, hthreshold]
  refine .bind fun _ => ?_
  obtain ⟨before, after, hparams⟩ :=
    exists_params_finalize_compiledWith s model h base joins limit threshold
  refine Or.inr ⟨_, _, before, after, rfl, rfl, fun d => ⟨?_, hparams d⟩⟩
  have hrender : ((s.compiledWith model base t₂ joins limit threshold).finalize base s.dialect).render d =
      (c.finalize base s.dialect).render d := by
    rw [compiledWith_of_alike s model h]
    exact c.render_finalize_withRelevance _ base s.dialect d
  show Placeholder.number _ _ = Placeholder.number _ _
  rw [hrender]

/-- **The search text stays out of the SQL.** Two searches that differ in nothing but the search text, with
tokens that are alike one by one, fail with the same fault, or both succeed. Then they have the same SQL
for every database and equally many values, which differ at most where those of the scores stand, and
those are texts. -/
theorem searchWith_of_alike (s : Searcher) (model : Model) (base : Query) {text₁ text₂ : String}
    (h : List.Forall₂ Alike (s.words model text₁) (s.words model text₂)) (limit : Nat)
    (threshold : Option Float) :
    ApartFromScores (s.scoringValues model text₁) (s.scoringValues model text₂)
        (s.searchWith model base text₁ { limit := limit, threshold := threshold })
        (s.searchWith model base text₂ { limit := limit, threshold := threshold }) ∧
      (s.scoringValues model text₁).length = (s.scoringValues model text₂).length ∧
      ∀ p ∈ s.scoringValues model text₁ ++ s.scoringValues model text₂, ∃ t, p = .text t := by
  cases h₁ : Tokens.parse text₁ (s.cap model) with
  | none =>
    cases h₂ : Tokens.parse text₂ (s.cap model) with
    | none =>
      rw [scoringValues, h₁, scoringValues, h₂]
      exact ⟨apartFromScores_of_none s model base h₁ h₂ limit threshold, rfl, by simp⟩
    | some t₂ =>
      -- there is no text with tokens that is like one without
      rw [words, h₁, words_of_parse h₂] at h
      exact absurd (List.forall₂_nil_left_iff.1 h) t₂.words_ne_nil
  | some t₁ =>
    cases h₂ : Tokens.parse text₂ (s.cap model) with
    | none =>
      rw [words_of_parse h₁, words, h₂] at h
      exact absurd (List.forall₂_nil_right_iff.1 h) t₁.words_ne_nil
    | some t₂ =>
      rw [words_of_parse h₁, words_of_parse h₂] at h
      rw [scoringValues_of_parse h₁, scoringValues_of_parse h₂]
      refine ⟨apartFromScores_of_alike s model base h₁ h₂ h limit threshold,
        length_params_score s model h, ?_⟩
      intro p hp
      rcases List.mem_append.1 hp with hp | hp
      · exact Score.exists_text_of_mem_params hp
      · exact Score.exists_text_of_mem_params hp

theorem searchWith_of_alike_users :
    List.Forall₂ Alike ((usersSearcher .mysql).words usersModel "Jo 'x?")
        ((usersSearcher .mysql).words usersModel "A% %b;") ∧
      ApartFromScores ((usersSearcher .mysql).scoringValues usersModel "Jo 'x?")
          ((usersSearcher .mysql).scoringValues usersModel "A% %b;")
          ((usersSearcher .mysql).searchWith usersModel usersQuery "Jo 'x?" { limit := 10, threshold := none })
          ((usersSearcher .mysql).searchWith usersModel usersQuery "A% %b;"
            { limit := 10, threshold := none }) ∧
        ((usersSearcher .mysql).scoringValues usersModel "Jo 'x?").length =
          ((usersSearcher .mysql).scoringValues usersModel "A% %b;").length ∧
        ∀ p ∈ (usersSearcher .mysql).scoringValues usersModel "Jo 'x?" ++
          (usersSearcher .mysql).scoringValues usersModel "A% %b;", ∃ t, p = .text t := by
  have hother : (usersSearcher .mysql).words usersModel "A% %b;" = ["a%", "%b;"] := by decide
  have halike : List.Forall₂ Alike ((usersSearcher .mysql).words usersModel "Jo 'x?")
      ((usersSearcher .mysql).words usersModel "A% %b;") := by
    rw [words_of_parse (parse_usersTokens .mysql), hother]
    have hfirst : Alike "jo" "a%" := ⟨by decide, by decide, by decide⟩
    have hsecond : Alike "'x?" "%b;" := ⟨by decide, by decide, by decide⟩
    exact .cons hfirst (.cons hsecond .nil)
  exact ⟨halike, searchWith_of_alike (usersSearcher .mysql) usersModel usersQuery halike 10 none⟩

end Searcher

end RelevanceSql
