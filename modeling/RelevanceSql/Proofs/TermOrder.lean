import RelevanceSql.Proofs.Terms
import RelevanceSql.Search.Searcher

/-!
# The order of terms

A score is written column by column, and within a column matcher by matcher: the order of its terms is that
of the specification and the configuration, and nothing about a search changes it. What a search decides is
which matchers are left out, and it decides that once for all columns (`applies_iff`). So the columns, the
sources, the weights and the values of a score can be said without its SQL (`summaries_build`).

A matcher binds what it looks for in place of a text (`Matcher.target?`), once for the phrase of all tokens
or token by token; a token that it has nothing to look for is a zero in the sum and binds nothing. A
full-text column binds the tokens longest first.
-/

namespace RelevanceSql

open RelevanceSql.Sql RelevanceSql.Search

/-! ## What a matcher binds -/

namespace Matcher

/-- What a matcher looks for in place of a text; none if there is nothing to look for. -/
def target? : Matcher → List Char → Option (List Char)
  | .exactFull, cs => some cs
  | .exactInString, cs => some (containsPattern cs)
  | .startOfString, cs => some (startPattern cs)
  | .acronym, cs => acronymPattern? cs
  | .consecutiveCharacters, cs => subsequencePattern? cs
  | .startOfWords, cs => some (wordsPattern cs)
  | .similarString, cs => some cs
  | .timesInString, cs => if cs = [] then none else some cs

/-- The value that a matcher binds for a text, if it looks for anything. -/
def value? (m : Matcher) (text : String) : Option Param :=
  (m.target? text.toList).map fun cs => .text (String.ofList cs)

/-- The texts that a matcher looks at: all tokens with single spaces between them, or each on its own. -/
def texts (m : Matcher) (tokens : Tokens) : List String :=
  if m.usesWholePhrase then [" ".intercalate tokens.words] else tokens.words

/-- The values that a matcher binds, text by text. -/
def values (m : Matcher) (tokens : Tokens) : List Param := (m.texts tokens).filterMap m.value?

theorem params_scoreText (m : Matcher) (d : Dialect) (column : String) (weight : Float) (text : String) :
    (m.scoreText d column weight text).params = (m.value? text).toList := by
  cases m with
  | exactFull | exactInString | startOfString | startOfWords | similarString => rfl
  | acronym | consecutiveCharacters =>
    simp only [scoreText, value?, target?]
    split
    · next hpattern => rw [hpattern]; rfl
    · next hpattern => rw [hpattern]; rfl
  | timesInString =>
    simp only [scoreText, value?, target?]
    split
    · rfl
    · rw [Option.map_some, String.ofList_toList]
      rfl

/-- A matcher with nothing to look for adds nothing. -/
theorem value?_eq_none_iff (m : Matcher) (d : Dialect) (column : String) (weight : Float) (text : String) :
    m.value? text = none ↔ m.scoreText d column weight text = .zero := by
  constructor
  · intro hnone
    rw [value?, Option.map_eq_none_iff] at hnone
    cases m with
    | exactFull | exactInString | startOfString | startOfWords | similarString => cases hnone
    | acronym | consecutiveCharacters =>
      rw [target?] at hnone
      simp only [scoreText, hnone]
    | timesInString =>
      rw [target?] at hnone
      split at hnone
      · next hempty => simp only [scoreText, hempty, if_true]
      · cases hnone
  · intro hzero
    have hparams := params_scoreText m d column weight text
    rw [hzero] at hparams
    -- a value would be one of zero
    exact Option.toList_eq_nil_iff.1 hparams.symm

theorem params_score (m : Matcher) (d : Dialect) (column : String) (weight : Float) (tokens : Tokens) :
    (m.score d column weight tokens).params = m.values tokens := by
  rw [values, List.filterMap_eq_flatMap_toList, texts, score]
  split
  · rw [List.flatMap_singleton, params_scoreText]
    rfl
  · have hsql : ∀ f ∈ tokens.words.map (m.scoreText d column weight), f.sql ≠ "" := by
      intro f hf
      obtain ⟨word, _, rfl⟩ := List.mem_map.1 hf
      exact m.sql_scoreText_ne_empty d column weight word
    rw [params_total hsql, List.flatMap_map]
    simp only [params_scoreText]

/-- A matcher for phrases looks for something in every phrase. -/
theorem values_of_usesWholePhrase {m : Matcher} (h : m.usesWholePhrase = true) (tokens : Tokens) :
    ∃ value, m.value? (" ".intercalate tokens.words) = some value ∧ m.values tokens = [value] := by
  have hsome : ∃ value, m.value? (" ".intercalate tokens.words) = some value := by
    cases m with
    | exactFull | exactInString => exact ⟨_, rfl⟩
    | startOfString | acronym | consecutiveCharacters | startOfWords | similarString | timesInString =>
      cases h
  obtain ⟨value, hvalue⟩ := hsome
  refine ⟨value, hvalue, ?_⟩
  rw [values, texts, if_pos h, List.filterMap_cons_some hvalue, List.filterMap_nil]

/-- A matcher that a search goes without: one for phrases if there are not two tokens, and the comparison by
sound in the databases that lack it. -/
def LeftOut (m : Matcher) (tokenCount : Nat) (d : Dialect) : Prop :=
  (m.usesWholePhrase = true ∧ tokenCount < 2) ∨ (m = .similarString ∧ (d = .sqlite ∨ d = .sqlsrv))

instance (m : Matcher) (tokenCount : Nat) (d : Dialect) : Decidable (m.LeftOut tokenCount d) :=
  inferInstanceAs (Decidable
    ((m.usesWholePhrase = true ∧ tokenCount < 2) ∨ (m = .similarString ∧ (d = .sqlite ∨ d = .sqlsrv))))

end Matcher

theorem Sql.Dialect.supports_iff (d : Dialect) (m : Matcher) :
    d.supports m = true ↔ ¬(m = .similarString ∧ (d = .sqlite ∨ d = .sqlsrv)) := by
  cases d <;> simp [supports]

/-! ## Matchers of a search -/

namespace MatcherSet

theorem applies_iff (tokenCount : Nat) (d : Dialect) (m : Matcher) :
    applies tokenCount d m = true ↔ ¬m.LeftOut tokenCount d := by
  rw [applies, Bool.and_eq_true, Bool.not_eq_true', Dialect.supports_iff, ← Bool.not_eq_true,
    Bool.and_eq_true, decide_eq_true_eq, Matcher.LeftOut, not_or]

/-- The matchers of a search, without those that it goes without. -/
def kept (s : MatcherSet) (tokenCount : Nat) (d : Dialect) : MatcherSet :=
  s.filter fun e => !decide (e.1.LeftOut tokenCount d)

theorem applicable_eq_kept (s : MatcherSet) (tokenCount : Nat) (d : Dialect) :
    s.applicable tokenCount d = s.kept tokenCount d := by
  apply List.filter_congr
  intro e _
  rw [Bool.eq_iff_iff, applies_iff, Bool.not_eq_true', decide_eq_false_iff_not]

end MatcherSet

/-! ## Tokens longest first -/

/-- A list has the given words, longer ones first and those of one length in the order given. -/
structure LongestFirst (given ordered : List String) : Prop where
  perm : ordered.Perm given
  descending : ordered.Pairwise fun a b => b.length ≤ a.length
  stable : ∀ n, (ordered.filter fun w => w.length == n) = given.filter fun w => w.length == n

theorem Search.Tokens.longestFirst_words (tokens : Tokens) :
    LongestFirst tokens.words tokens.longestFirst := by
  have htrans : ∀ a b c : String, decide (b.length ≤ a.length) = true →
      decide (c.length ≤ b.length) = true → decide (c.length ≤ a.length) = true := by
    intro a b c hab hbc
    rw [decide_eq_true_eq] at hab hbc ⊢
    omega
  have htotal : ∀ a b : String,
      (decide (b.length ≤ a.length) || decide (a.length ≤ b.length)) = true := by
    intro a b
    rw [Bool.or_eq_true, decide_eq_true_eq, decide_eq_true_eq]
    omega
  have hperm : tokens.longestFirst.Perm tokens.words := List.mergeSort_perm _ _
  refine ⟨hperm, ?_, fun n => ?_⟩
  · have hpairs := List.pairwise_mergeSort htrans htotal tokens.words
    simp only [decide_eq_true_eq] at hpairs
    exact hpairs
  · -- words of one length are in any order sorted, so the sort leaves them in theirs
    have hsorted : (tokens.words.filter fun w => w.length == n).Pairwise
        fun a b => decide (b.length ≤ a.length) = true := by
      rw [List.pairwise_iff_forall_sublist]
      intro a b hab
      have hlength : ∀ w ∈ [a, b], w.length = n := by
        intro w hw
        simpa using (List.mem_filter.1 (hab.subset hw)).2
      rw [decide_eq_true_eq, hlength a (by simp), hlength b (by simp)]
    have hsublist := List.sublist_mergeSort htrans htotal hsorted List.filter_sublist
    have hfiltered := hsublist.filter fun w => w.length == n
    rw [List.filter_filter] at hfiltered
    simp only [Bool.and_self] at hfiltered
    exact (hfiltered.eq_of_length (hperm.filter _).length_eq.symm).symm

/-! ## The terms of a score -/

/-- A term without its SQL: its column, where it comes from, its weight, and the values that it binds. -/
structure TermSummary where
  column : String
  source : TermSource
  weight : Float
  values : List Param

/-- What a term says beside its SQL. -/
def ScoreTerm.summary (t : ScoreTerm) : TermSummary := ⟨t.column, t.source, t.weight, t.fragment.params⟩

/-- A column has one term for each matcher that is kept. -/
theorem summaries_columnTerms (spec : SearchSpec) (table : String) (d : Dialect) (tokens : Tokens)
    (matchers : MatcherSet) (entry : String × Float) :
    (columnTerms spec table d tokens matchers entry).map ScoreTerm.summary =
      matchers.map fun m =>
        ⟨qualify table entry.1, .matcher m.1, entry.2 * m.2, m.1.values tokens⟩ := by
  rw [columnTerms, List.map_map]
  apply List.map_congr_left
  intro m _
  simp only [Function.comp_apply, ScoreTerm.summary, Matcher.params_score]

/-- **The order of terms.** The terms of a score are those of the searched columns, column by column and
matcher by matcher without the matchers that are left out, with the products of the weights; behind them
stand those of the full-text columns, if the database can search them. The matchers are those that the
searcher says, whatever its cap. A matcher binds one value for the phrase of all tokens, or the values of the
tokens in order, where a token without value adds nothing; a full-text column binds the tokens longest
first. -/
theorem summaries_build (spec : SearchSpec) (table : String) (tokens : Tokens) (matchers : MatcherSet)
    (d : Dialect) :
    (Score.build spec table tokens matchers d).terms.map ScoreTerm.summary =
        (spec.columns.entries.flatMap fun entry => (matchers.kept tokens.count d).map fun m =>
          ⟨qualify table entry.1, .matcher m.1, entry.2 * m.2, m.1.values tokens⟩) ++
        (if d.supportsFullText then spec.fulltextColumns.entries.map fun entry =>
          ⟨qualify table entry.1, .fullText, entry.2, [.text (" ".intercalate tokens.longestFirst)]⟩
        else []) ∧
      (∀ maxWords, Searcher.applicableMatchers ⟨matchers, maxWords, d⟩ tokens.count =
        (matchers.kept tokens.count d).map Prod.fst) ∧
      (∀ m : Matcher, m.usesWholePhrase = true →
        ∃ value, m.value? (" ".intercalate tokens.words) = some value ∧ m.values tokens = [value]) ∧
      (∀ (m : Matcher) (column : String) (weight : Float) (text : String),
        m.value? text = none ↔ m.scoreText d column weight text = .zero) ∧
      LongestFirst tokens.words tokens.longestFirst := by
  refine ⟨?_, fun maxWords => ?_, fun m hm => m.values_of_usesWholePhrase hm tokens,
    fun m column weight text => m.value?_eq_none_iff d column weight text, tokens.longestFirst_words⟩
  · simp only [Score.build, MatcherSet.applicable_eq_kept, List.map_append, List.map_flatMap,
      summaries_columnTerms]
    congr 1
    split
    · rw [List.map_map]
      rfl
    · rfl
  · rw [Searcher.applicableMatchers, MatcherSet.applicable_eq_kept]

/-- Three tokens, one of which has neither letters nor digits. -/
def threeTokens : Tokens := ⟨["jo", "--", "ann"], by decide⟩

def townsSpec : SearchSpec :=
  { columns := .ofList [("name", 10.0), ("towns.name", 5.0)], fulltextColumns := .ofList [("bio", 2.0)] }

/-- A database that cannot compare by sound, so that one of three matchers is left out. -/
theorem summaries_build_towns :
    (Score.build townsSpec "people" threeTokens
          [(.exactFull, 100.0), (.similarString, 30.0), (.acronym, 42.0)] .sqlsrv).terms.map
        ScoreTerm.summary =
      [⟨"people.name", .matcher .exactFull, 10.0 * 100.0, [.text "jo -- ann"]⟩,
        ⟨"people.name", .matcher .acronym, 10.0 * 42.0, [.text "j% o%", .text "a% n% n%"]⟩,
        ⟨"towns.name", .matcher .exactFull, 5.0 * 100.0, [.text "jo -- ann"]⟩,
        ⟨"towns.name", .matcher .acronym, 5.0 * 42.0, [.text "j% o%", .text "a% n% n%"]⟩,
        ⟨"people.bio", .fullText, 2.0, [.text "ann jo --"]⟩] ∧
      Matcher.usesWholePhrase .exactFull = true ∧
      ∃ value, Matcher.value? .exactFull "jo -- ann" = some value ∧
        Matcher.values .exactFull threeTokens = [value] := by
  obtain ⟨hterms, _, hphrase, _⟩ := summaries_build townsSpec "people" threeTokens
    [(.exactFull, 100.0), (.similarString, 30.0), (.acronym, 42.0)] .sqlsrv
  have hdashes : "--".length = 2 := rfl
  have hjo : "jo".length = 2 := rfl
  have hann : "ann".length = 3 := rfl
  have hordered : threeTokens.longestFirst = ["ann", "jo", "--"] := by
    simp [Tokens.longestFirst, threeTokens, List.mergeSort, hdashes, hjo, hann]
  have hwhole : Matcher.usesWholePhrase .exactFull = true := rfl
  refine ⟨?_, hwhole, hphrase .exactFull hwhole⟩
  rw [hterms, hordered]
  rfl

end RelevanceSql
