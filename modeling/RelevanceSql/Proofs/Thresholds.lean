import RelevanceSql.Proofs.Searching
import RelevanceSql.Proofs.Tokenizing

/-!
# What a threshold depends on

A score is made in a walk over the columns, which writes terms and adds up weights at the same time.
What a walk writes depends on where and what is searched: the matchers for phrases want two tokens, a
database may lack a matcher or full-text search. What it adds up does not (`weightSum_run`): a column
counts before it is known which of its terms are written. So the slots of a score are the same for all
searches of a specification with the same matchers, the terms are the slots that take part
(`terms_build`), and the computed threshold is the same for all of them (`threshold_of_sameSetup`).
-/

namespace RelevanceSql

open RelevanceSql.Sql RelevanceSql.Search

/-- What a score depends on beside the weights: the table, the tokens and the database. -/
structure Setting where
  table : String
  tokens : Tokens
  dialect : Dialect

/-! ## The walk over the columns -/

/-- A walk over the columns: the terms that are written so far, and the sum of the weights so far. -/
structure Walk where
  terms : List ScoreTerm
  weightSum : Float

namespace Walk

variable (spec : SearchSpec) (matchers : MatcherSet) (x y : Setting)

/-- Comes by a searched column. -/
def column (w : Walk) (entry : String × Float) : Walk where
  terms := w.terms ++ columnTerms spec x.table x.dialect x.tokens
    (matchers.applicable x.tokens.count x.dialect) entry
  weightSum := w.weightSum + entry.2

/-- Comes by a full-text column, which has no term in a database that cannot search it. -/
def fullText (w : Walk) (entry : String × Float) : Walk :=
  let counted := { w with weightSum := w.weightSum + entry.2 }
  if x.dialect.supportsFullText then
    { counted with terms := w.terms ++ [fullTextTerm x.table x.dialect x.tokens entry] }
  else counted

/-- The whole walk, the full-text columns last; the weights of the matchers are counted before. -/
def run : Walk :=
  spec.fulltextColumns.entries.foldl (fullText x)
    (spec.columns.entries.foldl (column spec matchers x) ⟨[], matchers.totalWeight⟩)

theorem weightSum_fullText (w : Walk) (entry : String × Float) :
    (w.fullText x entry).weightSum = w.weightSum + entry.2 := by
  unfold fullText
  split <;> rfl

/-- A step adds the same weight in every setting. -/
theorem weightSum_foldl {step step' : Walk → String × Float → Walk}
    (h : ∀ w w' entry, w.weightSum = w'.weightSum →
      (step w entry).weightSum = (step' w' entry).weightSum)
    (entries : List (String × Float)) {w w' : Walk} (hw : w.weightSum = w'.weightSum) :
    (entries.foldl step w).weightSum = (entries.foldl step' w').weightSum := by
  induction entries generalizing w w' with
  | nil => exact hw
  | cons entry entries ih => exact ih (h w w' entry hw)

/-- Two walks over the same columns come to the same sum, whatever terms they write. -/
theorem weightSum_run : (run spec matchers x).weightSum = (run spec matchers y).weightSum := by
  -- the sums agree behind the searched columns, and from there on behind the full-text ones
  refine weightSum_foldl (fun w w' entry h => ?_) _ (weightSum_foldl (fun w w' entry h => ?_) _ rfl)
  · rw [weightSum_fullText, weightSum_fullText, h]
  · show w.weightSum + entry.2 = w'.weightSum + entry.2
    rw [h]

/-- Over the searched columns a walk writes their terms in order, and adds their weights. -/
theorem foldl_column (entries : List (String × Float)) (w : Walk) :
    entries.foldl (column spec matchers x) w =
      ⟨w.terms ++ entries.flatMap (columnTerms spec x.table x.dialect x.tokens
          (matchers.applicable x.tokens.count x.dialect)),
        entries.foldl (fun sum e => sum + e.2) w.weightSum⟩ := by
  induction entries generalizing w with
  | nil => rw [List.flatMap_nil, List.append_nil]; rfl
  | cons entry entries ih =>
    rw [List.foldl_cons, ih, List.flatMap_cons, ← List.append_assoc]
    rfl

/-- Over the full-text columns it writes their terms if the database can search them, and adds their weights
in any case. -/
theorem foldl_fullText (entries : List (String × Float)) (w : Walk) :
    entries.foldl (fullText x) w =
      ⟨w.terms ++ (if x.dialect.supportsFullText then
          entries.map (fullTextTerm x.table x.dialect x.tokens) else []),
        entries.foldl (fun sum e => sum + e.2) w.weightSum⟩ := by
  induction entries generalizing w with
  | nil => simp
  | cons entry entries ih =>
    rw [List.foldl_cons, ih, weightSum_fullText, List.foldl_cons]
    unfold fullText
    split <;> simp

/-- The walk writes the terms of the score and comes to its sum of weights. -/
theorem run_eq_build :
    run spec matchers x =
      ⟨(Score.build spec x.table x.tokens matchers x.dialect).terms,
        (Score.build spec x.table x.tokens matchers x.dialect).relevanceCount⟩ := by
  rw [run, foldl_column, foldl_fullText, List.nil_append]
  simp only [Score.build, SearchSpec.weightedColumns, List.foldl_append]

end Walk

/-! ## Slots -/

/-- A place for a term: a column as it is written, what may write a term there, and its weight. -/
structure Slot where
  column : String
  source : TermSource
  weight : Float

/-- The places for the terms of a specification: one for each column and matcher, and one for each
full-text column. -/
def SearchSpec.slots (spec : SearchSpec) (matchers : MatcherSet) : List Slot :=
  (spec.columns.entries.flatMap fun e => matchers.map fun m => ⟨e.1, .matcher m.1, e.2 * m.2⟩) ++
    spec.fulltextColumns.entries.map fun e => ⟨e.1, .fullText, e.2⟩

/-- Whether a source writes terms in a setting. -/
def TermSource.takesPart (x : Setting) : TermSource → Bool
  | .matcher m => MatcherSet.applies x.tokens.count x.dialect m
  | .fullText => x.dialect.supportsFullText

/-- The term that is written in a place. -/
def Slot.term (spec : SearchSpec) (x : Setting) (slot : Slot) : ScoreTerm where
  column := qualify x.table slot.column
  source := slot.source
  weight := slot.weight
  fragment := match slot.source with
    | .matcher m =>
      m.score x.dialect (spec.reference x.dialect slot.column (qualify x.table slot.column)) slot.weight
        x.tokens
    | .fullText => (fullTextTerm x.table x.dialect x.tokens (slot.column, slot.weight)).fragment

/-- The terms of a column are those of its slots whose matcher takes part. -/
theorem columnTerms_eq_slots (spec : SearchSpec) (matchers : MatcherSet) (x : Setting)
    (entry : String × Float) :
    columnTerms spec x.table x.dialect x.tokens (matchers.applicable x.tokens.count x.dialect) entry =
      ((matchers.map fun m => (⟨entry.1, .matcher m.1, entry.2 * m.2⟩ : Slot)).filter
        fun slot => slot.source.takesPart x).map (Slot.term spec x) := by
  rw [List.filter_map, List.map_map]
  rfl

/-- The terms of full-text columns fill all their slots, or none. -/
theorem fullTextTerms_eq_slots (spec : SearchSpec) (x : Setting) (entries : List (String × Float)) :
    (if x.dialect.supportsFullText then entries.map (fullTextTerm x.table x.dialect x.tokens) else []) =
      ((entries.map fun e => (⟨e.1, .fullText, e.2⟩ : Slot)).filter
        fun slot => slot.source.takesPart x).map (Slot.term spec x) := by
  rw [List.filter_map, List.map_map]
  show _ = (entries.filter fun _ => x.dialect.supportsFullText).map _
  split
  · next h =>
    rw [h, List.filter_true]
    rfl
  · next h =>
    rw [Bool.not_eq_true] at h
    rw [h, List.filter_false]
    rfl

/-- The terms of a score are those of the slots whose source takes part, in the order of the slots. -/
theorem terms_build (spec : SearchSpec) (matchers : MatcherSet) (x : Setting) :
    (Score.build spec x.table x.tokens matchers x.dialect).terms =
      ((spec.slots matchers).filter fun slot => slot.source.takesPart x).map (Slot.term spec x) := by
  rw [SearchSpec.slots, List.filter_append, List.map_append, ← fullTextTerms_eq_slots, List.filter_flatMap,
    List.map_flatMap]
  simp only [Score.build, ← columnTerms_eq_slots]

/-! ## Two searches -/

/-- Where and how a searcher looks for tokens. -/
def Searcher.setting (s : Searcher) (model : Model) (tokens : Tokens) : Setting :=
  ⟨model.table, tokens, s.dialect⟩

/-- Two searchers with the same matchers, and two models that say the same about what is searched. The
dialects, the tables, the keys and all caps on tokens may differ. -/
structure SameSetup (s₁ s₂ : Searcher) (model₁ model₂ : Model) : Prop where
  matchers : s₁.matchers = s₂.matchers
  search : { model₁.search with maxWords := none } = { model₂.search with maxWords := none }

namespace SearchSpec

variable (spec : SearchSpec)

/-- A cap on tokens has no part in the slots. -/
theorem slots_withoutCap (matchers : MatcherSet) :
    { spec with maxWords := none }.slots matchers = spec.slots matchers := rfl

theorem term_withoutCap (x : Setting) :
    Slot.term { spec with maxWords := none } x = Slot.term spec x := rfl

theorem joinClauses_withoutCap : { spec with maxWords := none }.joinClauses = spec.joinClauses := rfl

/-- The cap is the last thing that can be wrong, and only zero is. -/
theorem fault?_withoutCap (h : spec.maxWords ≠ some 0) :
    { spec with maxWords := none }.fault? = spec.fault? := by
  simp only [fault?, if_neg h]
  rfl

end SearchSpec

namespace Searcher

variable {s s₁ s₂ : Searcher} {model model₁ model₂ : Model} {text text₁ text₂ : String}
  {tokens tokens₁ tokens₂ : Tokens}

/-- A cap of zero leaves no tokens. -/
theorem maxWords_ne_zero (h : Tokens.parse text (s.cap model) = some tokens) :
    model.search.maxWords ≠ some 0 := by
  intro hzero
  have hcap : s.cap model = 0 := by
    rw [cap, hzero]
    rfl
  -- there is at least one token, and no more than the cap
  have hcount := Tokens.count_parse_le h
  have hpos := tokens.count_pos
  omega

/-- A score depends on the cap of the specification only by its tokens. -/
theorem score_withoutCap (s : Searcher) (model : Model) (tokens : Tokens) :
    s.score model tokens =
      Score.build { model.search with maxWords := none } model.table tokens s.matchers s.dialect := rfl

/-- The sums of weights are equal. -/
theorem relevanceCount_eq (h : SameSetup s₁ s₂ model₁ model₂) (tokens₁ tokens₂ : Tokens) :
    (s₁.score model₁ tokens₁).relevanceCount = (s₂.score model₂ tokens₂).relevanceCount := by
  have hsum := Walk.weightSum_run { model₁.search with maxWords := none } s₁.matchers
    (s₁.setting model₁ tokens₁) (s₂.setting model₂ tokens₂)
  rw [Walk.run_eq_build, Walk.run_eq_build, h.search, h.matchers] at hsum
  rw [score_withoutCap, score_withoutCap, h.search, h.matchers]
  exact hsum

theorem columnCount_eq (h : SameSetup s₁ s₂ model₁ model₂) (tokens₁ tokens₂ : Tokens) :
    (s₁.score model₁ tokens₁).columnCount = (s₂.score model₂ tokens₂).columnCount := by
  rw [score_withoutCap, score_withoutCap, h.search]
  rfl

theorem matcherCount_eq (h : SameSetup s₁ s₂ model₁ model₂) (tokens₁ tokens₂ : Tokens) :
    (s₁.score model₁ tokens₁).matcherCount = (s₂.score model₂ tokens₂).matcherCount := by
  rw [score_withoutCap, score_withoutCap, h.matchers]
  rfl

/-- The computed thresholds are equal, as all that they are computed from is. -/
theorem thresholdOf_eq (h : SameSetup s₁ s₂ model₁ model₂) (tokens₁ tokens₂ : Tokens) :
    thresholdOf (s₁.score model₁ tokens₁) = thresholdOf (s₂.score model₂ tokens₂) := by
  rw [thresholdOf, thresholdOf, relevanceCount_eq h tokens₁ tokens₂, columnCount_eq h tokens₁ tokens₂,
    matcherCount_eq h tokens₁ tokens₂]

theorem slots_eq (h : SameSetup s₁ s₂ model₁ model₂) :
    model₁.search.slots s₁.matchers = model₂.search.slots s₂.matchers := by
  rw [← SearchSpec.slots_withoutCap, h.search, h.matchers, SearchSpec.slots_withoutCap]

theorem term_eq (h : SameSetup s₁ s₂ model₁ model₂) (x : Setting) :
    Slot.term model₁.search x = Slot.term model₂.search x := by
  rw [← SearchSpec.term_withoutCap, h.search, SearchSpec.term_withoutCap]

theorem terms_score (s : Searcher) (model : Model) (tokens : Tokens) :
    (s.score model tokens).terms =
      ((model.search.slots s.matchers).filter
        fun slot => slot.source.takesPart (s.setting model tokens)).map
          (Slot.term model.search (s.setting model tokens)) :=
  terms_build model.search s.matchers (s.setting model tokens)

/-- Both specifications have the same fault, since a cap of zero would have left no tokens. -/
theorem fault?_eq (h : SameSetup s₁ s₂ model₁ model₂)
    (h₁ : Tokens.parse text₁ (s₁.cap model₁) = some tokens₁)
    (h₂ : Tokens.parse text₂ (s₂.cap model₂) = some tokens₂) :
    model₁.search.fault? = model₂.search.fault? := by
  rw [← SearchSpec.fault?_withoutCap _ (maxWords_ne_zero h₁), h.search,
    SearchSpec.fault?_withoutCap _ (maxWords_ne_zero h₂)]

theorem joinClauses_eq (h : SameSetup s₁ s₂ model₁ model₂) :
    model₁.search.joinClauses = model₂.search.joinClauses := by
  rw [← SearchSpec.joinClauses_withoutCap, h.search, SearchSpec.joinClauses_withoutCap]

/-- Without a threshold of its own a search fails with the fault of the specification or of its joins, or
its scored query has the computed threshold. -/
theorem compile_without_threshold (htokens : Tokens.parse text (s.cap model) = some tokens)
    (base : Query) {limit : Nat} (hlimit : limit ≠ 0) :
    s.compile model base text limit none =
      match model.search.fault?, model.search.joinClauses with
      | some fault, _ => .error (.config fault)
      | none, .error fault => .error (.config fault)
      | none, .ok joins => .ok (some (s.compiledWith model base tokens joins limit none)) := by
  rw [compile_eq_bind htokens, checkLimit, if_neg hlimit, SearchSpec.validate]
  cases model.search.fault? with
  | some fault => rfl
  | none => cases model.search.joinClauses <;> rfl

/-- **Thresholds do not depend on the search.** Two searches with tokens, of searchers with the same
matchers and of models that say the same about what is searched, have scores with the same counts, and
their terms fill the same slots: each score has the terms of those slots whose source takes part in its
own setting. On top of any queries both fail alike, or the scored queries of both have one threshold, that
of the weights, the columns and the matchers. -/
theorem threshold_of_sameSetup (h : SameSetup s₁ s₂ model₁ model₂)
    (h₁ : Tokens.parse text₁ (s₁.cap model₁) = some tokens₁)
    (h₂ : Tokens.parse text₂ (s₂.cap model₂) = some tokens₂) :
    ((s₁.score model₁ tokens₁).relevanceCount = (s₂.score model₂ tokens₂).relevanceCount ∧
      (s₁.score model₁ tokens₁).columnCount = (s₂.score model₂ tokens₂).columnCount ∧
      (s₁.score model₁ tokens₁).matcherCount = (s₂.score model₂ tokens₂).matcherCount) ∧
    ((s₁.score model₁ tokens₁).terms =
        ((model₁.search.slots s₁.matchers).filter
          fun slot => slot.source.takesPart (s₁.setting model₁ tokens₁)).map
            (Slot.term model₁.search (s₁.setting model₁ tokens₁)) ∧
      (s₂.score model₂ tokens₂).terms =
        ((model₁.search.slots s₁.matchers).filter
          fun slot => slot.source.takesPart (s₂.setting model₂ tokens₂)).map
            (Slot.term model₁.search (s₂.setting model₂ tokens₂))) ∧
    ∀ (base₁ base₂ : Query) (limit₁ limit₂ : Nat), limit₁ ≠ 0 → limit₂ ≠ 0 →
      (∃ fault, s₁.compile model₁ base₁ text₁ limit₁ none = .error fault ∧
        s₂.compile model₂ base₂ text₂ limit₂ none = .error fault) ∨
      ∃ compiled₁ compiled₂, s₁.compile model₁ base₁ text₁ limit₁ none = .ok (some compiled₁) ∧
        s₂.compile model₂ base₂ text₂ limit₂ none = .ok (some compiled₂) ∧
        compiled₁.threshold = compiled₂.threshold ∧
        compiled₁.threshold =
          computeThreshold
            (model₁.search.weightedColumns.foldl (fun sum e => sum + e.2) s₁.matchers.totalWeight)
            model₁.search.columns.size s₁.matchers.length := by
  refine ⟨⟨relevanceCount_eq h _ _, columnCount_eq h _ _, matcherCount_eq h _ _⟩,
    ⟨terms_score s₁ model₁ tokens₁, ?_⟩, fun base₁ base₂ limit₁ limit₂ hlimit₁ hlimit₂ => ?_⟩
  · rw [terms_score, slots_eq h, term_eq h]
  · rw [compile_without_threshold h₁ base₁ hlimit₁, compile_without_threshold h₂ base₂ hlimit₂,
      fault?_eq h h₁ h₂, joinClauses_eq h]
    cases model₂.search.fault? with
    | some fault => exact .inl ⟨_, rfl, rfl⟩
    | none =>
      cases model₂.search.joinClauses with
      | error fault => exact .inl ⟨_, rfl, rfl⟩
      | ok joins => exact .inr ⟨_, _, rfl, rfl, thresholdOf_eq h tokens₁ tokens₂, rfl⟩

/-- The users of another table, under another key and with a cap of its own. -/
def membersModel : Model where
  table := "members"
  key := "number"
  search := usersModel.search.withMaxWords 1

def joTokens : Tokens := ⟨["jo"], by decide⟩

theorem parse_members (d : Dialect) :
    Tokens.parse "Jo 'x?" ((usersSearcher d).cap membersModel) = some joTokens := by
  show Tokens.parse "Jo 'x?" 1 = some joTokens
  decide

/-- The members are searched for one token, in a database without full-text search; the users for two,
in one that has it, so with more terms. Both thresholds are the same. -/
theorem threshold_users_members :
    ((usersSearcher .mysql).score usersModel usersTokens).terms.length = 9 ∧
    ((usersSearcher .sqlite).score membersModel joTokens).terms.length = 6 ∧
    ∃ compiled₁ compiled₂,
      (usersSearcher .mysql).compile usersModel usersQuery "Jo 'x?" 10 none = .ok (some compiled₁) ∧
      (usersSearcher .sqlite).compile membersModel (.table "members") "Jo 'x?" 3 none =
        .ok (some compiled₂) ∧
      compiled₁.threshold = compiled₂.threshold := by
  have hsame : SameSetup (usersSearcher .mysql) (usersSearcher .sqlite) usersModel membersModel :=
    ⟨rfl, rfl⟩
  refine ⟨by decide, by decide, ?_⟩
  obtain ⟨_, _, hcompile⟩ :=
    threshold_of_sameSetup hsame (parse_usersTokens .mysql) (parse_members .sqlite)
  rcases hcompile usersQuery (.table "members") 10 3 (by decide) (by decide) with
    ⟨fault, hfault, _⟩ | hthreshold
  · -- the specification of the users has no fault
    rw [compile_without_threshold (parse_usersTokens .mysql) _ (by decide), fault?_usersModel,
      joinClauses_usersModel] at hfault
    cases hfault
  · obtain ⟨compiled₁, compiled₂, h₁, h₂, hsame, _⟩ := hthreshold
    exact ⟨compiled₁, compiled₂, h₁, h₂, hsame⟩

end Searcher

end RelevanceSql
