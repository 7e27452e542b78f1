import RelevanceSql.Proofs.Numerals
import RelevanceSql.Proofs.Terms
import RelevanceSql.Proofs.Thresholds

/-!
# The numbers in a score

The SQL of a term is the same text around every weight, and where the weight stands it is written as a
number (`writtenAround_term`). So whether SQL can read that number is decided by the weight alone: it can
exactly if the weight is finite. The checks of a configuration and of a specification look at each weight
by itself, but what a term writes is a product, and the product of two weights that pass may be infinite.
`literals_of_search` says which numbers of a successful search SQL can read: the threshold always, a
weight if it is finite, and all of them if no configured weight is huge.
-/

namespace RelevanceSql

open RelevanceSql.Sql RelevanceSql.Search

/-! ## Texts around a number -/

/-- SQL that is the same text around every number, which is written in a given way in its places. -/
def WrittenAround (write : Float → String) (sql : Float → String) : Prop :=
  ∃ parts, ∀ number, sql number = fill (write number) parts

theorem writtenAround_text (write : Float → String) (sql : String) : WrittenAround write fun _ => sql :=
  ⟨[.text sql], fun _ => String.append_empty.symm⟩

theorem writtenAround_number (write : Float → String) : WrittenAround write write :=
  ⟨[.column], fun _ => String.append_empty.symm⟩

section Texts

variable {write : Float → String}

theorem WrittenAround.append {f g : Float → String} (hf : WrittenAround write f)
    (hg : WrittenAround write g) : WrittenAround write fun number => f number ++ g number := by
  obtain ⟨xs, hf⟩ := hf
  obtain ⟨ys, hg⟩ := hg
  refine ⟨xs ++ ys, fun number => ?_⟩
  show f number ++ g number = _
  rw [hf, hg, fill_append]

/-- A number between two texts. -/
theorem writtenAround_between (write : Float → String) (before after : String) :
    WrittenAround write fun number => before ++ write number ++ after :=
  ((writtenAround_text write before).append (writtenAround_number write)).append
    (writtenAround_text write after)

theorem WrittenAround.plus {f g : Float → Fragment} (hf : WrittenAround write fun n => (f n).sql)
    (hg : WrittenAround write fun n => (g n).sql) (hfsql : ∀ n, (f n).sql ≠ "")
    (hgsql : ∀ n, (g n).sql ≠ "") : WrittenAround write fun n => ((f n).plus (g n)).sql := by
  -- neither side is ever without SQL, so the plus sign is always there
  have hsql : (fun n => ((f n).plus (g n)).sql) = fun n => (f n).sql ++ " + " ++ (g n).sql := by
    funext n
    show addSql (f n).sql (g n).sql = _
    rw [addSql, if_neg (hfsql n), if_neg (hgsql n)]
  rw [hsql]
  exact (hf.append (writtenAround_text write " + ")).append hg

/-- A sum of fragments with SQL is the same text around every number, as its summands are. -/
theorem writtenAround_total {fs : List (Float → Fragment)}
    (h : ∀ f ∈ fs, (WrittenAround write fun n => (f n).sql) ∧ ∀ n, (f n).sql ≠ "") :
    WrittenAround write fun n => (Fragment.total (fs.map fun f => f n)).sql :=
  total_induction (P := fun f => WrittenAround write fun n => (f n).sql) (fun hf hg => hf.plus hg)
    (writtenAround_text write "0") h

end Texts

/-! ## Weights in a term -/

/-- How a term writes its weight: with a point where it is divided. -/
def TermSource.literal : TermSource → Float → String
  | .matcher .consecutiveCharacters => Number.decimalLiteral
  | _ => Number.literal

/-- Whatever writes a weight, SQL can read it exactly if it is finite. -/
theorem isPositional_sourceLiteral (source : TermSource) (weight : Float) :
    Number.isPositional (source.literal weight) = Number.isFinite weight := by
  unfold TermSource.literal
  split
  · exact Number.isPositional_decimalLiteral weight
  · exact Number.isPositional_literal weight

namespace Matcher

theorem writtenAround_conditional (condition : String) (text : List Char) :
    WrittenAround Number.literal fun weight => (conditional condition weight text).sql :=
  writtenAround_between Number.literal ("CASE WHEN " ++ condition ++ " THEN ") " ELSE 0 END"

theorem writtenAround_subsequenceScore (d : Dialect) (column : String) (length : Nat) :
    WrittenAround Number.decimalLiteral fun weight => subsequenceScore d column weight length := by
  have hround := writtenAround_between Number.decimalLiteral
    ("CASE WHEN " ++ like column ++ " AND " ++ spacelessLength d column ++ " > 0 THEN ROUND(") " * "
  have hcovered := writtenAround_text Number.decimalLiteral (toString length)
  have hby := writtenAround_text Number.decimalLiteral " / "
  have hlength := writtenAround_text Number.decimalLiteral (spacelessLength d column)
  have helse := writtenAround_text Number.decimalLiteral ", 0) ELSE 0 END"
  exact (((hround.append hcovered).append hby).append hlength).append helse

theorem writtenAround_occurrenceScore (d : Dialect) (column : String) (length : Nat) :
    WrittenAround Number.literal fun weight => occurrenceScore d column weight length := by
  have hround := writtenAround_between Number.literal "COALESCE(ROUND(" " * ("
  have hwith := writtenAround_text Number.literal (d.length (lowered column))
  have hminus := writtenAround_text Number.literal " - "
  have hwithout := writtenAround_text Number.literal (d.length ("REPLACE(" ++ lowered column ++ ", ?, '')"))
  have hby := writtenAround_text Number.literal ") / "
  have htoken := writtenAround_text Number.literal (toString length)
  have hclose := writtenAround_text Number.literal ", 0), 0)"
  exact (((((hround.append hwith).append hminus).append hwithout).append hby).append htoken).append hclose

/-- For one text a matcher writes the same SQL around every weight. -/
theorem writtenAround_scoreText (m : Matcher) (d : Dialect) (column text : String) :
    WrittenAround (TermSource.matcher m).literal fun weight => (m.scoreText d column weight text).sql := by
  cases m with
  | exactFull | exactInString | startOfString | startOfWords | similarString =>
    exact writtenAround_conditional _ _
  | acronym =>
    simp only [scoreText]
    split
    · exact writtenAround_conditional _ _
    · exact writtenAround_text _ "0"
  | consecutiveCharacters =>
    simp only [scoreText]
    split
    · exact writtenAround_subsequenceScore d column _
    · exact writtenAround_text _ "0"
  | timesInString =>
    simp only [scoreText]
    split
    · exact writtenAround_text _ "0"
    · exact writtenAround_occurrenceScore d column _

/-- What a matcher adds is written around its weight, for one text or for many. -/
theorem writtenAround_score (m : Matcher) (d : Dialect) (column : String) (tokens : Tokens) :
    WrittenAround (TermSource.matcher m).literal fun weight => (m.score d column weight tokens).sql := by
  unfold score
  split
  · exact writtenAround_scoreText m d column _
  · -- one summand for each token
    let summands := tokens.words.map fun word weight => m.scoreText d column weight word
    have hsummands : ∀ f ∈ summands, (WrittenAround (TermSource.matcher m).literal fun n => (f n).sql) ∧
        ∀ n, (f n).sql ≠ "" := by
      intro f hf
      obtain ⟨word, _, rfl⟩ := List.mem_map.1 hf
      exact ⟨writtenAround_scoreText m d column word, fun n => sql_scoreText_ne_empty m d column n word⟩
    have htotal := writtenAround_total hsummands
    simpa only [summands, List.map_map, Function.comp_def] using htotal

end Matcher

/-- The SQL of a term is the same text around every weight of its slot. -/
theorem writtenAround_term (spec : SearchSpec) (x : Setting) (slot : Slot) :
    WrittenAround slot.source.literal fun weight =>
      (Slot.term spec x { slot with weight := weight }).fragment.sql := by
  obtain ⟨column, source, weight⟩ := slot
  cases source with
  | matcher m =>
    exact Matcher.writtenAround_score m x.dialect
      (spec.reference x.dialect column (qualify x.table column)) x.tokens
  | fullText =>
    exact writtenAround_between Number.literal
      ("(" ++ x.dialect.fullText (x.dialect.quoteIdentifier (qualify x.table column)) ++ ") * ") " * 2 * 100"

/-! ## Weights that are not huge -/

/-- The weight of a slot is finite if no configured weight is huge. -/
theorem isFinite_weight_of_mem_slots {spec : SearchSpec} {matchers : MatcherSet}
    (hspec : ∀ e ∈ spec.weightedColumns, Number.isModest e.2 = true)
    (hmatchers : ∀ m ∈ matchers, Number.isModest m.2 = true) {slot : Slot}
    (hslot : slot ∈ spec.slots matchers) : Number.isFinite slot.weight = true := by
  rcases List.mem_append.1 hslot with hslot | hslot
  · obtain ⟨e, he, hslot⟩ := List.mem_flatMap.1 hslot
    obtain ⟨m, hm, rfl⟩ := List.mem_map.1 hslot
    exact Number.isFinite_mul_of_isModest (hspec e (List.mem_append_left _ he)) (hmatchers m hm)
  · obtain ⟨e, he, rfl⟩ := List.mem_map.1 hslot
    exact Number.isFinite_of_isModest (hspec e (List.mem_append_right _ he))

namespace Searcher

variable {s : Searcher} {model : Model} {base : Query} {text : String} {tokens : Tokens}

/-- **The numbers of a search.** Of a search with tokens that succeeds SQL can read the threshold. Each
term is the same text around every weight, and SQL can read its weight exactly if that is finite. It is
for all terms if no configured weight is huge. -/
theorem literals_of_search (htokens : Tokens.parse text (s.cap model) = some tokens)
    {options : SearchOptions} {r : Query} (hr : s.searchWith model base text options = .ok r) :
    (∃ compiled, s.compile model base text options.limit options.threshold = .ok (some compiled) ∧
      r = (options.restriction compiled).finalize base s.dialect ∧
      Number.isPositional (Number.literal (options.restriction compiled).threshold) = true) ∧
    (∀ t ∈ (s.score model tokens).terms, ∃ slot ∈ model.search.slots s.matchers,
      t = Slot.term model.search (s.setting model tokens) slot ∧
      (WrittenAround t.source.literal fun weight =>
        (Slot.term model.search (s.setting model tokens) { slot with weight := weight }).fragment.sql) ∧
      Number.isPositional (t.source.literal t.weight) = Number.isFinite t.weight) ∧
    ((∀ e ∈ model.search.weightedColumns, Number.isModest e.2 = true) →
      (∀ m ∈ s.matchers, Number.isModest m.2 = true) →
      ∀ t ∈ (s.score model tokens).terms, Number.isPositional (t.source.literal t.weight) = true) := by
  obtain ⟨hlimit, hgiven, hfault, joins, hjoins, hfinite, hfinal⟩ := (searchWith_eq_ok_iff htokens).1 hr
  have hterms := terms_score s model tokens
  refine ⟨⟨_, (compile_eq_ok_iff htokens).2 ⟨hlimit, hgiven, hfault, joins, hjoins, rfl⟩, hfinal.symm, ?_⟩,
    fun t ht => ?_, fun hspec hmatchers t ht => ?_⟩
  · rw [Number.isPositional_literal]
    exact hfinite
  · rw [hterms] at ht
    obtain ⟨slot, hslot, rfl⟩ := List.mem_map.1 ht
    exact ⟨slot, (List.mem_filter.1 hslot).1, rfl, writtenAround_term _ _ slot,
      isPositional_sourceLiteral _ _⟩
  · rw [isPositional_sourceLiteral]
    rw [hterms] at ht
    obtain ⟨slot, hslot, rfl⟩ := List.mem_map.1 ht
    exact isFinite_weight_of_mem_slots hspec hmatchers (List.mem_filter.1 hslot).1

/-- The users have weights of up to a hundred, so SQL can read all numbers of their score. -/
theorem literals_of_search_users :
    (∃ r, (usersSearcher .mysql).searchWith usersModel usersQuery "Jo 'x?"
        { limit := 10, threshold := some 2.0 } = .ok r) ∧
    ∀ t ∈ ((usersSearcher .mysql).score usersModel usersTokens).terms,
      Number.isPositional (t.source.literal t.weight) = true := by
  have hr := searchWith_tenUsers .mysql usersQuery
  obtain ⟨_, _, hmodest⟩ := literals_of_search (parse_usersTokens .mysql) hr
  exact ⟨⟨_, hr⟩, hmodest (by decide +kernel) (by decide +kernel)⟩

/-- A weight that passes every check, and whose square is infinite. -/
def hugeWeight : Float := 1e200

/-- The weight is finite, so no check finds fault with it. -/
theorem isBadWeight_hugeWeight : isBadWeight hugeWeight = false := by decide +kernel

/-- Its square is no longer a number that SQL can read. -/
theorem literal_hugeWeight_mul : Number.literal (hugeWeight * hugeWeight) = "inf" := by decide +kernel

def hugeConfig : Config := { matchers := .ofList [("startofStringMatcher", hugeWeight)] }

def hugeModel : Model := { table := "users", search := { columns := .ofList [("name", hugeWeight)] } }

def hugeSearcher : Searcher := ⟨[(.startOfString, hugeWeight)], 5, .mysql⟩

theorem ofConfig_hugeConfig : ofConfig hugeConfig .mysql = .ok hugeSearcher := by
  have hentry : resolveEntry ("startofStringMatcher", hugeWeight) = .ok (.startOfString, hugeWeight) := by
    have hname : Matcher.ofName? "startofStringMatcher" = some .startOfString := by decide
    simp only [resolveEntry, hname, isBadWeight_hugeWeight]
    rfl
  have hvalid : hugeConfig.validate = .ok [(.startOfString, hugeWeight)] := by
    show MatcherSet.resolve [("startofStringMatcher", hugeWeight)] = _
    rw [MatcherSet.resolve_cons, hentry]
    rfl
  rw [ofConfig, hvalid]
  rfl

/-- Both weights pass, and the search succeeds with their product in its SQL, which is infinite. -/
theorem literal_of_huge_weights :
    ofConfig hugeConfig .mysql = .ok hugeSearcher ∧ hugeModel.search.validate = .ok () ∧
    Tokens.parse "jo" (hugeSearcher.cap hugeModel) = some joTokens ∧
    (∃ r, hugeSearcher.searchWith hugeModel (.table "users") "jo"
      { limit := 10, threshold := some 12.5 } = .ok r) ∧
    ∃ t ∈ (hugeSearcher.score hugeModel joTokens).terms,
      t.fragment.sql = "CASE WHEN LOWER(" ++ Dialect.quoteIdentifier .mysql "users.name" ++
        ") LIKE ? ESCAPE '!' THEN inf ELSE 0 END" ∧
      t.source.literal t.weight = "inf" ∧ Number.isPositional "inf" = false := by
  have htokens : Tokens.parse "jo" (hugeSearcher.cap hugeModel) = some joTokens := by decide
  have hfault : hugeModel.search.fault? = none := by decide +kernel
  have hfinite : Number.isFinite 12.5 = true := by decide
  refine ⟨ofConfig_hugeConfig, validate_eq_ok_iff.2 hfault, htokens, ⟨_, (searchWith_eq_ok_iff htokens).2
    ⟨by decide, isFinite_of_some_eq_some hfinite, hfault, [], rfl, hfinite, rfl⟩⟩, ?_⟩
  refine ⟨_, List.mem_singleton.2 rfl, ?_, literal_hugeWeight_mul, by decide⟩
  show Matcher.caseWhen (Matcher.like (Dialect.quoteIdentifier .mysql "users.name"))
    (hugeWeight * hugeWeight) = _
  rw [Matcher.caseWhen, literal_hugeWeight_mul]
  rfl

end Searcher

end RelevanceSql
