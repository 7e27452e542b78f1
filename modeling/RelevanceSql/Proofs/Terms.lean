import Mathlib.Data.List.SplitBy
import RelevanceSql.Proofs.Templates
import RelevanceSql.Search.Score

/-!
# Scores and the values they bind

A fragment is balanced if its SQL binds exactly its values. Sums of balanced fragments are balanced,
and so is what every matcher and every full-text column adds to a score: it has the same texts around
every column (`balancedAround_score`), so that it is balanced for every column that binds nothing
(`balanced_fullTextTerm` for the full-text columns). Hence the relevance expression of a score is
balanced (`balanced_toFragment`).

A sum leaves out the fragments without SQL together with their values. No term of a score is such a
fragment (`sql_ne_empty_of_mem_build`), so the relevance expression binds the values of all terms, in
the order of the terms (`params_toFragment`).
-/

namespace RelevanceSql

open RelevanceSql.Sql RelevanceSql.Search

/-! ## Sums of fragments -/

/-- A fragment whose SQL binds exactly its values. -/
def Sql.Fragment.Balanced (f : Fragment) : Prop := Binds f.sql f.params.length

/-- The score of nothing is written without a placeholder. -/
theorem balanced_zero : Fragment.zero.Balanced := by
  show Binds "0" 0
  decide

/-- A balanced fragment without SQL has no values. -/
theorem Sql.Fragment.Balanced.params_length_of_empty {f : Fragment} (h : f.Balanced) (hs : f.sql = "") :
    f.params.length = 0 := by
  rw [← h.count_eq, hs]
  rfl

/-- A sum binds the values of both sides: the text between them holds no placeholder. -/
theorem Sql.Fragment.Balanced.plus {f g : Fragment} (hf : f.Balanced) (hg : g.Balanced) :
    (f.plus g).Balanced := by
  show Binds (addSql f.sql g.sql) (f.params ++ g.params).length
  rw [List.length_append]
  unfold addSql
  -- a side without SQL is not written, and being balanced it has no values either
  split
  · next he =>
    rw [hf.params_length_of_empty he, Nat.zero_add]
    exact hg
  · split
    · next he =>
      rw [hg.params_length_of_empty he]
      exact hf
    · have hplus : Binds " + " 0 := by decide
      exact (hf.append hplus).append hg

theorem Sql.Fragment.Balanced.foldl_plus {fs : List Fragment} {f : Fragment} (hf : f.Balanced)
    (h : ∀ g ∈ fs, g.Balanced) : (fs.foldl Fragment.plus f).Balanced := by
  induction fs generalizing f with
  | nil => exact hf
  | cons g fs ih => exact ih (hf.plus (h g (by simp))) fun x hx => h x (by simp [hx])

/-- A total of balanced fragments is balanced, whichever of them are left out. -/
theorem balanced_total {fs : List Fragment} (h : ∀ f ∈ fs, f.Balanced) : (Fragment.total fs).Balanced := by
  have hkept : ∀ f ∈ fs.filter fun f => !f.isEmpty, f.Balanced := fun f hf => h f (List.mem_filter.1 hf).1
  unfold Fragment.total Fragment.sum
  cases hf : fs.filter fun f => !f.isEmpty with
  | nil => exact balanced_zero
  | cons f rest =>
    rw [hf] at hkept
    exact (hkept f (by simp)).foldl_plus fun g hg => hkept g (by simp [hg])

theorem Sql.Fragment.Balanced.parenthesized {f : Fragment} (h : f.Balanced) : f.parenthesized.Balanced := by
  unfold Fragment.parenthesized
  split
  · exact h
  · exact h.between (by decide) (by decide)

/-! ## Fragments with SQL -/

theorem append_ne_empty_left {s : String} (h : s ≠ "") (t : String) : s ++ t ≠ "" := fun e =>
  h (String.append_eq_empty_iff.1 e).1

theorem sql_plus_ne_empty {f : Fragment} (h : f.sql ≠ "") (g : Fragment) : (f.plus g).sql ≠ "" := by
  show addSql f.sql g.sql ≠ ""
  rw [addSql, if_neg h]
  split
  · exact h
  · exact append_ne_empty_left (append_ne_empty_left h _) _

theorem sql_foldl_plus_ne_empty {f : Fragment} (h : f.sql ≠ "") (fs : List Fragment) :
    (fs.foldl Fragment.plus f).sql ≠ "" := by
  induction fs generalizing f with
  | nil => exact h
  | cons g fs ih => exact ih (sql_plus_ne_empty h g)

/-- A total always has SQL: what is left out has none, and of nothing it is zero. -/
theorem sql_total_ne_empty (fs : List Fragment) : (Fragment.total fs).sql ≠ "" := by
  unfold Fragment.total Fragment.sum
  cases hf : fs.filter fun f => !f.isEmpty with
  | nil => decide
  | cons f rest =>
    have hmem : f ∈ fs.filter fun f => !f.isEmpty := by rw [hf]; simp
    refine sql_foldl_plus_ne_empty ?_ rest
    simpa [Fragment.isEmpty] using (List.mem_filter.1 hmem).2

/-- A sum of many has the values of all of them in order, with those of the first in front. -/
theorem params_foldl_plus (fs : List Fragment) (f : Fragment) :
    (fs.foldl Fragment.plus f).params = f.params ++ fs.flatMap (·.params) := by
  induction fs generalizing f with
  | nil => simp
  | cons g fs ih => rw [List.foldl_cons, ih, Fragment.params_plus, List.flatMap_cons, List.append_assoc]

/-- Of fragments that all have SQL the total leaves none out. -/
theorem total_of_sql_ne_empty {fs : List Fragment} (h : ∀ f ∈ fs, f.sql ≠ "") :
    Fragment.total fs =
      match fs with
      | [] => .zero
      | f :: rest => rest.foldl Fragment.plus f := by
  -- nothing is left out, so the sum is over the list as it is
  have hkept : fs.filter (fun f => !f.isEmpty) = fs := by
    rw [List.filter_eq_self]
    intro f hf
    simpa [Fragment.isEmpty] using h f hf
  unfold Fragment.total Fragment.sum
  rw [hkept]
  cases fs <;> rfl

/-- The total of fragments that all have SQL keeps all values in order. -/
theorem params_total {fs : List Fragment} (h : ∀ f ∈ fs, f.sql ≠ "") :
    (Fragment.total fs).params = fs.flatMap (·.params) := by
  rw [total_of_sql_ne_empty h]
  cases fs with
  | nil => rfl
  | cons f rest => exact params_foldl_plus rest f

section Totals

variable {α : Type} {P : (α → Fragment) → Prop}
  (hplus : ∀ {f g : α → Fragment}, P f → P g → (∀ a, (f a).sql ≠ "") → (∀ a, (g a).sql ≠ "") →
    P fun a => (f a).plus (g a))
include hplus

/-- What a sum of two fragments with SQL keeps, a sum of many keeps: a partial sum has SQL again. -/
theorem foldl_plus_induction {fs : List (α → Fragment)} {f : α → Fragment} (hf : P f)
    (hfsql : ∀ a, (f a).sql ≠ "") (h : ∀ g ∈ fs, P g ∧ ∀ a, (g a).sql ≠ "") :
    P fun a => (fs.map fun g => g a).foldl Fragment.plus (f a) := by
  induction fs generalizing f with
  | nil => exact hf
  | cons g fs ih =>
    obtain ⟨hg, hgsql⟩ := h g (by simp)
    exact ih (hplus hf hg hfsql hgsql) (fun a => sql_plus_ne_empty (hfsql a) _) fun x hx => h x (by simp [hx])

/-- What holds of zero, and of two fragments with SQL also of their sum, holds of totals. The fragments may
depend on something, a column or a number. -/
theorem total_induction (hzero : P fun _ => .zero) {fs : List (α → Fragment)}
    (h : ∀ f ∈ fs, P f ∧ ∀ a, (f a).sql ≠ "") : P fun a => Fragment.total (fs.map fun f => f a) := by
  cases fs with
  | nil => exact hzero
  | cons f rest =>
    -- the total of a list with a first element is a fold from it, for all columns alike
    have htotal : ∀ a, Fragment.total ((f :: rest).map fun f => f a) =
        (rest.map fun g => g a).foldl Fragment.plus (f a) := by
      intro a
      have hsql : ∀ fragment ∈ (f :: rest).map fun f => f a, fragment.sql ≠ "" := by
        intro fragment hfragment
        obtain ⟨g, hg, rfl⟩ := List.mem_map.1 hfragment
        exact (h g hg).2 a
      rw [total_of_sql_ne_empty hsql]
      rfl
    obtain ⟨hf, hfsql⟩ := h f (by simp)
    simp only [htotal]
    exact foldl_plus_induction hplus hf hfsql fun g hg => h g (by simp [hg])

end Totals

theorem params_parenthesized (f : Fragment) : f.parenthesized.params = f.params := by
  unfold Fragment.parenthesized
  split <;> rfl

theorem sql_parenthesized_ne_empty {f : Fragment} (h : f.sql ≠ "") : f.parenthesized.sql ≠ "" := by
  rw [Fragment.parenthesized, if_neg h]
  exact append_ne_empty_left (append_ne_empty_left (by decide) _) _

/-! ## Fragments around a column -/

/-- A fragment that has the same values and the same texts around every column, with as many
placeholders in the texts as there are values. -/
def BalancedAround (f : String → Fragment) : Prop :=
  ∃ params, (∀ column, (f column).params = params) ∧ Template params.length fun column => (f column).sql

/-- Around a column that binds nothing such a fragment is balanced. -/
theorem BalancedAround.balanced {f : String → Fragment} (h : BalancedAround f) {column : String}
    (hcolumn : Binds column 0) : (f column).Balanced := by
  obtain ⟨params, hparams, htemplate⟩ := h
  show Binds (f column).sql (f column).params.length
  rw [hparams]
  exact htemplate.binds hcolumn

theorem balancedAround_of_balanced {f : Fragment} (h : f.Balanced) : BalancedAround fun _ => f :=
  ⟨f.params, fun _ => rfl, template_text h⟩

/-- The sum of two such fragments with SQL is one again: both texts are written, around any column. -/
theorem BalancedAround.plus {f g : String → Fragment} (hf : BalancedAround f) (hg : BalancedAround g)
    (hfsql : ∀ column, (f column).sql ≠ "") (hgsql : ∀ column, (g column).sql ≠ "") :
    BalancedAround fun column => (f column).plus (g column) := by
  obtain ⟨fparams, hfparams, hf⟩ := hf
  obtain ⟨gparams, hgparams, hg⟩ := hg
  have hplus : Template 0 fun _ => " + " := template_text (by decide)
  -- both sides have SQL around every column, so neither is ever left out of the sum
  have hsql : (fun column => ((f column).plus (g column)).sql) =
      fun column => (f column).sql ++ " + " ++ (g column).sql := by
    funext column
    show addSql (f column).sql (g column).sql = _
    rw [addSql, if_neg (hfsql column), if_neg (hgsql column)]
  refine ⟨fparams ++ gparams, fun column => ?_, ?_⟩
  · rw [Fragment.params_plus, hfparams, hgparams]
  · rw [hsql, List.length_append]
    exact (hf.append hplus).append hg

/-- A sum of fragments with SQL is such a fragment, as its summands are. -/
theorem balancedAround_total {fs : List (String → Fragment)}
    (h : ∀ f ∈ fs, BalancedAround f ∧ ∀ column, (f column).sql ≠ "") :
    BalancedAround fun column => Fragment.total (fs.map fun f => f column) :=
  total_induction (fun hf hg => hf.plus hg) (balancedAround_of_balanced balanced_zero) h

/-! ## What one matcher adds -/

namespace Matcher

theorem template_lowered : Template 0 lowered := by
  have hopen : Template 0 fun _ => "LOWER(" := template_text (by decide)
  have hclose : Template 0 fun _ => ")" := template_text (by decide)
  exact (hopen.append template_column).append hclose

theorem template_like : Template 1 like := by
  have hlike : Template 1 fun _ => " LIKE ? ESCAPE '!'" := template_text (by decide)
  exact template_lowered.append hlike

theorem template_length (d : Dialect) {expr : String → String} {n : Nat} (h : Template n expr) :
    Template n fun column => d.length (expr column) := by
  have hopen : Template 0 fun _ => d.lengthFunction ++ "(" := template_text (by cases d <;> decide)
  have hclose : Template 0 fun _ => ")" := template_text (by decide)
  have hall := (hopen.append h).append hclose
  rwa [Nat.zero_add] at hall

/-- The length without spaces has the column once and no placeholder. -/
theorem template_spacelessLength (d : Dialect) : Template 0 (spacelessLength d) := by
  have hopen : Template 0 fun _ => "REPLACE(" := template_text (by decide)
  -- two literals, both of which are closed again
  have hclose : Template 0 fun _ => ", ' ', '')" := template_text (by decide)
  exact template_length d ((hopen.append template_column).append hclose)

theorem template_soundsLike (d : Dialect) : Template 1 d.soundsLike := by
  have hopen : Template 0 fun _ => "SOUNDEX(" := template_text (by decide)
  have hcompare : Template 1 fun _ => ") = SOUNDEX(?)" := template_text (by decide)
  have hsounds : Template 1 fun _ => " SOUNDS LIKE ?" := template_text (by decide)
  -- two dialects compare two codes, the others have an operator for it
  cases d with
  | pgsql | sqlsrv => exact (hopen.append template_column).append hcompare
  | mysql | sqlite | generic => exact template_column.append hsounds

/-- A condition on one value makes a fragment with one value. -/
theorem balancedAround_conditional {condition : String → String} (h : Template 1 condition)
    (weight : Float) (text : List Char) :
    BalancedAround fun column => conditional (condition column) weight text := by
  have hcase : Template 0 fun _ => "CASE WHEN " := template_text (by decide)
  have hthen : Template 0 fun _ => " THEN " := template_text (by decide)
  have hweight : Template 0 fun _ => Number.literal weight := template_text (isPlain_literal weight).binds
  have helse : Template 0 fun _ => " ELSE 0 END" := template_text (by decide)
  exact ⟨_, fun _ => rfl, (((hcase.append h).append hthen).append hweight).append helse⟩

/-- A graded score has its placeholder in the condition, and none in the share. -/
theorem template_subsequenceScore (d : Dialect) (weight : Float) (length : Nat) :
    Template 1 fun column => subsequenceScore d column weight length := by
  have hlength := template_spacelessLength d
  have hcase : Template 0 fun _ => "CASE WHEN " := template_text (by decide)
  have hand : Template 0 fun _ => " AND " := template_text (by decide)
  have hround : Template 0 fun _ => " > 0 THEN ROUND(" := template_text (by decide)
  have hweight : Template 0 fun _ => Number.decimalLiteral weight :=
    template_text (isPlain_decimalLiteral weight).binds
  have htimes : Template 0 fun _ => " * " := template_text (by decide)
  have hcovered : Template 0 fun _ => toString length := template_text (isPlain_toString length).binds
  have hby : Template 0 fun _ => " / " := template_text (by decide)
  have helse : Template 0 fun _ => ", 0) ELSE 0 END" := template_text (by decide)
  have hguard := (((hcase.append template_like).append hand).append hlength).append hround
  have hshare := ((hguard.append hweight).append htimes).append hcovered
  exact ((hshare.append hby).append hlength).append helse

/-- A counting score has its placeholder where the token is taken out of the column. -/
theorem template_occurrenceScore (d : Dialect) (weight : Float) (length : Nat) :
    Template 1 fun column => occurrenceScore d column weight length := by
  have hround : Template 0 fun _ => "COALESCE(ROUND(" := template_text (by decide)
  have hweight : Template 0 fun _ => Number.literal weight := template_text (isPlain_literal weight).binds
  have htimes : Template 0 fun _ => " * (" := template_text (by decide)
  have hminus : Template 0 fun _ => " - " := template_text (by decide)
  have hopen : Template 0 fun _ => "REPLACE(" := template_text (by decide)
  have hvalue : Template 1 fun _ => ", ?, '')" := template_text (by decide)
  have hby : Template 0 fun _ => ") / " := template_text (by decide)
  have htoken : Template 0 fun _ => toString length := template_text (isPlain_toString length).binds
  have hclose : Template 0 fun _ => ", 0), 0)" := template_text (by decide)
  have hwithout := template_length d ((hopen.append template_lowered).append hvalue)
  have hweighted := (hround.append hweight).append htimes
  have hdifference := ((hweighted.append (template_length d template_lowered)).append hminus).append hwithout
  exact ((hdifference.append hby).append htoken).append hclose

/-- What a matcher adds for one text binds its values, whatever the text holds. -/
theorem balancedAround_scoreText (m : Matcher) (d : Dialect) (weight : Float) (text : String) :
    BalancedAround fun column => m.scoreText d column weight text := by
  have hzero : BalancedAround fun _ => Fragment.zero := balancedAround_of_balanced balanced_zero
  have hequals : Template 1 fun _ => " = ?" := template_text (by decide)
  cases m with
  | exactFull => exact balancedAround_conditional (template_lowered.append hequals) _ _
  | exactInString | startOfString | startOfWords => exact balancedAround_conditional template_like _ _
  | similarString => exact balancedAround_conditional (template_soundsLike d) _ _
  | acronym =>
    simp only [scoreText]
    split
    · exact balancedAround_conditional template_like _ _
    · exact hzero
  | consecutiveCharacters =>
    simp only [scoreText]
    split
    · exact ⟨_, fun _ => rfl, template_subsequenceScore d _ _⟩
    · exact hzero
  | timesInString =>
    simp only [scoreText]
    split
    · exact hzero
    · exact ⟨_, fun _ => rfl, template_occurrenceScore d _ _⟩

theorem sql_conditional_ne_empty (condition : String) (weight : Float) (text : List Char) :
    (conditional condition weight text).sql ≠ "" := by
  show caseWhen condition weight ≠ ""
  unfold caseWhen
  repeat apply append_ne_empty_left
  decide

theorem subsequenceScore_ne_empty (d : Dialect) (column : String) (weight : Float) (length : Nat) :
    subsequenceScore d column weight length ≠ "" := by
  unfold subsequenceScore
  repeat apply append_ne_empty_left
  decide

theorem occurrenceScore_ne_empty (d : Dialect) (column : String) (weight : Float) (length : Nat) :
    occurrenceScore d column weight length ≠ "" := by
  unfold occurrenceScore
  repeat apply append_ne_empty_left
  decide

/-- Every matcher writes something for every text, if only the zero of one that does not apply. -/
theorem sql_scoreText_ne_empty (m : Matcher) (d : Dialect) (column : String) (weight : Float)
    (text : String) : (m.scoreText d column weight text).sql ≠ "" := by
  cases m with
  | exactFull | exactInString | startOfString | startOfWords | similarString =>
    exact sql_conditional_ne_empty _ _ _
  | acronym =>
    simp only [scoreText]
    split
    · exact sql_conditional_ne_empty _ _ _
    · decide
  | consecutiveCharacters =>
    simp only [scoreText]
    split
    · exact subsequenceScore_ne_empty _ _ _ _
    · decide
  | timesInString =>
    simp only [scoreText]
    split
    · decide
    · exact occurrenceScore_ne_empty _ _ _ _

/-- No matcher adds a fragment without SQL, so that no sum leaves its values out. -/
theorem sql_score_ne_empty (m : Matcher) (d : Dialect) (column : String) (weight : Float)
    (tokens : Tokens) : (m.score d column weight tokens).sql ≠ "" := by
  unfold score
  split
  · exact sql_scoreText_ne_empty _ _ _ _ _
  · exact sql_total_ne_empty _

/-- What a matcher adds has the same texts around every column. -/
theorem balancedAround_score (m : Matcher) (d : Dialect) (weight : Float) (tokens : Tokens) :
    BalancedAround fun column => m.score d column weight tokens := by
  unfold score
  split
  · exact balancedAround_scoreText m d _ _
  · -- one summand for each token, each of which is balanced by itself
    let summands := tokens.words.map fun word column => m.scoreText d column weight word
    have hsummands : ∀ f ∈ summands, BalancedAround f ∧ ∀ column, (f column).sql ≠ "" := by
      intro f hf
      obtain ⟨word, _, rfl⟩ := List.mem_map.1 hf
      exact ⟨balancedAround_scoreText m d _ _, fun column => sql_scoreText_ne_empty m d column _ _⟩
    have htotal := balancedAround_total hsummands
    simpa only [summands, List.map_map, Function.comp_def] using htotal

end Matcher

/-! ## Columns and functions of a specification -/

/-- A function is named by ASCII letters, digits and underscores only. -/
theorem isNamePart_of_isIdentifier {s : String} (h : isIdentifier s = true) :
    ∀ c ∈ s.toList, isNamePart c = true := by
  unfold isIdentifier at h
  intro c hc
  cases hs : s.toList with
  | nil =>
    rw [hs] at hc
    cases hc
  | cons a cs =>
    rw [hs] at h hc
    simp only [Bool.and_eq_true, List.all_eq_true] at h
    rcases List.mem_cons.1 hc with rfl | hc
    · simp [isNamePart, h.1]
    · exact h.2 c hc

/-- No function of a specification brings a placeholder or a quote into the SQL. -/
theorem isPlain_of_isIdentifier {s : String} (h : isIdentifier s = true) : IsPlain s := by
  apply isPlain_of_forall
  intro c hc
  have hc := isNamePart_of_isIdentifier h c hc
  -- neither of the two marks that matter is part of a name
  constructor
  · rintro rfl
    exact absurd hc (by decide)
  · rintro rfl
    exact absurd hc (by decide)

namespace SearchSpec

/-- The functions of a specification without a fault are identifiers. -/
theorem isIdentifier_of_fault? {spec : SearchSpec} (h : spec.fault? = none) {entry : String × String}
    (he : entry ∈ spec.mutations.entries) : isIdentifier entry.2 = true := by
  simp only [fault?, Option.or_eq_none_iff, List.findSome?_eq_none_iff] at h
  have hentry := h.2.1 entry he
  unfold mutationFault? at hentry
  -- an entry that is no identifier would have been the fault
  by_contra hnot
  rw [if_neg hnot] at hentry
  cases hentry

theorem mem_entries_of_get? {α : Type} {m : OrderedMap α} {key : String} {value : α}
    (h : m.get? key = some value) : ∃ entry ∈ m.entries, entry.2 = value := by
  unfold OrderedMap.get? at h
  obtain ⟨entry, hfind, hvalue⟩ := Option.map_eq_some_iff.1 h
  exact ⟨entry, List.mem_of_find?_eq_some hfind, hvalue⟩

/-- Under whichever of the two names a function is found, it is one of the specification. -/
theorem isIdentifier_of_mutation? {spec : SearchSpec} (h : spec.fault? = none)
    {name qualified function : String} (hm : spec.mutation? name qualified = some function) :
    isIdentifier function = true := by
  have hget : spec.mutations.get? name = some function ∨ spec.mutations.get? qualified = some function := by
    rw [mutation?, Option.or_eq_some_iff] at hm
    exact hm.imp_right And.right
  rcases hget with hget | hget
  all_goals
    obtain ⟨entry, he, rfl⟩ := mem_entries_of_get? hget
    exact isIdentifier_of_fault? h he

/-- A column binds nothing, inside its function or without one, if its name binds nothing. -/
theorem binds_reference {spec : SearchSpec} (h : spec.fault? = none) (d : Dialect) (name : String)
    {qualified : String} (hq : Binds qualified 0) : Binds (spec.reference d name qualified) 0 := by
  have hquoted : Binds (d.quoteIdentifier qualified) 0 := binds_quoteIdentifier_iff.2 hq
  unfold reference
  split
  · next hm =>
    have hfunction := isPlain_of_isIdentifier (isIdentifier_of_mutation? h hm)
    exact hquoted.between (hfunction.append (by decide)) (by decide)
  · exact hquoted

end SearchSpec

/-! ## The terms of a score -/

/-- Every dialect has one placeholder in its full-text condition, for the search text. -/
theorem template_fullText (d : Dialect) : Template 1 d.fullText := by
  have hrank : Template 0 fun _ => "ts_rank(to_tsvector(" := template_text (by decide)
  have hquery : Template 1 fun _ => "), plainto_tsquery(?))" := template_text (by decide)
  have hcase : Template 0 fun _ => "CASE WHEN FREETEXT(" := template_text (by decide)
  have hthen : Template 1 fun _ => ", ?) THEN 1 ELSE 0 END" := template_text (by decide)
  have hmatch : Template 0 fun _ => "MATCH(" := template_text (by decide)
  have hagainst : Template 1 fun _ => ") AGAINST (?)" := template_text (by decide)
  cases d with
  | pgsql => exact (hrank.append template_column).append hquery
  | sqlsrv => exact (hcase.append template_column).append hthen
  | mysql | sqlite | generic => exact (hmatch.append template_column).append hagainst

/-- A full-text column binds its one value if its name binds nothing. -/
theorem balanced_fullTextTerm {table : String} (d : Dialect) (tokens : Tokens) {entry : String × Float}
    (h : Binds (qualify table entry.1) 0) : (fullTextTerm table d tokens entry).fragment.Balanced := by
  have hopen : Binds "(" 0 := by decide
  have htimes : Binds ") * " 0 := by decide
  have hscale : Binds " * 2 * 100" 0 := by decide
  have hquoted : Binds (d.quoteIdentifier (qualify table entry.1)) 0 := binds_quoteIdentifier_iff.2 h
  have hsearch := hopen.append ((template_fullText d).binds hquoted)
  exact ((hsearch.append htimes).append (isPlain_literal entry.2).binds).append hscale

/-- A term of a score comes from a matcher and a searched column, or from a full-text column. -/
theorem mem_terms_build {spec : SearchSpec} {table : String} {tokens : Tokens} {matchers : MatcherSet}
    {d : Dialect} {t : ScoreTerm} (h : t ∈ (Score.build spec table tokens matchers d).terms) :
    (∃ entry ∈ spec.columns.entries, ∃ (m : Matcher) (weight : Float), t.fragment =
        m.score d (spec.reference d entry.1 (qualify table entry.1)) weight tokens) ∨
      ∃ entry ∈ spec.fulltextColumns.entries, t = fullTextTerm table d tokens entry := by
  rcases List.mem_append.1 h with h | h
  · -- a searched column, with one term for each matcher that takes part
    obtain ⟨entry, he, ht⟩ := List.mem_flatMap.1 h
    obtain ⟨⟨m, weight⟩, _, rfl⟩ := List.mem_map.1 ht
    exact Or.inl ⟨entry, he, m, entry.2 * weight, rfl⟩
  · -- a full-text column, if the database can search it
    split at h
    · obtain ⟨entry, he, rfl⟩ := List.mem_map.1 h
      exact Or.inr ⟨entry, he, rfl⟩
    · cases h

/-- Over names that bind nothing, every term of a score binds its values. -/
theorem balanced_of_mem_build_of_binds {spec : SearchSpec} {table : String} {tokens : Tokens}
    {matchers : MatcherSet} {d : Dialect} (hfault : spec.fault? = none)
    (hnames : ∀ entry ∈ spec.weightedColumns, Binds (qualify table entry.1) 0) {t : ScoreTerm}
    (h : t ∈ (Score.build spec table tokens matchers d).terms) : t.fragment.Balanced := by
  rcases mem_terms_build h with ⟨entry, he, m, weight, ht⟩ | ⟨entry, he, rfl⟩
  · have hname := hnames entry (List.mem_append_left _ he)
    rw [ht]
    exact (m.balancedAround_score d weight tokens).balanced
      (SearchSpec.binds_reference hfault d entry.1 hname)
  · exact balanced_fullTextTerm d tokens (hnames entry (List.mem_append_right _ he))

/-- Over plain names, every term of a score binds its values. -/
theorem balanced_of_mem_build {spec : SearchSpec} {table : String} {tokens : Tokens}
    {matchers : MatcherSet} {d : Dialect} (hfault : spec.fault? = none) (htable : IsPlain table)
    (hcolumns : ∀ entry ∈ spec.weightedColumns, IsPlain entry.1) {t : ScoreTerm}
    (h : t ∈ (Score.build spec table tokens matchers d).terms) : t.fragment.Balanced :=
  balanced_of_mem_build_of_binds hfault
    (fun entry he => (isPlain_qualify htable (hcolumns entry he)).binds) h

theorem sql_fullTextTerm_ne_empty (table : String) (d : Dialect) (tokens : Tokens)
    (entry : String × Float) : (fullTextTerm table d tokens entry).fragment.sql ≠ "" := by
  unfold fullTextTerm
  repeat apply append_ne_empty_left
  decide

theorem sql_ne_empty_of_mem_build {spec : SearchSpec} {table : String} {tokens : Tokens}
    {matchers : MatcherSet} {d : Dialect} {t : ScoreTerm}
    (h : t ∈ (Score.build spec table tokens matchers d).terms) : t.fragment.sql ≠ "" := by
  rcases mem_terms_build h with ⟨entry, _, m, weight, ht⟩ | ⟨entry, _, rfl⟩
  · rw [ht]
    exact m.sql_score_ne_empty d _ _ _
  · exact sql_fullTextTerm_ne_empty _ _ _ _

/-! ## The relevance expression -/

namespace Score

theorem balanced_chunkFragment {chunk : List ScoreTerm} (h : ∀ t ∈ chunk, t.fragment.Balanced) :
    (chunkFragment chunk).Balanced := by
  have htotal : (Fragment.total (chunk.map (·.fragment))).Balanced := by
    apply balanced_total
    intro f hf
    obtain ⟨t, ht, rfl⟩ := List.mem_map.1 hf
    exact h t ht
  simp only [chunkFragment]
  split
  · exact htotal.parenthesized
  · exact htotal

theorem mem_terms_of_mem_chunk {s : Score} {chunk : List ScoreTerm}
    (hchunk : chunk ∈ s.terms.splitBy together) {t : ScoreTerm} (ht : t ∈ chunk) : t ∈ s.terms := by
  rw [← List.flatten_splitBy together s.terms]
  exact List.mem_flatten.2 ⟨chunk, hchunk, ht⟩

theorem balanced_toFragment {s : Score} (h : ∀ t ∈ s.terms, t.fragment.Balanced) :
    s.toFragment.Balanced := by
  apply balanced_total
  intro f hf
  obtain ⟨chunk, hchunk, rfl⟩ := List.mem_map.1 hf
  exact balanced_chunkFragment fun t ht => h t (mem_terms_of_mem_chunk hchunk ht)

theorem balanced_selectExpression {s : Score} (h : ∀ t ∈ s.terms, t.fragment.Balanced) (d : Dialect) :
    (s.selectExpression d).Balanced := by
  have hopen : IsPlain "(" := by decide
  have has : IsPlain ") AS " := by decide
  have hname : IsPlain relevanceName := by decide
  have hsum := Binds.between (balanced_toFragment h) hopen has
  exact hsum.append (isPlain_quoteIdentifier hname d).binds

theorem params_chunkFragment {chunk : List ScoreTerm} (h : ∀ t ∈ chunk, t.fragment.sql ≠ "") :
    (chunkFragment chunk).params = chunk.flatMap fun t => t.fragment.params := by
  have htotal : (Fragment.total (chunk.map (·.fragment))).params =
      chunk.flatMap fun t => t.fragment.params := by
    rw [params_total, List.flatMap_map]
    intro f hf
    obtain ⟨t, ht, rfl⟩ := List.mem_map.1 hf
    exact h t ht
  simp only [chunkFragment]
  split
  · rw [params_parenthesized, htotal]
  · exact htotal

theorem sql_chunkFragment_ne_empty (chunk : List ScoreTerm) : (chunkFragment chunk).sql ≠ "" := by
  simp only [chunkFragment]
  split
  · exact sql_parenthesized_ne_empty (sql_total_ne_empty _)
  · exact sql_total_ne_empty _

/-- The relevance expression loses no value and keeps the order of the terms. -/
theorem params_toFragment {s : Score} (h : ∀ t ∈ s.terms, t.fragment.sql ≠ "") :
    s.toFragment.params = s.params := by
  have hchunks : ∀ chunk ∈ s.terms.splitBy together,
      (chunkFragment chunk).params = chunk.flatMap fun t => t.fragment.params := fun chunk hchunk =>
    params_chunkFragment fun t ht => h t (mem_terms_of_mem_chunk hchunk ht)
  have hsql : ∀ f ∈ (s.terms.splitBy together).map chunkFragment, f.sql ≠ "" := by
    intro f hf
    obtain ⟨chunk, _, rfl⟩ := List.mem_map.1 hf
    exact sql_chunkFragment_ne_empty chunk
  calc s.toFragment.params
      = (s.terms.splitBy together).flatMap fun chunk => (chunkFragment chunk).params := by
        rw [toFragment, params_total hsql, List.flatMap_map]
    _ = (s.terms.splitBy together).flatMap fun chunk => chunk.flatMap fun t => t.fragment.params := by
        rw [List.flatMap_def, List.flatMap_def, List.map_congr_left hchunks]
    _ = (s.terms.splitBy together).flatten.flatMap fun t => t.fragment.params := by
        rw [← List.flatMap_id', List.flatMap_assoc]
    _ = s.params := by rw [List.flatten_splitBy]; rfl

end Score

end RelevanceSql
