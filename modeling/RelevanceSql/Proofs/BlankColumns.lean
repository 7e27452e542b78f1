import RelevanceSql.Proofs.MatchStrength
import RelevanceSql.Proofs.Occurrences

/-!
# Columns without content

A token begins with a visible character, and so does the phrase of a search. Whatever fits a pattern that is
made of one of them has a visible character too, so that no pattern fits a blank column, and none fits every
text.

No expression of a matcher divides by zero. The matcher that counts occurrences divides by the length of the
token, which is a positive literal, and the one for consecutive characters by the length of the column without
spaces, behind the condition that this is greater than zero. The other matchers do not divide.
-/

namespace RelevanceSql.Matcher

open RelevanceSql.Text RelevanceSql.Sql RelevanceSql.Search

/-! ## Patterns that fit no blank text -/

/-- Whether a pattern fits no blank text, the empty one included, in databases with and without classes. -/
def RejectsBlank (pattern : String) : Prop :=
  ∀ (classes : Bool) (value : String), isBlankText value = true → ¬Like classes value pattern

theorem isBlankText_eq_false {value : String} {c : Char} (hc : c ∈ value.toList)
    (hvisible : isBlank c = false) : isBlankText value = false := by
  rw [isBlankText, List.all_eq_false]
  exact ⟨c, hc, by simp [hvisible]⟩

/-- A pattern fits no blank text if what fits it has a visible character. -/
theorem rejectsBlank_of_visible {pattern : String}
    (h : ∀ (classes : Bool) (value : String), Like classes value pattern →
      ∃ c ∈ value.toList, isBlank c = false) : RejectsBlank pattern := by
  intro classes value hblank hlike
  obtain ⟨c, hc, hvisible⟩ := h classes value hlike
  rw [isBlankText_eq_false hc hvisible] at hblank
  cases hblank

/-- A pattern that fits no blank text does not fit every text, so it is not a percent sign alone. -/
theorem RejectsBlank.ne_percent {pattern : String} (h : RejectsBlank pattern) :
    (∀ classes, ∃ value, ¬Like classes value pattern) ∧ pattern ≠ "%" := by
  refine ⟨fun classes => ⟨"", h classes "" rfl⟩, ?_⟩
  rintro rfl
  exact h false "" rfl (by decide)

section Patterns

variable {token : List Char}

theorem rejectsBlank_subsequencePattern (h : IsToken token) {pattern : List Char}
    (hpattern : subsequencePattern? token = some pattern) : RejectsBlank (String.ofList pattern) := by
  refine rejectsBlank_of_visible fun classes value hlike => ?_
  obtain ⟨c, hc, hvisible⟩ := h.exists_head
  have hmem : c ∈ visible token := List.mem_filter.2 ⟨List.mem_of_mem_head? hc, by rw [hvisible]; rfl⟩
  exact ⟨c, ((like_subsequencePattern hpattern).1 hlike).subset hmem, hvisible⟩

/-- What fits the words of a token fits its characters. -/
theorem rejectsBlank_wordsPattern (h : IsToken token) :
    RejectsBlank (String.ofList (wordsPattern token)) := by
  obtain ⟨pattern, hpattern⟩ := exists_subsequencePattern h
  exact fun classes value hblank hlike => rejectsBlank_subsequencePattern h hpattern classes value hblank
    (like_subsequence_of_like_words h hlike hpattern)

theorem rejectsBlank_startPattern (h : IsToken token) : RejectsBlank (String.ofList (startPattern token)) :=
  fun classes value hblank hlike => rejectsBlank_wordsPattern h classes value hblank
    (like_words_of_like_start h hlike)

theorem rejectsBlank_containsPattern (h : ∃ c ∈ token, isBlank c = false) :
    RejectsBlank (String.ofList (containsPattern token)) := by
  refine rejectsBlank_of_visible fun classes value hlike => ?_
  obtain ⟨c, hc, hvisible⟩ := h
  exact ⟨c, (like_containsPattern.1 hlike).subset hc, hvisible⟩

theorem isBlank_of_isAlphanumeric {c : Char} (h : isAlphanumeric c = true) : isBlank c = false := by
  rw [Bool.eq_false_iff]
  intro hblank
  rw [isAlphanumeric_of_isFiller (isFiller_of_isBlank hblank)] at h
  cases h

/-- What fits an acronym begins with a letter or digit. -/
theorem rejectsBlank_acronymPattern {pattern : List Char} (h : acronymPattern? token = some pattern) :
    RejectsBlank (String.ofList pattern) := by
  cases hfilter : token.filter isAlphanumeric with
  | nil =>
    rw [acronymPattern?, hfilter] at h
    cases h
  | cons c letters =>
    rw [acronymPattern?_eq hfilter] at h
    cases h
    refine rejectsBlank_of_visible fun classes value hlike => ?_
    obtain ⟨rest, hvalue, -⟩ := like_wordPattern.1 hlike
    have hc : c ∈ token.filter isAlphanumeric := by simp [hfilter]
    exact ⟨c, by simp [hvalue], isBlank_of_isAlphanumeric (List.mem_filter.1 hc).2⟩

end Patterns

/-! ## Patterns and divisors of expressions -/

section Summands

variable {d : Dialect} {c : ColumnRef} {weight : Float}

/-- What a token or a phrase is compared by fits no blank text. -/
theorem rejectsBlank_of_mem_patterns {text : String} {m : Matcher}
    (htoken : m.usesWholePhrase = false → IsToken text.toList)
    (hvisible : ∃ c ∈ text.toList, isBlank c = false) :
    ∀ p ∈ (m.expression d c weight text).patterns, ∃ pattern, p = .bound pattern ∧ RejectsBlank pattern := by
  have hone : ∀ {pattern : List Char}, RejectsBlank (String.ofList pattern) →
      ∀ p ∈ [Expr.bound (String.ofList pattern)], ∃ pattern, p = .bound pattern ∧ RejectsBlank pattern := by
    intro pattern hpattern p hp
    exact ⟨_, List.mem_singleton.1 hp, hpattern⟩
  have hnone : ∀ p ∈ ([] : List Expr), ∃ pattern, p = .bound pattern ∧ RejectsBlank pattern := by simp
  cases m with
  | exactFull => exact hnone
  | exactInString => exact hone (rejectsBlank_containsPattern hvisible)
  | startOfString => exact hone (rejectsBlank_startPattern (htoken rfl))
  | startOfWords => exact hone (rejectsBlank_wordsPattern (htoken rfl))
  | similarString =>
    cases d <;> exact hnone
  | acronym =>
    simp only [expression]
    split
    · next hpattern => exact hone (rejectsBlank_acronymPattern hpattern)
    · exact hnone
  | consecutiveCharacters =>
    simp only [expression]
    split
    · next hpattern => exact hone (rejectsBlank_subsequencePattern (htoken rfl) hpattern)
    · exact hnone
  | timesInString =>
    simp only [expression]
    split <;> exact hnone

/-- Where a matcher divides, it divides by a positive literal or behind a guard. -/
theorem Form.guarded {text : String} {e : Expr} (h : Form d c weight text e) : e.Guarded [] := by
  cases h with
  | nothing => trivial
  | equal => simp [conditionalExpr, loweredExpr, Expr.Guarded]
  | fits => simp [conditionalExpr, likeExpr, loweredExpr, Expr.Guarded]
  | soundsLike => cases d <;> simp [conditionalExpr, soundsLikeExpr, Expr.Guarded]
  | subsequence =>
    -- the condition makes the divisor known to be positive
    simp [subsequenceExpr, shareExpr, likeExpr, loweredExpr, spacelessExpr, Expr.Guarded, Expr.positives]
  | occurrences hne =>
    have hlength : ∃ n, text.toList.length = n + 1 := Nat.exists_eq_succ_of_ne_zero (by simpa using hne)
    simpa [occurrenceExpr, shareExpr, lossExpr, loweredExpr, Expr.Guarded] using hlength

theorem guarded_foldl_plus {known : List Expr} {es : List Expr} {e : Expr} (he : e.Guarded known)
    (h : ∀ x ∈ es, x.Guarded known) : (es.foldl (.arith .plus) e).Guarded known := by
  induction es generalizing e with
  | nil => exact he
  | cons x es ih => exact ih ⟨he, h x (by simp)⟩ fun y hy => h y (by simp [hy])

theorem guarded_total_summands (m : Matcher) (d : Dialect) (c : ColumnRef) (weight : Float)
    (tokens : Tokens) : (Expr.total (m.summands d c weight tokens)).Guarded [] := by
  have hsummands : ∀ e ∈ m.summands d c weight tokens, e.Guarded [] := by
    intro e he
    obtain ⟨text, _, rfl⟩ := List.mem_map.1 he
    exact (form_expression m d c weight text).guarded
  cases hes : m.summands d c weight tokens with
  | nil => trivial
  | cons e es =>
    rw [hes] at hsummands
    exact guarded_foldl_plus (hsummands e (by simp)) fun x hx => hsummands x (by simp [hx])

/-- A blank text is worth nothing to a matcher for a token or a phrase, unless it compares by sound. -/
theorem points_of_blank {m : Matcher} (hm : m ≠ .similarString) {text : String}
    (htoken : m.usesWholePhrase = false → IsToken text.toList)
    (hvisible : ∃ c ∈ text.toList, isBlank c = false) {db : Database} (hround : db.round 0 = 0)
    {value : String} (hblank : isBlankText (db.lower value) = true) :
    m.points db d weight text value = 0 := by
  have hlike : ∀ {pattern : List Char}, RejectsBlank (String.ofList pattern) →
      ¬Like db.classes (db.lower value) (String.ofList pattern) := fun hpattern => hpattern _ _ hblank
  cases m with
  | exactFull =>
    simp only [points]
    refine if_neg ?_
    rintro rfl
    obtain ⟨e, he, hvisible⟩ := hvisible
    rw [isBlankText_eq_false he hvisible] at hblank
    cases hblank
  | exactInString =>
    simp only [points]
    exact if_neg (hlike (rejectsBlank_containsPattern hvisible))
  | startOfString =>
    simp only [points]
    exact if_neg (hlike (rejectsBlank_startPattern (htoken rfl)))
  | startOfWords =>
    simp only [points]
    exact if_neg (hlike (rejectsBlank_wordsPattern (htoken rfl)))
  | similarString => exact absurd rfl hm
  | acronym =>
    simp only [points]
    split
    · next hpattern => exact if_neg (hlike (rejectsBlank_acronymPattern hpattern))
    · rfl
  | consecutiveCharacters =>
    simp only [points]
    split
    · next hpattern =>
      exact if_neg fun hfound => hlike (rejectsBlank_subsequencePattern (htoken rfl) hpattern) hfound.1
    · rfl
  | timesInString =>
    -- a text without visible characters loses nothing without a token
    have hnot : ¬text.toList <:+: (db.lower value).toList := by
      intro hoccurs
      obtain ⟨e, he, hvisible⟩ := hvisible
      rw [isBlankText_eq_false (hoccurs.subset he) hvisible] at hblank
      cases hblank
    simp only [points, removeAll_eq_self hnot, sub_self, mul_zero, zero_div, hround, ite_self]

/-- Only the two matchers that share their weight out divide. -/
theorem divisors_expression {m : Matcher} (htimes : m ≠ .timesInString)
    (hconsecutive : m ≠ .consecutiveCharacters) {text : String} :
    (m.expression d c weight text).divisors = [] := by
  cases m with
  | exactFull | exactInString | startOfString | startOfWords => rfl
  | similarString => cases d <;> rfl
  | acronym =>
    simp only [expression]
    split <;> rfl
  | consecutiveCharacters => exact absurd rfl hconsecutive
  | timesInString => exact absurd rfl htimes

end Summands

/-- What a matcher looks at is a token or the phrase. -/
theorem form_of_mem_texts {text : String} {cap : Nat} {tokens : Tokens}
    (h : Tokens.parse text cap = some tokens) {m : Matcher} {t : String} (ht : t ∈ m.texts tokens) :
    (m.usesWholePhrase = false → IsToken t.toList) ∧ ∃ c ∈ t.toList, isBlank c = false := by
  unfold texts at ht
  split at ht
  · next hwhole =>
    rw [List.mem_singleton.1 ht]
    exact ⟨fun hsingle => absurd (hwhole.symm.trans hsingle) (by decide), exists_visible_phrase h⟩
  · have htoken := isToken_of_parse h t ht
    obtain ⟨c, hc, hvisible⟩ := htoken.exists_head
    exact ⟨fun _ => htoken, c, List.mem_of_mem_head? hc, hvisible⟩

/-- **Blank columns and divisors.** For the tokens of a search, what a matcher adds for a column is the text
of a sum of expressions. All that these compare the column with by `LIKE` are bound patterns, none of which
fits a blank text, the empty one included, or fits every text; and the phrase that whole columns are compared
with is not blank. The matcher that counts occurrences divides by the number of characters of the token that
it binds, which is positive, and that for consecutive characters only behind a condition that the divisor is
greater than zero; the others do not divide. So nothing is divided by zero, whatever the database and the row,
and a blank column is worth nothing, unless it is compared by sound. -/
theorem blank_columns {text : String} {cap : Nat} {tokens : Tokens} (h : Tokens.parse text cap = some tokens)
    (m : Matcher) (d : Dialect) (c : ColumnRef) (weight : Float) :
    m.score d c.sql weight tokens = (Expr.total (m.summands d c weight tokens)).fragment ∧
    (Expr.total (m.summands d c weight tokens)).WellBracketed ∧
    (∀ e ∈ m.summands d c weight tokens, ∀ p ∈ e.patterns, ∃ pattern, p = .bound pattern ∧ pattern ≠ "%" ∧
      ∀ classes : Bool, (∀ value, isBlankText value = true → ¬Like classes value pattern) ∧
        ∃ value, ¬Like classes value pattern) ∧
    (m = .exactFull → m.summands d c weight tokens =
        [conditionalExpr (.compare .equal (loweredExpr c) (.bound tokens.phrase)) weight] ∧
      isBlankText tokens.phrase = false) ∧
    (m = .timesInString → ∀ e ∈ m.summands d c weight tokens, ∃ token ∈ tokens.words,
      e.values = [.text token] ∧ e.divisors = [.count token.toList.length] ∧ 0 < token.toList.length) ∧
    (m = .consecutiveCharacters → ∀ e ∈ m.summands d c weight tokens, ∃ condition share,
      e = .caseWhen condition share (.count 0) ∧ condition.divisors = [] ∧
        ∀ divisor ∈ e.divisors, divisor ∈ condition.positives) ∧
    (m ≠ .timesInString → m ≠ .consecutiveCharacters → ∀ e ∈ m.summands d c weight tokens, e.divisors = []) ∧
    ∀ (db : Database) (row : Row),
      (Expr.total (m.summands d c weight tokens)).eval db row ≠ .error .divisionByZero ∧
      ∀ value, db.textOf row c = some value → isBlankText (db.lower value) = true → db.round 0 = 0 →
        m ≠ .similarString →
          (Expr.total (m.summands d c weight tokens)).eval db row = .ok (.number 0) := by
  refine ⟨(fragment_score m d c weight tokens).symm, Expr.wellBracketed_total isSummand_of_mem_summands,
    fun e he p hp => ?_, ?_, ?_, ?_, ?_, fun db row => ⟨?_, ?_⟩⟩
  · obtain ⟨t, ht, rfl⟩ := List.mem_map.1 he
    obtain ⟨htoken, hvisible⟩ := form_of_mem_texts h ht
    obtain ⟨pattern, rfl, hrejects⟩ := rejectsBlank_of_mem_patterns htoken hvisible p hp
    obtain ⟨hnever, hne⟩ := hrejects.ne_percent
    exact ⟨pattern, rfl, hne, fun classes => ⟨hrejects classes, hnever classes⟩⟩
  · rintro rfl
    obtain ⟨e, he, hvisible⟩ := exists_visible_phrase h
    exact ⟨rfl, isBlankText_eq_false he hvisible⟩
  · rintro rfl e he
    obtain ⟨token, htoken, rfl⟩ := List.mem_map.1 he
    have hne : token.toList ≠ [] := (isToken_of_parse h token htoken).ne_nil
    refine ⟨token, htoken, ?_, ?_, List.length_pos_iff.2 hne⟩
    · simp only [expression, if_neg hne]
      rfl
    · simp only [expression, if_neg hne]
      rfl
  · rintro rfl e he
    obtain ⟨token, htoken, rfl⟩ := List.mem_map.1 he
    obtain ⟨pattern, hpattern⟩ := exists_subsequencePattern (isToken_of_parse h token htoken)
    simp only [expression, hpattern]
    refine ⟨_, _, rfl, rfl, fun divisor hdivisor => ?_⟩
    -- there is one division, and its divisor is what the condition compares with zero
    exact hdivisor
  · intro htimes hconsecutive e he
    obtain ⟨t, _, rfl⟩ := List.mem_map.1 he
    exact divisors_expression htimes hconsecutive
  · exact Expr.eval_ne_divisionByZero (guarded_total_summands m d c weight tokens) fun k hk => by cases hk
  · intro value hvalue hblank hround hm
    have hzero : ∀ e ∈ m.summands d c weight tokens, e.eval db row = .ok (.number 0) := by
      intro e he
      obtain ⟨t, ht, rfl⟩ := List.mem_map.1 he
      obtain ⟨htoken, hvisible⟩ := form_of_mem_texts h ht
      rw [eval_expression m d hvalue, points_of_blank hm htoken hvisible hround hblank]
    rw [Expr.eval_total hzero]
    simp [List.sum_replicate]

/-- Tokens of marks that mean something in a pattern: with them a blank column is not found, and it is worth
nothing for their occurrences, of which there is one divisor for each token. -/
theorem blank_columns_marks :
    ∃ tokens, Tokens.parse "\"a  %\" _" 5 = some tokens ∧ tokens.words = ["a %", "_"] ∧
      isBlankText " " = true ∧ ¬Like true " " "!_%" ∧
      (expression .timesInString .sqlsrv ⟨"c", none⟩ 1.0 "_").divisors = [.count 1] ∧
      Database.plain.textOf (fun _ => some " ") ⟨"c", none⟩ = some " " ∧ Database.plain.round 0 = 0 ∧
      Matcher.timesInString ≠ .similarString ∧
      (Expr.total (summands .timesInString .sqlsrv ⟨"c", none⟩ 1.0 tokens)).eval .plain (fun _ => some " ") =
        .ok (.number 0) := by
  have hparse : Tokens.parse "\"a  %\" _" 5 = some ⟨["a %", "_"], by decide⟩ := by decide
  have hblank : isBlankText " " = true := by decide
  have hm : Matcher.timesInString ≠ .similarString := by decide
  obtain ⟨-, -, hpatterns, -⟩ := blank_columns hparse .startOfString .sqlsrv ⟨"c", none⟩ 1.0
  obtain ⟨-, -, -, -, hdivisors, -, -, hvalues⟩ := blank_columns hparse .timesInString .sqlsrv ⟨"c", none⟩ 1.0
  have hstart : expression .startOfString .sqlsrv ⟨"c", none⟩ 1.0 "_" ∈
      summands .startOfString .sqlsrv ⟨"c", none⟩ 1.0 ⟨["a %", "_"], by decide⟩ :=
    List.mem_map.2 ⟨"_", by decide, rfl⟩
  have htimes : expression .timesInString .sqlsrv ⟨"c", none⟩ 1.0 "_" ∈
      summands .timesInString .sqlsrv ⟨"c", none⟩ 1.0 ⟨["a %", "_"], by decide⟩ :=
    List.mem_map.2 ⟨"_", by decide, rfl⟩
  obtain ⟨pattern, hbound, -, hrejects⟩ := hpatterns _ hstart (.bound "!_%") (List.mem_singleton.2 rfl)
  cases hbound
  obtain ⟨token, -, hvalue, hdivisor, -⟩ := hdivisors rfl _ htimes
  have htoken : [Param.text "_"] = [.text token] := hvalue
  cases htoken
  exact ⟨_, hparse, rfl, hblank, (hrejects true).1 " " hblank, hdivisor, rfl, rfl, hm,
    (hvalues .plain fun _ => some " ").2 " " rfl hblank rfl hm⟩

end RelevanceSql.Matcher
