import RelevanceSql.Proofs.Tokenizing

/-!
# Blanks at the ends of a text

A search text is trimmed before it is lower-cased and cut, and none of its tokens would be another one
without that. Blanks have no case, and they are not passed over when the neighbours of a capital sigma
are looked at, so a text is lower-cased between blanks as it is alone (`lowerFrom_append_blanks`). The
scan starts no item at a blank, and at the end of a text a blank ends what the end would have ended
(`itemsFrom_append_blanks`). So the tokens of a search text are those of the text in small letters, with
whatever blanks it has at its ends (`tokensOf_normalize`).
-/

namespace RelevanceSql.Search

open RelevanceSql.Text

/-! ## Blanks and small letters -/

/-- Blanks are among the characters that no word is made of. -/
theorem isFiller_of_isBlank {c : Char} (h : isBlank c = true) : isFiller c = true := by
  rw [isFiller, h, Bool.true_or]

theorem apart_casedRanges : (casedRanges.all fun b => apartFromFiller b.1 b.2) = true := by
  decide +kernel

theorem apart_caseIgnorableRanges :
    (caseIgnorableRanges.all fun b => apartFromFiller b.1 b.2) = true := by
  decide +kernel

/-- A blank has no case, so it ends what a capital sigma looks back at. -/
theorem isCased_of_isBlank {c : Char} (h : isBlank c = true) : isCased c = false :=
  inRanges_of_isFiller apart_casedRanges (isFiller_of_isBlank h)

/-- A blank is not passed over where a capital sigma looks for its neighbours. -/
theorem isCaseIgnorable_of_isBlank {c : Char} (h : isBlank c = true) : isCaseIgnorable c = false :=
  inRanges_of_isFiller apart_caseIgnorableRanges (isFiller_of_isBlank h)

/-- What no word is made of has no small letter of its own. -/
theorem lowerSimple_of_isFiller {c : Char} (h : isFiller c = true) : lowerSimple c = c := by
  unfold lowerSimple
  split
  · next r hr =>
    -- a capital is no filler
    rw [(isFiller_of_caseRun hr).1] at h
    cases h
  · rfl

/-- A blank stays as it is, and behind it a word begins. -/
theorem lowerFrom_cons_blank {c : Char} (h : isBlank c = true) (before : Bool) (cs : List Char) :
    lowerFrom before (c :: cs) = c :: lowerFrom false cs := by
  have hsigma : c ≠ 'Σ' := by
    rintro rfl
    exact absurd h (by decide)
  have hdotted : c ≠ 'İ' := by
    rintro rfl
    exact absurd h (by decide)
  have hbefore : casedBefore before c = false := by
    rw [casedBefore, isCaseIgnorable_of_isBlank h, isCased_of_isBlank h]
    rfl
  rw [lowerFrom_cons_of_ne_sigma hsigma, lowerChar, if_neg hdotted,
    lowerSimple_of_isFiller (isFiller_of_isBlank h), hbefore]
  rfl

section Ends

variable {bs : List Char} (hbs : ∀ c ∈ bs, isBlank c = true)
include hbs

/-- Behind blanks a text is lower-cased as it is alone. -/
theorem lowerFrom_blanks_append (cs : List Char) :
    lowerFrom false (bs ++ cs) = bs ++ lowerFrom false cs := by
  induction bs with
  | nil => rfl
  | cons b bs ih =>
    rw [List.cons_append, lowerFrom_cons_blank (hbs b (by simp)), ih fun c hc => hbs c (by simp [hc])]
    rfl

/-- Blanks are lower-cased to themselves, whatever stands before them. -/
theorem lowerFrom_blanks (before : Bool) : lowerFrom before bs = bs := by
  cases bs with
  | nil => rfl
  | cons b bs =>
    have hrest : lowerFrom false (bs ++ []) = bs ++ [] :=
      lowerFrom_blanks_append (fun c hc => hbs c (List.mem_cons_of_mem b hc)) []
    rw [List.append_nil] at hrest
    rw [lowerFrom_cons_blank (hbs b (by simp)), hrest]

/-- Blanks at the end of a text are as good as its end: no letter with case follows. -/
theorem casedFollows_append_blanks (cs : List Char) : casedFollows (cs ++ bs) = casedFollows cs := by
  unfold casedFollows
  rw [List.dropWhile_append]
  cases hcs : cs.dropWhile isCaseIgnorable with
  | cons c rest => rfl
  | nil =>
    cases bs with
    | nil => rfl
    | cons b bs =>
      have hb := hbs b (by simp)
      rw [List.isEmpty_nil, if_pos rfl, List.dropWhile_cons, isCaseIgnorable_of_isBlank hb]
      exact isCased_of_isBlank hb

/-- In front of blanks a text is lower-cased as it is alone. -/
theorem lowerFrom_append_blanks (before : Bool) (cs : List Char) :
    lowerFrom before (cs ++ bs) = lowerFrom before cs ++ bs := by
  induction cs generalizing before with
  | nil => exact lowerFrom_blanks hbs before
  | cons c cs ih =>
    by_cases hc : c = 'Σ'
    · rw [hc, List.cons_append, lowerFrom_cons_sigma, lowerFrom_cons_sigma,
        casedFollows_append_blanks hbs, ih, List.cons_append]
    · rw [List.cons_append, lowerFrom_cons_of_ne_sigma hc, lowerFrom_cons_of_ne_sigma hc, ih,
        List.append_assoc]

/-! ## Blanks and items -/

/-- Blanks in front of a text start no item. -/
theorem itemsFrom_blanks_append (cs : List Char) :
    itemsFrom .idle (bs ++ cs) = itemsFrom .idle cs := by
  induction bs with
  | nil => rfl
  | cons b bs ih =>
    rw [List.cons_append, itemsFrom_idle_blank (hbs b (by simp)), ih fun c hc => hbs c (by simp [hc])]

theorem itemsFrom_blanks : itemsFrom .idle bs = [] := by
  rw [← List.append_nil bs, itemsFrom_blanks_append hbs, itemsFrom_idle_nil]

/-- Blanks close no phrase. -/
theorem contains_quoteMark_append_blanks (cs : List Char) :
    (cs ++ bs).contains quoteMark = cs.contains quoteMark := by
  have hnot : bs.contains quoteMark = false := by
    rw [Bool.eq_false_iff]
    intro hmem
    have hblank := hbs quoteMark (List.contains_iff_mem.1 hmem)
    exact absurd hblank (by decide)
  rw [List.contains_append, hnot, Bool.or_false]

/-- Blanks behind a text add nothing to its items, unless a phrase is open that the text does not close. -/
theorem itemsFrom_append_blanks {state : ScanState} {cs : List Char}
    (hclosed : ∀ body, state = .inPhrase body → quoteMark ∈ cs) :
    itemsFrom state (cs ++ bs) = itemsFrom state cs := by
  -- on the text, for every state, as each character may open or close an item
  induction cs generalizing state with
  | nil =>
    cases state with
    | idle => exact itemsFrom_blanks hbs
    | inPhrase body => exact absurd (hclosed body rfl) (by simp)
    | inRun body =>
      cases bs with
      | nil => rfl
      | cons b bs =>
        -- the first blank ends the run, as the end of the text does
        show itemsFrom (.inRun body) (b :: bs) = [.run body]
        rw [itemsFrom, if_pos (hbs b (by simp)), itemsFrom_blanks fun c hc => hbs c (by simp [hc])]
  | cons c cs ih =>
    cases state with
    | idle =>
      rw [List.cons_append, itemsFrom, itemsFrom, contains_quoteMark_append_blanks hbs]
      split
      · exact ih (by simp)
      · split
        · next hq =>
          rw [Bool.and_eq_true, List.contains_iff_mem] at hq
          exact ih fun _ _ => hq.2
        · exact ih (by simp)
    | inPhrase body =>
      rw [List.cons_append, itemsFrom, itemsFrom]
      split
      · rw [ih (by simp)]
      · next hc =>
        apply ih
        intro _ _
        rcases List.mem_cons.1 (hclosed body rfl) with hq | hq
        · exact absurd (beq_iff_eq.2 hq.symm) hc
        · exact hq
    | inRun body =>
      rw [List.cons_append, itemsFrom, itemsFrom]
      split
      · rw [ih (by simp)]
      · exact ih (by simp)

theorem filter_isAlphanumeric_blanks : bs.filter isAlphanumeric = [] := by
  rw [List.filter_eq_nil_iff]
  intro c hc
  rw [isAlphanumeric_of_isFiller (isFiller_of_isBlank (hbs c hc))]
  exact Bool.false_ne_true

end Ends

/-- Blanks at the ends of a text have no part in its tokens. -/
theorem tokensOf_between_blanks {as bs : List Char} (has : ∀ c ∈ as, isBlank c = true)
    (hbs : ∀ c ∈ bs, isBlank c = true) (cs : List Char) : tokensOf (as ++ cs ++ bs) = tokensOf cs := by
  -- a text of one number is told by the characters of words in it, and blanks are none
  have hmarks : (as ++ cs ++ bs).filter isAlphanumeric = cs.filter isAlphanumeric := by
    rw [List.filter_append, List.filter_append, filter_isAlphanumeric_blanks has,
      filter_isAlphanumeric_blanks hbs, List.nil_append, List.append_nil]
  have hnumber : soleNumber? (as ++ cs ++ bs) = soleNumber? cs := by
    simp only [soleNumber?, hmarks]
  have hitems : items (as ++ cs ++ bs) = items cs := by
    rw [items, itemsFrom_append_blanks hbs (by simp), itemsFrom_blanks_append has]
    rfl
  rw [tokensOf, tokensOf, hnumber, hitems]

/-! ## Trimming -/

/-- Without its front, a text is the stripped text with characters of the kind behind it. -/
theorem exists_dropWhile_eq_strip_append (p : Char → Bool) (cs : List Char) :
    ∃ bs, (∀ c ∈ bs, p c = true) ∧ cs.dropWhile p = strip p cs ++ bs := by
  refine ⟨((cs.dropWhile p).reverse.takeWhile p).reverse,
    fun c hc => List.mem_takeWhile_imp (List.mem_reverse.1 hc), ?_⟩
  rw [strip, ← List.reverse_append, List.takeWhile_append_dropWhile, List.reverse_reverse]

/-- What a text is stripped of stands at its ends. -/
theorem exists_eq_append_strip (p : Char → Bool) (cs : List Char) :
    ∃ as bs, (∀ c ∈ as, p c = true) ∧ (∀ c ∈ bs, p c = true) ∧ cs = as ++ strip p cs ++ bs := by
  obtain ⟨bs, hbs, hrest⟩ := exists_dropWhile_eq_strip_append p cs
  refine ⟨cs.takeWhile p, bs, fun c hc => List.mem_takeWhile_imp hc, hbs, ?_⟩
  rw [List.append_assoc, ← hrest, List.takeWhile_append_dropWhile]

theorem mem_of_mem_strip {p : Char → Bool} {cs : List Char} {c : Char} (h : c ∈ strip p cs) : c ∈ cs := by
  obtain ⟨as, bs, _, _, hcs⟩ := exists_eq_append_strip p cs
  rw [hcs]
  simp [h]

/-- A stripped text begins with none of what it was stripped of. -/
theorem head?_strip {p : Char → Bool} {cs : List Char} {c : Char} (h : (strip p cs).head? = some c) :
    p c = false := by
  obtain ⟨bs, _, hrest⟩ := exists_dropWhile_eq_strip_append p cs
  have hhead := List.head?_dropWhile_not p cs
  rw [hrest, List.head?_append, h] at hhead
  exact hhead

/-- A stripped text ends with none of what it was stripped of. -/
theorem getLast?_strip {p : Char → Bool} {cs : List Char} {c : Char}
    (h : (strip p cs).getLast? = some c) : p c = false := by
  rw [strip, List.getLast?_reverse] at h
  have hhead := List.head?_dropWhile_not p (cs.dropWhile p).reverse
  rw [h] at hhead
  exact hhead

/-- Nothing is stripped off a text that has none of it. -/
theorem strip_eq_self {p : Char → Bool} {cs : List Char} (h : ∀ c ∈ cs, p c = false) :
    strip p cs = cs := by
  have hnone : ∀ ds : List Char, (∀ c ∈ ds, p c = false) → ds.dropWhile p = ds := by
    intro ds hds
    cases ds with
    | nil => rfl
    | cons d ds => rw [List.dropWhile_cons, hds d (by simp), if_neg Bool.false_ne_true]
  rw [strip, hnone cs h, hnone cs.reverse fun c hc => h c (List.mem_reverse.1 hc), List.reverse_reverse]

/-- The tokens of a search text are those of the text in small letters: trimming changes none. -/
theorem tokensOf_normalize (cs : List Char) : tokensOf (normalize cs) = tokensOf (lower cs) := by
  obtain ⟨as, bs, has, hbs, hcs⟩ := exists_eq_append_strip isBlank cs
  have hlower : lower cs = as ++ normalize cs ++ bs := by
    calc lower cs = lowerFrom false (as ++ strip isBlank cs ++ bs) := by rw [← hcs]; rfl
      _ = as ++ normalize cs ++ bs := by
        rw [lowerFrom_append_blanks hbs, lowerFrom_blanks_append has]
        rfl
  rw [hlower, tokensOf_between_blanks has hbs]

/-! ## Words of a search text -/

/-- The tokens of a search text under a cap, none if there is none. -/
def wordsOf (text : String) (cap : Nat) : List String :=
  match Tokens.parse text cap with
  | none => []
  | some tokens => tokens.words

/-- The tokens of a search text are the first ones of the text in small letters, as many as the cap allows.
-/
theorem wordsOf_eq (text : String) (cap : Nat) :
    wordsOf text cap = ((tokensOf (lower text.toList)).take cap).map String.ofList := by
  rw [← tokensOf_normalize, wordsOf, Tokens.parse]
  split
  · next h =>
    split at h
    · next hnil => exact hnil.symm
    · cases h
  · next tokens h =>
    split at h
    · cases h
    · cases h
      rfl

/-- A search text without tokens is one of which nothing is parsed. -/
theorem parse_eq_none_iff_wordsOf {text : String} {cap : Nat} :
    Tokens.parse text cap = none ↔ wordsOf text cap = [] := by
  unfold wordsOf
  split
  · next h => simp [h]
  · next tokens h => simp [h, tokens.words_ne_nil]

end RelevanceSql.Search
