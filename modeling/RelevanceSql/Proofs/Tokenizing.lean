import Mathlib.Data.List.TakeWhile
import RelevanceSql.Search.Tokens

/-!
# Texts without tokens

Blanks and quotation marks are filler: they separate tokens and enclose phrases, but no token is made
of them. A text has no token exactly if it is filler throughout (`tokensOf_eq_nil_iff`). For a text in
small letters this is read off the scan, where a phrase counts for nothing as long as it is blank and
a run as long as it is made of quotation marks. Trimming takes blanks away only, and lower-casing
neither makes filler of another character nor makes anything else of filler. The tables of letters
are looked through for that, once.
-/

namespace RelevanceSql.Search

open RelevanceSql.Text

/-- The characters that no token is made of. -/
def isFiller (c : Char) : Bool := isBlank c || c == quoteMark

/-- Whether a text holds nothing but blanks and quotation marks. -/
def isFillerText (text : String) : Bool := text.toList.all isFiller

/-! ## Tables -/

/-- The blocks of code points that are filler. -/
def fillerRanges : List (Nat × Nat) := (quoteMark.toNat, quoteMark.toNat) :: blankRanges

/-- Whether the code points from one to another lie apart from all filler. -/
def apartFromFiller (first last : Nat) : Bool :=
  fillerRanges.all fun b => decide (b.2 < first) || decide (last < b.1)

/-- A filler lies in one of the blocks of filler. -/
theorem exists_of_isFiller {c : Char} (h : isFiller c = true) :
    ∃ b ∈ fillerRanges, b.1 ≤ c.toNat ∧ c.toNat ≤ b.2 := by
  rcases Bool.or_eq_true_iff.1 h with h | h
  · obtain ⟨b, hb, hn⟩ := exists_of_inRanges h
    exact ⟨b, List.mem_cons_of_mem _ hb, hn⟩
  · rw [beq_iff_eq.1 h]
    exact ⟨_, List.mem_cons_self, Nat.le_refl _, Nat.le_refl _⟩

/-- What lies in a range apart from all filler is none. -/
theorem isFiller_of_apart {first last : Nat} (h : apartFromFiller first last = true) {c : Char}
    (hfirst : first ≤ c.toNat) (hlast : c.toNat ≤ last) : isFiller c = false := by
  rw [Bool.eq_false_iff]
  intro hfiller
  obtain ⟨b, hb, hn⟩ := exists_of_isFiller hfiller
  have hapart := List.all_eq_true.1 h b hb
  simp only [Bool.or_eq_true, decide_eq_true_eq] at hapart
  omega

/-- No filler lies in blocks apart from filler. -/
theorem inRanges_of_isFiller {blocks : List (Nat × Nat)}
    (hapart : (blocks.all fun b => apartFromFiller b.1 b.2) = true) {c : Char} (h : isFiller c = true) :
    inRanges blocks c.toNat = false := by
  rw [Bool.eq_false_iff]
  intro hin
  obtain ⟨b, hb, hfirst, hlast⟩ := exists_of_inRanges hin
  rw [isFiller_of_apart (List.all_eq_true.1 hapart b hb) hfirst hlast] at h
  cases h

theorem apart_alphanumericRanges : (alphanumericRanges.all fun b => apartFromFiller b.1 b.2) = true := by
  decide +kernel

/-- Filler has no letters and no digits. -/
theorem isAlphanumeric_of_isFiller {c : Char} (h : isFiller c = true) : isAlphanumeric c = false :=
  inRanges_of_isFiller apart_alphanumericRanges h

/-- The capitals of each run, and their small letters. -/
theorem apart_caseRuns : (caseRuns.all fun r => apartFromFiller r.first r.last &&
    apartFromFiller r.small (r.small + (r.last - r.first))) = true := by
  decide +kernel

theorem isFiller_ofNat_zero : isFiller (Char.ofNat 0) = false := by decide

/-- A number that is no code point stands for the first character. -/
theorem toNat_ofNat (n : Nat) : (Char.ofNat n).toNat = n ∨ Char.ofNat n = Char.ofNat 0 := by
  by_cases h : n.isValidChar
  · left
    rw [Char.ofNat, dif_pos h]
    rfl
  · right
    rw [Char.ofNat, dif_neg h]
    rfl

/-- A run that is found for a character is in the table and has the character in its range. -/
theorem mem_caseRun_of_find? {c : Char} {r : CaseRun}
    (hr : (caseRuns.find? fun r => r.covers c.toNat) = some r) :
    r ∈ caseRuns ∧ r.first ≤ c.toNat ∧ c.toNat ≤ r.last := by
  have hcovers := List.find?_some hr
  simp only [CaseRun.covers, Bool.and_eq_true, decide_eq_true_eq] at hcovers
  exact ⟨List.mem_of_find?_eq_some hr, hcovers.1⟩

/-- A capital is no filler, and neither is its small letter. -/
theorem isFiller_of_caseRun {c : Char} {r : CaseRun}
    (hr : (caseRuns.find? fun r => r.covers c.toNat) = some r) :
    isFiller c = false ∧ isFiller (Char.ofNat (r.small + (c.toNat - r.first))) = false := by
  obtain ⟨hmem, hfirst, hlast⟩ := mem_caseRun_of_find? hr
  obtain ⟨hcapitals, hsmall⟩ := Bool.and_eq_true_iff.1 (List.all_eq_true.1 apart_caseRuns r hmem)
  refine ⟨isFiller_of_apart hcapitals hfirst hlast, ?_⟩
  rcases toNat_ofNat (r.small + (c.toNat - r.first)) with hn | hn
  · exact isFiller_of_apart hsmall (by omega) (by omega)
  · rw [hn]
    exact isFiller_ofNat_zero

/-- Neither becomes filler what is none, nor the other way. -/
theorem isFiller_lowerSimple (c : Char) : isFiller (lowerSimple c) = isFiller c := by
  unfold lowerSimple
  split
  · next r hr =>
    obtain ⟨hcapital, hsmall⟩ := isFiller_of_caseRun hr
    rw [hcapital, hsmall]
  · rfl

/-! ## Trimming and lower-casing -/

theorem all_dropWhile {p q : Char → Bool} (h : ∀ c, p c = true → q c = true) (cs : List Char) :
    (cs.dropWhile p).all q = cs.all q := by
  induction cs with
  | nil => rfl
  | cons c cs ih =>
    rw [List.dropWhile_cons]
    split
    · next hc => rw [ih, List.all_cons, h c hc, Bool.true_and]
    · rfl

/-- What is cut off the ends of a text does not matter if it is all of one kind. -/
theorem all_strip {p q : Char → Bool} (h : ∀ c, p c = true → q c = true) (cs : List Char) :
    (strip p cs).all q = cs.all q := by
  rw [strip, List.all_reverse, all_dropWhile h, List.all_reverse, all_dropWhile h]

/-- The small letters of a character are filler if it is. -/
theorem all_isFiller_lowerChar (c : Char) : (lowerChar c).all isFiller = isFiller c := by
  unfold lowerChar
  split
  · next hc =>
    rw [hc]
    decide
  · rw [List.all_cons, List.all_nil, Bool.and_true, isFiller_lowerSimple]

/-- Lower-casing a text leaves it filler throughout, or not, as it was. -/
theorem all_isFiller_lowerFrom (before : Bool) (cs : List Char) :
    (lowerFrom before cs).all isFiller = cs.all isFiller := by
  induction cs generalizing before with
  | nil => rfl
  | cons c cs ih =>
    by_cases hc : c = 'Σ'
    · -- neither the capital sigma nor one of its two small letters is filler
      subst hc
      rw [lowerFrom_cons_sigma, List.all_cons, List.all_cons]
      split <;> simp [show isFiller 'ς' = false by decide, show isFiller 'σ' = false by decide,
        show isFiller 'Σ' = false by decide]
    · rw [lowerFrom_cons_of_ne_sigma hc, List.all_append, all_isFiller_lowerChar, ih, List.all_cons]

/-- And so does trimming it as well. -/
theorem all_isFiller_normalize (cs : List Char) : (normalize cs).all isFiller = cs.all isFiller := by
  have hblank : ∀ c, isBlank c = true → isFiller c = true := by
    intro c hc
    rw [isFiller, hc, Bool.true_or]
  rw [normalize, lower, all_isFiller_lowerFrom, all_strip hblank]

/-! ## Items -/

/-- Nothing is left of a text exactly if all of it is stripped off. -/
theorem strip_eq_nil_iff {p : Char → Bool} {cs : List Char} : strip p cs = [] ↔ cs.all p = true := by
  constructor
  · intro h
    rw [← all_strip fun _ hc => hc, h, List.all_nil]
  · intro h
    rw [strip, List.dropWhile_eq_nil_iff.2 (List.all_eq_true.1 h)]
    rfl

theorem mem_of_mem_fields {p : Char → Bool} {cs f : List Char} (hf : f ∈ fields p cs) {c : Char}
    (hc : c ∈ f) : c ∈ cs := by
  have hflat : c ∈ (fields p cs).flatten := List.mem_flatten.2 ⟨f, hf, hc⟩
  rw [flatten_fields] at hflat
  exact (List.mem_filter.1 hflat).1

/-- A text has no words exactly if it is made of separators. -/
theorem words_eq_nil_iff {p : Char → Bool} {cs : List Char} : words p cs = [] ↔ cs.all p = true := by
  rw [words, List.filter_eq_nil_iff]
  constructor
  · intro h
    -- if all fields are empty, then separators are all there is
    have hflat : (fields p cs).flatten = [] := by
      rw [List.flatten_eq_nil_iff]
      intro f hf
      simpa using h f hf
    rw [flatten_fields, List.filter_eq_nil_iff] at hflat
    rw [List.all_eq_true]
    intro c hc
    simpa using hflat c hc
  · intro h f hf
    cases f with
    | nil => simp
    | cons c f =>
      have hnot := not_sep_of_mem_fields hf c (by simp)
      rw [List.all_eq_true.1 h c (mem_of_mem_fields hf (by simp))] at hnot
      cases hnot

/-- Words are not empty, and so neither is what they are put together to. -/
theorem intercalate_words_eq_nil_iff {p : Char → Bool} {cs : List Char} :
    [' '].intercalate (words p cs) = [] ↔ cs.all p = true := by
  rw [← words_eq_nil_iff]
  constructor
  · intro h
    cases hw : words p cs with
    | nil => rfl
    | cons w ws =>
      have hne : w ≠ [] := (mem_words.1 (hw ▸ List.mem_cons_self : w ∈ words p cs)).2
      rw [hw] at h
      cases ws with
      | nil => exact absurd (by simpa using h) hne
      | cons w' ws =>
        rw [List.intercalate_cons_cons] at h
        simp at h
  · intro h
    rw [h]
    rfl

/-- What is left of an item in a given state, as long as it holds filler of its own kind only. -/
def ScanState.isFiller : ScanState → Bool
  | .idle => true
  | .inPhrase body => body.all isBlank
  | .inRun body => body.all (· == quoteMark)

/-- From a state on, no item makes a token exactly if there is filler alone, read already or to come. -/
theorem token_itemsFrom_eq_nil_iff (state : ScanState) (cs : List Char) :
    (∀ item ∈ itemsFrom state cs, item.token = []) ↔
      state.isFiller = true ∧ cs.all Search.isFiller = true := by
  have hphrase : ∀ body, (Item.phrase body).token = [] ↔ body.all isBlank = true :=
    fun body => intercalate_words_eq_nil_iff
  have hrun : ∀ body, (Item.run body).token = [] ↔ body.all (· == quoteMark) = true :=
    fun body => strip_eq_nil_iff
  -- on the text, for every state, one case for each state and each kind of character
  induction cs generalizing state with
  | nil => cases state <;> simp [itemsFrom, ScanState.isFiller, hphrase, hrun]
  | cons c cs ih =>
    cases state with
    | idle =>
      rw [itemsFrom]
      split
      · next hc => simp [ih, ScanState.isFiller, Search.isFiller, hc]
      · next hc =>
        split
        · next hq =>
          rw [Bool.and_eq_true] at hq
          simp [ih, ScanState.isFiller, Search.isFiller, hq.1]
        · simp [ih, ScanState.isFiller, Search.isFiller, hc]
    | inPhrase body =>
      rw [itemsFrom]
      split
      · next hc => simp [ih, hphrase, ScanState.isFiller, Search.isFiller, hc]
      · next hc => simp [ih, ScanState.isFiller, Search.isFiller, hc, and_assoc]
    | inRun body =>
      rw [itemsFrom]
      split
      · next hc => simp [ih, hrun, ScanState.isFiller, Search.isFiller, hc]
      · next hc => simp [ih, ScanState.isFiller, Search.isFiller, hc, and_assoc]

/-! ## Tokens -/

/-- A text that is a number has a letter or digit. -/
theorem ne_nil_of_soleNumber? {cs digits : List Char} (h : soleNumber? cs = some digits) :
    ∃ c ∈ cs, isAlphanumeric c = true := by
  unfold soleNumber? at h
  simp only at h
  split at h
  · next hmarks =>
    rw [Bool.and_eq_true, Bool.not_eq_true', List.isEmpty_eq_false_iff_exists_mem] at hmarks
    obtain ⟨⟨c, hc⟩, _⟩ := hmarks
    exact ⟨c, List.mem_filter.1 hc⟩
  · cases h

/-- A text in small letters has no tokens exactly if it is filler throughout. -/
theorem tokensOf_eq_nil_iff {cs : List Char} : tokensOf cs = [] ↔ cs.all isFiller = true := by
  unfold tokensOf
  split
  · next digits hdigits =>
    -- a number has a digit, which is no filler
    obtain ⟨c, hc, halpha⟩ := ne_nil_of_soleNumber? hdigits
    refine ⟨fun h => absurd h (by simp), fun h => ?_⟩
    rw [isAlphanumeric_of_isFiller (List.all_eq_true.1 h c hc)] at halpha
    cases halpha
  · have hitems := token_itemsFrom_eq_nil_iff .idle cs
    rw [ScanState.isFiller, eq_self, true_and] at hitems
    rw [← hitems, List.filter_eq_nil_iff]
    simp [items]

/-- **Texts without tokens.** A text has no tokens exactly if the cap leaves none, or if the text holds
blanks and quotation marks only. -/
theorem parse_eq_none_iff {text : String} {cap : Nat} :
    Tokens.parse text cap = none ↔ cap = 0 ∨ isFillerText text = true := by
  rw [isFillerText, ← all_isFiller_normalize, ← tokensOf_eq_nil_iff, Tokens.parse]
  split
  · next h => simpa using h
  · next h => simpa using h

end RelevanceSql.Search
