import RelevanceSql.Proofs.TokenContent
import RelevanceSql.Search.Searcher

/-!
# Letter case of a search text

A small letter is its own small letter, so that lower-casing a second time changes nothing, whatever stands
around a letter (`lower_lower`): the two small sigmas, the i and the dot above it are small letters like all
others. The tokens of a search text are those of the text in small letters, and nothing in a search but the
tokens depends on the text. So two texts that differ in letter case only are searched alike, and a text may
be lower-cased in front of a search (`search_ignores_case`).
-/

namespace RelevanceSql.Text

open RelevanceSql.Search

/-! ## Small letters -/

/-- A run in steps of two, or of one capital: all its code points are odd, or all are even. -/
def CaseRun.isSparse (r : CaseRun) : Bool := decide (r.step = 2) || decide (r.first = r.last)

/-- Whether no small letter of a run is a capital of another one: they lie apart, or they alternate. -/
def CaseRun.isClearOf (r q : CaseRun) : Bool :=
  decide (r.small + (r.last - r.first) < q.first) || decide (q.last < r.small) ||
    (r.isSparse && q.isSparse && decide ((r.small + q.first) % 2 = 1))

/-- The capital with a dot, which has no run in the table, as one. -/
def dottedRun : CaseRun := ⟨0x130, 0x130, 1, 0x69⟩

/-- No run of the table has small letters among the capitals of another, or of itself. -/
theorem isClearOf_caseRuns :
    (caseRuns.all fun r => (dottedRun :: caseRuns).all fun q => r.isClearOf q) = true := by
  decide +kernel

/-- In such a run every capital is an even way behind the first one. -/
theorem CaseRun.mod_two_of_isSparse {r : CaseRun} (h : r.isSparse = true) {n : Nat}
    (hn : r.covers n = true) : (n - r.first) % 2 = 0 := by
  simp only [isSparse, covers, Bool.or_eq_true, Bool.and_eq_true, decide_eq_true_eq] at h hn
  rcases h with hstep | hsingle
  · rw [hstep] at hn
    exact hn.2
  · omega

/-- The small letter of a capital is no capital of a run that its own run is clear of. -/
theorem CaseRun.not_covers_small {r q : CaseRun} (h : r.isClearOf q = true) {n : Nat}
    (hn : r.covers n = true) : q.covers (r.small + (n - r.first)) = false := by
  rw [Bool.eq_false_iff]
  intro hq
  have hrange : r.first ≤ n ∧ n ≤ r.last := by
    simp only [covers, Bool.and_eq_true, decide_eq_true_eq] at hn
    exact hn.1
  have hqrange : q.first ≤ r.small + (n - r.first) ∧ r.small + (n - r.first) ≤ q.last := by
    simp only [covers, Bool.and_eq_true, decide_eq_true_eq] at hq
    exact hq.1
  simp only [isClearOf, Bool.or_eq_true, Bool.and_eq_true, decide_eq_true_eq] at h
  rcases h with (hbelow | habove) | ⟨⟨hr, hqs⟩, hodd⟩
  · omega
  · omega
  · -- both letters are an even way behind the first of their run, and the first ones are an odd way apart
    have hleft := mod_two_of_isSparse hr hn
    have hright := mod_two_of_isSparse hqs hq
    omega

/-- The small letter of a capital belongs to no run, and it is not the capital with a dot. -/
theorem not_covers_of_find? {c : Char} {r : CaseRun}
    (hr : (caseRuns.find? fun r => r.covers c.toNat) = some r) {q : CaseRun}
    (hq : q ∈ dottedRun :: caseRuns) :
    q.covers (Char.ofNat (r.small + (c.toNat - r.first))).toNat = false := by
  have hcovers := List.find?_some hr
  have hclear := List.all_eq_true.1 (List.all_eq_true.1 isClearOf_caseRuns r
    (mem_caseRun_of_find? hr).1) q hq
  rcases toNat_ofNat (r.small + (c.toNat - r.first)) with hn | hn
  · rw [hn]
    exact CaseRun.not_covers_small hclear hcovers
  · -- no run begins with the first character
    rw [hn]
    rcases List.mem_cons.1 hq with rfl | hq
    · decide
    · have hrun := List.all_eq_true.1 letters_caseRuns q hq
      rw [Bool.and_eq_true, decide_eq_true_eq, decide_eq_true_eq] at hrun
      have hzero : (Char.ofNat 0).toNat = 0 := rfl
      rw [hzero, CaseRun.covers, decide_eq_false (by omega), Bool.false_and, Bool.false_and]

/-- A small letter has itself for its small letter. -/
theorem lowerSimple_lowerSimple (c : Char) : lowerSimple (lowerSimple c) = lowerSimple c := by
  cases hr : caseRuns.find? fun r => r.covers c.toNat with
  | none =>
    have hself : lowerSimple c = c := by rw [lowerSimple, hr]
    rw [hself, hself]
  | some r =>
    have hsmall : lowerSimple c = Char.ofNat (r.small + (c.toNat - r.first)) := by
      rw [lowerSimple, hr]
    have hnone : (caseRuns.find? fun q => q.covers (lowerSimple c).toNat) = none := by
      rw [List.find?_eq_none]
      intro q hq
      rw [hsmall, not_covers_of_find? hr (List.mem_cons_of_mem _ hq)]
      exact Bool.false_ne_true
    rw [lowerSimple, hnone]

/-- No other letter has the dotted capital for its small letter. -/
theorem lowerSimple_ne_dotted {c : Char} (h : c ≠ 'İ') : lowerSimple c ≠ 'İ' := by
  intro hdotted
  rw [lowerSimple] at hdotted
  split at hdotted
  · next r hr =>
    have hcovers : dottedRun.covers _ = false := not_covers_of_find? hr List.mem_cons_self
    rw [hdotted] at hcovers
    exact absurd hcovers (by decide)
  · exact h hdotted

/-- A character that lower-casing leaves as it is. -/
def IsSmall (c : Char) : Prop := lowerChar c = [c]

instance (c : Char) : Decidable (IsSmall c) := inferInstanceAs (Decidable (_ = _))

theorem IsSmall.ne_sigma {c : Char} (h : IsSmall c) : c ≠ 'Σ' := by
  rintro rfl
  exact absurd h (by decide)

/-- A character is small if it is its own small letter, and not the dotted capital, which becomes two
characters. -/
theorem isSmall_iff {c : Char} : IsSmall c ↔ c ≠ 'İ' ∧ lowerSimple c = c := by
  unfold IsSmall lowerChar
  split
  · next h => simp [h]
  · next h => simp [h]

/-- Whatever a character is lower-cased to is small. -/
theorem isSmall_of_mem_lowerChar {c small : Char} (h : small ∈ lowerChar c) : IsSmall small := by
  unfold lowerChar at h
  split at h
  · rcases List.mem_cons.1 h with rfl | h
    · decide
    · rw [List.mem_singleton.1 h]
      decide
  · next hc =>
    rw [List.mem_singleton.1 h]
    exact isSmall_iff.2 ⟨lowerSimple_ne_dotted hc, lowerSimple_lowerSimple c⟩

/-- Everything in a text in small letters is small. -/
theorem isSmall_of_mem_lowerFrom {before : Bool} {cs : List Char} {small : Char}
    (h : small ∈ lowerFrom before cs) : IsSmall small := by
  -- on the text, for whatever stands before it, as that decides which small sigma is written
  induction cs generalizing before with
  | nil => cases h
  | cons c cs ih =>
    by_cases hc : c = 'Σ'
    · rw [hc, lowerFrom_cons_sigma] at h
      rcases List.mem_cons.1 h with rfl | h
      · split <;> decide
      · exact ih h
    · rw [lowerFrom_cons_of_ne_sigma hc] at h
      rcases List.mem_append.1 h with h | h
      · exact isSmall_of_mem_lowerChar h
      · exact ih h

/-- Of small characters the neighbours do not matter. -/
theorem lowerFrom_of_isSmall {cs : List Char} (h : ∀ c ∈ cs, IsSmall c) (before : Bool) :
    lowerFrom before cs = cs := by
  induction cs generalizing before with
  | nil => rfl
  | cons c cs ih =>
    have hc : lowerChar c = [c] := h c List.mem_cons_self
    rw [lowerFrom_cons_of_ne_sigma (IsSmall.ne_sigma hc), hc,
      ih fun d hd => h d (List.mem_cons_of_mem _ hd), List.singleton_append]

/-- Lower-casing a second time changes nothing. -/
theorem lower_lower (cs : List Char) : lower (lower cs) = lower cs :=
  lowerFrom_of_isSmall (fun _ => isSmall_of_mem_lowerFrom) false

end RelevanceSql.Text

namespace RelevanceSql.Search

open RelevanceSql.Text

/-! ## Tokens of a text in small letters -/

/-- A search text in small letters. -/
def inSmallLetters (text : String) : String := String.ofList (lower text.toList)

/-- The tokens of a search text depend on its small letters only. -/
theorem parse_of_lower_eq {text other : String} (h : lower other.toList = lower text.toList) (cap : Nat) :
    Tokens.parse other cap = Tokens.parse text cap := by
  have htokens : tokensOf (normalize other.toList) = tokensOf (normalize text.toList) := by
    rw [tokensOf_normalize, tokensOf_normalize, h]
  unfold Tokens.parse
  simp only [htokens]

theorem lower_inSmallLetters (text : String) :
    lower (inSmallLetters text).toList = lower text.toList := by
  rw [inSmallLetters, String.toList_ofList, lower_lower]

theorem isSmall_of_isFiller {c : Char} (h : isFiller c = true) : IsSmall c := by
  have hdotted : c ≠ 'İ' := by
    rintro rfl
    exact absurd h (by decide)
  exact isSmall_iff.2 ⟨hdotted, lowerSimple_of_isFiller h⟩

/-- All characters of a token are those of the text, except for filler. -/
theorem mem_of_mem_tokensOf {cs token : List Char} (h : token ∈ tokensOf cs) {c : Char} (hc : c ∈ token)
    (hcontent : isFiller c = false) : c ∈ cs := by
  by_cases hprose : IsProse cs
  · have hmem : c ∈ content (tokensOf cs).flatten :=
      List.mem_filter.2 ⟨List.mem_flatten.2 ⟨token, h, hc⟩, by rw [hcontent]; rfl⟩
    rw [content_tokensOf hprose] at hmem
    exact (List.mem_filter.1 hmem).1
  · rw [tokensOf_of_not_isProse hprose, List.mem_singleton] at h
    rw [h] at hc
    exact (List.mem_filter.1 hc).1

/-- Tokens are made of small characters. -/
theorem isSmall_of_mem_wordsOf {text word : String} {cap : Nat} (h : word ∈ wordsOf text cap) {c : Char}
    (hc : c ∈ word.toList) : IsSmall c := by
  rw [wordsOf_eq] at h
  obtain ⟨token, htoken, rfl⟩ := List.mem_map.1 h
  rw [String.toList_ofList] at hc
  -- a token has characters of the text in small letters, and filler between the words of a phrase
  cases hfiller : isFiller c with
  | true => exact isSmall_of_isFiller hfiller
  | false =>
    exact isSmall_of_mem_lowerFrom (mem_of_mem_tokensOf (List.mem_of_mem_take htoken) hc hfiller)

end RelevanceSql.Search

namespace RelevanceSql

open RelevanceSql.Text RelevanceSql.Search

/-- A search looks at its text only for the tokens. -/
theorem Searcher.searchWith_congr {text other : String}
    (h : ∀ cap, Tokens.parse other cap = Tokens.parse text cap) (s : Searcher) (model : Model)
    (base : Query) (options : SearchOptions) :
    s.searchWith model base other options = s.searchWith model base text options := by
  have hcompile : s.compile model base other options.limit options.threshold =
      s.compile model base text options.limit options.threshold := by
    unfold compile
    rw [h]
  unfold searchWith
  rw [hcompile]

/-- **A search ignores letter case.** A text has the same tokens as its small letters, and as every other
text with these small letters, under every cap, so that a search for one is a search for the other. All
characters of the tokens are small: lower-casing leaves each of them as it is, and the token as well. -/
theorem search_ignores_case (text : String) :
    (∀ cap, Tokens.parse (inSmallLetters text) cap = Tokens.parse text cap) ∧
    (∀ other, lower other.toList = lower text.toList → ∀ cap,
      Tokens.parse other cap = Tokens.parse text cap) ∧
    (∀ (s : Searcher) model base options, s.searchWith model base (inSmallLetters text) options =
      s.searchWith model base text options) ∧
    (∀ cap tokens, Tokens.parse text cap = some tokens → ∀ word ∈ tokens.words,
      (∀ c ∈ word.toList, lowerChar c = [c]) ∧ lower word.toList = word.toList) := by
  have hparse : ∀ cap, Tokens.parse (inSmallLetters text) cap = Tokens.parse text cap :=
    parse_of_lower_eq (lower_inSmallLetters text)
  refine ⟨hparse, fun other h => parse_of_lower_eq h,
    fun s model base options => s.searchWith_congr hparse model base options,
    fun cap tokens htokens word hword => ?_⟩
  have hmem : word ∈ wordsOf text cap := by
    rwa [wordsOf, htokens]
  have hsmall : ∀ c ∈ word.toList, IsSmall c := fun c => isSmall_of_mem_wordsOf hmem
  exact ⟨hsmall, lowerFrom_of_isSmall hsmall false⟩

/-- A final sigma, a dotted capital with its two small letters, and a sharp s that has a capital. -/
theorem search_ignores_case_street :
    lower "οΔος İZMİR ß".toList = lower "ΟΔΟΣ İZMİR ẞ".toList ∧
    (∀ cap, Tokens.parse "οΔος İZMİR ß" cap = Tokens.parse "ΟΔΟΣ İZMİR ẞ" cap) ∧
    Tokens.parse "ΟΔΟΣ İZMİR ẞ" 5 = some ⟨["οδος", "i\u0307zmi\u0307r", "ß"], List.cons_ne_nil _ _⟩ ∧
    lower "οδος".toList = "οδος".toList := by
  have hlower : lower "οΔος İZMİR ß".toList = lower "ΟΔΟΣ İZMİR ẞ".toList := by decide
  have htokens : Tokens.parse "ΟΔΟΣ İZMİR ẞ" 5 =
      some ⟨["οδος", "i\u0307zmi\u0307r", "ß"], List.cons_ne_nil _ _⟩ := by decide
  obtain ⟨-, hother, -, hwords⟩ := search_ignores_case "ΟΔΟΣ İZMİR ẞ"
  exact ⟨hlower, hother _ hlower, htokens, (hwords 5 _ htokens "οδος" (List.mem_cons_self ..)).2⟩

end RelevanceSql
