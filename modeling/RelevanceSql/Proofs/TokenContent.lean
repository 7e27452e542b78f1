import RelevanceSql.Proofs.SearchGrammar

/-!
# What tokens keep of a text

No character of a search text is lost between its tokens, doubled or moved, wherever its quotation marks
stand. The content of a text is what is left of it without filler. At each step of the scan the content
that is still to be found in items is that of the item that has been begun and that of the rest of the text
(`content_itemsFrom`), and an item has its content in its token. A text that is read as a number has the
digits of the search text as its only token, as no letter becomes a digit in small letters nor the other
way (`filter_isAsciiDigit_lowerFrom`).

A token begins and ends with content, and its only blanks are single spaces (`IsToken`): a run has no blanks
and loses the marks at its ends, and a phrase has no marks and is put together from words.
-/

namespace RelevanceSql.Search

open RelevanceSql.Text

/-- The characters of a text that are no filler. -/
def content (cs : List Char) : List Char := cs.filter fun c => !isFiller c

/-- A text that begins and ends with content and has no blanks but single spaces. -/
structure IsToken (word : List Char) : Prop where
  ne_nil : word ≠ []
  head : ∀ c, word.head? = some c → isFiller c = false
  last : ∀ c, word.getLast? = some c → isFiller c = false
  spaced : ∀ front c back, word = front ++ c :: back → isBlank c = true →
    c = ' ' ∧ (∃ d, front.getLast? = some d ∧ isBlank d = false) ∧
      ∃ d, back.head? = some d ∧ isBlank d = false

/-! ## Content -/

theorem content_append (cs ds : List Char) : content (cs ++ ds) = content cs ++ content ds :=
  List.filter_append cs ds

theorem content_cons_of_isFiller {c : Char} (h : isFiller c = true) (cs : List Char) :
    content (c :: cs) = content cs := by
  rw [content, List.filter_cons, h]
  rfl

theorem content_of_filler {cs : List Char} (h : ∀ c ∈ cs, isFiller c = true) : content cs = [] := by
  rw [content, List.filter_eq_nil_iff]
  intro c hc
  rw [h c hc]
  exact Bool.false_ne_true

/-- Stripping filler off a text leaves its content. -/
theorem content_strip {p : Char → Bool} (hp : ∀ c, p c = true → isFiller c = true) (cs : List Char) :
    content (strip p cs) = content cs := by
  obtain ⟨as, bs, has, hbs, hcs⟩ := exists_eq_append_strip p cs
  have hfront : content as = [] := content_of_filler fun c hc => hp c (has c hc)
  have hback : content bs = [] := content_of_filler fun c hc => hp c (hbs c hc)
  calc content (strip p cs) = content as ++ content (strip p cs) ++ content bs := by
        rw [hfront, hback, List.nil_append, List.append_nil]
    _ = content cs := by rw [← content_append, ← content_append, ← hcs]

theorem flatten_words (p : Char → Bool) (cs : List Char) :
    (words p cs).flatten = cs.filter fun c => !p c := by
  rw [← flatten_fields, words, List.flatten_filter_not_isEmpty]

theorem content_intercalate_space (ws : List (List Char)) :
    content ([' '].intercalate ws) = content ws.flatten := by
  induction ws with
  | nil => rfl
  | cons w ws ih =>
    cases hws : ws with
    | nil => rw [List.intercalate_singleton, List.flatten_singleton]
    | cons w' ws' =>
      have hspace : content [' '] = [] := rfl
      rw [← hws, intercalate_cons (by simp [hws]), content_append, content_append, ih, hspace,
        List.append_nil, List.flatten_cons, content_append]

/-- The text that an item encloses. -/
def Item.body : Item → List Char
  | .phrase body => body
  | .run body => body

/-- An item has its content in its token. -/
theorem content_token (item : Item) : content item.token = content item.body := by
  cases item with
  | run body =>
    apply content_strip
    intro c hc
    rw [isFiller, hc, Bool.or_true]
  | phrase body =>
    show content ([' '].intercalate (words isBlank body)) = content body
    rw [content_intercalate_space, flatten_words, content, content, List.filter_filter]
    apply List.filter_congr
    intro c _
    cases hblank : isBlank c with
    | true => rw [isFiller_of_isBlank hblank]; rfl
    | false => rw [Bool.not_false, Bool.and_true]

/-! ## The scan -/

/-- What has been read of the item that a scan is in. -/
def ScanState.body : ScanState → List Char
  | .idle => []
  | .inPhrase body => body
  | .inRun body => body

/-- The tokens of the items from a state on have the content of the item that has been begun and of the text
that is still to be read. -/
theorem content_itemsFrom (state : ScanState) (cs : List Char) :
    content ((itemsFrom state cs).flatMap Item.token) = content state.body ++ content cs := by
  have hmark : isFiller quoteMark = true := by decide
  have hitem : ∀ item items, content ((item :: items).flatMap Item.token) =
      content item.body ++ content (items.flatMap Item.token) := by
    intro item items
    rw [List.flatMap_cons, content_append, content_token]
  -- a character goes from the rest of the text over to the item
  have hread : ∀ (body : List Char) (c : Char) (cs : List Char),
      content (body ++ [c]) ++ content cs = content body ++ content (c :: cs) := by
    intro body c cs
    rw [← content_append, ← content_append, List.append_assoc, List.singleton_append]
  induction cs generalizing state with
  | nil =>
    cases state with
    | idle => rfl
    | inPhrase body | inRun body => rw [itemsFrom, hitem]; rfl
  | cons c cs ih =>
    cases state with
    | idle =>
      rw [itemsFrom]
      split
      · next hc => rw [ih, content_cons_of_isFiller (isFiller_of_isBlank hc)]
      · split
        · next hq =>
          rw [Bool.and_eq_true, beq_iff_eq] at hq
          rw [ih, hq.1, content_cons_of_isFiller hmark]
          rfl
        · rw [ih]
          exact hread [] c cs
    | inPhrase body =>
      rw [itemsFrom]
      split
      · next hq =>
        rw [hitem, ih, beq_iff_eq.1 hq, content_cons_of_isFiller hmark]
        rfl
      · rw [ih]
        exact hread body c cs
    | inRun body =>
      rw [itemsFrom]
      split
      · next hc =>
        rw [hitem, ih, content_cons_of_isFiller (isFiller_of_isBlank hc)]
        rfl
      · rw [ih]
        exact hread body c cs

/-- A phrase without quotation marks, or a run without blanks. -/
def Item.Pure : Item → Prop
  | .phrase body => quoteMark ∉ body
  | .run body => ∀ c ∈ body, Text.isBlank c = false

/-- A scan that is in no item, or in one that has been pure so far. -/
def ScanState.Pure : ScanState → Prop
  | .idle => True
  | .inPhrase body => quoteMark ∉ body
  | .inRun body => ∀ c ∈ body, isBlank c = false

/-- A mark ends a phrase and a blank ends a run, so neither gets into an item of its kind. -/
theorem pure_of_mem_itemsFrom (state : ScanState) (hstate : state.Pure) {cs : List Char} {item : Item}
    (h : item ∈ itemsFrom state cs) : item.Pure := by
  induction cs generalizing state with
  | nil =>
    cases state with
    | idle => cases h
    | inPhrase body | inRun body =>
      cases List.mem_singleton.1 h
      exact hstate
  | cons c cs ih =>
    cases state with
    | idle =>
      rw [itemsFrom] at h
      split at h
      · exact ih .idle trivial h
      · next hc =>
        split at h
        · exact ih (.inPhrase []) List.not_mem_nil h
        · refine ih (.inRun [c]) (fun d hd => ?_) h
          rw [List.mem_singleton.1 hd]
          exact Bool.eq_false_iff.2 hc
    | inPhrase body =>
      rw [itemsFrom] at h
      split at h
      · rcases List.mem_cons.1 h with rfl | h
        · exact hstate
        · exact ih .idle trivial h
      · next hc =>
        refine ih (.inPhrase (body ++ [c])) (fun hmem => ?_) h
        rcases List.mem_append.1 hmem with hmem | hmem
        · exact hstate hmem
        · exact hc (beq_iff_eq.2 (List.mem_singleton.1 hmem).symm)
    | inRun body =>
      rw [itemsFrom] at h
      split at h
      · rcases List.mem_cons.1 h with rfl | h
        · exact hstate
        · exact ih .idle trivial h
      · next hc =>
        refine ih (.inRun (body ++ [c])) (fun d hd => ?_) h
        rcases List.mem_append.1 hd with hd | hd
        · exact hstate d hd
        · rw [List.mem_singleton.1 hd]
          exact Bool.eq_false_iff.2 hc

/-! ## The form of tokens -/

theorem isToken_of_content {word : List Char} (hne : word ≠ []) (h : ∀ c ∈ word, isFiller c = false) :
    IsToken word where
  ne_nil := hne
  head c hc := h c (List.mem_of_mem_head? hc)
  last c hc := h c (List.mem_of_mem_getLast? hc)
  spaced front c back hword hblank := by
    have hnot := h c (by simp [hword])
    rw [isFiller_of_isBlank hblank] at hnot
    cases hnot

/-- A word without filler, a space and a token make a token. -/
theorem IsToken.join {word rest : List Char} (hne : word ≠ []) (h : ∀ c ∈ word, isFiller c = false)
    (hrest : IsToken rest) : IsToken (word ++ ' ' :: rest) where
  ne_nil := by simp
  head c hc := by
    rw [List.head?_append, List.head?_eq_some_head hne] at hc
    cases hc
    exact h _ (List.head_mem hne)
  last c hc := by
    rw [List.getLast?_append, List.getLast?_cons, List.getLast?_eq_some_getLast hrest.ne_nil] at hc
    apply hrest.last
    rw [List.getLast?_eq_some_getLast hrest.ne_nil]
    exact hc
  spaced front c back hsplit hblank := by
    have hspace : front = word → c = ' ' → back = rest → c = ' ' ∧
        (∃ d, front.getLast? = some d ∧ isBlank d = false) ∧
          ∃ d, back.head? = some d ∧ isBlank d = false := by
      rintro rfl rfl rfl
      have hlast := h _ (List.getLast_mem hne)
      have hhead := hrest.head _ (List.head?_eq_some_head hrest.ne_nil)
      rw [isFiller, Bool.or_eq_false_iff] at hlast hhead
      exact ⟨rfl, ⟨_, List.getLast?_eq_some_getLast hne, hlast.1⟩, _,
        List.head?_eq_some_head hrest.ne_nil, hhead.1⟩
    rcases List.append_eq_append_iff.1 hsplit with ⟨middle, hfront, hback⟩ | ⟨middle, hword, hback⟩
    · cases middle with
      | nil =>
        cases hback
        exact hspace (by rw [hfront, List.append_nil]) rfl rfl
      | cons d middle =>
        -- the blank stands in the token behind the space
        cases hback
        obtain ⟨hc, ⟨d, hd, hnot⟩, hnext⟩ := hrest.spaced middle c back rfl hblank
        refine ⟨hc, ⟨d, ?_, hnot⟩, hnext⟩
        rw [hfront, List.getLast?_append, List.getLast?_cons, hd]
        rfl
    · cases middle with
      | nil =>
        cases hback
        exact hspace (by rw [hword, List.append_nil]) rfl rfl
      | cons d middle =>
        -- the word itself has no blanks
        cases hback
        have hnot := h c (by simp [hword])
        rw [isFiller_of_isBlank hblank] at hnot
        cases hnot

theorem isToken_intercalate {ws : List (List Char)} (hne : ws ≠ [])
    (h : ∀ w ∈ ws, w ≠ [] ∧ ∀ c ∈ w, isFiller c = false) : IsToken ([' '].intercalate ws) := by
  induction ws with
  | nil => exact absurd rfl hne
  | cons w ws ih =>
    obtain ⟨hw, hcontent⟩ := h w (by simp)
    cases hws : ws with
    | nil =>
      rw [List.intercalate_singleton]
      exact isToken_of_content hw hcontent
    | cons w' ws' =>
      have hne' : ws ≠ [] := by simp [hws]
      rw [← hws, intercalate_cons hne', List.append_assoc, List.singleton_append]
      exact .join hw hcontent (ih hne' fun w hw => h w (by simp [hw]))

theorem isToken_strip {body : List Char} (h : ∀ c ∈ body, isBlank c = false)
    (hne : strip (· == quoteMark) body ≠ []) : IsToken (strip (· == quoteMark) body) where
  ne_nil := hne
  head c hc := by
    rw [isFiller, h c (mem_of_mem_strip (List.mem_of_mem_head? hc)), Bool.false_or]
    exact head?_strip (p := (· == quoteMark)) hc
  last c hc := by
    rw [isFiller, h c (mem_of_mem_strip (List.mem_of_mem_getLast? hc)), Bool.false_or]
    exact getLast?_strip (p := (· == quoteMark)) hc
  spaced front c back hsplit hblank := by
    have hmem : c ∈ strip (· == quoteMark) body := by
      rw [hsplit]
      simp
    rw [h c (mem_of_mem_strip hmem)] at hblank
    cases hblank

/-- What is left of a pure item is a token, unless nothing is. -/
theorem isToken_of_pure {item : Item} (h : item.Pure) (hne : item.token ≠ []) : IsToken item.token := by
  cases item with
  | run body => exact isToken_strip h hne
  | phrase body =>
    have hwords : words isBlank body ≠ [] := by
      intro hnil
      apply hne
      rw [Item.token, hnil]
      rfl
    apply isToken_intercalate hwords
    intro w hw
    obtain ⟨hfield, hw⟩ := mem_words.1 hw
    refine ⟨hw, fun c hc => ?_⟩
    rw [isFiller, not_sep_of_mem_fields hfield c hc, Bool.false_or, beq_eq_false_iff_ne]
    rintro rfl
    exact h (mem_of_mem_fields hfield hc)

theorem isToken_of_mem_tokensOf {cs word : List Char} (h : word ∈ tokensOf cs) : IsToken word := by
  rw [tokensOf, soleNumber?_eq] at h
  by_cases hprose : IsProse cs
  · rw [if_pos hprose] at h
    obtain ⟨hmem, hne⟩ := List.mem_filter.1 h
    obtain ⟨item, hitem, rfl⟩ := List.mem_map.1 hmem
    exact isToken_of_pure (pure_of_mem_itemsFrom .idle trivial hitem) (by simpa using hne)
  · rw [if_neg hprose] at h
    rw [List.mem_singleton.1 h]
    rw [isProse_iff_filter, not_or] at hprose
    refine isToken_of_content hprose.1 fun c hc => ?_
    -- letters and numbers are no filler
    rw [Bool.eq_false_iff]
    intro hfiller
    have halpha := (List.mem_filter.1 hc).2
    rw [isAlphanumeric_of_isFiller hfiller] at halpha
    cases halpha

/-! ## Digits and small letters -/

theorem isAlphanumeric_of_isAsciiDigit {c : Char} (h : isAsciiDigit c = true) :
    isAlphanumeric c = true := by
  rw [isAsciiDigit, Bool.and_eq_true, decide_eq_true_eq, decide_eq_true_eq] at h
  show inRanges ((0x30, 0x39) :: alphanumericRanges.tail) c.toNat = true
  rw [inRanges, if_neg (by omega), if_pos h.2]

/-- Capitals and small letters come after the digits. -/
theorem letters_caseRuns :
    (caseRuns.all fun r => decide (0x39 < r.first) && decide (0x39 < r.small)) = true := by
  decide +kernel

/-- A digit is its own small letter and no other character's. -/
theorem isAsciiDigit_lowerSimple (c : Char) :
    isAsciiDigit (lowerSimple c) = isAsciiDigit c ∧ (isAsciiDigit c = true → lowerSimple c = c) := by
  unfold lowerSimple
  split
  · next r hr =>
    obtain ⟨hmem, hfirst, _⟩ := mem_caseRun_of_find? hr
    have hrun := List.all_eq_true.1 letters_caseRuns r hmem
    rw [Bool.and_eq_true, decide_eq_true_eq, decide_eq_true_eq] at hrun
    have hcapital : isAsciiDigit c = false := by
      rw [isAsciiDigit, Bool.and_eq_false_iff, decide_eq_false_iff_not, decide_eq_false_iff_not]
      omega
    have hsmall : isAsciiDigit (Char.ofNat (r.small + (c.toNat - r.first))) = false := by
      rcases toNat_ofNat (r.small + (c.toNat - r.first)) with hn | hn
      · rw [isAsciiDigit, hn, Bool.and_eq_false_iff, decide_eq_false_iff_not, decide_eq_false_iff_not]
        omega
      · rw [hn]
        decide
    rw [hcapital, hsmall]
    exact ⟨rfl, fun h => by cases h⟩
  · exact ⟨rfl, fun _ => rfl⟩

theorem filter_isAsciiDigit_lowerFrom (before : Bool) (cs : List Char) :
    (lowerFrom before cs).filter isAsciiDigit = cs.filter isAsciiDigit := by
  induction cs generalizing before with
  | nil => rfl
  | cons c cs ih =>
    by_cases hc : c = 'Σ'
    · have hcapital : ¬isAsciiDigit 'Σ' = true := by decide
      have hsmall : ¬isAsciiDigit (if before && !casedFollows cs then 'ς' else 'σ') = true := by
        split <;> decide
      rw [hc, lowerFrom_cons_sigma, List.filter_cons_of_neg hsmall, ih,
        List.filter_cons_of_neg hcapital]
    · have hchar : (lowerChar c).filter isAsciiDigit = [c].filter isAsciiDigit := by
        unfold lowerChar
        split
        · next hdotted =>
          rw [hdotted]
          decide
        · obtain ⟨hdigit, hsame⟩ := isAsciiDigit_lowerSimple c
          rw [List.filter_cons, List.filter_cons, hdigit]
          cases hc : isAsciiDigit c with
          | true => rw [hsame hc]
          | false => rfl
      rw [lowerFrom_cons_of_ne_sigma hc, List.filter_append, hchar, ih, ← List.filter_append,
        List.singleton_append]

/-! ## Tokens -/

/-- The tokens of prose have its content, in order. -/
theorem content_tokensOf {cs : List Char} (h : IsProse cs) : content (tokensOf cs).flatten = content cs := by
  rw [tokensOf, soleNumber?_eq, if_pos h]
  show content (((items cs).map Item.token).filter fun t => !t.isEmpty).flatten = content cs
  rw [List.flatten_filter_not_isEmpty, ← List.flatMap_def, items, content_itemsFrom]
  rfl

/-- A text that is not prose has its digits as its token. -/
theorem tokensOf_of_not_isProse {cs : List Char} (h : ¬IsProse cs) :
    tokensOf cs = [cs.filter isAsciiDigit] := by
  have hdigits : cs.filter isAlphanumeric = cs.filter isAsciiDigit := by
    apply List.filter_congr
    intro c hc
    rw [Bool.eq_iff_iff]
    refine ⟨fun halpha => ?_, isAlphanumeric_of_isAsciiDigit⟩
    by_contra hdigit
    exact h (Or.inl ⟨c, hc, halpha, Bool.eq_false_iff.2 hdigit⟩)
  rw [tokensOf, soleNumber?_eq, if_neg h, hdigits]

/-- **Tokens keep the content of a search text.** Under a cap that leaves all tokens, the tokens of prose, one
behind the other, have the content of the text in small letters; a text that is no prose has one token, all
ASCII digits of the text. Under any cap each token begins and ends with content and has no blanks but single
spaces. -/
theorem content_of_words (text : String) :
    (∀ cap, (tokensOf (normalize text.toList)).length ≤ cap →
      (IsProse (lower text.toList) →
        content ((wordsOf text cap).flatMap String.toList) = content (lower text.toList)) ∧
      (¬IsProse (lower text.toList) →
        wordsOf text cap = [String.ofList (text.toList.filter isAsciiDigit)])) ∧
    ∀ cap, ∀ word ∈ wordsOf text cap, IsToken word.toList := by
  refine ⟨fun cap hcap => ?_, fun cap word hword => ?_⟩
  · rw [tokensOf_normalize] at hcap
    rw [wordsOf_eq, List.take_of_length_le hcap]
    refine ⟨fun hprose => ?_, fun hnumber => ?_⟩
    · have hwords : ((tokensOf (lower text.toList)).map String.ofList).flatMap String.toList =
          (tokensOf (lower text.toList)).flatten := by
        rw [List.flatMap_map]
        simp only [String.toList_ofList]
        exact List.flatMap_id'
      rw [hwords, content_tokensOf hprose]
    · rw [tokensOf_of_not_isProse hnumber, lower, filter_isAsciiDigit_lowerFrom]
      rfl
  · rw [wordsOf_eq] at hword
    obtain ⟨token, htoken, rfl⟩ := List.mem_map.1 hword
    rw [String.toList_ofList]
    exact isToken_of_mem_tokensOf (List.mem_of_mem_take htoken)

/-- Marks inside a word, marks that do not close, an empty phrase, and a telephone number. -/
theorem content_of_words_quotes :
    (tokensOf (normalize "A\"b \"c  D\"\"\" \"e ".toList)).length ≤ 4 ∧
      IsProse (lower "A\"b \"c  D\"\"\" \"e ".toList) ∧
      content ((wordsOf "A\"b \"c  D\"\"\" \"e " 4).flatMap String.toList) = "abcde".toList ∧
      (tokensOf (normalize "(555) 123-4567".toList)).length ≤ 1 ∧
      ¬IsProse (lower "(555) 123-4567".toList) ∧
      wordsOf "(555) 123-4567" 1 = ["5551234567"] ∧
      "c d" ∈ wordsOf "A\"b \"c  D\"\"\" \"e " 4 ∧ IsToken "c d".toList := by
  have hcap : (tokensOf (normalize "A\"b \"c  D\"\"\" \"e ".toList)).length ≤ 4 := by decide
  have hprose : IsProse (lower "A\"b \"c  D\"\"\" \"e ".toList) := by decide
  have hone : (tokensOf (normalize "(555) 123-4567".toList)).length ≤ 1 := by decide
  have hnumber : ¬IsProse (lower "(555) 123-4567".toList) := by decide
  have hmem : "c d" ∈ wordsOf "A\"b \"c  D\"\"\" \"e " 4 := by decide
  refine ⟨hcap, hprose, ?_, hone, hnumber, ?_, hmem, ?_⟩
  · rw [((content_of_words _).1 4 hcap).1 hprose]
    decide
  · rw [((content_of_words _).1 1 hone).2 hnumber]
    decide
  · exact (content_of_words _).2 4 _ hmem

end RelevanceSql.Search
