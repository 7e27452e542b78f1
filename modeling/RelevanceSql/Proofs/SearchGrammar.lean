import RelevanceSql.Proofs.Trimming

/-!
# Search texts as they are written

The grammar of a search text is that of its items: words, and phrases between quotation marks, in a row,
with blanks between them. Behind a word there has to be a blank or the end of the text; a phrase is closed
by its own mark, and what comes next may follow at once. The scan reads the items back that a text was
written from (`items_of_written`): a mark that opens a phrase finds the one that closes the same phrase,
as there is none in between, and a word has no marks at all.

What an item means is said without the scan: a word means itself, a phrase is trimmed and each stretch of
blanks in it is one space (`Written.token_of_mem`). So the tokens of a text in small letters, unless it is
read as a number, are the first items that are not blank (`words_of_written`).
-/

namespace RelevanceSql.Search

open RelevanceSql.Text

/-- The items that a text is written from. -/
inductive Written : List Item → List Char → Prop where
  /-- The end of the text. -/
  | done : Written [] []
  /-- Blanks may stand in front of any item, and at the end. -/
  | blank {c : Char} {items : List Item} {rest : List Char} (hc : isBlank c = true)
      (hrest : Written items rest) : Written items (c :: rest)
  /-- Behind a phrase anything may follow. -/
  | phrase {body : List Char} {items : List Item} {rest : List Char} (hbody : quoteMark ∉ body)
      (hrest : Written items rest) :
      Written (.phrase body :: items) (quoteMark :: (body ++ quoteMark :: rest))
  /-- Behind a word a blank follows, or nothing. -/
  | word {body : List Char} {items : List Item} {rest : List Char} (hne : body ≠ [])
      (hbody : ∀ c ∈ body, isFiller c = false) (hend : ∀ c, rest.head? = some c → isBlank c = true)
      (hrest : Written items rest) : Written (.run body :: items) (body ++ rest)

/-- A text that is cut into items: it has a letter, or a number that is no ASCII digit, or neither letters
nor numbers. -/
def IsProse (cs : List Char) : Prop :=
  (∃ c ∈ cs, isAlphanumeric c = true ∧ isAsciiDigit c = false) ∨ ∀ c ∈ cs, isAlphanumeric c = false

instance (cs : List Char) : Decidable (IsProse cs) :=
  decidable_of_iff ((cs.any fun c => isAlphanumeric c && !isAsciiDigit c) = true ∨
    (cs.all fun c => !isAlphanumeric c) = true) (by simp [IsProse])

/-- Each stretch of blanks as one space. -/
def collapse : List Char → List Char
  | [] => []
  | c :: cs =>
    if isBlank c then
      if cs.head?.any isBlank then collapse cs else ' ' :: collapse cs
    else c :: collapse cs

namespace Item

/-- What an item means: a word itself, a phrase without the blanks around it and with one space for each
stretch of blanks inside. -/
def meaning : Item → List Char
  | .run body => body
  | .phrase body => collapse (strip isBlank body)

/-- Whether an item means nothing: a phrase of blanks, or an empty one. -/
def isBlank : Item → Bool
  | .run _ => false
  | .phrase body => body.all Text.isBlank

end Item

/-! ## Reading items back -/

theorem itemsFrom_inPhrase {phrase : List Char} (h : quoteMark ∉ phrase) (body rest : List Char) :
    itemsFrom (.inPhrase body) (phrase ++ quoteMark :: rest) =
      .phrase (body ++ phrase) :: itemsFrom .idle rest := by
  induction phrase generalizing body with
  | nil => rw [List.nil_append, itemsFrom, if_pos (by rfl), List.append_nil]
  | cons c phrase ih =>
    have hc : ¬(c == quoteMark) = true := by
      intro hc
      exact h (by simp [beq_iff_eq.1 hc])
    rw [List.cons_append, itemsFrom, if_neg hc, ih fun hmem => h (List.mem_cons_of_mem c hmem),
      List.append_assoc, List.singleton_append]

theorem itemsFrom_inRun {word rest : List Char} (h : ∀ c ∈ word, isFiller c = false)
    (hend : ∀ c, rest.head? = some c → isBlank c = true) (body : List Char) :
    itemsFrom (.inRun body) (word ++ rest) = .run (body ++ word) :: itemsFrom .idle rest := by
  induction word generalizing body with
  | nil =>
    rw [List.nil_append, List.append_nil]
    cases rest with
    | nil => rfl
    | cons c rest =>
      have hc := hend c rfl
      -- the blank that ends the word is passed over between items as well
      rw [itemsFrom_idle_blank hc, itemsFrom, if_pos hc]
  | cons c word ih =>
    have hc : ¬isBlank c = true := by
      intro hblank
      have hnot := h c (by simp)
      rw [isFiller_of_isBlank hblank] at hnot
      cases hnot
    rw [List.cons_append, itemsFrom, if_neg hc, ih fun c hc => h c (by simp [hc]), List.append_assoc,
      List.singleton_append]

/-- The scan finds the items that a text was written from. -/
theorem items_of_written {written : List Item} {cs : List Char} (h : Written written cs) :
    items cs = written := by
  unfold items
  induction h with
  | done => rfl
  | blank hc _ ih => rw [itemsFrom_idle_blank hc, ih]
  | @phrase body written rest hbody _ ih =>
    have hmark : ¬isBlank quoteMark = true := by decide
    have hopens : (quoteMark == quoteMark && (body ++ quoteMark :: rest).contains quoteMark) = true := by
      simp
    rw [itemsFrom, if_neg hmark, if_pos hopens, itemsFrom_inPhrase hbody, ih, List.nil_append]
  | @word body written rest hne hbody hend _ ih =>
    cases body with
    | nil => exact absurd rfl hne
    | cons c body =>
      have hc := hbody c (by simp)
      rw [isFiller, Bool.or_eq_false_iff] at hc
      rw [List.cons_append, itemsFrom, if_neg (by simp [hc.1]), if_neg (by simp [hc.2]),
        itemsFrom_inRun (fun c hc => hbody c (by simp [hc])) hend, ih, List.singleton_append]

/-! ## What items mean -/

theorem words_cons_sep {isSep : Char → Bool} {c : Char} (h : isSep c = true) (cs : List Char) :
    words isSep (c :: cs) = words isSep cs := by
  simp [words, fields, h]

/-- In front of a separator, or at the end, a character is a word of its own. -/
theorem words_cons_of_sep {isSep : Char → Bool} {c : Char} {cs : List Char} (h : isSep c = false)
    (hcs : ∀ d, cs.head? = some d → isSep d = true) : words isSep (c :: cs) = [c] :: words isSep cs := by
  cases cs with
  | nil => simp [words, fields, h, consHead]
  | cons d cs =>
    have hd := hcs d rfl
    simp [words, fields, h, hd, consHead]

/-- In front of another character it belongs to that one's word. -/
theorem words_cons_cons {isSep : Char → Bool} {c d : Char} (hc : isSep c = false) (hd : isSep d = false)
    (cs : List Char) : words isSep (c :: d :: cs) = consHead c (words isSep (d :: cs)) := by
  cases hfields : fields isSep cs with
  | nil => exact absurd hfields (fields_ne_nil isSep cs)
  | cons f fs => simp [words, fields, hc, hd, hfields, consHead]

theorem words_between_seps {isSep : Char → Bool} {as bs : List Char} (has : ∀ c ∈ as, isSep c = true)
    (hbs : ∀ c ∈ bs, isSep c = true) (cs : List Char) :
    words isSep (as ++ cs ++ bs) = words isSep cs := by
  have hfront : ∀ ds, words isSep (as ++ ds) = words isSep ds := by
    intro ds
    induction as with
    | nil => rfl
    | cons a as ih =>
      rw [List.cons_append, words_cons_sep (has a (by simp)), ih fun c hc => has c (by simp [hc])]
  have hback : words isSep (cs ++ bs) = words isSep cs := by
    cases bs with
    | nil => rw [List.append_nil]
    | cons b bs =>
      have hnone : words isSep bs = [] :=
        words_eq_nil_iff.2 (List.all_eq_true.2 fun c hc => hbs c (by simp [hc]))
      rw [words_append_sep (hbs b (by simp)), hnone, List.append_nil]
  rw [List.append_assoc, hfront, hback]

theorem intercalate_cons {sep w : List Char} {ws : List (List Char)} (h : ws ≠ []) :
    sep.intercalate (w :: ws) = w ++ sep ++ sep.intercalate ws := by
  cases ws with
  | nil => exact absurd rfl h
  | cons w' ws => exact List.intercalate_cons_cons

theorem intercalate_consHead {sep : List Char} {ws : List (List Char)} (h : ws ≠ []) (c : Char) :
    sep.intercalate (consHead c ws) = c :: sep.intercalate ws := by
  cases ws with
  | nil => exact absurd rfl h
  | cons w ws =>
    cases ws with
    | nil => rw [consHead, List.intercalate_singleton, List.intercalate_singleton]
    | cons w' ws =>
      rw [consHead, List.intercalate_cons_cons, List.intercalate_cons_cons, List.append_assoc,
        List.append_assoc, List.cons_append]

/-- A text that does not end with a blank, each stretch of blanks as one space: its words with spaces
between them, behind a space if it begins with a blank. -/
theorem collapse_eq {cs : List Char} (hlast : ∀ c, cs.getLast? = some c → isBlank c = false) :
    collapse cs =
      (if cs.head?.any isBlank then [' '] else []) ++ [' '].intercalate (words isBlank cs) := by
  induction cs with
  | nil => rfl
  | cons c cs ih =>
    cases cs with
    | nil =>
      have hc : isBlank c = false := hlast c rfl
      have hend : ∀ d, ([] : List Char).head? = some d → isBlank d = true := by simp
      rw [words_cons_of_sep hc hend, words_nil, List.intercalate_singleton]
      simp [collapse, hc]
    | cons d cs =>
      have ih := ih fun e he => hlast e (by rw [List.getLast?_cons_cons, he])
      -- the last character is one of a word
      have hwords : words isBlank (d :: cs) ≠ [] := by
        intro hnil
        have hblank := List.all_eq_true.1 (words_eq_nil_iff.1 hnil) _ (List.getLast_mem (List.cons_ne_nil d cs))
        rw [hlast _ (by rw [List.getLast?_cons_cons, List.getLast?_eq_some_getLast])] at hblank
        cases hblank
      rw [List.head?_cons, Option.any_some] at ih
      rw [collapse, List.head?_cons, Option.any_some, List.head?_cons, Option.any_some, ih]
      cases hc : isBlank c with
      | true =>
        rw [words_cons_sep hc]
        cases isBlank d <;> rfl
      | false =>
        cases hd : isBlank d with
        | true =>
          -- the character is a word of its own, with a space behind it
          have hsep : ∀ e, (d :: cs).head? = some e → isBlank e = true := by
            rintro e ⟨rfl⟩
            exact hd
          rw [words_cons_of_sep hc hsep, intercalate_cons hwords]
          rfl
        | false =>
          rw [words_cons_cons hc hd, intercalate_consHead hwords]
          rfl

namespace Item

theorem token_phrase (body : List Char) : (phrase body).token = (phrase body).meaning := by
  obtain ⟨as, bs, has, hbs, hbody⟩ := exists_eq_append_strip Text.isBlank body
  have hwords : words Text.isBlank body = words Text.isBlank (strip Text.isBlank body) := by
    calc words Text.isBlank body = words Text.isBlank (as ++ strip Text.isBlank body ++ bs) := by
          rw [← hbody]
      _ = words Text.isBlank (strip Text.isBlank body) := words_between_seps has hbs _
  have hhead : (strip Text.isBlank body).head?.any Text.isBlank = false := by
    cases hfirst : (strip Text.isBlank body).head? with
    | none => rfl
    | some c => exact head?_strip hfirst
  show [' '].intercalate (words Text.isBlank body) = collapse (strip Text.isBlank body)
  rw [hwords, collapse_eq fun c => getLast?_strip, hhead]
  rfl

theorem token_run {body : List Char} (h : ∀ c ∈ body, isFiller c = false) :
    (run body).token = (run body).meaning := by
  apply strip_eq_self
  intro c hc
  have hnot := h c hc
  rw [isFiller, Bool.or_eq_false_iff] at hnot
  exact hnot.2

end Item

/-- A word has a character, and none that is filler. -/
theorem Written.of_run_mem {written : List Item} {cs : List Char} (h : Written written cs)
    {body : List Char} (hmem : Item.run body ∈ written) :
    body ≠ [] ∧ ∀ c ∈ body, isFiller c = false := by
  induction h with
  | done => cases hmem
  | blank _ _ ih => exact ih hmem
  | phrase _ _ ih =>
    rcases List.mem_cons.1 hmem with hmem | hmem
    · cases hmem
    · exact ih hmem
  | word hne hbody _ _ ih =>
    rcases List.mem_cons.1 hmem with hmem | hmem
    · cases hmem
      exact ⟨hne, hbody⟩
    · exact ih hmem

/-- The token of a written item is what the item means, and only a blank item makes none. -/
theorem Written.token_of_mem {written : List Item} {cs : List Char} (h : Written written cs)
    {item : Item} (hmem : item ∈ written) :
    item.token = item.meaning ∧ (item.token = [] ↔ item.isBlank = true) := by
  cases item with
  | phrase body => exact ⟨Item.token_phrase body, intercalate_words_eq_nil_iff⟩
  | run body =>
    obtain ⟨hne, hbody⟩ := h.of_run_mem hmem
    refine ⟨Item.token_run hbody, ?_⟩
    rw [Item.token_run hbody]
    exact ⟨fun hnil => absurd hnil hne, fun hblank => by cases hblank⟩

/-! ## Tokens -/

theorem isProse_iff_filter {cs : List Char} :
    IsProse cs ↔
      cs.filter isAlphanumeric = [] ∨ ∃ c ∈ cs.filter isAlphanumeric, isAsciiDigit c = false := by
  rw [IsProse, or_comm, List.filter_eq_nil_iff]
  simp only [List.mem_filter, Bool.not_eq_true, and_assoc]

/-- A text is read as one number unless it is prose. -/
theorem soleNumber?_eq (cs : List Char) :
    soleNumber? cs = if IsProse cs then none else some (cs.filter isAlphanumeric) := by
  have hnumber : (!(cs.filter isAlphanumeric).isEmpty && (cs.filter isAlphanumeric).all isAsciiDigit) =
      !decide (IsProse cs) := by
    rw [Bool.eq_iff_iff, Bool.and_eq_true, Bool.not_eq_true', Bool.not_eq_true', decide_eq_false_iff_not,
      isProse_iff_filter, not_or, List.isEmpty_eq_false_iff, List.all_eq_true]
    simp
  unfold soleNumber?
  simp only [hnumber]
  by_cases h : IsProse cs
  · simp [h]
  · simp [h]

theorem tokensOf_of_written {written : List Item} {cs : List Char} (h : Written written cs)
    (hprose : IsProse cs) :
    tokensOf cs = (written.filter fun item => !item.isBlank).map Item.meaning := by
  have hkept : ∀ item ∈ written, (!item.token.isEmpty) = !item.isBlank := by
    intro item hitem
    rw [Bool.eq_iff_iff, Bool.not_eq_true', Bool.not_eq_true', List.isEmpty_eq_false_iff, ne_eq,
      (h.token_of_mem hitem).2, Bool.not_eq_true]
  rw [tokensOf, soleNumber?_eq, if_pos hprose, items_of_written h]
  show (written.map Item.token).filter _ = _
  rw [List.filter_map]
  show (written.filter fun item => !item.token.isEmpty).map Item.token = _
  rw [List.filter_congr hkept]
  apply List.map_congr_left
  intro item hitem
  exact (h.token_of_mem (List.mem_filter.1 hitem).1).1

/-- **Search texts are read back as they are written.** A text of words and phrases, in small letters and
not a number, has the tokens that its items mean, in order and without those that are blank, as many as the
cap allows; it has none exactly if all of its items are blank. -/
theorem words_of_written {written : List Item} {text : String} (h : Written written text.toList)
    (hlower : lower text.toList = text.toList) (hprose : IsProse text.toList) {cap : Nat}
    (hcap : 1 ≤ cap) :
    wordsOf text cap =
        ((written.filter fun item => !item.isBlank).take cap).map
          (fun item => String.ofList item.meaning) ∧
      (Tokens.parse text cap = none ↔ ∀ item ∈ written, item.isBlank = true) := by
  have hwords : wordsOf text cap =
      ((written.filter fun item => !item.isBlank).take cap).map
        (fun item => String.ofList item.meaning) := by
    rw [wordsOf_eq, hlower, tokensOf_of_written h hprose, ← List.map_take, List.map_map]
    rfl
  refine ⟨hwords, ?_⟩
  rw [parse_eq_none_iff_wordsOf, hwords, List.map_eq_nil_iff, List.take_eq_nil_iff]
  constructor
  · rintro (hzero | hnil)
    · omega
    · intro item hitem
      simpa using List.filter_eq_nil_iff.1 hnil item hitem
  · intro hblank
    right
    rw [List.filter_eq_nil_iff]
    intro item hitem
    simp [hblank item hitem]

/-- A word that follows a phrase at once, and an empty phrase that leaves its place to the next item. -/
theorem words_of_written_city :
    Written [.phrase "new  york".toList, .run "city".toList, .phrase [], .run "42".toList]
        " \"new  york\"city \"\" 42 ".toList ∧
      lower " \"new  york\"city \"\" 42 ".toList = " \"new  york\"city \"\" 42 ".toList ∧
      IsProse " \"new  york\"city \"\" 42 ".toList ∧ 1 ≤ 3 ∧
      wordsOf " \"new  york\"city \"\" 42 " 3 = ["new york", "city", "42"] := by
  have hdigits : ∀ c ∈ "42".toList, isFiller c = false := by
    intro c hc
    have hc : c = '4' ∨ c = '2' := by simpa using hc
    rcases hc with rfl | rfl
    all_goals decide
  have hletters : ∀ c ∈ "city".toList, isFiller c = false := by
    intro c hc
    have hc : c = 'c' ∨ c = 'i' ∨ c = 't' ∨ c = 'y' := by simpa using hc
    rcases hc with rfl | rfl | rfl | rfl
    all_goals decide
  have hspace : ∀ cs c, (' ' :: cs).head? = some c → isBlank c = true := by
    intro cs c hc
    cases hc
    decide
  have hnumber : Written [.run "42".toList] ("42".toList ++ [' ']) :=
    .word (by decide) hdigits (hspace []) (.blank (by decide) .done)
  have hempty : Written [.phrase [], .run "42".toList] " \"\" 42 ".toList :=
    .blank (by decide) (.phrase (by decide) (.blank (by decide) hnumber))
  have hcity : Written [.run "city".toList, .phrase [], .run "42".toList]
      ("city".toList ++ " \"\" 42 ".toList) :=
    .word (by decide) hletters (hspace _) hempty
  have hwritten : Written [.phrase "new  york".toList, .run "city".toList, .phrase [], .run "42".toList]
      " \"new  york\"city \"\" 42 ".toList :=
    .blank (by decide) (.phrase (by decide) hcity)
  have hlower : lower " \"new  york\"city \"\" 42 ".toList = " \"new  york\"city \"\" 42 ".toList := by
    decide
  have hprose : IsProse " \"new  york\"city \"\" 42 ".toList := by decide
  have hcap : 1 ≤ 3 := by decide
  refine ⟨hwritten, hlower, hprose, hcap, ?_⟩
  rw [(words_of_written hwritten hlower hprose hcap).1]
  decide

end RelevanceSql.Search
