import RelevanceSql.Proofs.SearchGrammar
import RelevanceSql.Proofs.Subsequences

/-!
# Words and where they start

Two matchers look for words at spaces. Their patterns are of one kind: a first word, and a chain of further
ones with a space in front of each (`parts?_wordPattern`). For the matcher of word starts these are the
words of the token, and for that of acronyms they are its letters and digits, one by one, which no pattern
reads as anything but themselves.

That a text has the words in order behind the first is the whole meaning of such a pattern
(`like_wordPattern`). For letters it can be said by places: as no letter is a space, the next space lies
behind the letter before it, so going from letter to letter in the text is going up from word start to word
start (`inOrder_letters_iff`).
-/

namespace RelevanceSql

open RelevanceSql.Text RelevanceSql.Sql

namespace Text

/-! ## Texts made of words -/

/-- A text is made of words with separators between them, and maybe around them. -/
inductive MadeOf (isSep : Char → Bool) : List (List Char) → List Char → Prop where
  | done : MadeOf isSep [] []
  | sep {c : Char} {words : List (List Char)} {rest : List Char} (hc : isSep c = true)
      (hrest : MadeOf isSep words rest) : MadeOf isSep words (c :: rest)
  | word {word : List Char} {words : List (List Char)} {rest : List Char} (hne : word ≠ [])
      (hword : ∀ c ∈ word, isSep c = false) (hend : ∀ c, rest.head? = some c → isSep c = true)
      (hrest : MadeOf isSep words rest) : MadeOf isSep (word :: words) (word ++ rest)

section MadeOf

variable {isSep : Char → Bool}

theorem words_of_madeOf {ws : List (List Char)} {text : List Char} (h : MadeOf isSep ws text) :
    words isSep text = ws := by
  induction h with
  | done => exact words_nil isSep
  | sep hc _ ih => rw [Search.words_cons_sep hc, ih]
  | @word word ws rest hne hword hend _ ih =>
    have hone : words isSep word = [word] := by
      rw [words, fields_of_no_sep hword]
      simpa using hne
    cases rest with
    | nil =>
      rw [words_nil] at ih
      rw [List.append_nil, hone, ih]
    | cons c rest =>
      have hc := hend c rfl
      rw [Search.words_cons_sep hc] at ih
      rw [words_append_sep hc, hone, ih, List.singleton_append]

theorem exists_madeOf (isSep : Char → Bool) (text : List Char) : ∃ ws, MadeOf isSep ws text := by
  match text with
  | [] => exact ⟨[], .done⟩
  | c :: cs =>
    by_cases hc : isSep c = true
    · obtain ⟨ws, hws⟩ := exists_madeOf isSep cs
      exact ⟨ws, .sep hc hws⟩
    · -- the word goes as far as the next separator
      have hshorter := (cs.dropWhile_suffix fun c => !isSep c).length_le
      obtain ⟨ws, hws⟩ := exists_madeOf isSep (cs.dropWhile fun c => !isSep c)
      refine ⟨(c :: cs.takeWhile fun c => !isSep c) :: ws, ?_⟩
      have hsplit : c :: cs = (c :: cs.takeWhile fun c => !isSep c) ++ cs.dropWhile fun c => !isSep c := by
        rw [List.cons_append, List.takeWhile_append_dropWhile]
      rw [hsplit]
      refine .word (List.cons_ne_nil _ _) (fun d hd => ?_) (fun d hd => ?_) hws
      · rcases List.mem_cons.1 hd with rfl | hd
        · exact Bool.eq_false_iff.2 hc
        · simpa using List.mem_takeWhile_imp hd
      · have hnot := List.head?_dropWhile_not (fun c => !isSep c) cs
        rw [hd] at hnot
        simpa using hnot
termination_by text.length

/-- The words of a text are those that it is made of. -/
theorem madeOf_iff {ws : List (List Char)} {text : List Char} :
    MadeOf isSep ws text ↔ words isSep text = ws := by
  refine ⟨words_of_madeOf, fun h => ?_⟩
  obtain ⟨ws', hws'⟩ := exists_madeOf isSep text
  rw [← h, words_of_madeOf hws']
  exact hws'

end MadeOf

/-! ## Word starts -/

/-- The first place of a text, and each place behind a space. -/
def IsWordStart (text : List Char) (i : Nat) : Prop :=
  i = 0 ∨ ∃ j, i = j + 1 ∧ text[j]? = some ' '

/-- Behind a letter, a space and another letter come next if the other letter stands at a word start. -/
theorem exists_space_letter_iff {text : List Char} {n : Nat} (hn : text[n]? ≠ some ' ') (c : Char)
    (p : List Char → Prop) :
    (∃ front rest, text.drop (n + 1) = front ++ [' ', c] ++ rest ∧ p rest) ↔
      ∃ i, n < i ∧ IsWordStart text i ∧ text[i]? = some c ∧ p (text.drop (i + 1)) := by
  constructor
  · rintro ⟨front, rest, hdrop, hrest⟩
    have hplace : ∀ k, text[n + 1 + k]? = (front ++ [' ', c] ++ rest)[k]? := by
      intro k
      rw [← hdrop, List.getElem?_drop]
    refine ⟨n + 1 + (front.length + 1), by omega, .inr ⟨n + 1 + front.length, rfl, ?_⟩, ?_, ?_⟩
    · rw [hplace]
      simp
    · rw [hplace]
      simp
    · have hbehind : text.drop (n + 1 + (front.length + 1) + 1) = rest := by
        rw [Nat.add_assoc, ← List.drop_drop, hdrop]
        exact List.drop_left' (by simp)
      rw [hbehind]
      exact hrest
  · rintro ⟨i, hni, hstart, hc, hrest⟩
    obtain ⟨j, rfl, hspace⟩ : ∃ j, i = j + 1 ∧ text[j]? = some ' ' := by
      rcases hstart with rfl | hstart
      · omega
      · exact hstart
    -- the space is not the letter that has been passed
    have hnj : n ≠ j := by
      rintro rfl
      exact hn hspace
    obtain ⟨hj, hspace⟩ := List.getElem?_eq_some_iff.1 hspace
    obtain ⟨hj', hc⟩ := List.getElem?_eq_some_iff.1 hc
    refine ⟨(text.drop (n + 1)).take (j - (n + 1)), text.drop (j + 1 + 1), ?_, hrest⟩
    have hbehind : (text.drop (n + 1)).drop (j - (n + 1)) = ' ' :: c :: text.drop (j + 1 + 1) := by
      rw [List.drop_drop, Nat.add_sub_cancel' (by omega), List.drop_eq_getElem_cons hj, hspace,
        List.drop_eq_getElem_cons hj', hc]
    rw [List.append_assoc]
    exact (List.take_append_drop _ _).symm.trans (congrArg _ hbehind)

/-- From a letter on, further letters stand behind spaces in order if they stand at rising word starts. -/
theorem inOrder_letters_iff {letters text : List Char} (hletters : ∀ c ∈ letters, c ≠ ' ') {n : Nat}
    (hn : text[n]? ≠ some ' ') :
    InOrder (letters.map fun c => [' ', c]) (text.drop (n + 1)) ↔
      ∃ starts : List Nat, (n :: starts).Pairwise (· < ·) ∧ (∀ i ∈ starts, IsWordStart text i) ∧
        starts.map (text[·]?) = letters.map some := by
  -- the place of the letter that has been passed goes up with every letter
  induction letters generalizing n with
  | nil =>
    refine iff_of_true (inOrder_nil _) ⟨[], List.pairwise_singleton _ _, ?_, rfl⟩
    exact fun i hi => absurd hi List.not_mem_nil
  | cons c letters ih =>
    have hrest : ∀ d ∈ letters, d ≠ ' ' := fun d hd => hletters d (List.mem_cons_of_mem c hd)
    have hc : ∀ {i : Nat}, text[i]? = some c → text[i]? ≠ some ' ' := by
      intro i hi hspace
      rw [hi] at hspace
      exact hletters c List.mem_cons_self (Option.some.inj hspace)
    rw [List.map_cons, InOrder, exists_space_letter_iff hn]
    constructor
    · rintro ⟨i, hni, hstart, hi, horder⟩
      obtain ⟨starts, hrising, hstarts, hat⟩ := (ih hrest (hc hi)).1 horder
      refine ⟨i :: starts, List.pairwise_cons.2 ⟨fun k hk => ?_, hrising⟩, fun k hk => ?_, ?_⟩
      · rcases List.mem_cons.1 hk with rfl | hk
        · exact hni
        · exact Nat.lt_trans hni (List.rel_of_pairwise_cons hrising hk)
      · rcases List.mem_cons.1 hk with rfl | hk
        · exact hstart
        · exact hstarts k hk
      · rw [List.map_cons, List.map_cons, hi, hat]
    · rintro ⟨starts, hrising, hstarts, hat⟩
      cases starts with
      | nil => cases hat
      | cons i starts =>
        rw [List.map_cons, List.map_cons] at hat
        obtain ⟨hi, hat⟩ := List.cons.inj hat
        refine ⟨i, List.rel_of_pairwise_cons hrising List.mem_cons_self, hstarts i List.mem_cons_self, hi, ?_⟩
        exact (ih hrest (hc hi)).2
          ⟨starts, hrising.of_cons, fun k hk => hstarts k (List.mem_cons_of_mem i hk), hat⟩

/-- The word starts of a text, in rising order and from its first place on, at which given letters stand. -/
structure AtWordStarts (letters text : List Char) (starts : List Nat) : Prop where
  rising : starts.Pairwise (· < ·)
  first : starts.head? = some 0
  isStart : ∀ i ∈ starts, IsWordStart text i
  letters : starts.map (text[·]?) = letters.map some

/-- A text that begins with a letter and has others behind spaces has them at word starts. -/
theorem exists_atWordStarts_iff {c : Char} {letters text : List Char} (hletters : ∀ d ∈ c :: letters, d ≠ ' ') :
    (∃ starts, AtWordStarts (c :: letters) text starts) ↔
      ∃ rest, text = [c] ++ rest ∧ InOrder (letters.map fun d => [' ', d]) rest := by
  have hothers : ∀ d ∈ letters, d ≠ ' ' := fun d hd => hletters d (List.mem_cons_of_mem c hd)
  have hfirst : some c ≠ some ' ' := fun h => hletters c List.mem_cons_self (Option.some.inj h)
  constructor
  · rintro ⟨starts, h⟩
    obtain ⟨starts, rfl⟩ : ∃ others, starts = 0 :: others := List.head?_eq_some_iff.1 h.first
    obtain ⟨hzero, hat⟩ := List.cons.inj h.letters
    cases text with
    | nil => cases hzero
    | cons d rest =>
      cases hzero
      exact ⟨rest, rfl, (inOrder_letters_iff hothers hfirst).2
        ⟨starts, h.rising, fun i hi => h.isStart i (List.mem_cons_of_mem 0 hi), hat⟩⟩
  · rintro ⟨rest, rfl, horder⟩
    have hzero : ([c] ++ rest)[0]? ≠ some ' ' := hfirst
    obtain ⟨starts, hrising, hstarts, hat⟩ := (inOrder_letters_iff hothers hzero).1 horder
    refine ⟨0 :: starts, hrising, rfl, fun i hi => ?_, congrArg (some c :: ·) hat⟩
    rcases List.mem_cons.1 hi with rfl | hi
    · exact .inl rfl
    · exact hstarts i hi

end Text

/-! ## Patterns of words -/

namespace Matcher

/-- A pattern of words with `%` and a space between them is a first word and a chain of further ones. -/
theorem parts?_wordPattern (classes : Bool) (word : List Char) (words : List (List Char)) :
    parts? classes (['%', ' '].intercalate ((word :: words).map escape) ++ ['%']) =
      some (word.map .literal ++ (chain (words.map (' ' :: ·)) ++ [.anyText])) := by
  have hspace : (words.map escape).flatMap (fun w => ['%', ' '] ++ w) =
      (words.map (' ' :: ·)).flatMap fun w => '%' :: escape w := by
    rw [List.flatMap_map, List.flatMap_map]
    rfl
  rw [List.map_cons, intercalate_cons_eq_flatMap, hspace, List.append_assoc, parts?_escape_append,
    parts?_chain_append, parts?_percent, parts?_nil]
  rfl

/-- Such a pattern fits what begins with the first word and has the others behind it, each after a space. -/
theorem like_wordPattern {classes : Bool} {word : List Char} {words : List (List Char)} {value : String} :
    Like classes value (String.ofList (['%', ' '].intercalate ((word :: words).map escape) ++ ['%'])) ↔
      ∃ rest, value.toList = word ++ rest ∧ InOrder (words.map (' ' :: ·)) rest := by
  rw [like_iff (by rw [String.toList_ofList, parts?_wordPattern]), fits_literals_append]
  simp only [fits_chain]

theorem isSpecial_of_isAlphanumeric {c : Char} (h : isAlphanumeric c = true) : isSpecial c = false := by
  rw [Bool.eq_false_iff]
  intro hspecial
  simp only [isSpecial, escapeMark, Bool.or_eq_true, beq_iff_eq] at hspecial
  rcases hspecial with ((rfl | rfl) | rfl) | rfl
  all_goals exact absurd h (by decide)

theorem ne_space_of_isAlphanumeric {c : Char} (h : isAlphanumeric c = true) : c ≠ ' ' := by
  rintro rfl
  exact absurd h (by decide)

/-- Letters and digits are their own words, and there is nothing in them to escape. -/
theorem acronymPattern?_eq {token : List Char} {c : Char} {letters : List Char}
    (h : token.filter isAlphanumeric = c :: letters) :
    acronymPattern? token =
      some (['%', ' '].intercalate (([c] :: letters.map fun d => [d]).map escape) ++ ['%']) := by
  have hescape : (c :: letters).map (fun d => [d]) = ((c :: letters).map fun d => [d]).map escape := by
    rw [List.map_map]
    apply List.map_congr_left
    intro d hd
    rw [← h] at hd
    rw [Function.comp_apply, escape, isSpecial_of_isAlphanumeric (List.mem_filter.1 hd).2]
    rfl
  rw [acronymPattern?, h]
  exact congrArg (fun ws => some (['%', ' '].intercalate ws ++ ['%'])) hescape

/-- The pattern of an acronym is that of its letters and digits as words. -/
theorem exists_acronym_pattern (classes : Bool) (d : Dialect) (column : String) (weight : Float) {text : String}
    {c : Char} {letters : List Char} (h : text.toList.filter isAlphanumeric = c :: letters) :
    ∃ pattern, scoreText .acronym d column weight text =
        ⟨caseWhen (like column) weight, [.text pattern]⟩ ∧
      ∀ value : String, Like classes value pattern ↔
        ∃ rest, value.toList = [c] ++ rest ∧ InOrder (letters.map fun e => [' ', e]) rest := by
  refine ⟨String.ofList
    (['%', ' '].intercalate (([c] :: letters.map fun e => [e]).map escape) ++ ['%']), ?_, fun value => ?_⟩
  · simp only [scoreText, acronymPattern?_eq h]
    rfl
  · rw [like_wordPattern, List.map_map]
    rfl

/-- **Word starts.** If a text has letters or digits, the matcher for acronyms binds a pattern that fits exactly
the texts in which these stand in order at rising word starts, the first of them at the first place; with two
of them it fits no text without spaces. If a text is made of words, the matcher for word starts binds a pattern
that fits exactly the texts that begin with the first word and have the others behind it in order and without
overlap, with a space in front of each, whatever characters the words have. -/
theorem like_wordStarts (classes : Bool) (d : Dialect) (column : String) (weight : Float) (text : String) :
    ((∃ c ∈ text.toList, isAlphanumeric c = true) →
      ∃ pattern, scoreText .acronym d column weight text =
          ⟨caseWhen (like column) weight, [.text pattern]⟩ ∧
        (∀ value : String, Like classes value pattern ↔
          ∃ starts, AtWordStarts (text.toList.filter isAlphanumeric) value.toList starts) ∧
        (2 ≤ (text.toList.filter isAlphanumeric).length → ∀ value : String, ' ' ∉ value.toList →
          ¬Like classes value pattern)) ∧
    ∀ first others, MadeOf isBlank (first :: others) text.toList →
      ∃ pattern, scoreText .startOfWords d column weight text =
          ⟨caseWhen (like column) weight, [.text pattern]⟩ ∧
        ∀ value : String, Like classes value pattern ↔
          ∃ rest, value.toList = first ++ rest ∧ InOrder (others.map (' ' :: ·)) rest := by
  refine ⟨fun hsome => ?_, fun first others hmade => ⟨_, rfl, fun value => ?_⟩⟩
  · obtain ⟨c, letters, hfilter⟩ : ∃ c letters, text.toList.filter isAlphanumeric = c :: letters := by
      obtain ⟨c, hc⟩ := hsome
      exact List.exists_cons_of_ne_nil (List.ne_nil_of_mem (List.mem_filter.2 hc))
    have hletters : ∀ e ∈ c :: letters, e ≠ ' ' := by
      intro e he
      rw [← hfilter] at he
      exact ne_space_of_isAlphanumeric (List.mem_filter.1 he).2
    obtain ⟨pattern, hscore, hlike⟩ := exists_acronym_pattern classes d column weight hfilter
    refine ⟨pattern, hscore, fun value => ?_, fun htwo value hspaceless => ?_⟩
    · rw [hlike, hfilter, exists_atWordStarts_iff hletters]
    · rw [hlike]
      rintro ⟨rest, hvalue, horder⟩
      rw [hfilter] at htwo
      cases letters with
      | nil => exact absurd htwo (by simp)
      | cons e letters =>
        -- in front of the second letter there is a space
        obtain ⟨front, back, hrest, -⟩ := horder
        exact hspaceless (by rw [hvalue, hrest]; simp)
  · rw [wordsPattern, words_of_madeOf hmade, like_wordPattern]

/-- Two words, of which the acronym takes a letter each and the underscore is no wildcard. -/
theorem like_wordStarts_underscore :
    (∃ c ∈ "f_ b".toList, isAlphanumeric c = true) ∧
      2 ≤ ("f_ b".toList.filter isAlphanumeric).length ∧ ' ' ∉ "foobar".toList ∧
      MadeOf isBlank ["f_".toList, "b".toList] "f_ b".toList ∧
      (∃ pattern, scoreText .acronym .mysql "c" 2.0 "f_ b" =
          ⟨caseWhen (like "c") 2.0, [.text pattern]⟩ ∧
        Like true "foo  bar" pattern ∧ ¬Like true "foobar" pattern) ∧
      ∃ pattern, scoreText .startOfWords .mysql "c" 2.0 "f_ b" =
          ⟨caseWhen (like "c") 2.0, [.text pattern]⟩ ∧
        Like true "f_oo  bar" pattern ∧ ¬Like true "foo bar" pattern := by
  have hletter : ∃ c ∈ "f_ b".toList, isAlphanumeric c = true := ⟨'f', by decide, by decide⟩
  have htwo : 2 ≤ ("f_ b".toList.filter isAlphanumeric).length := by decide
  have hspaceless : ' ' ∉ "foobar".toList := by decide
  have hmade : MadeOf isBlank ["f_".toList, "b".toList] "f_ b".toList := madeOf_iff.2 (by decide)
  obtain ⟨hacronym, hwords⟩ := like_wordStarts true .mysql "c" 2.0 "f_ b"
  refine ⟨hletter, htwo, hspaceless, hmade, ?_, ?_⟩
  · obtain ⟨pattern, hscore, hlike, hapart⟩ := hacronym hletter
    refine ⟨pattern, hscore, (hlike _).2 ⟨[0, 5], by decide, rfl, fun i hi => ?_, by decide⟩,
      hapart htwo _ hspaceless⟩
    rcases List.mem_cons.1 hi with rfl | hi
    · exact .inl rfl
    · rw [List.mem_singleton.1 hi]
      exact .inr ⟨4, rfl, rfl⟩
  · obtain ⟨pattern, hscore, hlike⟩ := hwords _ _ hmade
    refine ⟨pattern, hscore, (hlike _).2 ⟨"oo  bar".toList, rfl, "oo ".toList, "ar".toList, rfl, trivial⟩, ?_⟩
    rw [hlike]
    rintro ⟨rest, hrest, -⟩
    exact absurd hrest (by simp)

end Matcher

end RelevanceSql
