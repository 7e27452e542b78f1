import Mathlib.Data.Rat.Floor
import RelevanceSql.Number.Reading
import RelevanceSql.Proofs.Phrases
import RelevanceSql.Proofs.Points

/-!
# Stronger and weaker matches

A text that begins with a token also begins with the token's first word and has the others behind it, and a
text with these words in order has the token's visible characters in order. So what the matcher for the start
of a column finds is found by the matcher for word starts, and what this one finds by the matcher for
consecutive characters. The first step rests on tokens having single spaces only: of a text with two spaces in
a row the words are written with one.

A text that equals the phrase of a search has the phrase in it, begins with the first token, and has the
characters of every token in order.

A matcher that gives its whole weight or nothing gives no text more than one that it finds. The matcher for
consecutive characters gives a share that shrinks with the length of the column, so that it compares texts by
their lengths (`stronger_matches`). With this matcher a long text that begins with a token is worth less than
a short one that has the characters somewhere (`shorter_match_scores_more`). A text that is nothing but the
token is as short as a text with its characters can be, and so it is worth most.
-/

namespace RelevanceSql

open RelevanceSql.Text RelevanceSql.Sql RelevanceSql.Search

namespace Text

/-- Words one behind the other are in order. -/
theorem inOrder_flatten_append (words : List (List Char)) (rest : List Char) :
    InOrder words (words.flatten ++ rest) := by
  induction words with
  | nil => exact inOrder_nil _
  | cons word words ih => exact ⟨[], words.flatten ++ rest, by simp, ih⟩

/-- The characters of words are in order where the words are, with a character in front of each. -/
theorem flatten_sublist_of_inOrder {words : List (List Char)} {c : Char} {text : List Char}
    (h : InOrder (words.map (c :: ·)) text) : words.flatten.Sublist text := by
  induction words generalizing text with
  | nil => exact List.nil_sublist text
  | cons word words ih =>
    obtain ⟨front, rest, rfl, hrest⟩ := h
    have hword : word.Sublist (front ++ c :: word) :=
      (List.sublist_cons_self c word).trans (List.sublist_append_right front _)
    exact hword.append (ih hrest)

end Text

/-! ## Texts without spaces -/

namespace Sql

/-- Leaving out a single character is leaving out each of its occurrences. -/
theorem removeAll_space (cs : List Char) : removeAll [' '] cs = cs.filter (· ≠ ' ') := by
  induction cs with
  | nil => rfl
  | cons c cs ih =>
    rw [removeAll, withoutFrom, ← removeAll]
    by_cases hc : c = ' '
    · subst hc
      have hfound : [' '] ≠ [] ∧ [' '] <+: ' ' :: cs := by simp
      rw [if_pos hfound, List.filter_cons_of_neg (by simp)]
      exact ih
    · have hnot : ¬([' '] ≠ [] ∧ [' '] <+: c :: cs) := by simpa using Ne.symm hc
      rw [if_neg hnot, ih, List.filter_cons_of_pos (by simpa using hc)]

/-- All dialects count all characters of a text without spaces: none stands at its end. -/
theorem Dialect.measure_removeAll_space (d : Dialect) (cs : List Char) :
    d.measure (removeAll [' '] cs) = (removeAll [' '] cs).length := by
  cases d with
  | sqlsrv =>
    have hnone : ∀ c ∈ (removeAll [' '] cs).reverse, c ≠ ' ' := by
      intro c hc
      rw [List.mem_reverse, removeAll_space] at hc
      exact of_decide_eq_true (List.mem_filter.1 hc).2
    have hkept : (removeAll [' '] cs).reverse.dropWhile (· == ' ') = (removeAll [' '] cs).reverse := by
      refine List.dropWhile_eq_self_iff.2 fun hlength hspace => ?_
      exact hnone _ (List.getElem_mem hlength) (eq_of_beq hspace)
    show ((removeAll [' '] cs).reverse.dropWhile (· == ' ')).length = _
    rw [hkept, List.length_reverse]
  | mysql | pgsql | sqlite | generic => rfl

end Sql

namespace Matcher

theorem ne_space_of_visible {c : Char} (h : isBlank c = false) : c ≠ ' ' := by
  rintro rfl
  cases h

/-- The blanks of a token are spaces, and without them it is its visible characters. -/
theorem removeAll_space_of_isToken {token : List Char} (h : IsToken token) :
    removeAll [' '] token = visible token := by
  rw [removeAll_space, visible]
  refine List.filter_congr fun c hc => ?_
  cases hblank : isBlank c with
  | true =>
    obtain ⟨front, back, htoken⟩ := List.append_of_mem hc
    obtain ⟨hspace, -⟩ := h.spaced front c back htoken hblank
    simp [hspace]
  | false => simp [ne_space_of_visible hblank]

/-- Where the visible characters of a token are in order, they are so without the spaces. -/
theorem visible_sublist_removeAll {token text : List Char} (h : (visible token).Sublist text) :
    (visible token).Sublist (removeAll [' '] text) := by
  have hkept : (visible token).filter (· ≠ ' ') = visible token := by
    refine List.filter_eq_self.2 fun c hc => ?_
    have hvisible : isBlank c = false := by simpa using (List.mem_filter.1 hc).2
    simpa using ne_space_of_visible hvisible
  rw [removeAll_space, ← hkept]
  exact h.filter _

/-! ## Patterns of a token -/

section Patterns

variable {classes : Bool} {token : List Char} {value : String}

/-- The pattern for the start of a column fits the texts that begin with the token. -/
theorem like_startPattern :
    Like classes value (String.ofList (startPattern token)) ↔ token <+: value.toList := by
  rw [like_iff (by rw [String.toList_ofList, parts?_startPattern]), fits_start]

/-- The pattern for a part of a column fits the texts in which the token occurs. -/
theorem like_containsPattern :
    Like classes value (String.ofList (containsPattern token)) ↔ token <:+: value.toList := by
  rw [like_iff (by rw [String.toList_ofList, parts?_containsPattern]), fits_contains]

/-- The pattern for consecutive characters fits the texts that have them in order. -/
theorem like_subsequencePattern {pattern : List Char} (h : subsequencePattern? token = some pattern) :
    Like classes value (String.ofList pattern) ↔ (visible token).Sublist value.toList := by
  cases hvisible : visible token with
  | nil =>
    rw [subsequencePattern?, hvisible] at h
    cases h
  | cons c cs =>
    rw [subsequencePattern?_of_visible hvisible] at h
    cases h
    have hparts : parts? classes (String.ofList (((visible token).map fun c => [c]).flatMap
        (fun word => '%' :: escape word) ++ ['%'])).toList =
          some (chain ((visible token).map fun c => [c]) ++ [.anyText]) := by
      rw [String.toList_ofList, parts?_chain_append, parts?_percent, parts?_nil]
      rfl
    rw [like_iff hparts, fits_chain, inOrder_singletons, hvisible]

/-- A token has words. -/
theorem exists_words (h : IsToken token) : ∃ word words, Text.words isBlank token = word :: words := by
  apply List.exists_cons_of_ne_nil
  intro hnil
  obtain ⟨c, hc, hvisible⟩ := h.exists_head
  have hblank := List.all_eq_true.1 (words_eq_nil_iff.1 hnil) c (List.mem_of_mem_head? hc)
  rw [hvisible] at hblank
  cases hblank

/-- A text that begins with a token begins with its first word, and the others follow. -/
theorem like_words_of_like_start (h : IsToken token)
    (hstart : Like classes value (String.ofList (startPattern token))) :
    Like classes value (String.ofList (wordsPattern token)) := by
  obtain ⟨word, words, hwords⟩ := exists_words h
  obtain ⟨rest, hvalue⟩ := like_startPattern.1 hstart
  rw [wordsPattern, hwords, like_wordPattern]
  refine ⟨(words.map (' ' :: ·)).flatten ++ rest, ?_, inOrder_flatten_append _ rest⟩
  -- what stands behind the first word are the others with a space in front of each
  have htoken : token = word ++ (words.map (' ' :: ·)).flatten := by
    have hjoined := intercalate_cons_eq_flatMap [' '] word words
    rwa [← hwords, h.intercalate_words] at hjoined
  rw [← hvalue, ← List.append_assoc, ← htoken]

/-- Words that follow each other have their characters in order. -/
theorem like_subsequence_of_like_words (h : IsToken token)
    (hwordsPattern : Like classes value (String.ofList (wordsPattern token))) {pattern : List Char}
    (hpattern : subsequencePattern? token = some pattern) :
    Like classes value (String.ofList pattern) := by
  obtain ⟨word, words, hwords⟩ := exists_words h
  rw [wordsPattern, hwords, like_wordPattern] at hwordsPattern
  obtain ⟨rest, hvalue, horder⟩ := hwordsPattern
  have hvisible : visible token = word ++ words.flatten := by
    rw [visible, ← flatten_words, hwords, List.flatten_cons]
  rw [like_subsequencePattern hpattern, hvisible, hvalue]
  exact (List.Sublist.refl word).append (flatten_sublist_of_inOrder horder)

theorem exists_subsequencePattern (h : IsToken token) :
    ∃ pattern, subsequencePattern? token = some pattern := by
  have hne : visible token ≠ [] := by
    rw [Ne, visible_eq_nil_iff]
    intro hblank
    obtain ⟨c, hc, hvisible⟩ := h.exists_head
    rw [hblank c (List.mem_of_mem_head? hc)] at hvisible
    cases hvisible
  obtain ⟨c, cs, hcs⟩ := List.exists_cons_of_ne_nil hne
  exact ⟨_, subsequencePattern?_of_visible hcs⟩

/-- The phrase of a search has the characters of every token in order. -/
theorem like_subsequence_of_phrase {tokens : Tokens} {token : String} (hmem : token ∈ tokens.words)
    {pattern : List Char} (hpattern : subsequencePattern? token.toList = some pattern) :
    Like classes tokens.phrase (String.ofList pattern) := by
  rw [like_subsequencePattern hpattern]
  exact List.filter_sublist.trans (Tokens.infix_phrase hmem).sublist

end Patterns

/-! ## Points -/

/-- Whether no text in a column is worth more than some text. -/
def IsBest (m : Matcher) (db : Database) (d : Dialect) (weight : Float) (text value : String) : Prop :=
  ∀ other, m.points db d weight text other ≤ m.points db d weight text value

/-- Whether no text in a column is worth more than some text, other than those that are shorter without
their spaces. -/
def IsBestByLength (m : Matcher) (db : Database) (d : Dialect) (weight : Float) (text value : String) :
    Prop :=
  ∀ other : String, d.measure (removeAll [' '] value.toList) ≤ d.measure (removeAll [' '] other.toList) →
    m.points db d weight text other ≤ m.points db d weight text value

/-- Whether no text in small letters is worth more than some text. -/
def IsBestLowered (m : Matcher) (db : Database) (d : Dialect) (weight : Float) (text value : String) :
    Prop :=
  ∀ other : String, db.lower other = other → m.points db d weight text other ≤ m.points db d weight text value

/-- The numbers of a weight are not negative, and rounding keeps the order and zero. -/
structure KeepsOrder (db : Database) (weight : Float) : Prop where
  full_nonneg : 0 ≤ db.numeral (Number.literal weight)
  share_nonneg : 0 ≤ db.numeral (Number.decimalLiteral weight)
  round_zero : db.round 0 = 0
  round_mono : Monotone db.round

section Points

variable {db : Database} {weight : Float}

/-- With the whole weight or nothing, what is found is worth most. -/
theorem ite_le_ite_of_found (h : KeepsOrder db weight) {found : Prop} [Decidable found] (hfound : found)
    (other : Prop) [Decidable other] :
    (if other then db.numeral (Number.literal weight) else 0) ≤
      if found then db.numeral (Number.literal weight) else 0 := by
  rw [if_pos hfound]
  split
  · exact le_refl _
  · exact h.full_nonneg

variable (h : KeepsOrder db weight) (d : Dialect) {text value : String}
include h

/-- A text that equals the phrase is best for the matcher for whole columns. -/
theorem isBest_exactFull (hvalue : db.lower value = text) : IsBest .exactFull db d weight text value := by
  intro other
  simp only [points]
  exact ite_le_ite_of_found h hvalue _

theorem isBest_exactInString
    (hvalue : Like db.classes (db.lower value) (String.ofList (containsPattern text.toList))) :
    IsBest .exactInString db d weight text value := by
  intro other
  simp only [points]
  exact ite_le_ite_of_found h hvalue _

theorem isBest_startOfString
    (hvalue : Like db.classes (db.lower value) (String.ofList (startPattern text.toList))) :
    IsBest .startOfString db d weight text value := by
  intro other
  simp only [points]
  exact ite_le_ite_of_found h hvalue _

theorem isBest_startOfWords
    (hvalue : Like db.classes (db.lower value) (String.ofList (wordsPattern text.toList))) :
    IsBest .startOfWords db d weight text value := by
  intro other
  simp only [points]
  exact ite_le_ite_of_found h hvalue _

/-- Of two texts the one that is found is worth no less, unless the other one is found too and is shorter
without its spaces. -/
theorem points_consecutiveCharacters_le {pattern : List Char}
    (hpattern : subsequencePattern? text.toList = some pattern)
    (hvalue : Like db.classes (db.lower value) (String.ofList pattern))
    (hpos : 0 < d.measure (removeAll [' '] value.toList)) {other : String}
    (hlength : Like db.classes (db.lower other) (String.ofList pattern) →
      d.measure (removeAll [' '] value.toList) ≤ d.measure (removeAll [' '] other.toList)) :
    points .consecutiveCharacters db d weight text other ≤
      points .consecutiveCharacters db d weight text value := by
  have hweight : 0 ≤ db.numeral (Number.decimalLiteral weight) * subsequenceLength text.toList :=
    mul_nonneg h.share_nonneg (Nat.cast_nonneg _)
  -- both texts that are found get the same weight over their lengths, and any other gets nothing
  have hfound := And.intro hvalue hpos
  simp only [points, hpattern, if_pos hfound]
  split
  · next hother =>
    apply h.round_mono
    exact div_le_div_of_nonneg_left hweight (Nat.cast_pos.2 hpos) (Nat.cast_le.2 (hlength hother.1))
  · have hlong : (0 : ℚ) ≤ d.measure (removeAll [' '] value.toList) := Nat.cast_nonneg _
    have hnonneg := h.round_mono (div_nonneg hweight hlong)
    rwa [h.round_zero] at hnonneg

/-- A text that is nothing but the token is as short as a text with its characters can be. -/
theorem isBestLowered_consecutiveCharacters (htoken : IsToken text.toList) {pattern : List Char}
    (hpattern : subsequencePattern? text.toList = some pattern) (hlower : db.lower text = text) :
    IsBestLowered .consecutiveCharacters db d weight text text := by
  intro other hother
  have hshort : d.measure (removeAll [' '] text.toList) = (visible text.toList).length := by
    rw [Dialect.measure_removeAll_space, removeAll_space_of_isToken htoken]
  have hpos : 0 < (visible text.toList).length := by
    obtain ⟨c, hc, hvisible⟩ := htoken.exists_head
    have hmem : c ∈ visible text.toList :=
      List.mem_filter.2 ⟨List.mem_of_mem_head? hc, by simp [hvisible]⟩
    exact List.length_pos_of_mem hmem
  have hfound : Like db.classes (db.lower text) (String.ofList pattern) := by
    rw [hlower, like_subsequencePattern hpattern]
    exact List.filter_sublist
  -- a text with all characters of the token has them without its spaces too, and so is no shorter
  refine points_consecutiveCharacters_le h d hpattern hfound (hshort ▸ hpos) fun hlike => ?_
  rw [hother, like_subsequencePattern hpattern] at hlike
  rw [hshort, Dialect.measure_removeAll_space]
  exact (visible_sublist_removeAll hlike).length_le

/-- A text that equals the phrase of a search is best for all matchers, by its length where length counts. -/
theorem isBest_of_phrase {tokens : Tokens} (htokens : ∀ token ∈ tokens.words, IsToken token.toList)
    {first : String} {rest : List String} (hwords : tokens.words = first :: rest)
    (hvalue : db.lower value = tokens.phrase) :
    IsBest .exactFull db d weight tokens.phrase value ∧
    IsBest .exactInString db d weight tokens.phrase value ∧
    IsBest .startOfString db d weight first value ∧ IsBest .startOfWords db d weight first value ∧
    (0 < d.measure (removeAll [' '] value.toList) → ∀ token ∈ tokens.words,
      IsBestByLength .consecutiveCharacters db d weight token value) := by
  have hinside : Like db.classes (db.lower value) (String.ofList (containsPattern tokens.phrase.toList)) := by
    rw [hvalue]
    exact like_containsPattern.2 (List.infix_refl _)
  have hstart : Like db.classes (db.lower value) (String.ofList (startPattern first.toList)) := by
    rw [hvalue, like_startPattern]
    exact Tokens.prefix_phrase hwords
  have hfirst : IsToken first.toList := htokens first (by simp [hwords])
  refine ⟨isBest_exactFull h d hvalue, isBest_exactInString h d hinside, isBest_startOfString h d hstart,
    isBest_startOfWords h d (like_words_of_like_start hfirst hstart), fun hpos token hmem other hlength => ?_⟩
  obtain ⟨pattern, hpattern⟩ := exists_subsequencePattern (htokens token hmem)
  have hfound : Like db.classes (db.lower value) (String.ofList pattern) := by
    rw [hvalue]
    exact like_subsequence_of_phrase hmem hpattern
  exact points_consecutiveCharacters_le h d hpattern hfound hpos fun _ => hlength

end Points

/-- **Stronger matches are matches of the weaker kinds.** For each token of a search, a text that fits the
pattern of the matcher for the start of a column fits that of the matcher for word starts, and one that fits
this fits that of the matcher for consecutive characters. The phrase that the matcher for whole columns
compares with fits the pattern of the matcher for phrases, that of the first token for the start of a column,
and those of all tokens for consecutive characters.

So a text that is found in a stronger way scores no less than any other one, with the matchers that give the
whole weight or nothing: it is best for these. With the matcher for consecutive characters, which shares its
weight out by length, it scores no less than any other text that is no shorter without its spaces; this holds
of a text that equals the phrase too, for every token. A text that equals a token scores no less than any other
text in small letters, however long that is. -/
theorem stronger_matches {text : String} {cap : Nat} {tokens : Tokens}
    (h : Tokens.parse text cap = some tokens) (classes : Bool) (d : Dialect) (column : String)
    (weight : Float) :
    (∀ token ∈ tokens.words, ∃ start words chars : String,
      scoreText .startOfString d column weight token = ⟨caseWhen (like column) weight, [.text start]⟩ ∧
      scoreText .startOfWords d column weight token = ⟨caseWhen (like column) weight, [.text words]⟩ ∧
      scoreText .consecutiveCharacters d column weight token =
        ⟨subsequenceScore d column weight (subsequenceLength token.toList), [.text chars]⟩ ∧
      (∀ value : String, (Like classes value start → Like classes value words) ∧
        (Like classes value words → Like classes value chars) ∧
        (value = tokens.phrase → Like classes value chars)) ∧
      ∀ db : Database, db.classes = classes → KeepsOrder db weight →
        (∀ value : String,
          (Like classes (db.lower value) start →
            IsBest .startOfString db d weight token value ∧ IsBest .startOfWords db d weight token value) ∧
          (Like classes (db.lower value) words → IsBest .startOfWords db d weight token value) ∧
          (Like classes (db.lower value) chars → 0 < d.measure (removeAll [' '] value.toList) →
            IsBestByLength .consecutiveCharacters db d weight token value)) ∧
        (db.lower token = token → IsBestLowered .consecutiveCharacters db d weight token token)) ∧
    ∃ first rest, tokens.words = first :: rest ∧ ∃ inside start : String,
      scoreText .exactFull d column weight tokens.phrase =
        ⟨caseWhen (lowered column ++ " = ?") weight, [.text tokens.phrase]⟩ ∧
      scoreText .exactInString d column weight tokens.phrase =
        ⟨caseWhen (like column) weight, [.text inside]⟩ ∧
      scoreText .startOfString d column weight first = ⟨caseWhen (like column) weight, [.text start]⟩ ∧
      (∀ value : String, value = tokens.phrase → Like classes value inside ∧ Like classes value start) ∧
      ∀ db : Database, db.classes = classes → KeepsOrder db weight → ∀ value : String,
        db.lower value = tokens.phrase →
          IsBest .exactFull db d weight tokens.phrase value ∧
          IsBest .exactInString db d weight tokens.phrase value ∧
          IsBest .startOfString db d weight first value ∧ IsBest .startOfWords db d weight first value ∧
          (0 < d.measure (removeAll [' '] value.toList) → ∀ token ∈ tokens.words,
            IsBestByLength .consecutiveCharacters db d weight token value) := by
  have htoken := isToken_of_parse h
  constructor
  · intro token hmem
    have hform := htoken token hmem
    obtain ⟨pattern, hpattern⟩ := exists_subsequencePattern hform
    have hchars : scoreText .consecutiveCharacters d column weight token =
        ⟨subsequenceScore d column weight (subsequenceLength token.toList),
          [.text (String.ofList pattern)]⟩ := by
      simp only [scoreText, hpattern]
    refine ⟨_, _, _, rfl, rfl, hchars, fun value => ⟨?_, ?_, ?_⟩, ?_⟩
    · exact like_words_of_like_start hform
    · exact fun hwords => like_subsequence_of_like_words hform hwords hpattern
    · rintro rfl
      exact like_subsequence_of_phrase hmem hpattern
    · rintro db rfl horder
      refine ⟨fun value => ⟨fun hstart => ⟨?_, ?_⟩, fun hwords => ?_, fun hchars hpos other hlength => ?_⟩,
        fun hlower => ?_⟩
      · exact isBest_startOfString horder d hstart
      · exact isBest_startOfWords horder d (like_words_of_like_start hform hstart)
      · exact isBest_startOfWords horder d hwords
      · exact points_consecutiveCharacters_le horder d hpattern hchars hpos fun _ => hlength
      · exact isBestLowered_consecutiveCharacters horder d hform hpattern hlower
  · obtain ⟨first, rest, hwords⟩ := List.exists_cons_of_ne_nil tokens.words_ne_nil
    have hinside : Like classes tokens.phrase (String.ofList (containsPattern tokens.phrase.toList)) :=
      like_containsPattern.2 (List.infix_refl _)
    have hstart : Like classes tokens.phrase (String.ofList (startPattern first.toList)) :=
      like_startPattern.2 (Tokens.prefix_phrase hwords)
    refine ⟨first, rest, hwords, _, _, ?_, rfl, rfl, ?_, ?_⟩
    · simp only [scoreText, conditional, String.ofList_toList]
    · rintro value rfl
      exact ⟨hinside, hstart⟩
    · rintro db rfl horder value hvalue
      exact isBest_of_phrase horder d htoken hwords hvalue

/-- The number that a decimal numeral stands for. -/
def numeralValue (numeral : String) : ℚ :=
  let (negative, cs) := Number.splitSign numeral.toList
  let whole := cs.takeWhile (· ≠ '.')
  let fraction := (cs.dropWhile (· ≠ '.')).drop 1
  let size : ℚ := Number.ofDigits (whole ++ fraction) / 10 ^ fraction.length
  if negative then -size else size

/-- A database in which numerals are decimal, numbers are rounded to the nearest integer, and texts stay as they
are. -/
def decimalDatabase : Database :=
  { Database.plain with
    numeral := numeralValue
    round := fun q => ⌊q + 1 / 2⌋ }

/-- A weight of forty is read as forty, and rounding to the nearest integer keeps the order. -/
theorem keepsOrder_forty : KeepsOrder decimalDatabase 40.0 where
  full_nonneg := by decide +kernel
  share_nonneg := by decide +kernel
  round_zero := by decide +kernel
  round_mono := by
    intro p q hle
    exact Int.cast_le.2 (Int.floor_mono (add_le_add_left hle (1 / 2)))

/-- A phrase of two words in the search text, a column that begins with it, and one that is the phrase. -/
theorem stronger_matches_smith :
    ∃ tokens, Tokens.parse "\"Jo  Smith\" new" 3 = some tokens ∧ "jo smith" ∈ tokens.words ∧
      tokens.phrase = "jo smith new" ∧
      Like false "jo smith & sons" "jo smith%" ∧ Like false "jo smith & sons" "jo% smith%" ∧
      Like false "jo smith & sons" "%j%o%s%m%i%t%h%" ∧ Like false "jo smith new" "%j%o%s%m%i%t%h%" ∧
      Like false "jo smith new" "%jo smith new%" ∧ Like false "jo smith new" "jo smith%" ∧
      decimalDatabase.classes = false ∧ KeepsOrder decimalDatabase 40.0 ∧
      IsBest .startOfWords decimalDatabase .mysql 40.0 "jo smith" "jo smith & sons" ∧
      IsBest .exactInString decimalDatabase .mysql 40.0 "jo smith new" "jo smith new" ∧
      0 < Dialect.mysql.measure (removeAll [' '] "jo smith new".toList) ∧
      IsBestByLength .consecutiveCharacters decimalDatabase .mysql 40.0 "jo smith" "jo smith new" ∧
      decimalDatabase.lower "jo smith" = "jo smith" ∧
      IsBestLowered .consecutiveCharacters decimalDatabase .mysql 40.0 "jo smith" "jo smith" := by
  have hparse : Tokens.parse "\"Jo  Smith\" new" 3 = some ⟨["jo smith", "new"], by decide⟩ := by decide
  have hmem : "jo smith" ∈ ["jo smith", "new"] := by decide
  obtain ⟨htokens, first, rest, hwords, inside, begin, -, hinside, hbegin, hphrase, hexact⟩ :=
    stronger_matches hparse false .mysql "c" 40.0
  obtain ⟨start, words, chars, hstart, hwordsPattern, hchars, hweaker, hscores⟩ := htokens "jo smith" hmem
  cases hwords
  -- the patterns are the texts that are bound
  have hstartText : [Param.text "jo smith%"] = [.text start] := congrArg Fragment.params hstart
  have hwordsText : [Param.text "jo% smith%"] = [.text words] := congrArg Fragment.params hwordsPattern
  have hcharsText : [Param.text "%j%o%s%m%i%t%h%"] = [.text chars] := congrArg Fragment.params hchars
  have hinsideText : [Param.text "%jo smith new%"] = [.text inside] := congrArg Fragment.params hinside
  have hbeginText : [Param.text "jo smith%"] = [.text begin] := congrArg Fragment.params hbegin
  cases hstartText
  cases hwordsText
  cases hcharsText
  cases hinsideText
  cases hbeginText
  have hfits : Like false "jo smith & sons" "jo smith%" := by decide
  have hlong : 0 < Dialect.mysql.measure (removeAll [' '] "jo smith new".toList) := by decide
  obtain ⟨hstartWords, hwordsChars, -⟩ := hweaker "jo smith & sons"
  obtain ⟨hfound, hbegins⟩ := hphrase "jo smith new" rfl
  obtain ⟨hvalues, hsame⟩ := hscores decimalDatabase rfl keepsOrder_forty
  obtain ⟨-, hbest, -, -, hbyLength⟩ := hexact decimalDatabase rfl keepsOrder_forty "jo smith new" rfl
  exact ⟨_, hparse, hmem, rfl, hfits, hstartWords hfits, hwordsChars (hstartWords hfits),
    (hweaker "jo smith new").2.2 rfl, hfound, hbegins, rfl, keepsOrder_forty,
    ((hvalues "jo smith & sons").1 hfits).2, hbest, hlong, hbyLength hlong "jo smith" hmem, rfl, hsame rfl⟩

/-- With the matcher for consecutive characters a text that begins with the token, and one that is the phrase,
are worth less than a short text in which the characters are somewhere. -/
theorem shorter_match_scores_more :
    ∃ tokens, Tokens.parse "Jo Smith" 5 = some tokens ∧ "jo" ∈ tokens.words ∧ tokens.phrase = "jo smith" ∧
      KeepsOrder decimalDatabase 40.0 ∧
      (scoreText .startOfString .mysql "c" 40.0 "jo").params = [.text "jo%"] ∧
      (scoreText .consecutiveCharacters .mysql "c" 40.0 "jo").params = [.text "%j%o%"] ∧
      Like false "jonathan alexander smith" "jo%" ∧ Like false "jo smith" "jo%" ∧
      Like false "xjo" "%j%o%" ∧ ¬Like false "xjo" "jo%" ∧
      (expression .consecutiveCharacters .mysql ⟨"c", none⟩ 40.0 "jo").eval decimalDatabase
        (fun _ => some "jonathan alexander smith") = .ok (.number 9) ∧
      (expression .consecutiveCharacters .mysql ⟨"c", none⟩ 40.0 "jo").eval decimalDatabase
        (fun _ => some "jo smith") = .ok (.number 29) ∧
      (expression .consecutiveCharacters .mysql ⟨"c", none⟩ 40.0 "jo").eval decimalDatabase
        (fun _ => some "xjo") = .ok (.number 67) ∧
      ¬∀ value other, Like false value "jo%" → Like false other "%j%o%" →
        points .consecutiveCharacters decimalDatabase .mysql 40.0 "jo" other ≤
          points .consecutiveCharacters decimalDatabase .mysql 40.0 "jo" value := by
  have hworth : ∀ value : String, (expression .consecutiveCharacters .mysql ⟨"c", none⟩ 40.0 "jo").eval
      decimalDatabase (fun _ => some value) =
        .ok (.number (points .consecutiveCharacters decimalDatabase .mysql 40.0 "jo" value)) :=
    fun value => eval_expression _ _ rfl _ _
  have hlong : points .consecutiveCharacters decimalDatabase .mysql 40.0 "jo" "jonathan alexander smith" =
      9 := by decide +kernel
  have hphrase : points .consecutiveCharacters decimalDatabase .mysql 40.0 "jo" "jo smith" = 29 := by
    decide +kernel
  have hshort : points .consecutiveCharacters decimalDatabase .mysql 40.0 "jo" "xjo" = 67 := by
    decide +kernel
  have hbegins : Like false "jonathan alexander smith" "jo%" := by decide
  have hfound : Like false "xjo" "%j%o%" := by decide
  refine ⟨⟨["jo", "smith"], by decide⟩, by decide, by decide, rfl, keepsOrder_forty, rfl, rfl, hbegins,
    by decide, hfound, by decide, ?_, ?_, ?_, fun hclaim => ?_⟩
  · rw [hworth, hlong]
  · rw [hworth, hphrase]
  · rw [hworth, hshort]
  · have hle := hclaim "jonathan alexander smith" "xjo" hbegins hfound
    rw [hlong, hshort] at hle
    exact absurd hle (by decide)

end Matcher

end RelevanceSql
