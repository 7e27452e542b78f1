import RelevanceSql.Proofs.LikePatterns

/-!
# Words in order

A pattern that has `%` in front of each of some words, and one more at its end, fits the texts in which
the words occur in order and without overlap (`fits_chain`): any text may stand in front of a word, and the
words behind it have to be found in what comes after it. Words of one character each occur in order exactly
if they are a subsequence (`inOrder_singletons`).

So the matcher for consecutive characters finds the texts that have the visible characters of a token as a
subsequence. Its score is measured by the parts of its pattern, of which an escaped character makes one like
any other (`like_subsequence`).
-/

namespace RelevanceSql

namespace Text

/-- Whether words occur in a text one behind the other, with any text before and between them. -/
def InOrder : List (List Char) → List Char → Prop
  | [], _ => True
  | word :: words, text => ∃ front rest, text = front ++ word ++ rest ∧ InOrder words rest

theorem inOrder_nil (text : List Char) : InOrder [] text := trivial

/-- Texts of one character each occur in order exactly if they are a subsequence. -/
theorem inOrder_singletons {cs text : List Char} :
    InOrder (cs.map fun c => [c]) text ↔ cs.Sublist text := by
  induction cs generalizing text with
  | nil => simp [inOrder_nil]
  | cons c cs ih =>
    rw [List.map_cons, InOrder]
    constructor
    · rintro ⟨front, rest, rfl, hrest⟩
      rw [List.append_assoc]
      exact ((ih.1 hrest).cons_cons c).trans (List.sublist_append_right front _)
    · intro h
      obtain ⟨first, rest, rfl, hc, hrest⟩ := List.cons_sublist_iff.1 h
      obtain ⟨front, back, rfl⟩ := List.append_of_mem hc
      -- what is behind the character in the first part of the text may serve the others as well
      exact ⟨front, back ++ rest, by simp, ih.2 (hrest.trans (List.sublist_append_right back rest))⟩

/-- Words with a separator between them: the first one, and the separator in front of each other one. -/
theorem intercalate_cons_eq_flatMap (sep word : List Char) (words : List (List Char)) :
    sep.intercalate (word :: words) = word ++ words.flatMap fun w => sep ++ w := by
  induction words generalizing word with
  | nil => rw [List.intercalate_singleton, List.flatMap_nil, List.append_nil]
  | cons w words ih =>
    rw [List.intercalate_cons_cons, ih, List.flatMap_cons, List.append_assoc, List.append_assoc]

end Text

open RelevanceSql.Text RelevanceSql.Sql

/-! ## Chains of words -/

namespace Sql

/-- The parts of a pattern with `%` in front of each word. -/
def chain (words : List (List Char)) : List PatternPart :=
  words.flatMap fun word => .anyText :: word.map .literal

theorem chain_cons (word : List Char) (words : List (List Char)) :
    chain (word :: words) = .anyText :: (word.map .literal ++ chain words) := rfl

theorem length_chain_singletons (cs : List Char) :
    (chain (cs.map fun c => [c]) ++ [PatternPart.anyText]).length = 2 * cs.length + 1 := by
  induction cs with
  | nil => rfl
  | cons c cs ih =>
    rw [List.map_cons, chain_cons, List.map_singleton, List.singleton_append, List.cons_append,
      List.cons_append, List.length_cons, List.length_cons, ih, List.length_cons]
    omega

/-- The words are escaped, and so they are what the chain is made of. -/
theorem parts?_chain_append (classes : Bool) (words : List (List Char)) (cs : List Char) :
    parts? classes ((words.flatMap fun word => '%' :: Matcher.escape word) ++ cs) =
      (parts? classes cs).map (chain words ++ ·) := by
  induction words with
  | nil => simp [chain]
  | cons word words ih =>
    rw [List.flatMap_cons, List.cons_append, List.cons_append, List.append_assoc, parts?_percent,
      parts?_escape_append, ih, Option.map_map, Option.map_map, chain_cons]
    congr 1
    funext parts
    simp

/-- A chain of texts with any text between them is fitted by what has them in order. -/
theorem fits_chain {words : List (List Char)} {text : List Char} :
    Fits (chain words ++ [.anyText]) text ↔ InOrder words text := by
  induction words generalizing text with
  | nil => exact iff_of_true (fits_anyText_nil text) (inOrder_nil text)
  | cons word words ih =>
    rw [chain_cons, List.cons_append, List.append_assoc, fits_anyText, InOrder]
    simp only [fits_literals_append, ih]
    constructor
    · rintro ⟨front, _, rfl, rest, rfl, hrest⟩
      exact ⟨front, rest, by rw [List.append_assoc], hrest⟩
    · rintro ⟨front, rest, rfl, hrest⟩
      exact ⟨front, _, by rw [List.append_assoc], rest, rfl, hrest⟩

end Sql

/-! ## Subsequences -/

namespace Matcher

/-- The pattern of the visible characters is a chain of them. -/
theorem subsequencePattern?_of_visible {token : List Char} {c : Char} {cs : List Char}
    (h : visible token = c :: cs) :
    subsequencePattern? token =
      some (((visible token).map fun c => [c]).flatMap (fun word => '%' :: escape word) ++ ['%']) := by
  rw [subsequencePattern?, h]
  simp only [List.map_cons, intercalate_cons_eq_flatMap, List.flatMap_map, List.flatMap_cons]
  rfl

theorem visible_eq_nil_iff {token : List Char} : visible token = [] ↔ ∀ c ∈ token, isBlank c = true := by
  rw [visible, List.filter_eq_nil_iff]
  simp

section Score

variable (classes : Bool) (d : Dialect) (column : String) (weight : Float)

/-- For a blank text the matcher adds a bare zero. -/
theorem scoreText_of_blank {text : String} (h : visible text.toList = []) :
    scoreText .consecutiveCharacters d column weight text = ⟨"0", []⟩ := by
  simp only [scoreText, subsequencePattern?, h]
  rfl

/-- The score of a text with a visible character: its pattern is a chain of these characters, and the length
in its SQL is that of the pattern's parts. -/
theorem scoreText_of_visible {text : String} (h : visible text.toList ≠ []) :
    ∃ pattern parts, scoreText .consecutiveCharacters d column weight text =
        ⟨subsequenceScore d column weight parts.length, [.text pattern]⟩ ∧
      parts? classes pattern.toList = some parts ∧
      parts = chain ((visible text.toList).map fun c => [c]) ++ [.anyText] ∧
      parts.length = 2 * (visible text.toList).length + 1 := by
  obtain ⟨c, cs, hcs⟩ := List.exists_cons_of_ne_nil h
  refine ⟨String.ofList (((visible text.toList).map fun c => [c]).flatMap (fun word => '%' :: escape word) ++
    ['%']), _, ?_, ?_, rfl, length_chain_singletons _⟩
  · rw [length_chain_singletons]
    simp only [scoreText, subsequencePattern?_of_visible hcs]
    rfl
  · rw [String.toList_ofList, parts?_chain_append, parts?_percent, parts?_nil]
    rfl

/-- The SQL of the score shows the number of visible characters and nothing else of the text. -/
theorem sql_scoreText_consecutiveCharacters (text : String) :
    (scoreText .consecutiveCharacters d column weight text).sql =
      if (visible text.toList).length = 0 then "0"
      else subsequenceScore d column weight (2 * (visible text.toList).length + 1) := by
  by_cases h : visible text.toList = []
  · rw [scoreText_of_blank d column weight h, if_pos (List.length_eq_zero_iff.2 h)]
  · obtain ⟨_, parts, hscore, -, -, hlength⟩ := scoreText_of_visible false d column weight h
    rw [hscore, hlength, if_neg (mt List.length_eq_zero_iff.1 h)]

/-- **Subsequences.** The matcher for consecutive characters binds a pattern exactly if the text has a visible
character, and is zero if not. The pattern fits exactly the texts that have the visible characters as a
subsequence, whatever characters they are. The length in the SQL of the score is the number of the pattern's
parts, one for each visible character and one around each: the SQL is the same for all texts with as many of
them. -/
theorem like_subsequence (text : String) :
    ((∃ pattern, (scoreText .consecutiveCharacters d column weight text).params = [.text pattern]) ↔
        ∃ c ∈ text.toList, isBlank c = false) ∧
      ((∀ c ∈ text.toList, isBlank c = true) →
        scoreText .consecutiveCharacters d column weight text = ⟨"0", []⟩) ∧
      (∀ pattern, (scoreText .consecutiveCharacters d column weight text).params = [.text pattern] →
        (∀ value : String, Like classes value pattern ↔
          (text.toList.filter fun c => !isBlank c).Sublist value.toList) ∧
        ∃ parts, parts? classes pattern.toList = some parts ∧
          parts.length = 2 * (text.toList.filter fun c => !isBlank c).length + 1 ∧
          (scoreText .consecutiveCharacters d column weight text).sql =
            subsequenceScore d column weight parts.length) ∧
      ∀ other : String,
        (other.toList.filter fun c => !isBlank c).length = (text.toList.filter fun c => !isBlank c).length →
        (scoreText .consecutiveCharacters d column weight other).sql =
          (scoreText .consecutiveCharacters d column weight text).sql := by
  refine ⟨⟨?_, ?_⟩, fun hblank => scoreText_of_blank d column weight (visible_eq_nil_iff.2 hblank), ?_,
    fun other hother => ?_⟩
  · rintro ⟨pattern, hpattern⟩
    by_contra hnone
    have hblank : visible text.toList = [] := visible_eq_nil_iff.2 (by simpa using hnone)
    rw [scoreText_of_blank d column weight hblank] at hpattern
    cases hpattern
  · rintro ⟨c, hc, hvisible⟩
    have hne : visible text.toList ≠ [] :=
      List.ne_nil_of_mem (List.mem_filter.2 ⟨hc, by rw [hvisible]; rfl⟩)
    obtain ⟨pattern, parts, hscore, -⟩ := scoreText_of_visible classes d column weight hne
    exact ⟨pattern, by rw [hscore]⟩
  · intro pattern hpattern
    have hne : visible text.toList ≠ [] := by
      intro hblank
      rw [scoreText_of_blank d column weight hblank] at hpattern
      cases hpattern
    obtain ⟨bound, parts, hscore, hparts, hchain, hlength⟩ := scoreText_of_visible classes d column weight hne
    rw [hscore] at hpattern ⊢
    cases hpattern
    refine ⟨fun value => ?_, parts, hparts, hlength, rfl⟩
    rw [like_iff hparts, hchain, fits_chain, inOrder_singletons]
    rfl
  · have hcount : (visible other.toList).length = (visible text.toList).length := hother
    rw [sql_scoreText_consecutiveCharacters, sql_scoreText_consecutiveCharacters, hcount]

end Score

/-- An underscore among the characters that are looked for: it finds underscores only, and the score is as if
it were a letter. -/
theorem like_subsequence_underscore :
    (scoreText .consecutiveCharacters .mysql "c" 2.0 "a _").params = [.text "%a%!_%"] ∧
      (∃ c ∈ "a _".toList, isBlank c = false) ∧
      Like true "xa-b_" "%a%!_%" ∧ ¬Like true "xa-b" "%a%!_%" ∧
      ("a b".toList.filter fun c => !isBlank c).length = ("a _".toList.filter fun c => !isBlank c).length ∧
      (scoreText .consecutiveCharacters .mysql "c" 2.0 "a b").sql =
        (scoreText .consecutiveCharacters .mysql "c" 2.0 "a _").sql ∧
      (∀ c ∈ "  ".toList, isBlank c = true) ∧
      scoreText .consecutiveCharacters .mysql "c" 2.0 "  " = ⟨"0", []⟩ := by
  have hbound : (scoreText .consecutiveCharacters .mysql "c" 2.0 "a _").params = [.text "%a%!_%"] := rfl
  have hcount : ("a b".toList.filter fun c => !isBlank c).length =
      ("a _".toList.filter fun c => !isBlank c).length := by decide
  have hblank : ∀ c ∈ "  ".toList, isBlank c = true := List.all_eq_true.1 (by decide)
  obtain ⟨hbinds, -, hfits, hsame⟩ := like_subsequence true .mysql "c" 2.0 "a _"
  obtain ⟨hlike, -⟩ := hfits _ hbound
  refine ⟨hbound, hbinds.1 ⟨_, hbound⟩, (hlike _).2 (by decide), fun h => absurd ((hlike _).1 h) (by decide),
    hcount, hsame _ hcount, hblank, (like_subsequence true .mysql "c" 2.0 "  ").2.1 hblank⟩

end Matcher

end RelevanceSql
