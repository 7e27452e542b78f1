import RelevanceSql.Proofs.TokenContent
import RelevanceSql.Proofs.WordStarts

/-!
# Tokens and the phrase of a search

A token is its words with single spaces between them (`IsToken.intercalate_words`), and the phrase of a search
is its tokens with single spaces between them. So a phrase begins with the first token, and what is written in
front of `%` for the words of a token is what the token begins with.
-/

namespace RelevanceSql.Search

open RelevanceSql.Text

/-- Every token that a search text is cut into has the form of a token. -/
theorem isToken_of_parse {text : String} {cap : Nat} {tokens : Tokens}
    (h : Tokens.parse text cap = some tokens) : ∀ word ∈ tokens.words, IsToken word.toList := by
  intro word hword
  have hwords : wordsOf text cap = tokens.words := by rw [wordsOf, h]
  rw [← hwords, wordsOf_eq] at hword
  obtain ⟨token, htoken, rfl⟩ := List.mem_map.1 hword
  rw [String.toList_ofList]
  exact isToken_of_mem_tokensOf (List.mem_of_mem_take htoken)

/-! ## Single spaces -/

/-- Whether every blank is a space with something visible behind it. -/
def SingleSpaced (text : List Char) : Prop :=
  ∀ front c back, text = front ++ c :: back → isBlank c = true →
    c = ' ' ∧ ∃ d, back.head? = some d ∧ isBlank d = false

theorem SingleSpaced.of_append {front text : List Char} (h : SingleSpaced (front ++ text)) :
    SingleSpaced text := by
  intro more c back htext hblank
  refine h (front ++ more) c back ?_ hblank
  rw [htext, List.append_assoc]

/-- A text with single spaces is its words with spaces between them, behind a space if it begins with one. -/
theorem eq_intercalate_of_madeOf {ws : List (List Char)} {text : List Char} (h : MadeOf isBlank ws text)
    (hspaced : SingleSpaced text) :
    ((∀ c, text.head? = some c → isBlank c = false) → text = [' '].intercalate ws) ∧
      ∀ c, text.head? = some c → isBlank c = true → text = ' ' :: [' '].intercalate ws ∧ ws ≠ [] := by
  induction h with
  | done => simp
  | @sep c ws rest hc _ ih =>
    refine ⟨fun hvisible => ?_, fun _ _ _ => ?_⟩
    · rw [hvisible c rfl] at hc
      cases hc
    · -- what comes behind the space begins with a visible character
      obtain ⟨rfl, d, hd, hvisible⟩ := hspaced [] c rest rfl hc
      have hrest : SingleSpaced rest := SingleSpaced.of_append (show SingleSpaced ([' '] ++ rest) from hspaced)
      have hwords : rest = [' '].intercalate ws := (ih hrest).1 fun e he => by
        rw [hd] at he
        cases he
        exact hvisible
      refine ⟨by rw [← hwords], ?_⟩
      rintro rfl
      rw [hwords] at hd
      cases hd
  | @word word ws rest hne hword hend hrest ih =>
    have hhead : ∀ c, (word ++ rest).head? = some c → isBlank c = false := by
      intro c hc
      rw [List.head?_append, List.head?_eq_some_head hne] at hc
      cases hc
      exact hword _ (List.head_mem hne)
    refine ⟨fun _ => ?_, fun c hc hblank => ?_⟩
    · cases rest with
      | nil =>
        have hnone : ws = [] := by rw [← words_of_madeOf hrest, words_nil]
        rw [hnone, List.intercalate_singleton, List.append_nil]
      | cons c rest =>
        obtain ⟨htext, hsome⟩ := (ih hspaced.of_append).2 c rfl (hend c rfl)
        obtain ⟨w, ws, rfl⟩ := List.exists_cons_of_ne_nil hsome
        rw [htext, List.intercalate_cons_cons, List.append_assoc, List.singleton_append]
    · rw [hhead c hc] at hblank
      cases hblank

theorem IsToken.singleSpaced {token : List Char} (h : IsToken token) : SingleSpaced token := by
  intro front c back htoken hblank
  obtain ⟨hspace, -, hnext⟩ := h.spaced front c back htoken hblank
  exact ⟨hspace, hnext⟩

/-- A token begins with a visible character. -/
theorem IsToken.exists_head {token : List Char} (h : IsToken token) :
    ∃ c, token.head? = some c ∧ isBlank c = false := by
  refine ⟨_, List.head?_eq_some_head h.ne_nil, ?_⟩
  have hfiller := h.head _ (List.head?_eq_some_head h.ne_nil)
  rw [isFiller, Bool.or_eq_false_iff] at hfiller
  exact hfiller.1

/-- A token is its words with single spaces between them. -/
theorem IsToken.intercalate_words {token : List Char} (h : IsToken token) :
    [' '].intercalate (words isBlank token) = token := by
  have hwords := (eq_intercalate_of_madeOf (madeOf_iff.2 rfl) h.singleSpaced).1
  refine (hwords fun c hc => ?_).symm
  obtain ⟨d, hd, hvisible⟩ := h.exists_head
  rw [hd] at hc
  cases hc
  exact hvisible

/-! ## Phrases -/

theorem Tokens.toList_phrase (tokens : Tokens) :
    tokens.phrase.toList = [' '].intercalate (tokens.words.map String.toList) := by
  rw [phrase, String.toList_intercalate]
  rfl

/-- A phrase begins with the first token. -/
theorem Tokens.prefix_phrase {tokens : Tokens} {first : String} {rest : List String}
    (h : tokens.words = first :: rest) : first.toList <+: tokens.phrase.toList := by
  rw [toList_phrase, h, List.map_cons, intercalate_cons_eq_flatMap]
  exact List.prefix_append _ _

/-- Each word stands in the text that the words are put together to. -/
theorem infix_intercalate_of_mem {sep word : List Char} {words : List (List Char)} (h : word ∈ words) :
    word <:+: sep.intercalate words := by
  cases words with
  | nil => cases h
  | cons first rest =>
    rw [intercalate_cons_eq_flatMap]
    rcases List.mem_cons.1 h with rfl | hrest
    · exact (List.prefix_append _ _).isInfix
    · -- a later word stands behind its separator
      have hpart : sep ++ word <:+: rest.flatMap fun w => sep ++ w :=
        List.infix_of_mem_flatten (List.mem_map_of_mem hrest)
      exact (List.infix_append_right.trans hpart).trans List.infix_append_right

/-- Each token stands in the phrase. -/
theorem Tokens.infix_phrase {tokens : Tokens} {token : String} (h : token ∈ tokens.words) :
    token.toList <:+: tokens.phrase.toList := by
  rw [toList_phrase]
  exact infix_intercalate_of_mem (List.mem_map_of_mem h)

/-- A phrase has a visible character: its first one. -/
theorem exists_visible_phrase {text : String} {cap : Nat} {tokens : Tokens}
    (h : Tokens.parse text cap = some tokens) : ∃ c ∈ tokens.phrase.toList, isBlank c = false := by
  obtain ⟨first, rest, hwords⟩ := List.exists_cons_of_ne_nil tokens.words_ne_nil
  obtain ⟨c, hc, hvisible⟩ := (isToken_of_parse h first (by simp [hwords])).exists_head
  exact ⟨c, (Tokens.prefix_phrase hwords).subset (List.mem_of_mem_head? hc), hvisible⟩

end RelevanceSql.Search
