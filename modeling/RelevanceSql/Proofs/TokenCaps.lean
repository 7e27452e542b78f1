import RelevanceSql.Proofs.TermOrder
import RelevanceSql.Proofs.Trimming

/-!
# What a cap leaves of a search text

A cap is the last thing that happens to the tokens of a search text before they are sorted: a smaller cap
gives the first of the tokens that a larger one gives (`parse_capped`), and a text without tokens has none
under any cap. So the longest tokens come first among those that are left, not among all.

Which order that is, is settled by three facts about it, whatever the sort does: it has the same tokens,
longer ones stand in front of shorter ones, and those of one length stand as they did
(`LongestFirst.unique`).
-/

namespace RelevanceSql

/-! ## One order only -/

theorem mem_of_filter_length {a b : List String}
    (h : ∀ n, (a.filter fun w => w.length == n) = b.filter fun w => w.length == n) {w : String}
    (hw : w ∈ a) : w ∈ b := by
  have hfiltered : w ∈ a.filter fun v => v.length == w.length := List.mem_filter.2 ⟨hw, by simp⟩
  rw [h] at hfiltered
  exact (List.mem_filter.1 hfiltered).1

/-- Words in descending order of length are told by the words of each length. -/
theorem eq_of_filter_length {a b : List String} (ha : a.Pairwise fun v w => w.length ≤ v.length)
    (hb : b.Pairwise fun v w => w.length ≤ v.length)
    (h : ∀ n, (a.filter fun w => w.length == n) = b.filter fun w => w.length == n) : a = b := by
  induction a generalizing b with
  | nil =>
    cases b with
    | nil => rfl
    | cons w b => exact absurd (mem_of_filter_length (fun n => (h n).symm) List.mem_cons_self) (by simp)
  | cons v a ih =>
    cases b with
    | nil => exact absurd (mem_of_filter_length h List.mem_cons_self) (by simp)
    | cons w b =>
      -- each of the two first words is one of the longest of both lists
      have hlength : v.length = w.length := by
        have hvw : v.length ≤ w.length := by
          rcases List.mem_cons.1 (mem_of_filter_length h List.mem_cons_self) with hv | hv
          · rw [hv]
          · exact List.rel_of_pairwise_cons hb hv
        have hwv : w.length ≤ v.length := by
          rcases List.mem_cons.1 (mem_of_filter_length (fun n => (h n).symm) List.mem_cons_self) with hw | hw
          · rw [hw]
          · exact List.rel_of_pairwise_cons ha hw
        omega
      have hfirst := h v.length
      rw [List.filter_cons_of_pos (by simp), List.filter_cons_of_pos (by simp [hlength])] at hfirst
      obtain ⟨hvw, -⟩ := List.cons.inj hfirst
      subst hvw
      have hrest : ∀ n, (a.filter fun w => w.length == n) = b.filter fun w => w.length == n := by
        intro n
        have hn := h n
        rw [List.filter_cons, List.filter_cons] at hn
        split at hn
        · exact (List.cons.inj hn).2
        · exact hn
      rw [ih ha.of_cons hb.of_cons hrest]

/-- There is one way only to put words in order by length. -/
theorem LongestFirst.unique {given a b : List String} (ha : LongestFirst given a)
    (hb : LongestFirst given b) : a = b :=
  eq_of_filter_length ha.descending hb.descending fun n => (ha.stable n).trans (hb.stable n).symm

namespace Search

open RelevanceSql.Text

/-! ## Caps -/

theorem wordsOf_of_parse {text : String} {cap : Nat} {tokens : Tokens}
    (h : Tokens.parse text cap = some tokens) : wordsOf text cap = tokens.words := by
  rw [wordsOf, h]

/-- A smaller cap leaves the first tokens of a larger one. -/
theorem wordsOf_take {cap wider : Nat} (h : cap ≤ wider) (text : String) :
    wordsOf text cap = (wordsOf text wider).take cap := by
  rw [wordsOf_eq, wordsOf_eq, ← List.map_take, List.take_take, Nat.min_eq_left h]

theorem isFillerText_iff {text : String} :
    isFillerText text = true ↔ ∀ c ∈ text.toList, isBlank c = true ∨ c = quoteMark := by
  simp only [isFillerText, List.all_eq_true, isFiller, Bool.or_eq_true, beq_iff_eq]

/-- A text with tokens has tokens under every larger cap. -/
theorem exists_parse_of_le {text : String} {cap wider : Nat} {tokens : Tokens}
    (h : Tokens.parse text cap = some tokens) (hle : cap ≤ wider) :
    ∃ more, Tokens.parse text wider = some more := by
  cases hwider : Tokens.parse text wider with
  | some more => exact ⟨more, rfl⟩
  | none =>
    have hwords := wordsOf_take hle text
    rw [parse_eq_none_iff_wordsOf.1 hwider, List.take_nil, wordsOf_of_parse h] at hwords
    exact absurd hwords tokens.words_ne_nil

/-- **Capped tokens.** A text has no tokens exactly if the cap leaves none, or if the text holds blanks and
quotation marks only. Otherwise it has at least one and no more than the cap allows, and these are the first
of those that any larger cap leaves. In the one order in which longer tokens come first and those of one
length stay as they are, it has the same tokens. -/
theorem parse_capped (text : String) (cap : Nat) :
    (Tokens.parse text cap = none ↔
        cap = 0 ∨ ∀ c ∈ text.toList, isBlank c = true ∨ c = quoteMark) ∧
      ∀ tokens, Tokens.parse text cap = some tokens →
        0 < tokens.words.length ∧ tokens.words.length ≤ cap ∧
        (∀ wider, cap ≤ wider → ∃ more, Tokens.parse text wider = some more ∧
          tokens.words = more.words.take cap) ∧
        ∀ ordered, LongestFirst tokens.words ordered ↔ ordered = tokens.longestFirst := by
  refine ⟨?_, fun tokens h => ⟨tokens.count_pos, Tokens.count_parse_le h, fun wider hle => ?_,
    fun ordered => ⟨fun hordered => ?_, fun hordered => ?_⟩⟩⟩
  · rw [parse_eq_none_iff, isFillerText_iff]
  · obtain ⟨more, hmore⟩ := exists_parse_of_le h hle
    refine ⟨more, hmore, ?_⟩
    rw [← wordsOf_of_parse h, wordsOf_take hle, wordsOf_of_parse hmore]
  · exact hordered.unique tokens.longestFirst_words
  · rw [hordered]
    exact tokens.longestFirst_words

/-- Four tokens, of which a cap leaves three: the longest of all is not among them. -/
theorem parse_capped_phrase :
    ∃ tokens more, Tokens.parse "Ab \"x  y\" -- Cdef" 3 = some tokens ∧ 3 ≤ 4 ∧
      Tokens.parse "Ab \"x  y\" -- Cdef" 4 = some more ∧ tokens.words = more.words.take 3 ∧
      tokens.words = ["ab", "x y", "--"] ∧
      LongestFirst tokens.words ["x y", "ab", "--"] ∧ tokens.longestFirst = ["x y", "ab", "--"] := by
  have hparse : Tokens.parse "Ab \"x  y\" -- Cdef" 3 = some ⟨["ab", "x y", "--"], by decide⟩ := by decide
  have hle : 3 ≤ 4 := by decide
  obtain ⟨-, -, hwider, hordered⟩ := (parse_capped "Ab \"x  y\" -- Cdef" 3).2 _ hparse
  obtain ⟨more, hmore, htake⟩ := hwider 4 hle
  have hlongest : LongestFirst ["ab", "x y", "--"] ["x y", "ab", "--"] := by
    refine ⟨by decide, by decide, fun n => ?_⟩
    by_cases hn : n = 3
    · subst hn
      decide
    · by_cases hn' : n = 2
      · subst hn'
        decide
      · have hphrase : ("x y".length == n) = false := beq_false_of_ne fun h => hn h.symm
        have hletters : ("ab".length == n) = false := beq_false_of_ne fun h => hn' h.symm
        have hdashes : ("--".length == n) = false := beq_false_of_ne fun h => hn' h.symm
        simp [hphrase, hletters, hdashes]
  exact ⟨_, more, hparse, hle, hmore, htake, rfl, hlongest, ((hordered _).1 hlongest).symm⟩

end Search

end RelevanceSql
