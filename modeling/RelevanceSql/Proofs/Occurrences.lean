import Mathlib.Tactic.NormNum
import RelevanceSql.Proofs.Phrases
import RelevanceSql.Proofs.Points

/-!
# How often a token occurs

A text is searched for a part from left to right, and where the part is found the search goes on behind it.
What is found this way does not overlap, and nothing that does not overlap is more
(`length_le_length_startsFrom`). A text without these occurrences is shorter by the length of the part for
each of them (`length_withoutFrom_add`).

So the length that a column loses without a token, over the length of the token, is the number of occurrences,
as far as lengths count all characters. One dialect leaves out spaces at the end, and without a token a text
may end with spaces although it did not before: there the loss is greater by these spaces (`loss_of_token`).
-/

namespace RelevanceSql.Sql

/-! ## Occurrences -/

/-- Places in a text where a part occurs, from left to right and without overlaps. -/
structure Occurrences (part text : List Char) (starts : List Nat) : Prop where
  occurs : ∀ i ∈ starts, part <+: text.drop i
  apart : starts.Pairwise fun i j => i + part.length ≤ j

/-- Where a search from left to right finds a part, behind the next characters, of which so many are given. -/
def startsFrom (part : List Char) : Nat → List Char → List Nat
  | _, [] => []
  | skipped + 1, _ :: cs => (startsFrom part skipped cs).map (· + 1)
  | 0, c :: cs =>
    if part ≠ [] ∧ part <+: c :: cs then 0 :: (startsFrom part (part.length - 1) cs).map (· + 1)
    else (startsFrom part 0 cs).map (· + 1)

variable {part text : List Char}

theorem Occurrences.cons {starts : List Nat} (h : Occurrences part text starts) (c : Char) :
    Occurrences part (c :: text) (starts.map (· + 1)) where
  occurs := by
    intro i hi
    obtain ⟨j, hj, rfl⟩ := List.mem_map.1 hi
    exact h.occurs j hj
  apart := by
    rw [List.pairwise_map]
    exact h.apart.imp fun hij => by omega

theorem Occurrences.of_cons {starts : List Nat} {c : Char} (h : Occurrences part (c :: text) starts)
    (hpos : ∀ i ∈ starts, 1 ≤ i) : Occurrences part text (starts.map (· - 1)) where
  occurs := by
    intro i hi
    obtain ⟨j, hj, rfl⟩ := List.mem_map.1 hi
    obtain ⟨k, rfl⟩ := Nat.exists_eq_add_of_le' (hpos j hj)
    exact h.occurs (k + 1) hj
  apart := by
    rw [List.pairwise_map]
    refine h.apart.imp_of_mem fun hi hj hij => ?_
    have := hpos _ hi
    have := hpos _ hj
    omega

theorem le_of_mem_startsFrom {skipped i : Nat} (h : i ∈ startsFrom part skipped text) : skipped ≤ i := by
  induction text generalizing skipped i with
  | nil => simp [startsFrom] at h
  | cons c cs ih =>
    cases skipped with
    | zero => exact Nat.zero_le i
    | succ skipped =>
      obtain ⟨j, hj, rfl⟩ := List.mem_map.1 h
      exact Nat.succ_le_succ (ih hj)

/-- What is found from left to right does not overlap. -/
theorem occurrences_startsFrom (part : List Char) (skipped : Nat) (text : List Char) :
    Occurrences part text (startsFrom part skipped text) := by
  induction text generalizing skipped with
  | nil => exact ⟨by simp [startsFrom], by simp [startsFrom]⟩
  | cons c cs ih =>
    cases skipped with
    | succ skipped => exact (ih skipped).cons c
    | zero =>
      rw [startsFrom]
      split
      · next hfound =>
        have hrest := (ih (part.length - 1)).cons c
        refine ⟨?_, ?_⟩
        · intro i hi
          rcases List.mem_cons.1 hi with rfl | hi
          · exact hfound.2
          · exact hrest.occurs i hi
        · refine List.pairwise_cons.2 ⟨fun i hi => ?_, hrest.apart⟩
          obtain ⟨j, hj, rfl⟩ := List.mem_map.1 hi
          have := le_of_mem_startsFrom hj
          omega
      · exact (ih 0).cons c

/-- Behind what is left out, no occurrences that do not overlap are more than those found from left to right.
-/
theorem length_le_length_startsFrom (hne : part ≠ []) (skipped : Nat) {starts : List Nat}
    (h : Occurrences part text starts) (hskipped : ∀ i ∈ starts, skipped ≤ i) :
    starts.length ≤ (startsFrom part skipped text).length := by
  induction text generalizing skipped starts with
  | nil =>
    -- nothing but the empty text occurs in the empty text
    cases starts with
    | nil => simp
    | cons i starts =>
      have hprefix := h.occurs i (by simp)
      rw [List.drop_nil, List.prefix_nil] at hprefix
      exact absurd hprefix hne
  | cons c cs ih =>
    have hbehind : ∀ (skip : Nat) {others : List Nat}, Occurrences part (c :: cs) others →
        (∀ i ∈ others, skip + 1 ≤ i) → others.length ≤ (startsFrom part skip cs).length := by
      intro skip others hothers hskip
      have hlater := ih skip (hothers.of_cons fun i hi => Nat.le_of_add_left_le (hskip i hi)) (by
        intro i hi
        obtain ⟨j, hj, rfl⟩ := List.mem_map.1 hi
        exact Nat.le_sub_one_of_lt (hskip j hj))
      simpa using hlater
    cases skipped with
    | succ skipped => simpa [startsFrom] using hbehind skipped h hskipped
    | zero =>
      rw [startsFrom]
      split
      · -- what comes behind the first place comes behind the part that is found here
        cases starts with
        | nil => simp
        | cons i starts =>
          obtain ⟨hfirst, hapart⟩ := List.pairwise_cons.1 h.apart
          have hrest : Occurrences part (c :: cs) starts := ⟨fun j hj => h.occurs j (by simp [hj]), hapart⟩
          have hpos := List.length_pos_iff.2 hne
          have hlater := hbehind (part.length - 1) hrest fun j hj => by
            have := hfirst j hj
            omega
          simpa using hlater
      · next hnot =>
        have hlater := hbehind 0 h fun i hi => by
          rcases Nat.eq_zero_or_pos i with rfl | hpos
          · exact absurd ⟨hne, h.occurs 0 hi⟩ hnot
          · exact hpos
        simpa using hlater

/-- Each occurrence that is left out makes the text shorter by the length of the part. -/
theorem length_withoutFrom_add (part : List Char) (skipped : Nat) (h : skipped ≤ text.length) :
    (withoutFrom part skipped text).length + part.length * (startsFrom part skipped text).length + skipped =
      text.length := by
  induction text generalizing skipped with
  | nil => simpa [withoutFrom, startsFrom] using h
  | cons c cs ih =>
    cases skipped with
    | succ skipped =>
      have hrest := ih skipped (by simpa using h)
      rw [withoutFrom, startsFrom, List.length_map, List.length_cons]
      omega
    | zero =>
      rw [withoutFrom, startsFrom]
      split
      · next hfound =>
        have hlength : part.length ≤ cs.length + 1 := hfound.2.length_le
        have hpos := List.length_pos_iff.2 hfound.1
        have hrest := ih (part.length - 1) (by omega)
        rw [List.length_cons, List.length_cons, List.length_map, Nat.mul_succ]
        omega
      · have hrest := ih 0 (Nat.zero_le _)
        rw [List.length_cons, List.length_cons, List.length_map]
        omega

/-- A text in which a part does not occur stays as it is. -/
theorem removeAll_eq_self (h : ¬part <:+: text) : removeAll part text = text := by
  induction text with
  | nil => rfl
  | cons c cs ih =>
    have hnot : ¬(part ≠ [] ∧ part <+: c :: cs) := fun hfound => h hfound.2.isInfix
    have hrest : removeAll part cs = cs := ih fun hoccurs => h (List.infix_cons hoccurs)
    rw [removeAll, withoutFrom, if_neg hnot, ← removeAll, hrest]

/-! ## Lengths -/

namespace Dialect

/-- How many spaces at the end of a text a dialect leaves out of its length. -/
def ignored (d : Dialect) (cs : List Char) : Nat :=
  match d with
  | .sqlsrv => (cs.reverse.takeWhile (· == ' ')).length
  | _ => 0

theorem measure_add_ignored (d : Dialect) (cs : List Char) : d.measure cs + d.ignored cs = cs.length := by
  cases d with
  | sqlsrv =>
    have hlength := congrArg List.length (List.takeWhile_append_dropWhile (p := (· == ' ')) (l := cs.reverse))
    rw [List.length_append, List.length_reverse] at hlength
    exact (Nat.add_comm _ _).trans hlength
  | mysql | pgsql | sqlite | generic => rfl

/-- A dialect counts all characters of a text unless it is the one that leaves out spaces at the end and the
text ends with a space. -/
theorem ignored_eq_zero_iff {d : Dialect} {cs : List Char} :
    d.ignored cs = 0 ↔ d = .sqlsrv → cs.getLast? ≠ some ' ' := by
  cases d with
  | sqlsrv =>
    rw [← List.head?_reverse]
    show ((cs.reverse.takeWhile (· == ' ')).length = 0) ↔ _
    cases cs.reverse with
    | nil => simp
    | cons c cs => by_cases hc : c = ' ' <;> simp [hc]
  | mysql | pgsql | sqlite | generic => simp [ignored]

end Dialect

end RelevanceSql.Sql

namespace RelevanceSql.Matcher

open RelevanceSql.Sql RelevanceSql.Search

/-! ## The loss of a token -/

/-- The length that a dialect gives for a text without spaces at its end is that of the occurrences of a part,
that of the text without them, and the spaces which this one ends with, as far as the dialect leaves them out.
-/
theorem measure_eq_add (token : List Char) {value : List Char} (hvalue : value.getLast? ≠ some ' ')
    (d : Dialect) :
    d.measure value = token.length * (startsFrom token 0 value).length +
      d.ignored (removeAll token value) + d.measure (removeAll token value) := by
  have hall := d.measure_add_ignored value
  have hleft := d.measure_add_ignored (removeAll token value)
  have hlength := length_withoutFrom_add token 0 (Nat.zero_le value.length)
  have hnone : d.ignored value = 0 := Dialect.ignored_eq_zero_iff.2 fun _ => hvalue
  rw [← removeAll] at hlength
  omega

/-- **The loss of a token.** What a column without spaces at its end loses without a token is, over all
dialects, the length of the token for each of its occurrences, of which there can be no more without overlaps,
and the spaces that the column then ends with, as far as the dialect leaves them out. The divisor in the SQL
is the length of the token, so the quotient is exactly the number of occurrences, unless the dialect is the
one that leaves out spaces and there are some at the end. -/
theorem loss_of_token {text : String} {cap : Nat} {tokens : Tokens} (h : Tokens.parse text cap = some tokens)
    {token : String} (htoken : token ∈ tokens.words) {value : String}
    (hvalue : value.toList.getLast? ≠ some ' ') (d : Dialect) :
    ∃ starts, Occurrences token.toList value.toList starts ∧
      (∀ others, Occurrences token.toList value.toList others → others.length ≤ starts.length) ∧
      0 < token.toList.length ∧
      d.measure value.toList = token.toList.length * starts.length +
        d.ignored (removeAll token.toList value.toList) + d.measure (removeAll token.toList value.toList) ∧
      (d.measure value.toList - d.measure (removeAll token.toList value.toList) =
          token.toList.length * starts.length ↔
        (d = .sqlsrv → (removeAll token.toList value.toList).getLast? ≠ some ' ')) ∧
      ∀ (c : ColumnRef) (weight : Float),
        scoreText .timesInString d c.sql weight token =
          ⟨occurrenceScore d c.sql weight token.toList.length, [.text token]⟩ ∧
        (expression .timesInString d c weight token).fragment =
          scoreText .timesInString d c.sql weight token ∧
        ∀ (db : Database) (row : Row) (s : String), db.textOf row c = some s → db.lower s = value →
          (expression .timesInString d c weight token).eval db row = .ok (.number (db.round
            (db.numeral (Number.literal weight) * (token.toList.length * starts.length +
              d.ignored (removeAll token.toList value.toList)) / token.toList.length))) ∧
          ((d = .sqlsrv → (removeAll token.toList value.toList).getLast? ≠ some ' ') →
            (expression .timesInString d c weight token).eval db row =
              .ok (.number (db.round (db.numeral (Number.literal weight) * starts.length)))) := by
  have hne : token.toList ≠ [] := (isToken_of_parse h token htoken).ne_nil
  have hmeasure := measure_eq_add token.toList hvalue d
  refine ⟨startsFrom token.toList 0 value.toList, occurrences_startsFrom _ 0 _, fun others hothers => ?_,
    List.length_pos_iff.2 hne, hmeasure, ?_, fun c weight => ⟨?_, fragment_expression _ _ _ _ _, ?_⟩⟩
  · exact length_le_length_startsFrom hne 0 hothers fun i _ => Nat.zero_le i
  · rw [hmeasure, Nat.add_sub_cancel, Nat.add_eq_left, Dialect.ignored_eq_zero_iff]
  · simp only [scoreText, if_neg hne]
  · rintro db row s hs rfl
    have heval : (expression .timesInString d c weight token).eval db row = .ok (.number (db.round
        (db.numeral (Number.literal weight) *
          (token.toList.length * (startsFrom token.toList 0 (db.lower s).toList).length +
            d.ignored (removeAll token.toList (db.lower s).toList)) / token.toList.length))) := by
      have hcast : (d.measure (db.lower s).toList : ℚ) =
          token.toList.length * (startsFrom token.toList 0 (db.lower s).toList).length +
            d.ignored (removeAll token.toList (db.lower s).toList) +
              d.measure (removeAll token.toList (db.lower s).toList) := by exact_mod_cast hmeasure
      rw [eval_expression .timesInString d hs weight token]
      simp only [points, if_neg hne]
      rw [hcast, add_sub_cancel_right]
    refine ⟨heval, fun hexact => ?_⟩
    have hlength : (token.toList.length : ℚ) ≠ 0 :=
      Nat.cast_ne_zero.2 fun hzero => hne (List.length_eq_zero_iff.1 hzero)
    rw [heval, Dialect.ignored_eq_zero_iff.2 hexact, Nat.cast_zero, add_zero, mul_left_comm,
      mul_div_cancel_left₀ _ hlength]

/-- A token of two letters that a column has twice, once behind a space: without it the column ends with no
space, and the dialect that leaves such spaces out counts it twice as well. -/
theorem loss_of_token_twice :
    ∃ tokens, Tokens.parse "Jo" 5 = some tokens ∧ "jo" ∈ tokens.words ∧
      "a jojo b".toList.getLast? ≠ some ' ' ∧
      (Dialect.sqlsrv = .sqlsrv → (removeAll "jo".toList "a jojo b".toList).getLast? ≠ some ' ') ∧
      Database.plain.textOf (fun _ => some "a jojo b") ⟨"c", none⟩ = some "a jojo b" ∧
      Database.plain.lower "a jojo b" = "a jojo b" ∧
      ∃ starts, Occurrences "jo".toList "a jojo b".toList starts ∧
        (expression .timesInString .sqlsrv ⟨"c", none⟩ 1.0 "jo").eval .plain (fun _ => some "a jojo b") =
          .ok (.number
            (Database.plain.round (Database.plain.numeral (Number.literal 1.0) * starts.length))) := by
  have hparse : Tokens.parse "Jo" 5 = some ⟨["jo"], by decide⟩ := by decide
  have hmem : "jo" ∈ ["jo"] := by decide
  have hlast : "a jojo b".toList.getLast? ≠ some ' ' := by decide
  have hleft : Dialect.sqlsrv = .sqlsrv → (removeAll "jo".toList "a jojo b".toList).getLast? ≠ some ' ' := by
    decide
  obtain ⟨starts, hstarts, -, -, -, -, hscores⟩ := loss_of_token hparse hmem hlast .sqlsrv
  obtain ⟨-, -, hvalues⟩ := hscores ⟨"c", none⟩ 1.0
  exact ⟨_, hparse, hmem, hlast, hleft, rfl, rfl, starts, hstarts,
    (hvalues .plain (fun _ => some "a jojo b") "a jojo b" rfl rfl).2 hleft⟩

/-- A token at the end of a column, behind a space: with it goes the space, and one occurrence is worth one
and a half. -/
theorem loss_of_last_token :
    ∃ tokens, Tokens.parse "Jo" 5 = some tokens ∧ "jo" ∈ tokens.words ∧
      "a jo".toList.getLast? ≠ some ' ' ∧
      Occurrences "jo".toList "a jo".toList [2] ∧
      (∀ others, Occurrences "jo".toList "a jo".toList others → others.length ≤ 1) ∧
      Dialect.sqlsrv.measure "a jo".toList -
        Dialect.sqlsrv.measure (removeAll "jo".toList "a jo".toList) = 3 ∧
      (∀ n, Dialect.sqlsrv.measure "a jo".toList -
        Dialect.sqlsrv.measure (removeAll "jo".toList "a jo".toList) ≠ "jo".toList.length * n) ∧
      (expression .timesInString .sqlsrv ⟨"c", none⟩ 1.0 "jo").eval .plain (fun _ => some "a jo") =
        .ok (.number (3 / 2)) := by
  have hloss : Dialect.sqlsrv.measure "a jo".toList -
      Dialect.sqlsrv.measure (removeAll "jo".toList "a jo".toList) = 3 := by decide
  have hstarts : Occurrences "jo".toList "a jo".toList [2] := occurrences_startsFrom _ 0 _
  refine ⟨⟨["jo"], by decide⟩, by decide, by decide, by decide, hstarts, fun others hothers => ?_, hloss,
    fun n => ?_, ?_⟩
  · exact length_le_length_startsFrom (by decide) 0 hothers fun i _ => Nat.zero_le i
  · rw [hloss]
    show 3 ≠ 2 * n
    omega
  · have htext : Database.plain.textOf (fun _ => some "a jo") ⟨"c", none⟩ = some "a jo" := rfl
    have hwhole : Dialect.sqlsrv.measure (Database.plain.lower "a jo").toList = 4 := by decide
    have hleft : Dialect.sqlsrv.measure (removeAll "jo".toList (Database.plain.lower "a jo").toList) = 1 := by
      decide
    have hne : "jo".toList ≠ [] := by decide
    have hlength : "jo".toList.length = 2 := by decide
    rw [eval_expression .timesInString .sqlsrv htext 1.0 "jo"]
    simp only [points, if_neg hne, hwhole, hleft, hlength]
    have hquotient : (1 : ℚ) * ((4 : ℕ) - (1 : ℕ)) / (2 : ℕ) = 3 / 2 := by norm_num
    exact congrArg (fun q => Except.ok (Value.number q)) hquotient

end RelevanceSql.Matcher
