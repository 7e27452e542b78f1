import RelevanceSql.Document.Parser
import RelevanceSql.Proofs.Numerals

/-!
# Numbers of documents

A numeral is written as its digits, with a sign, a fraction and an exponent where it has them, and in
front of anything that does not go on with it, it is read back (`readNumeral?_render`).

Integers and binary64 numbers are written as numerals, and the reader of integers tells the two apart:
an integer of at most 64 bits comes back (`toInt?_ofInt`), and the decimal of a binary64 number is never
read as an integer, since it is written with a fraction or an exponent (`toInt?_ofDecimal`).
-/

namespace RelevanceSql.Document

open RelevanceSql.Number RelevanceSql.Text

/-! ## Numerals in front of other text -/

/-- Whether a numeral in front of a character would go on with it. -/
def continuesNumeral (c : Char) : Bool := isAsciiDigit c || c == '.' || c == 'e' || c == 'E'

/-- A text with which a numeral before it does not go on. -/
def EndsNumeral (rest : List Char) : Prop := ∀ c ∈ rest.head?, continuesNumeral c = false

/-- A numeral ends where the text ends. -/
theorem endsNumeral_nil : EndsNumeral [] := by
  intro c hc
  cases hc

theorem endsNumeral_cons {c : Char} (h : continuesNumeral c = false) (rest : List Char) :
    EndsNumeral (c :: rest) := by
  intro d hd
  rw [List.head?_cons, Option.mem_def, Option.some.injEq] at hd
  rw [← hd]
  exact h

theorem continuesNumeral_eq_false_iff {c : Char} :
    continuesNumeral c = false ↔ isAsciiDigit c = false ∧ c ≠ '.' ∧ c ≠ 'e' ∧ c ≠ 'E' := by
  simp [continuesNumeral, and_assoc]

/-- A numeral of the grammar: digits in both places, and no zero in front of other digits. -/
structure Numeral.IsProper (n : Numeral) : Prop where
  whole : isDigits n.whole = true
  leading : ∀ digits, n.whole = '0' :: digits → digits = []
  fraction : n.fraction.all isAsciiDigit = true

/-- The digits in front of the point are read up to what is no digit. -/
theorem readWhole?_append {whole rest : List Char} (hdigits : isDigits whole = true)
    (hleading : ∀ digits, whole = '0' :: digits → digits = [])
    (hrest : ∀ c ∈ rest.head?, isAsciiDigit c = false) :
    readWhole? (whole ++ rest) = some (whole, rest) := by
  have hspan := span_of_isDigits (Bool.and_eq_true_iff.1 hdigits).2 hrest
  rw [readWhole?, spanDigits, hspan.1, hspan.2]
  split
  · next heq =>
    rw [Prod.mk.injEq] at heq
    rw [heq.1] at hdigits
    cases hdigits
  · next heq =>
    rw [Prod.mk.injEq] at heq
    have := hleading _ heq.1
    cases this
  · rfl

/-- The text of a fraction. -/
def fractionText (fraction : List Char) : List Char := if fraction.isEmpty then [] else '.' :: fraction

/-- A fraction is read back, and none is found where none was written. -/
theorem readFraction?_append {fraction rest : List Char} (hdigits : fraction.all isAsciiDigit = true)
    (hrest : ∀ c ∈ rest.head?, isAsciiDigit c = false ∧ c ≠ '.') :
    readFraction? (fractionText fraction ++ rest) = some (fraction, rest) := by
  have hspan := span_of_isDigits hdigits fun c hc => (hrest c hc).1
  cases fraction with
  | nil =>
    show readFraction? rest = _
    rw [readFraction?]
    intro cs heq
    rw [heq] at hrest
    exact (hrest '.' rfl).2 rfl
  | cons c cs =>
    show readFraction? ('.' :: (c :: cs ++ rest)) = _
    rw [readFraction?, spanDigits, hspan.1, hspan.2]
    rfl

/-- The text of an exponent. -/
def exponentText : Option Int → List Char
  | some e => 'e' :: (toString e).toList
  | none => []

/-- Digits have no sign. -/
theorem splitSign_toString_append (n : Nat) (rest : List Char) :
    splitSign ((toString n).toList ++ rest) = (false, (toString n).toList ++ rest) := by
  obtain ⟨d, ds, hdigits, hd⟩ := exists_of_isDigits (isDigits_toString n)
  rw [hdigits, splitSign]
  all_goals
    intro _ heq
    rw [(List.cons.inj heq).1] at hd
    cases hd

/-- The power of ten is read back with its sign. -/
theorem readPower?_append (e : Int) {rest : List Char} (hrest : ∀ c ∈ rest.head?, isAsciiDigit c = false) :
    readPower? ((toString e).toList ++ rest) = some (some e, rest) := by
  have hspan : ∀ n : Nat, spanDigits ((toString n).toList ++ rest) = ((toString n).toList, rest) := by
    intro n
    have hdigits := (Bool.and_eq_true_iff.1 (isDigits_toString n)).2
    rw [spanDigits, (span_of_isDigits hdigits hrest).1, (span_of_isDigits hdigits hrest).2]
  have hne : ∀ n : Nat, (toString n).toList.isEmpty = false := by
    intro n
    have hnonempty := (Bool.and_eq_true_iff.1 (isDigits_toString n)).1
    rw [Bool.not_eq_true'] at hnonempty
    exact hnonempty
  -- a power that is negative is written with a minus sign, and any other without a sign
  cases e with
  | ofNat n =>
    have htext : toString (Int.ofNat n) = toString n := rfl
    rw [readPower?, htext, splitSign_toString_append]
    simp only [hspan, hne, ofDigits_toString]
    rfl
  | negSucc n =>
    have htext : (toString (Int.negSucc n)).toList = '-' :: (toString (n + 1)).toList := by
      have hminus : toString (Int.negSucc n) = "-" ++ toString (n + 1) := rfl
      rw [hminus, String.toList_append]
      rfl
    rw [readPower?, htext, List.cons_append, splitSign]
    simp only [hspan, hne, ofDigits_toString]
    rfl

/-- An exponent is read back, and none is found where none was written. -/
theorem readExponent?_append (e : Option Int) {rest : List Char} (hrest : EndsNumeral rest) :
    Document.readExponent? (exponentText e ++ rest) = some (e, rest) := by
  have hends : ∀ c ∈ rest.head?, isAsciiDigit c = false ∧ c ≠ '.' ∧ c ≠ 'e' ∧ c ≠ 'E' :=
    fun c hc => continuesNumeral_eq_false_iff.1 (hrest c hc)
  cases e with
  | some e => exact readPower?_append e fun c hc => (hends c hc).1
  | none =>
    show Document.readExponent? rest = _
    rw [Document.readExponent?]
    · intro cs heq
      rw [heq] at hends
      exact (hends 'e' rfl).2.2.1 rfl
    · intro cs heq
      rw [heq] at hends
      exact (hends 'E' rfl).2.2.2 rfl

/-- What stands behind the fraction begins neither with a digit nor with a point. -/
theorem head?_exponentText_append (e : Option Int) {rest : List Char} (hrest : EndsNumeral rest) :
    ∀ c ∈ (exponentText e ++ rest).head?, isAsciiDigit c = false ∧ c ≠ '.' := by
  intro c hc
  cases e with
  | some e =>
    rw [exponentText, List.cons_append, List.head?_cons, Option.mem_def, Option.some.injEq] at hc
    rw [← hc]
    exact ⟨rfl, by decide⟩
  | none =>
    obtain ⟨hdigit, hpoint, -, -⟩ := continuesNumeral_eq_false_iff.1 (hrest c hc)
    exact ⟨hdigit, hpoint⟩

/-- What stands behind the whole digits does not begin with a digit. -/
theorem head?_fractionText_append (fraction : List Char) {rest : List Char}
    (hrest : ∀ c ∈ rest.head?, isAsciiDigit c = false ∧ c ≠ '.') :
    ∀ c ∈ (fractionText fraction ++ rest).head?, isAsciiDigit c = false := by
  intro c hc
  cases fraction with
  | nil => exact (hrest c hc).1
  | cons d ds =>
    have hpoint : '.' = c := Option.some.inj hc
    rw [← hpoint]
    rfl

/-- The digits of a numeral, without the sign. -/
def Numeral.body (n : Numeral) : List Char :=
  n.whole ++ fractionText n.fraction ++ exponentText n.exponent

/-- A numeral is its sign, if it has one, and its digits. -/
theorem Numeral.render_eq (n : Numeral) :
    n.render = (if n.negative then ['-'] else []) ++ n.body := by
  cases h : n.exponent <;> simp [Numeral.render, Numeral.body, fractionText, exponentText, h]

/-- The digits of a numeral begin with a digit. -/
theorem Numeral.IsProper.exists_body {n : Numeral} (h : n.IsProper) :
    ∃ c cs, n.body = c :: cs ∧ isAsciiDigit c = true := by
  obtain ⟨c, cs, hwhole, hdigit⟩ := exists_of_isDigits h.whole
  refine ⟨c, cs ++ fractionText n.fraction ++ exponentText n.exponent, ?_, hdigit⟩
  rw [Numeral.body, hwhole]
  rfl

/-- A numeral of the grammar is read back in front of what does not go on with it. -/
theorem readNumeral?_render {n : Numeral} (h : n.IsProper) {rest : List Char} (hrest : EndsNumeral rest) :
    readNumeral? (n.render ++ rest) = some (n, rest) := by
  have hbehind := head?_exponentText_append n.exponent hrest
  have hwhole : readWhole? (n.body ++ rest) =
      some (n.whole, fractionText n.fraction ++ (exponentText n.exponent ++ rest)) := by
    rw [Numeral.body, List.append_assoc, List.append_assoc]
    exact readWhole?_append h.whole h.leading (head?_fractionText_append n.fraction hbehind)
  have hfraction := readFraction?_append h.fraction hbehind
  have hexponent := readExponent?_append n.exponent hrest
  rw [Numeral.render_eq]
  unfold readNumeral?
  split
  next negative body hsign =>
  -- the sign is split off as it was written, because the digits begin with no sign
  have hparts : negative = n.negative ∧ body = n.body ++ rest := by
    cases hnegative : n.negative with
    | true =>
      rw [hnegative] at hsign
      exact ⟨(Prod.mk.inj hsign).1.symm, (Prod.mk.inj hsign).2.symm⟩
    | false =>
      obtain ⟨c, cs, hcs, hdigit⟩ := h.exists_body
      rw [hnegative, if_neg Bool.false_ne_true, List.nil_append] at hsign
      split at hsign
      · next heq =>
        rw [hcs, List.cons_append] at heq
        rw [(List.cons.inj heq).1] at hdigit
        cases hdigit
      · exact ⟨(Prod.mk.inj hsign).1.symm, (Prod.mk.inj hsign).2.symm⟩
  rw [hparts.1, hparts.2]
  simp only [hwhole, hfraction, hexponent]

/-- Whether a numeral can begin with a character. -/
def opensNumeral (c : Char) : Bool := isAsciiDigit c || c == '-'

/-- A numeral of the grammar begins with a digit or a minus sign. -/
theorem Numeral.IsProper.exists_render {n : Numeral} (h : n.IsProper) :
    ∃ c tail, n.render = c :: tail ∧ opensNumeral c = true := by
  rw [Numeral.render_eq]
  cases n.negative with
  | true => exact ⟨'-', n.body, rfl, rfl⟩
  | false =>
    obtain ⟨c, cs, hbody, hdigit⟩ := h.exists_body
    refine ⟨c, cs, hbody, ?_⟩
    rw [opensNumeral, hdigit, Bool.true_or]

/-! ## Integers and decimals as numerals -/

/-- A number that is not zero begins with another digit. -/
theorem exists_toString_eq_cons {n : Nat} (h : n ≠ 0) :
    ∃ c cs, (toString n).toList = c :: cs ∧ c ≠ '0' := by
  rw [Nat.toString_eq_ofList_toDigits, String.toList_ofList]
  have hdigit : ∀ d < 10, d ≠ 0 → Nat.digitChar d ≠ '0' := by decide
  induction n using Nat.strongRecOn with
  | ind n ih =>
    by_cases hn : n < 10
    · rw [Nat.toDigits_of_lt_base hn]
      exact ⟨n.digitChar, [], rfl, hdigit n hn h⟩
    · obtain ⟨c, cs, hcs, hc⟩ := ih (n / 10) (by omega) (by omega)
      rw [Nat.toDigits_of_base_le (by omega) (by omega), hcs]
      exact ⟨c, _, List.cons_append, hc⟩

/-- Only zero is written with a zero in front. -/
theorem eq_nil_of_toString_eq_cons {n : Nat} {digits : List Char}
    (h : (toString n).toList = '0' :: digits) : digits = [] := by
  by_cases hn : n = 0
  · subst hn
    cases h
    rfl
  · obtain ⟨c, cs, hcs, hc⟩ := exists_toString_eq_cons hn
    rw [hcs] at h
    exact absurd (List.cons.inj h).1 hc

/-- Integers are written with the digits of the grammar. -/
theorem isProper_ofInt (i : Int) : (Numeral.ofInt i).IsProper :=
  ⟨isDigits_toString _, fun _ => eq_nil_of_toString_eq_cons, rfl⟩

/-- An integer of a document is read back. -/
theorem toInt?_ofInt {i : Int} (hlow : -2 ^ 63 ≤ i) (hhigh : i < 2 ^ 64) :
    (Numeral.ofInt i).toInt? = some i := by
  have hsize : ofDigits (Numeral.ofInt i).whole = i.natAbs := ofDigits_toString i.natAbs
  have hpower : Nat.pow 2 63 = 2 ^ 63 := rfl
  have hbound : countBound = 2 ^ 64 := rfl
  unfold Numeral.toInt?
  rw [hsize, hpower, hbound]
  by_cases h : i < 0
  · have hnegative : (Numeral.ofInt i).negative = true := decide_eq_true h
    have hfits : i.natAbs ≠ 0 ∧ i.natAbs ≤ 2 ^ 63 := by omega
    have hvalue : -(i.natAbs : Int) = i := by omega
    rw [hnegative]
    simp only [Numeral.ofInt, List.isEmpty_nil, Option.isSome_none, Bool.not_true, Bool.or_self,
      Bool.false_eq_true, if_false, if_true, if_pos hfits, hvalue]
  · have hnegative : (Numeral.ofInt i).negative = false := decide_eq_false h
    have hfits : i.natAbs < 2 ^ 64 := by omega
    have hvalue : (i.natAbs : Int) = i := by omega
    rw [hnegative]
    simp only [Numeral.ofInt, List.isEmpty_nil, Option.isSome_none, Bool.not_true, Bool.or_self,
      Bool.false_eq_true, if_false, if_pos hfits, hvalue]

theorem all_isAsciiDigit_toString (n : Nat) : (toString n).toList.all isAsciiDigit = true :=
  (Bool.and_eq_true_iff.1 (isDigits_toString n)).2

theorem all_isAsciiDigit_zeros (n : Nat) : (List.replicate n '0').all isAsciiDigit = true := by
  rw [List.all_eq_true]
  intro c hc
  rw [List.eq_of_mem_replicate hc]
  rfl

/-- Decimals are written with the digits of the grammar, and with a fraction or an exponent. -/
theorem ofDecimal_spec (negative : Bool) (d : Decimal) :
    (Numeral.ofDecimal negative d).IsProper ∧ ((Numeral.ofDecimal negative d).fraction = [] →
      (Numeral.ofDecimal negative d).exponent.isSome = true) := by
  by_cases hzero : d.coefficient = 0
  · rw [Numeral.ofDecimal, if_pos hzero]
    exact ⟨⟨rfl, fun _ h => (List.cons.inj h).2.symm, rfl⟩, by rintro ⟨⟩⟩
  obtain ⟨c, cs, hdigits, hc⟩ := exists_toString_eq_cons hzero
  have hall := all_isAsciiDigit_toString d.coefficient
  unfold Numeral.ofDecimal
  rw [if_neg hzero, hdigits]
  rw [hdigits] at hall
  have hcs : cs.all isAsciiDigit = true := by
    rw [List.all_cons, Bool.and_eq_true] at hall
    exact hall.2
  have hleading : ∀ more digits, c :: more = '0' :: digits → digits = [] := by
    intro more digits heq
    exact absurd (List.cons.inj heq).1 hc
  split
  · -- one digit, the others as a fraction, and an exponent
    refine ⟨⟨?_, hleading [], hcs⟩, fun _ => rfl⟩
    rw [List.all_cons, Bool.and_eq_true] at hall
    show (true && ([c].all isAsciiDigit)) = true
    rw [List.all_cons, hall.1]
    rfl
  split
  · -- an integer, with zeros behind the digits and a fraction of zero
    next _ hexponent =>
    refine ⟨⟨?_, hleading _, rfl⟩, by rintro ⟨⟩⟩
    show (true && (c :: cs ++ List.replicate d.exponent.toNat '0').all isAsciiDigit) = true
    rw [List.all_append, hall, all_isAsciiDigit_zeros]
    rfl
  split
  · -- a point among the digits
    next _ hexponent hpoint =>
    rw [List.length_cons] at hpoint ⊢
    obtain ⟨k, hk⟩ : ∃ k, (((cs.length + 1 : Nat) : Int) + d.exponent).toNat = k + 1 :=
      ⟨(((cs.length + 1 : Nat) : Int) + d.exponent).toNat - 1, by omega⟩
    have htake : ((c :: cs).take (k + 1)).all isAsciiDigit = true := by
      rw [List.all_eq_true] at hall ⊢
      exact fun e he => hall e (List.mem_of_mem_take he)
    have hdrop : (cs.drop k).all isAsciiDigit = true := by
      rw [List.all_eq_true] at hcs ⊢
      exact fun e he => hcs e (List.mem_of_mem_drop he)
    rw [hk]
    refine ⟨⟨htake, hleading _, hdrop⟩, ?_⟩
    intro hnil
    have hlength : cs.length ≤ k := List.drop_eq_nil_iff.1 hnil
    omega
  · -- all digits behind the point
    refine ⟨⟨rfl, fun _ h => (List.cons.inj h).2.symm, ?_⟩, ?_⟩
    · rw [List.all_append, all_isAsciiDigit_zeros, hall]
      rfl
    · intro hnil
      exact absurd (List.append_eq_nil_iff.1 hnil).2 (List.cons_ne_nil c cs)

/-- A decimal is not read as an integer. -/
theorem toInt?_ofDecimal (negative : Bool) (d : Decimal) :
    (Numeral.ofDecimal negative d).toInt? = none := by
  have hspec := (ofDecimal_spec negative d).2
  have hnot : (!(Numeral.ofDecimal negative d).fraction.isEmpty ||
      (Numeral.ofDecimal negative d).exponent.isSome) = true := by
    cases hfraction : (Numeral.ofDecimal negative d).fraction with
    | nil =>
      rw [hspec hfraction]
      rfl
    | cons c cs => rfl
  unfold Numeral.toInt?
  rw [if_pos hnot]

end RelevanceSql.Document
