import RelevanceSql.Proofs.Sums
import RelevanceSql.Proofs.TermOrder

/-!
# What a matcher gives for a column

The SQL of a matcher is the text of an expression (`fragment_expression`), and that of a matcher for single
tokens is the sum of those for its tokens (`fragment_score`). In a row it is worth a number of points, which
depend on the text of the column only (`eval_expression`), and none if there is no text (`Form.eval_of_null`):
a column that is NULL makes no condition true, and where there is no condition, zero is taken for NULL.

The expressions of the eight matchers have six forms (`Form`), so that what does not depend on the matcher is
shown once for each form.
-/

namespace RelevanceSql.Matcher

open RelevanceSql.Sql RelevanceSql.Search RelevanceSql.Text

/-! ## Expressions -/

/-- A column in small letters. -/
def loweredExpr (c : ColumnRef) : Expr := .call .lower (.column c)

/-- That a column fits a bound pattern. -/
def likeExpr (c : ColumnRef) (pattern : List Char) : Expr :=
  .compare .like (loweredExpr c) (.bound (String.ofList pattern))

/-- That a column sounds like a bound text. -/
def soundsLikeExpr (d : Dialect) (c : ColumnRef) (text : String) : Expr :=
  match d with
  | .pgsql | .sqlsrv => .compare .equal (.call .soundex (.column c)) (.call .soundex (.bound text))
  | _ => .compare .soundsLike (.column c) (.bound text)

/-- The length of a column without its spaces. -/
def spacelessExpr (d : Dialect) (c : ColumnRef) : Expr :=
  .call (.length d) (.without (.column c) (.quoted " "))

/-- A weight if a condition holds, and zero otherwise. -/
def conditionalExpr (condition : Expr) (weight : Float) : Expr :=
  .caseWhen condition (.numeral (Number.literal weight)) (.count 0)

/-- A weight times a number over another one, rounded. -/
def shareExpr (weight : String) (number divisor : Expr) : Expr :=
  .call .round (.arith .dividedBy (.arith .times (.numeral weight) number) divisor)

/-- The share of a weight that a pattern of some length has in a column that fits it. -/
def subsequenceExpr (d : Dialect) (c : ColumnRef) (weight : Float) (length : Nat) (pattern : List Char) :
    Expr :=
  .caseWhen (.both (likeExpr c pattern) (.compare .greater (spacelessExpr d c) (.count 0)))
    (shareExpr (Number.decimalLiteral weight) (.count length) (spacelessExpr d c)) (.count 0)

/-- The length that a column loses without a text. -/
def lossExpr (d : Dialect) (c : ColumnRef) (text : String) : Expr :=
  .arith .minus (.call (.length d) (loweredExpr c))
    (.call (.length d) (.without (loweredExpr c) (.bound text)))

/-- A weight times the length that a column loses without a text, over the length of the text. -/
def occurrenceExpr (d : Dialect) (c : ColumnRef) (weight : Float) (text : String) : Expr :=
  .orElse (shareExpr (Number.literal weight) (.parens (lossExpr d c text)) (.count text.toList.length))
    (.count 0)

/-- What a matcher adds for one text. -/
def expression (m : Matcher) (d : Dialect) (c : ColumnRef) (weight : Float) (text : String) : Expr :=
  let cs := text.toList
  match m with
  | .exactFull => conditionalExpr (.compare .equal (loweredExpr c) (.bound text)) weight
  | .exactInString => conditionalExpr (likeExpr c (containsPattern cs)) weight
  | .startOfString => conditionalExpr (likeExpr c (startPattern cs)) weight
  | .startOfWords => conditionalExpr (likeExpr c (wordsPattern cs)) weight
  | .similarString => conditionalExpr (soundsLikeExpr d c text) weight
  | .acronym =>
    match acronymPattern? cs with
    | some pattern => conditionalExpr (likeExpr c pattern) weight
    | none => .count 0
  | .consecutiveCharacters =>
    match subsequencePattern? cs with
    | some pattern => subsequenceExpr d c weight (subsequenceLength cs) pattern
    | none => .count 0
  | .timesInString => if cs = [] then .count 0 else occurrenceExpr d c weight text

/-- What a matcher may add for one text, whichever matcher it is. -/
inductive Form (d : Dialect) (c : ColumnRef) (weight : Float) (text : String) : Expr → Prop where
  | nothing : Form d c weight text (.count 0)
  | equal : Form d c weight text (conditionalExpr (.compare .equal (loweredExpr c) (.bound text)) weight)
  | fits (pattern : List Char) : Form d c weight text (conditionalExpr (likeExpr c pattern) weight)
  | soundsLike : Form d c weight text (conditionalExpr (soundsLikeExpr d c text) weight)
  | subsequence (length : Nat) (pattern : List Char) :
    Form d c weight text (subsequenceExpr d c weight length pattern)
  | occurrences (hne : text.toList ≠ []) : Form d c weight text (occurrenceExpr d c weight text)

/-- Each matcher has one of the forms, or adds nothing if its token has no pattern. -/
theorem form_expression (m : Matcher) (d : Dialect) (c : ColumnRef) (weight : Float) (text : String) :
    Form d c weight text (m.expression d c weight text) := by
  cases m with
  | exactFull => exact .equal
  | exactInString | startOfString | startOfWords => exact .fits _
  | similarString => exact .soundsLike
  | acronym =>
    simp only [expression]
    split
    · exact .fits _
    · exact .nothing
  | consecutiveCharacters =>
    simp only [expression]
    split
    · exact .subsequence _ _
    · exact .nothing
  | timesInString =>
    simp only [expression]
    split
    · exact .nothing
    · next hne => exact .occurrences hne

/-! ## Their texts -/

/-- The text of a comparison with a bound pattern. -/
theorem sql_likeExpr (c : ColumnRef) (pattern : List Char) : (likeExpr c pattern).sql = like c.sql := by
  show lowered c.sql ++ " LIKE " ++ "?" ++ " ESCAPE '!'" = lowered c.sql ++ " LIKE ? ESCAPE '!'"
  apply String.toList_injective
  simp

/-- Two ways to compare by sound, by dialect, each with one bound text. -/
theorem fragment_soundsLikeExpr (d : Dialect) (c : ColumnRef) (text : String) :
    (soundsLikeExpr d c text).fragment = ⟨d.soundsLike c.sql, [.text text]⟩ := by
  have hsoundex : "SOUNDEX(" ++ c.sql ++ ")" ++ " = " ++ ("SOUNDEX(" ++ "?" ++ ")") =
      "SOUNDEX(" ++ c.sql ++ ") = SOUNDEX(?)" := by
    apply String.toList_injective
    simp
  have hsounds : c.sql ++ " SOUNDS LIKE " ++ "?" = c.sql ++ " SOUNDS LIKE ?" := by
    apply String.toList_injective
    simp
  cases d with
  | pgsql | sqlsrv => exact congrArg (Fragment.mk · [.text text]) hsoundex
  | mysql | sqlite | generic => exact congrArg (Fragment.mk · [.text text]) hsounds

theorem sql_spacelessExpr (d : Dialect) (c : ColumnRef) :
    (spacelessExpr d c).sql = spacelessLength d c.sql := by
  have hquoted : "REPLACE(" ++ c.sql ++ ", " ++ "' '" ++ ", '')" = "REPLACE(" ++ c.sql ++ ", ' ', '')" := by
    apply String.toList_injective
    simp
  exact congrArg d.length hquoted

/-- A condition keeps its values, since the weight is written as a numeral. -/
theorem fragment_conditionalExpr (condition : Expr) (weight : Float) :
    (conditionalExpr condition weight).fragment = ⟨caseWhen condition.sql weight, condition.values⟩ := by
  have htext : "CASE WHEN " ++ condition.sql ++ " THEN " ++ Number.literal weight ++ " ELSE " ++ "0" ++
      " END" = caseWhen condition.sql weight := by
    unfold caseWhen
    apply String.toList_injective
    simp
  have hvalues : condition.values ++ [] ++ [] = condition.values := by simp
  exact congrArg₂ Fragment.mk htext hvalues

theorem fragment_likeExpr (c : ColumnRef) (pattern : List Char) (weight : Float) :
    (conditionalExpr (likeExpr c pattern) weight).fragment = conditional (like c.sql) weight pattern := by
  rw [fragment_conditionalExpr, sql_likeExpr]
  rfl

/-- The pieces of a guarded division, put together. -/
theorem guarded_text (condition divisor weight length : String) :
    "CASE WHEN " ++ (condition ++ " AND " ++ (divisor ++ " > " ++ "0")) ++ " THEN " ++
        ("ROUND(" ++ (weight ++ " * " ++ length ++ " / " ++ divisor) ++ ", 0)") ++ " ELSE " ++ "0" ++ " END" =
      "CASE WHEN " ++ condition ++ " AND " ++ divisor ++ " > 0 THEN ROUND(" ++ weight ++ " * " ++ length ++
        " / " ++ divisor ++ ", 0) ELSE 0 END" := by
  apply String.toList_injective
  simp

/-- The share of a weight by length, with its pattern. -/
theorem fragment_subsequenceExpr (d : Dialect) (c : ColumnRef) (weight : Float) (length : Nat)
    (pattern : List Char) :
    (subsequenceExpr d c weight length pattern).fragment =
      ⟨subsequenceScore d c.sql weight length, [.text (String.ofList pattern)]⟩ := by
  have htext : (subsequenceExpr d c weight length pattern).sql = subsequenceScore d c.sql weight length := by
    unfold subsequenceScore
    exact sql_likeExpr c pattern ▸ sql_spacelessExpr d c ▸ guarded_text _ _ _ _
  exact congrArg (Fragment.mk · [.text (String.ofList pattern)]) htext

/-- The pieces of a weighted quotient that is zero for NULL, put together. -/
theorem quotient_text (weight length without divisor : String) :
    "COALESCE(" ++ ("ROUND(" ++ (weight ++ " * " ++ ("(" ++ (length ++ " - " ++ without) ++ ")") ++ " / " ++
        divisor) ++ ", 0)") ++ ", " ++ "0" ++ ")" =
      "COALESCE(ROUND(" ++ weight ++ " * (" ++ length ++ " - " ++ without ++ ") / " ++ divisor ++
        ", 0), 0)" := by
  apply String.toList_injective
  simp

/-- The share of a weight by occurrences, with its token. -/
theorem fragment_occurrenceExpr (d : Dialect) (c : ColumnRef) (weight : Float) (text : String) :
    (occurrenceExpr d c weight text).fragment =
      ⟨occurrenceScore d c.sql weight text.toList.length, [.text text]⟩ := by
  have hwithout : "REPLACE(" ++ lowered c.sql ++ ", " ++ "?" ++ ", '')" =
      "REPLACE(" ++ lowered c.sql ++ ", ?, '')" := by
    apply String.toList_injective
    simp
  have htext : (occurrenceExpr d c weight text).sql =
      occurrenceScore d c.sql weight text.toList.length := by
    unfold occurrenceScore
    exact hwithout ▸ quotient_text _ _ _ _
  exact congrArg (Fragment.mk · [.text text]) htext

/-- What a matcher adds for one text is the text of its expression, with its values. -/
theorem fragment_expression (m : Matcher) (d : Dialect) (c : ColumnRef) (weight : Float) (text : String) :
    (m.expression d c weight text).fragment = m.scoreText d c.sql weight text := by
  have hzero : (Expr.count 0).fragment = .zero := rfl
  -- both texts are the same pieces; what is left is the order in which they are put together
  cases m with
  | exactFull =>
    have hequal : (Expr.compare .equal (loweredExpr c) (.bound text)).sql = lowered c.sql ++ " = ?" := by
      show lowered c.sql ++ " = " ++ "?" = _
      apply String.toList_injective
      simp
    simp only [expression, scoreText]
    rw [fragment_conditionalExpr, hequal, conditional, String.ofList_toList]
    rfl
  | exactInString | startOfString | startOfWords => exact fragment_likeExpr _ _ _
  | similarString =>
    have hsounds := fragment_soundsLikeExpr d c text
    simp only [expression, scoreText]
    rw [fragment_conditionalExpr, conditional, String.ofList_toList]
    exact congrArg₂ Fragment.mk (congrArg (caseWhen · weight) (congrArg Fragment.sql hsounds))
      (congrArg Fragment.params hsounds)
  | acronym =>
    simp only [expression, scoreText]
    cases acronymPattern? text.toList with
    | none => exact hzero
    | some pattern => exact fragment_likeExpr c pattern weight
  | consecutiveCharacters =>
    simp only [expression, scoreText]
    cases subsequencePattern? text.toList with
    | none => exact hzero
    | some pattern => exact fragment_subsequenceExpr d c weight _ pattern
  | timesInString =>
    simp only [expression, scoreText]
    split
    · exact hzero
    · exact fragment_occurrenceExpr d c weight text

/-- The text of an expression of a matcher is read as the expression. -/
theorem Form.wellBracketed {d : Dialect} {c : ColumnRef} {weight : Float} {text : String} {e : Expr}
    (h : Form d c weight text e) : e.WellBracketed := by
  cases h with
  | nothing => trivial
  | equal => simp [conditionalExpr, loweredExpr, Expr.WellBracketed, Expr.strength]
  | fits => simp [conditionalExpr, likeExpr, loweredExpr, Expr.WellBracketed, Expr.strength]
  | soundsLike =>
    cases d <;> simp [conditionalExpr, soundsLikeExpr, Expr.WellBracketed, Expr.strength]
  | subsequence =>
    simp [subsequenceExpr, shareExpr, likeExpr, loweredExpr, spacelessExpr, Expr.WellBracketed, Expr.strength]
  | occurrences =>
    simp [occurrenceExpr, shareExpr, lossExpr, loweredExpr, Expr.WellBracketed, Expr.strength]

/-- No operator around an expression of a matcher takes it apart. -/
theorem Form.strength {d : Dialect} {c : ColumnRef} {weight : Float} {text : String} {e : Expr}
    (h : Form d c weight text e) : e.strength = 4 := by
  cases h <;> rfl

/-! ## Their values -/

/-- Whether a text in a column sounds like another one. -/
def soundsAlike (db : Database) (d : Dialect) (value text : String) : Bool :=
  match d with
  | .pgsql | .sqlsrv => decide (db.soundex value = db.soundex text)
  | _ => db.soundsLike value text

/-- The points that a text in a column is worth. -/
def points (m : Matcher) (db : Database) (d : Dialect) (weight : Float) (text value : String) : ℚ :=
  let full := db.numeral (Number.literal weight)
  let fits (pattern : List Char) := Like db.classes (db.lower value) (String.ofList pattern)
  let cs := text.toList
  match m with
  | .exactFull => if db.lower value = text then full else 0
  | .exactInString => if fits (containsPattern cs) then full else 0
  | .startOfString => if fits (startPattern cs) then full else 0
  | .startOfWords => if fits (wordsPattern cs) then full else 0
  | .similarString => if soundsAlike db d value text then full else 0
  | .acronym =>
    match acronymPattern? cs with
    | some pattern => if fits pattern then full else 0
    | none => 0
  | .consecutiveCharacters =>
    let length := d.measure (removeAll [' '] value.toList)
    match subsequencePattern? cs with
    | some pattern =>
      if fits pattern ∧ 0 < length then
        db.round (db.numeral (Number.decimalLiteral weight) * subsequenceLength cs / length)
      else 0
    | none => 0
  | .timesInString =>
    let lowered := (db.lower value).toList
    if cs = [] then 0
    else db.round (full * (d.measure lowered - d.measure (removeAll cs lowered)) / cs.length)

section Values

variable {db : Database} {row : Row} {c : ColumnRef} {value : String}

/-- Where a condition is not known, the weight is not given. -/
theorem eval_conditionalExpr {condition : Expr} {v : Value} (h : condition.eval db row = .ok v)
    (weight : Float) :
    (conditionalExpr condition weight).eval db row =
      .ok (.number (if v = .truth true then db.numeral (Number.literal weight) else 0)) := by
  rw [conditionalExpr, Expr.eval_caseWhen h]
  split <;> rfl

theorem eval_column (h : db.textOf row c = some value) :
    (Expr.column c).eval db row = .ok (.text value) := by
  rw [Expr.eval, h]
  rfl

theorem eval_column_of_null (h : db.textOf row c = none) : (Expr.column c).eval db row = .ok .null := by
  rw [Expr.eval, h]
  rfl

theorem eval_loweredExpr (h : db.textOf row c = some value) :
    (loweredExpr c).eval db row = .ok (.text (db.lower value)) :=
  Expr.eval_call .lower (eval_column h)

theorem eval_loweredExpr_of_null (h : db.textOf row c = none) : (loweredExpr c).eval db row = .ok .null :=
  Expr.eval_call .lower (eval_column_of_null h)

/-- A column fits a pattern if its text in small letters does. -/
theorem eval_likeExpr (h : db.textOf row c = some value) (pattern : List Char) :
    (likeExpr c pattern).eval db row =
      .ok (.truth (decide (Like db.classes (db.lower value) (String.ofList pattern)))) :=
  Expr.eval_compare .like (eval_loweredExpr h) (Expr.eval_bound _)

theorem eval_likeExpr_of_null (h : db.textOf row c = none) (pattern : List Char) :
    (likeExpr c pattern).eval db row = .ok .null :=
  Expr.eval_compare .like (eval_loweredExpr_of_null h) (Expr.eval_bound _)

theorem eval_soundsLikeExpr (d : Dialect) (h : db.textOf row c = some value) (text : String) :
    (soundsLikeExpr d c text).eval db row = .ok (.truth (soundsAlike db d value text)) := by
  have hcolumn := eval_column h
  have htext : (Expr.bound text).eval db row = .ok (.text text) := Expr.eval_bound text
  cases d with
  | pgsql | sqlsrv =>
    have hsound : (Expr.call .soundex (.bound text)).eval db row = .ok (.text (db.soundex text)) :=
      Expr.eval_call .soundex htext
    exact Expr.eval_compare .equal (Expr.eval_call .soundex hcolumn) hsound
  | mysql | sqlite | generic => exact Expr.eval_compare .soundsLike hcolumn htext

theorem eval_soundsLikeExpr_of_null (d : Dialect) (h : db.textOf row c = none) (text : String) :
    (soundsLikeExpr d c text).eval db row = .ok .null := by
  have hcolumn := eval_column_of_null h
  have htext : (Expr.bound text).eval db row = .ok (.text text) := Expr.eval_bound text
  cases d with
  | pgsql | sqlsrv =>
    have hsound : (Expr.call .soundex (.bound text)).eval db row = .ok (.text (db.soundex text)) :=
      Expr.eval_call .soundex htext
    exact Expr.eval_compare .equal (Expr.eval_call .soundex hcolumn) hsound
  | mysql | sqlite | generic => exact Expr.eval_compare .soundsLike hcolumn htext

theorem eval_spacelessExpr (d : Dialect) (h : db.textOf row c = some value) :
    (spacelessExpr d c).eval db row = .ok (.number (d.measure (removeAll [' '] value.toList))) := by
  have hwithout := Expr.eval_without (eval_column h) (Expr.eval_quoted " ")
  rw [spacelessExpr, Expr.eval_call (.length d) hwithout]
  simp [Function.apply]

/-- A share is rounded once, after the division. -/
theorem eval_shareExpr {number divisor : Expr} {p q : ℚ} (weight : String)
    (hnumber : number.eval db row = .ok (.number p)) (hdivisor : divisor.eval db row = .ok (.number q))
    (hq : q ≠ 0) :
    (shareExpr weight number divisor).eval db row = .ok (.number (db.round (db.numeral weight * p / q))) := by
  have hproduct : (Expr.arith .times (.numeral weight) number).eval db row =
      .ok (.number (db.numeral weight * p)) :=
    Expr.eval_arith .times (Expr.eval_numeral weight) hnumber
  have hquotient := Expr.eval_arith .dividedBy hproduct hdivisor
  simp only [Operator.apply, if_neg hq] at hquotient
  exact Expr.eval_call .round hquotient

theorem eval_shareExpr_of_null {number : Expr} (weight : String) (hnumber : number.eval db row = .ok .null)
    (n : Nat) : (shareExpr weight number (.count n)).eval db row = .ok .null := by
  have hproduct : (Expr.arith .times (.numeral weight) number).eval db row = .ok .null :=
    Expr.eval_arith .times (Expr.eval_numeral weight) hnumber
  have hquotient : (Expr.arith .dividedBy (.arith .times (.numeral weight) number) (.count n)).eval db row =
      .ok .null :=
    Expr.eval_arith .dividedBy hproduct (Expr.eval_count n)
  exact Expr.eval_call .round hquotient

/-- The division is behind the condition that the divisor is greater than zero. -/
theorem eval_subsequenceExpr (d : Dialect) (h : db.textOf row c = some value) (weight : Float) (length : Nat)
    (pattern : List Char) :
    (subsequenceExpr d c weight length pattern).eval db row = .ok (.number
      (if Like db.classes (db.lower value) (String.ofList pattern) ∧
          0 < d.measure (removeAll [' '] value.toList) then
        db.round (db.numeral (Number.decimalLiteral weight) * length /
          d.measure (removeAll [' '] value.toList))
      else 0)) := by
  have hlength := eval_spacelessExpr d h
  have hlong : (Expr.compare .greater (spacelessExpr d c) (.count 0)).eval db row =
      .ok (.truth (decide (0 < d.measure (removeAll [' '] value.toList)))) := by
    rw [Expr.eval_compare .greater hlength (Expr.eval_count 0)]
    simp [Comparison.apply]
  have hboth := Expr.eval_both (eval_likeExpr h pattern) hlong
  rw [subsequenceExpr, Expr.eval_caseWhen hboth]
  -- if the condition holds, the divisor is not zero, and otherwise it is not looked at
  by_cases hcondition : Like db.classes (db.lower value) (String.ofList pattern) ∧
      0 < d.measure (removeAll [' '] value.toList)
  · have hne : (d.measure (removeAll [' '] value.toList) : ℚ) ≠ 0 :=
      Nat.cast_ne_zero.2 (Nat.ne_of_gt hcondition.2)
    rw [if_pos (by simpa using hcondition), if_pos hcondition]
    exact eval_shareExpr _ (Expr.eval_count length) hlength hne
  · rw [if_neg (by simpa using hcondition), if_neg hcondition]
    rfl

/-- Both conditions are unknown for NULL, so nothing is divided. -/
theorem eval_subsequenceExpr_of_null (d : Dialect) (h : db.textOf row c = none) (weight : Float)
    (length : Nat) (pattern : List Char) :
    (subsequenceExpr d c weight length pattern).eval db row = .ok (.number 0) := by
  have hlong : (Expr.compare .greater (spacelessExpr d c) (.count 0)).eval db row = .ok .null := by
    have hwithout := Expr.eval_without (eval_column_of_null h) (Expr.eval_quoted " ")
    exact Expr.eval_compare .greater (Expr.eval_call (.length d) hwithout) (Expr.eval_count 0)
  rw [subsequenceExpr, Expr.eval_caseWhen (Expr.eval_both (eval_likeExpr_of_null h pattern) hlong)]
  rfl

theorem eval_lossExpr (d : Dialect) (h : db.textOf row c = some value) (text : String) :
    (lossExpr d c text).eval db row = .ok (.number (d.measure (db.lower value).toList -
      d.measure (removeAll text.toList (db.lower value).toList))) := by
  have hlowered := eval_loweredExpr h
  have hlength := Expr.eval_call (.length d) hlowered
  have hwithout := Expr.eval_call (.length d) (Expr.eval_without hlowered (Expr.eval_bound text))
  rw [lossExpr, Expr.eval_arith .minus hlength hwithout]
  simp [Operator.apply]

theorem eval_lossExpr_of_null (d : Dialect) (h : db.textOf row c = none) (text : String) :
    (lossExpr d c text).eval db row = .ok .null := by
  have hlowered := eval_loweredExpr_of_null h
  have hwithout := Expr.eval_without hlowered (Expr.eval_bound text)
  exact Expr.eval_arith .minus (Expr.eval_call (.length d) hlowered) (Expr.eval_call (.length d) hwithout)

theorem eval_occurrenceExpr (d : Dialect) (h : db.textOf row c = some value) (weight : Float) {text : String}
    (hne : text.toList ≠ []) :
    (occurrenceExpr d c weight text).eval db row = .ok (.number
      (db.round (db.numeral (Number.literal weight) * (d.measure (db.lower value).toList -
        d.measure (removeAll text.toList (db.lower value).toList)) / text.toList.length))) := by
  have hlength : (text.toList.length : ℚ) ≠ 0 := by simpa using hne
  have hloss : (Expr.parens (lossExpr d c text)).eval db row = _ := eval_lossExpr d h text
  have hshare := eval_shareExpr (Number.literal weight) hloss (Expr.eval_count text.toList.length) hlength
  rw [occurrenceExpr, Expr.eval_orElse hshare]
  rfl

/-- The loss of NULL is NULL, for which zero is taken at the end. -/
theorem eval_occurrenceExpr_of_null (d : Dialect) (h : db.textOf row c = none) (weight : Float)
    (text : String) : (occurrenceExpr d c weight text).eval db row = .ok (.number 0) := by
  have hloss : (Expr.parens (lossExpr d c text)).eval db row = _ := eval_lossExpr_of_null d h text
  have hshare := eval_shareExpr_of_null (Number.literal weight) hloss text.toList.length
  rw [occurrenceExpr, Expr.eval_orElse hshare]
  rfl

/-- What a matcher adds for one text is worth its points, whatever the text in the column is. -/
theorem eval_expression (m : Matcher) (d : Dialect) (h : db.textOf row c = some value) (weight : Float)
    (text : String) :
    (m.expression d c weight text).eval db row = .ok (.number (m.points db d weight text value)) := by
  -- each matcher is the evaluation lemma of its form, at its own pattern
  cases m with
  | exactFull =>
    have hequal : (Expr.compare .equal (loweredExpr c) (.bound text)).eval db row =
        .ok (.truth (decide (db.lower value = text))) :=
      Expr.eval_compare .equal (eval_loweredExpr h) (Expr.eval_bound text)
    simpa [expression, points] using eval_conditionalExpr hequal weight
  | exactInString | startOfString | startOfWords =>
    simpa [expression, points] using eval_conditionalExpr (eval_likeExpr h _) weight
  | similarString =>
    simpa [expression, points] using eval_conditionalExpr (eval_soundsLikeExpr d h text) weight
  | acronym =>
    simp only [expression, points]
    cases acronymPattern? text.toList with
    | none => rfl
    | some pattern => simpa using eval_conditionalExpr (eval_likeExpr h pattern) weight
  | consecutiveCharacters =>
    simp only [expression, points]
    cases subsequencePattern? text.toList with
    | none => rfl
    | some pattern => exact eval_subsequenceExpr d h weight _ pattern
  | timesInString =>
    simp only [expression, points]
    split
    · rfl
    · next hne => exact eval_occurrenceExpr d h weight hne

/-- For NULL a matcher adds zero. -/
theorem Form.eval_of_null {d : Dialect} {weight : Float} {text : String} {e : Expr}
    (hform : Form d c weight text e) (h : db.textOf row c = none) : e.eval db row = .ok (.number 0) := by
  cases hform with
  | nothing => rfl
  | equal =>
    have hequal := Expr.eval_compare .equal (eval_loweredExpr_of_null h) (Expr.eval_bound text)
    exact eval_conditionalExpr hequal weight
  | fits pattern => exact eval_conditionalExpr (eval_likeExpr_of_null h pattern) weight
  | soundsLike => exact eval_conditionalExpr (eval_soundsLikeExpr_of_null d h text) weight
  | subsequence length pattern => exact eval_subsequenceExpr_of_null d h weight length pattern
  | occurrences => exact eval_occurrenceExpr_of_null d h weight text

end Values

/-! ## All tokens -/

/-- What a matcher adds up for all tokens. -/
def summands (m : Matcher) (d : Dialect) (c : ColumnRef) (weight : Float) (tokens : Tokens) : List Expr :=
  (m.texts tokens).map (m.expression d c weight)

theorem isSummand_expression (m : Matcher) (d : Dialect) (c : ColumnRef) (weight : Float) (text : String) :
    (m.expression d c weight text).IsSummand where
  wellBracketed := (form_expression m d c weight text).wellBracketed
  strength := by
    rw [(form_expression m d c weight text).strength]
    decide
  sql_ne_empty := by
    have hsql : (m.expression d c weight text).sql = (m.scoreText d c.sql weight text).sql :=
      congrArg Fragment.sql (fragment_expression m d c weight text)
    rw [hsql]
    exact sql_scoreText_ne_empty m d c.sql weight text

theorem isSummand_of_mem_summands {m : Matcher} {d : Dialect} {c : ColumnRef} {weight : Float}
    {tokens : Tokens} : ∀ e ∈ m.summands d c weight tokens, e.IsSummand := by
  intro e he
  obtain ⟨text, _, rfl⟩ := List.mem_map.1 he
  exact isSummand_expression m d c weight text

/-- What a matcher adds for all tokens is the text of the sum of its expressions, with their values. -/
theorem fragment_score (m : Matcher) (d : Dialect) (c : ColumnRef) (weight : Float) (tokens : Tokens) :
    (Expr.total (m.summands d c weight tokens)).fragment = m.score d c.sql weight tokens := by
  rw [Expr.fragment_total isSummand_of_mem_summands, summands, List.map_map]
  simp only [Function.comp_def, fragment_expression]
  -- a matcher for phrases has one text, and a sum of one is that one
  unfold score texts
  split
  · exact total_of_sql_ne_empty fun f hf => by
      rw [List.mem_singleton.1 hf]
      exact sql_scoreText_ne_empty m d c.sql weight tokens.phrase
  · rfl

end RelevanceSql.Matcher
