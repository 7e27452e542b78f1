import Mathlib.Algebra.Order.Field.Rat
import RelevanceSql.Proofs.LikePatterns
import RelevanceSql.Proofs.Searching
import RelevanceSql.Sql.Fragment

/-!
# SQL expressions and their values

The part of SQL that scores are written in, as trees. The text of a tree and the values of its placeholders
make a fragment (`Expr.fragment`). An operand stands in parentheses if it holds together less tightly than its
operator asks for (`Expr.WellBracketed`), so that the precedence of SQL reads the text as the tree.

An expression has a value in each row of a database. NULL spreads: an operation on NULL is NULL, and so is a
comparison with it, which is then not true. `CASE` takes its last branch unless its condition is true, and
`COALESCE` takes something else for NULL. What databases do each in their own way is given from outside
(`Database`). Division by zero is a fault, and so is an operation on values of the wrong kind.

An expression never divides by zero if each of its divisors is a positive literal or is known to be positive
from the condition of a `CASE` around it (`Expr.eval_ne_divisionByZero`).
-/

namespace RelevanceSql.Sql

open RelevanceSql.Text

/-! ## Trees -/

/-- A column as it is written, and the function that it is put into, if there is one. -/
structure ColumnRef where
  name : String
  function? : Option String := none
  deriving DecidableEq, Repr

/-- The functions of one argument; `round` rounds to an integer. -/
inductive Function where
  | lower
  | length (d : Dialect)
  | soundex
  | round
  deriving DecidableEq, Repr

/-- The arithmetic operators. -/
inductive Operator where
  | plus
  | minus
  | times
  | dividedBy
  deriving DecidableEq, Repr

/-- What two expressions are compared by. -/
inductive Comparison where
  | equal
  | greater
  | like
  | soundsLike
  | freeText
  deriving DecidableEq, Repr

/-- The searches of a column for a phrase that give a number. -/
inductive Ranking where
  | matchAgainst
  | tsRank
  deriving DecidableEq, Repr

/-- The expressions of scores. A numeral is known by its text only, a count by its number. -/
inductive Expr where
  | column (c : ColumnRef)
  | bound (text : String)
  | quoted (text : String)
  | numeral (text : String)
  | count (n : Nat)
  | call (f : Function) (e : Expr)
  | without (e part : Expr)
  | orElse (e other : Expr)
  | rank (r : Ranking) (e phrase : Expr)
  | arith (op : Operator) (a b : Expr)
  | compare (c : Comparison) (a b : Expr)
  | both (a b : Expr)
  | parens (e : Expr)
  | caseWhen (condition yes no : Expr)
  deriving DecidableEq, Repr

/-! ## Texts -/

/-- A column inside its function, if it has one. -/
def ColumnRef.sql (c : ColumnRef) : String :=
  match c.function? with
  | some function => function ++ "(" ++ c.name ++ ")"
  | none => c.name

/-- The text of an operator between its operands. -/
def Operator.sql : Operator → String
  | .plus => " + "
  | .minus => " - "
  | .times => " * "
  | .dividedBy => " / "

/-- A call, around the text of its argument. -/
def Function.around (f : Function) (argument : String) : String :=
  match f with
  | .lower => "LOWER(" ++ argument ++ ")"
  | .length d => d.length argument
  | .soundex => "SOUNDEX(" ++ argument ++ ")"
  | .round => "ROUND(" ++ argument ++ ", 0)"

/-- A comparison, around the texts of its two sides. -/
def Comparison.around (c : Comparison) (a b : String) : String :=
  match c with
  | .equal => a ++ " = " ++ b
  | .greater => a ++ " > " ++ b
  | .like => a ++ " LIKE " ++ b ++ " ESCAPE '!'"
  | .soundsLike => a ++ " SOUNDS LIKE " ++ b
  | .freeText => "FREETEXT(" ++ a ++ ", " ++ b ++ ")"

/-- A search, around the texts of the column and the phrase. -/
def Ranking.around (r : Ranking) (column phrase : String) : String :=
  match r with
  | .matchAgainst => "MATCH(" ++ column ++ ") AGAINST (" ++ phrase ++ ")"
  | .tsRank => "ts_rank(to_tsvector(" ++ column ++ "), plainto_tsquery(" ++ phrase ++ "))"

namespace Expr

/-- The SQL of an expression, in which a bound value is a question mark. -/
def sql : Expr → String
  | column c => c.sql
  | bound _ => "?"
  | quoted text => String.ofList (enclosed '\'' text.toList)
  | numeral text => text
  | count n => toString n
  | call f e => f.around e.sql
  | without e part => "REPLACE(" ++ e.sql ++ ", " ++ part.sql ++ ", '')"
  | orElse e other => "COALESCE(" ++ e.sql ++ ", " ++ other.sql ++ ")"
  | rank r e phrase => r.around e.sql phrase.sql
  | arith op a b => a.sql ++ op.sql ++ b.sql
  | compare c a b => c.around a.sql b.sql
  | both a b => a.sql ++ " AND " ++ b.sql
  | parens e => "(" ++ e.sql ++ ")"
  | caseWhen condition yes no =>
    "CASE WHEN " ++ condition.sql ++ " THEN " ++ yes.sql ++ " ELSE " ++ no.sql ++ " END"

/-- The bound values, in the order of their question marks. -/
def values : Expr → List Param
  | bound text => [.text text]
  | column _ | quoted _ | numeral _ | count _ => []
  | call _ e | parens e => e.values
  | without a b | orElse a b | rank _ a b | arith _ a b | compare _ a b | both a b => a.values ++ b.values
  | caseWhen condition yes no => condition.values ++ yes.values ++ no.values

/-- An expression as SQL with its values. -/
def fragment (e : Expr) : Fragment := ⟨e.sql, e.values⟩

/-- What is compared with by `LIKE`. -/
def patterns : Expr → List Expr
  | column _ | bound _ | quoted _ | numeral _ | count _ => []
  | call _ e | parens e => e.patterns
  | compare .like a b => b :: (a.patterns ++ b.patterns)
  | without a b | orElse a b | rank _ a b | arith _ a b | compare _ a b | both a b => a.patterns ++ b.patterns
  | caseWhen condition yes no => condition.patterns ++ yes.patterns ++ no.patterns

/-- What is divided by. -/
def divisors : Expr → List Expr
  | column _ | bound _ | quoted _ | numeral _ | count _ => []
  | call _ e | parens e => e.divisors
  | arith .dividedBy a b => b :: (a.divisors ++ b.divisors)
  | without a b | orElse a b | rank _ a b | arith _ a b | compare _ a b | both a b => a.divisors ++ b.divisors
  | caseWhen condition yes no => condition.divisors ++ yes.divisors ++ no.divisors

/-- How tightly an expression holds together, from `AND` up to what is no operation at all. -/
def strength : Expr → Nat
  | both _ _ => 0
  | compare .freeText _ _ => 4
  | compare _ _ _ => 1
  | arith .plus _ _ | arith .minus _ _ => 2
  | arith .times _ _ | arith .dividedBy _ _ => 3
  | _ => 4

/-- Whether each operand holds together as tightly as its operator asks for: at least as tightly on the left,
and more tightly on the right, since operators of one strength are read from the left. -/
def WellBracketed : Expr → Prop
  | column _ | bound _ | quoted _ | numeral _ | count _ => True
  | call _ e | parens e => e.WellBracketed
  | without a b | orElse a b | rank _ a b => a.WellBracketed ∧ b.WellBracketed
  | e@(arith _ a b) | e@(both a b) =>
    a.WellBracketed ∧ b.WellBracketed ∧ e.strength ≤ a.strength ∧ e.strength < b.strength
  | compare _ a b => a.WellBracketed ∧ b.WellBracketed ∧ 1 < a.strength ∧ 1 < b.strength
  | caseWhen condition yes no => condition.WellBracketed ∧ yes.WellBracketed ∧ no.WellBracketed

end Expr

/-! ## Values -/

/-- What an expression may stand for in a row. -/
inductive Value where
  | null
  | text (s : String)
  | number (q : ℚ)
  | truth (b : Bool)
  deriving DecidableEq

/-- Why an expression has no value. -/
inductive EvalFault where
  | divisionByZero
  | illTyped
  deriving DecidableEq

/-- What databases do each in their own way: whether `LIKE` knows classes, what its functions give for texts,
which numbers numerals stand for, and what a function makes of a column that may be NULL. -/
structure Database where
  classes : Bool
  lower : String → String
  soundex : String → String
  soundsLike : String → String → Bool
  freeText : String → String → Bool
  matchScore : String → String → ℚ
  tsRank : String → String → ℚ
  numeral : String → ℚ
  round : ℚ → ℚ
  apply : String → Option String → Option String

/-- A database of few ways of its own: texts stay as they are, every numeral stands for one, and there is
nothing to round. -/
def Database.plain : Database where
  classes := false
  lower s := s
  soundex s := s
  soundsLike s t := decide (s = t)
  freeText s phrase := decide (s = phrase)
  matchScore _ _ := 1
  tsRank _ _ := 1
  numeral _ := 1
  round q := q
  apply _ s := s

/-- The texts of the columns of a row, none where a column is NULL. -/
abbrev Row := String → Option String

/-- The text without some part, wherever that occurs from left to right; what has been begun to be left out is
left out in the next characters, of which so many are given. -/
def withoutFrom (part : List Char) : Nat → List Char → List Char
  | _, [] => []
  | skipped + 1, _ :: cs => withoutFrom part skipped cs
  | 0, c :: cs =>
    if part ≠ [] ∧ part <+: c :: cs then withoutFrom part (part.length - 1) cs
    else c :: withoutFrom part 0 cs

/-- The text without the occurrences of a part that do not overlap, from left to right. -/
def removeAll (part cs : List Char) : List Char := withoutFrom part 0 cs

/-- The length that a dialect gives for a text: its characters, of which SQL Server leaves out spaces at the
end. -/
def Dialect.measure (d : Dialect) (cs : List Char) : Nat :=
  match d with
  | .sqlsrv => (cs.reverse.dropWhile (· == ' ')).length
  | _ => cs.length

/-- A text or NULL as a value. -/
def Value.ofText? : Option String → Value
  | some s => .text s
  | none => .null

/-- The text of a column in a row, none if the column is NULL or its function makes it NULL. -/
def Database.textOf (db : Database) (row : Row) (c : ColumnRef) : Option String :=
  match c.function? with
  | some function => db.apply function (row c.name)
  | none => row c.name

/-- The value of a call; that of NULL is NULL. -/
def Function.apply (db : Database) : Function → Value → Except EvalFault Value
  | _, .null => .ok .null
  | .lower, .text s => .ok (.text (db.lower s))
  | .length d, .text s => .ok (.number (d.measure s.toList))
  | .soundex, .text s => .ok (.text (db.soundex s))
  | .round, .number q => .ok (.number (db.round q))
  | _, _ => .error .illTyped

/-- The value of an operation on two numbers; it is NULL if one of them is. -/
def Operator.apply : Operator → Value → Value → Except EvalFault Value
  | _, .null, _ | _, _, .null => .ok .null
  | .plus, .number p, .number q => .ok (.number (p + q))
  | .minus, .number p, .number q => .ok (.number (p - q))
  | .times, .number p, .number q => .ok (.number (p * q))
  | .dividedBy, .number p, .number q => if q = 0 then .error .divisionByZero else .ok (.number (p / q))
  | _, _, _ => .error .illTyped

/-- Whether a comparison holds; it is NULL if one of its sides is. -/
def Comparison.apply (db : Database) : Comparison → Value → Value → Except EvalFault Value
  | _, .null, _ | _, _, .null => .ok .null
  | .equal, .text s, .text t => .ok (.truth (decide (s = t)))
  | .greater, .number p, .number q => .ok (.truth (decide (q < p)))
  | .like, .text s, .text pattern => .ok (.truth (decide (Like db.classes s pattern)))
  | .soundsLike, .text s, .text t => .ok (.truth (db.soundsLike s t))
  | .freeText, .text s, .text phrase => .ok (.truth (db.freeText s phrase))
  | _, _, _ => .error .illTyped

/-- The rank of a text for a phrase. A row without a text has no part in the index that `MATCH` looks up,
which gives zero for it; `ts_rank` of NULL is NULL. -/
def Ranking.apply (db : Database) : Ranking → Value → Value → Except EvalFault Value
  | .matchAgainst, .text s, .text phrase => .ok (.number (db.matchScore s phrase))
  | .matchAgainst, .null, .text _ => .ok (.number 0)
  | .tsRank, .text s, .text phrase => .ok (.number (db.tsRank s phrase))
  | .tsRank, .null, .text _ => .ok .null
  | _, _, _ => .error .illTyped

/-- Whether both of two conditions hold, if that is known. -/
def Value.and : Value → Value → Except EvalFault Value
  | .truth a, .truth b => .ok (.truth (a && b))
  | .truth false, .null | .null, .truth false => .ok (.truth false)
  | .truth true, .null | .null, .truth true | .null, .null => .ok .null
  | _, _ => .error .illTyped

/-- A text without a part of it; it is NULL if one of them is. -/
def Value.without : Value → Value → Except EvalFault Value
  | .null, _ | _, .null => .ok .null
  | .text s, .text part => .ok (.text (String.ofList (removeAll part.toList s.toList)))
  | _, _ => .error .illTyped

namespace Expr

/-- The value of an expression in a row. -/
def eval (db : Database) (row : Row) : Expr → Except EvalFault Value
  | column c => .ok (.ofText? (db.textOf row c))
  | bound text => .ok (.text text)
  | quoted text => .ok (.text text)
  | numeral text => .ok (.number (db.numeral text))
  | count n => .ok (.number n)
  | call f e => do f.apply db (← e.eval db row)
  | without e part => do Value.without (← e.eval db row) (← part.eval db row)
  | orElse e other => do
    match ← e.eval db row with
    | .null => other.eval db row
    | value => return value
  | rank r e phrase => do r.apply db (← e.eval db row) (← phrase.eval db row)
  | arith op a b => do op.apply (← a.eval db row) (← b.eval db row)
  | compare c a b => do c.apply db (← a.eval db row) (← b.eval db row)
  | both a b => do Value.and (← a.eval db row) (← b.eval db row)
  | parens e => e.eval db row
  | caseWhen condition yes no => do
    if (← condition.eval db row) = .truth true then yes.eval db row else no.eval db row

/-! ## Steps of evaluation -/

section Steps

variable {db : Database} {row : Row} {a b : Expr} {v w : Value}

theorem bind_eq {x : Except EvalFault Value} (hx : x = .ok v) (f : Value → Except EvalFault Value) :
    (do f (← x)) = f v := by
  rw [hx]
  rfl

theorem bind₂_eq {x y : Except EvalFault Value} (hx : x = .ok v) (hy : y = .ok w)
    (f : Value → Value → Except EvalFault Value) : (do f (← x) (← y)) = f v w := by
  rw [hx, hy]
  rfl

theorem eval_bound (text : String) : (bound text).eval db row = .ok (.text text) := rfl

theorem eval_quoted (text : String) : (quoted text).eval db row = .ok (.text text) := rfl

theorem eval_numeral (text : String) : (numeral text).eval db row = .ok (.number (db.numeral text)) := rfl

theorem eval_count (n : Nat) : (count n).eval db row = .ok (.number n) := rfl

theorem eval_call (f : Function) (h : a.eval db row = .ok v) : (call f a).eval db row = f.apply db v :=
  bind_eq h (f.apply db)

theorem eval_without (ha : a.eval db row = .ok v) (hb : b.eval db row = .ok w) :
    (without a b).eval db row = v.without w :=
  bind₂_eq ha hb Value.without

theorem eval_orElse (ha : a.eval db row = .ok v) :
    (orElse a b).eval db row = if v = .null then b.eval db row else .ok v := by
  -- evaluation looks at the first value and then at the second one only if that is NULL
  refine (bind_eq ha fun v => match v with
    | .null => b.eval db row
    | value => .ok value).trans ?_
  cases v <;> rfl

theorem eval_rank (r : Ranking) (ha : a.eval db row = .ok v) (hb : b.eval db row = .ok w) :
    (rank r a b).eval db row = r.apply db v w :=
  bind₂_eq ha hb (r.apply db)

theorem eval_arith (op : Operator) (ha : a.eval db row = .ok v) (hb : b.eval db row = .ok w) :
    (arith op a b).eval db row = op.apply v w :=
  bind₂_eq ha hb op.apply

theorem eval_compare (c : Comparison) (ha : a.eval db row = .ok v) (hb : b.eval db row = .ok w) :
    (compare c a b).eval db row = c.apply db v w :=
  bind₂_eq ha hb (c.apply db)

theorem eval_both (ha : a.eval db row = .ok v) (hb : b.eval db row = .ok w) :
    (both a b).eval db row = v.and w :=
  bind₂_eq ha hb Value.and

theorem eval_caseWhen {condition : Expr} (h : condition.eval db row = .ok v) (yes no : Expr) :
    (caseWhen condition yes no).eval db row =
      if v = .truth true then yes.eval db row else no.eval db row :=
  bind_eq h fun v => if v = .truth true then yes.eval db row else no.eval db row

end Steps

/-! ## Division -/

/-- The expressions that have to be positive for a condition to be true. -/
def positives : Expr → List Expr
  | compare .greater e (count 0) => [e]
  | both a b => a.positives ++ b.positives
  | _ => []

/-- Whether each divisor is a positive literal or among the expressions that are known to be positive, to
which the first branch of a `CASE` adds what its condition says. -/
def Guarded (known : List Expr) : Expr → Prop
  | column _ | bound _ | quoted _ | numeral _ | count _ => True
  | call _ e | parens e => e.Guarded known
  | without a b | orElse a b | rank _ a b | compare _ a b | both a b => a.Guarded known ∧ b.Guarded known
  | arith .dividedBy a b => a.Guarded known ∧ b.Guarded known ∧ ((∃ n, b = count (n + 1)) ∨ b ∈ known)
  | arith _ a b => a.Guarded known ∧ b.Guarded known
  | caseWhen condition yes no =>
    condition.Guarded known ∧ yes.Guarded (condition.positives ++ known) ∧ no.Guarded known

/-- Whether the value of an expression is a positive number. -/
def IsPositive (db : Database) (row : Row) (e : Expr) : Prop :=
  ∃ q, 0 < q ∧ e.eval db row = .ok (.number q)

end Expr

/-! ## Faults -/

section Faults

variable (db : Database) (v w : Value)

theorem Function.apply_ne_divisionByZero (f : Function) : f.apply db v ≠ .error .divisionByZero := by
  unfold apply
  split <;> simp

theorem Comparison.apply_ne_divisionByZero (c : Comparison) : c.apply db v w ≠ .error .divisionByZero := by
  unfold apply
  split <;> simp

theorem Ranking.apply_ne_divisionByZero (r : Ranking) : r.apply db v w ≠ .error .divisionByZero := by
  unfold apply
  split <;> simp

theorem Value.and_ne_divisionByZero : v.and w ≠ .error .divisionByZero := by
  unfold Value.and
  split <;> simp

theorem Value.without_ne_divisionByZero : v.without w ≠ .error .divisionByZero := by
  unfold Value.without
  split <;> simp

end Faults

theorem Operator.eq_of_apply_eq_divisionByZero {op : Operator} {v w : Value}
    (h : op.apply v w = .error .divisionByZero) : op = .dividedBy ∧ w = .number 0 := by
  unfold apply at h
  split at h
  all_goals first | cases h | skip
  simpa using h

theorem Comparison.greater_apply_eq_true {db : Database} {v w : Value}
    (h : Comparison.greater.apply db v w = .ok (.truth true)) :
    ∃ p q, v = .number p ∧ w = .number q ∧ q < p := by
  cases v <;> cases w <;> simp [apply] at h ⊢
  exact h

theorem Value.and_eq_true {v w : Value} (h : v.and w = .ok (.truth true)) :
    v = .truth true ∧ w = .truth true := by
  unfold Value.and at h
  split at h
  all_goals first | cases h | skip
  simpa using h

theorem bind_eq_error {ε α β : Type} {x : Except ε α} {f : α → Except ε β} {fault : ε} :
    x >>= f = .error fault ↔ x = .error fault ∨ ∃ a, x = .ok a ∧ f a = .error fault := by
  cases x with
  | error e =>
    show Except.error e = .error fault ↔ _
    simp
  | ok a =>
    show f a = .error fault ↔ _
    simp

/-- An operation on two values has no fault that neither they nor itself have. -/
theorem bind₂_ne_error {fault : EvalFault} {x y : Except EvalFault Value}
    {f : Value → Value → Except EvalFault Value} (hx : x ≠ .error fault) (hy : y ≠ .error fault)
    (hf : ∀ v w, y = .ok w → f v w ≠ .error fault) : (do f (← x) (← y)) ≠ .error fault := by
  intro h
  rcases bind_eq_error.1 h with h | ⟨v, -, h⟩
  · exact hx h
  · rcases bind_eq_error.1 h with h | ⟨w, hw, h⟩
    · exact hy h
    · exact hf v w hw h

namespace Expr

variable {db : Database} {row : Row}

/-- What a true condition says to be positive is so. -/
theorem isPositive_of_mem_positives {condition : Expr} (h : condition.eval db row = .ok (.truth true)) :
    ∀ e ∈ condition.positives, e.IsPositive db row := by
  fun_induction positives condition with
  | case1 e =>
    rw [eval, bind_eq_ok] at h
    obtain ⟨v, hv, h⟩ := h
    obtain ⟨p, q, rfl, hq, hlt⟩ := Comparison.greater_apply_eq_true h
    cases hq
    intro e he
    rw [List.mem_singleton.1 he]
    exact ⟨p, by simpa using hlt, hv⟩
  | case2 a b iha ihb =>
    rw [eval, bind_eq_ok] at h
    obtain ⟨v, hv, h⟩ := h
    rw [bind_eq_ok] at h
    obtain ⟨w, hw, h⟩ := h
    obtain ⟨rfl, rfl⟩ := Value.and_eq_true h
    intro e he
    exact (List.mem_append.1 he).elim (iha hv e) (ihb hw e)
  | case3 e => simp

/-- An expression whose divisions are guarded does not divide by zero. -/
theorem eval_ne_divisionByZero {e : Expr} {known : List Expr} (h : e.Guarded known)
    (hknown : ∀ k ∈ known, k.IsPositive db row) : e.eval db row ≠ .error .divisionByZero := by
  -- what is known grows on the way into the first branch of a CASE
  induction e generalizing known with
  | column c | bound text | quoted text | numeral text | count n => exact fun hfault => by cases hfault
  | call f e ih =>
    intro hfault
    rcases bind_eq_error.1 hfault with hfault | ⟨v, -, hfault⟩
    · exact ih h hknown hfault
    · exact f.apply_ne_divisionByZero db v hfault
  | parens e ih => exact ih h hknown
  | without a b iha ihb =>
    exact bind₂_ne_error (iha h.1 hknown) (ihb h.2 hknown) fun v w _ => v.without_ne_divisionByZero w
  | rank r a b iha ihb =>
    exact bind₂_ne_error (iha h.1 hknown) (ihb h.2 hknown) fun v w _ => r.apply_ne_divisionByZero db v w
  | compare c a b iha ihb =>
    exact bind₂_ne_error (iha h.1 hknown) (ihb h.2 hknown) fun v w _ => c.apply_ne_divisionByZero db v w
  | both a b iha ihb =>
    exact bind₂_ne_error (iha h.1 hknown) (ihb h.2 hknown) fun v w _ => v.and_ne_divisionByZero w
  | orElse a b iha ihb =>
    intro hfault
    rcases bind_eq_error.1 hfault with hfault | ⟨v, -, hfault⟩
    · exact iha h.1 hknown hfault
    · cases v with
      | null => exact ihb h.2 hknown hfault
      | text s | number q | truth b => cases hfault
  | arith op a b iha ihb =>
    have hparts : a.Guarded known ∧ b.Guarded known := by
      cases op with
      | dividedBy => exact ⟨h.1, h.2.1⟩
      | plus | minus | times => exact h
    refine bind₂_ne_error (iha hparts.1 hknown) (ihb hparts.2 hknown) fun v w hw hfault => ?_
    obtain ⟨rfl, rfl⟩ := Operator.eq_of_apply_eq_divisionByZero hfault
    rcases h.2.2 with ⟨n, rfl⟩ | hmem
    · have hzero : ((n + 1 : ℕ) : ℚ) = 0 := by simpa [eval] using hw
      exact Nat.cast_ne_zero.2 n.succ_ne_zero hzero
    · obtain ⟨q, hpositive, hq⟩ := hknown b hmem
      rw [hq] at hw
      cases hw
      exact lt_irrefl _ hpositive
  | caseWhen condition yes no ihcondition ihyes ihno =>
    intro hfault
    rcases bind_eq_error.1 hfault with hfault | ⟨v, hv, hfault⟩
    · exact ihcondition h.1 hknown hfault
    · split at hfault
      · next htrue =>
        refine ihyes h.2.1 (fun k hk => ?_) hfault
        rw [htrue] at hv
        exact (List.mem_append.1 hk).elim (isPositive_of_mem_positives hv k) (hknown k)
      · exact ihno h.2.2 hknown hfault

end Expr

end RelevanceSql.Sql
