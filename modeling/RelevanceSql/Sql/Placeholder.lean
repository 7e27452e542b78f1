/-!
# Placeholders

A question mark outside a literal stands for a bound value. A single quote begins a literal or ends
it; a doubled quote inside one ends it and begins it again, so that it needs no rule of its own.
`count` counts the placeholders of a text, and `number` writes each of them in the form that the
database wants, in order from one.
-/

namespace RelevanceSql.Sql.Placeholder

/-- Whether a text ends inside a literal, when it starts inside one or not. -/
def endsInLiteral (inLiteral : Bool) : List Char → Bool
  | [] => inLiteral
  | c :: cs => endsInLiteral (if c = '\'' then !inLiteral else inLiteral) cs

/-- The number of placeholders in a text that starts inside a literal or not. -/
def countFrom (inLiteral : Bool) : List Char → Nat
  | [] => 0
  | c :: cs =>
    if c = '\'' then countFrom (!inLiteral) cs
    else if c = '?' ∧ inLiteral = false then countFrom inLiteral cs + 1
    else countFrom inLiteral cs

/-- The number of placeholders in an SQL text. -/
def count (sql : String) : Nat := countFrom false sql.toList

/-- A text whose placeholders are written by `write`, `used` of them standing before it. -/
def numberFrom (write : Nat → String) (inLiteral : Bool) (used : Nat) : List Char → List Char
  | [] => []
  | c :: cs =>
    if c = '\'' then c :: numberFrom write (!inLiteral) used cs
    else if c = '?' ∧ inLiteral = false then
      (write (used + 1)).toList ++ numberFrom write inLiteral (used + 1) cs
    else c :: numberFrom write inLiteral used cs

/-- An SQL text with the k-th placeholder written as `write k`. -/
def number (write : Nat → String) (sql : String) : String :=
  String.ofList (numberFrom write false 0 sql.toList)

theorem endsInLiteral_append (inLiteral : Bool) (cs ds : List Char) :
    endsInLiteral inLiteral (cs ++ ds) = endsInLiteral (endsInLiteral inLiteral cs) ds := by
  induction cs generalizing inLiteral with
  | nil => rfl
  | cons c cs ih => exact ih _

/-- The placeholders of two texts in a row add up, the second one starting where the first one ends. -/
theorem countFrom_append (inLiteral : Bool) (cs ds : List Char) :
    countFrom inLiteral (cs ++ ds) =
      countFrom inLiteral cs + countFrom (endsInLiteral inLiteral cs) ds := by
  induction cs generalizing inLiteral with
  | nil => simp [countFrom, endsInLiteral]
  | cons c cs ih =>
    by_cases hq : c = '\''
    · simp [countFrom, endsInLiteral, hq, ih]
    · by_cases hp : c = '?' ∧ inLiteral = false
      · simp [countFrom, endsInLiteral, hp, ih]
        omega
      · simp [countFrom, endsInLiteral, hq, hp, ih]

end RelevanceSql.Sql.Placeholder
