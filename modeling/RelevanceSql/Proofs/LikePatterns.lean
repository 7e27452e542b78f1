import Mathlib.Data.List.Infix
import RelevanceSql.Proofs.TermOrder

/-!
# Reading LIKE patterns

A database reads the pattern of `text LIKE pattern ESCAPE '!'` in two steps. The escape character takes the
character behind it out of the pattern's language (`signs?`), and what is left of the language makes the
parts of the pattern: `%` for any text, `_` for any character, and in some databases a class in brackets
for one character of a kind (`parts?`). A text fits if it can be cut into pieces that fit the parts in turn
(`Fits`). None of this looks at how a matcher writes its patterns.

What `escape` has written is read as literal parts, whatever stands behind it and whether the database
knows classes or not (`parts?_escape_append`). So the wildcards of a token are no wildcards in a pattern:
the pattern for the start of a column fits what begins with the token, and that for the whole phrase fits
what it occurs in (`like_literal`).
-/

namespace RelevanceSql

namespace Sql

/-! ## Signs -/

/-- A character of a pattern, guarded if it stands behind the escape character. -/
inductive Sign where
  | bare (c : Char)
  | guarded (c : Char)
  deriving DecidableEq, Repr

/-- The character of a sign. -/
def Sign.char : Sign → Char
  | .bare c => c
  | .guarded c => c

/-- The signs of a pattern; none if the escape character has nothing behind it. -/
def signs? : List Char → Option (List Sign)
  | [] => some []
  | [c] => if c = '!' then none else some [.bare c]
  | c :: d :: cs =>
    if c = '!' then (signs? cs).map (.guarded d :: ·) else (signs? (d :: cs)).map (.bare c :: ·)

/-- A character other than the escape character is a sign by itself. -/
theorem signs?_cons {c : Char} (h : c ≠ '!') (cs : List Char) :
    signs? (c :: cs) = (signs? cs).map (.bare c :: ·) := by
  cases cs with
  | nil => simp [signs?, h]
  | cons d cs => rw [signs?, if_neg h]

/-- Behind the escape character every character is guarded, the escape character too. -/
theorem signs?_guarded (c : Char) (cs : List Char) :
    signs? ('!' :: c :: cs) = (signs? cs).map (.guarded c :: ·) := by
  rw [signs?, if_pos rfl]

/-! ## Parts -/

/-- The characters that may stand at one place. -/
inductive CharSet where
  | all
  | only (c : Char)
  | within (ranges : List (Char × Char))
  | outside (ranges : List (Char × Char))
  deriving DecidableEq, Repr

namespace CharSet

/-- Whether a character may stand where the set is asked for. -/
def contains : CharSet → Char → Bool
  | .all, _ => true
  | .only d, c => c == d
  | .within ranges, c => ranges.any fun r => decide (r.1 ≤ c) && decide (c ≤ r.2)
  | .outside ranges, c => !ranges.any fun r => decide (r.1 ≤ c) && decide (c ≤ r.2)

/-- The ranges of a class: two characters with a hyphen between them, or one character. -/
def rangesOf : List Sign → List (Char × Char)
  | first :: .bare '-' :: last :: signs => (first.char, last.char) :: rangesOf signs
  | sign :: signs => (sign.char, sign.char) :: rangesOf signs
  | [] => []

/-- What stands in brackets: the characters that are meant, or behind a caret those that are not. -/
def ofClass : List Sign → CharSet
  | .bare '^' :: signs => .outside (rangesOf signs)
  | signs => .within (rangesOf signs)

end CharSet

/-- What a place of a pattern stands for: any text, or one character. -/
inductive PatternPart where
  | anyText
  | oneOf (set : CharSet)
  deriving DecidableEq, Repr

/-- A part that only one character fits. -/
def PatternPart.literal (c : Char) : PatternPart := .oneOf (.only c)

/-- The parts from a place on, outside a class or behind the given signs of one; none if a class has no end.
A class is opened by a bracket if the database knows classes. -/
def partsFrom? (classes : Bool) : Option (List Sign) → List Sign → Option (List PatternPart)
  | none, [] => some []
  | some _, [] => none
  | none, .guarded c :: signs => (partsFrom? classes none signs).map (.literal c :: ·)
  | none, .bare c :: signs =>
    if c = '%' then (partsFrom? classes none signs).map (.anyText :: ·)
    else if c = '_' then (partsFrom? classes none signs).map (.oneOf .all :: ·)
    else if classes && c == '[' then partsFrom? classes (some []) signs
    else (partsFrom? classes none signs).map (.literal c :: ·)
  | some body, sign :: signs =>
    if sign = .bare ']' then (partsFrom? classes none signs).map (.oneOf (.ofClass body) :: ·)
    else partsFrom? classes (some (body ++ [sign])) signs

/-- The parts of a pattern, if it is well formed. -/
def parts? (classes : Bool) (pattern : List Char) : Option (List PatternPart) :=
  (signs? pattern).bind (partsFrom? classes none)

section Reading

variable (classes : Bool) (cs : List Char)

theorem parts?_nil : parts? classes [] = some [] := rfl

/-- A sign that makes a part by itself makes the first part of a pattern. -/
theorem parts?_of_signs? {pattern cs : List Char} {sign : Sign} {part : PatternPart}
    (hsigns : signs? pattern = (signs? cs).map (sign :: ·))
    (hpart : ∀ signs, partsFrom? classes none (sign :: signs) =
      (partsFrom? classes none signs).map (part :: ·)) :
    parts? classes pattern = (parts? classes cs).map (part :: ·) := by
  rw [parts?, parts?, hsigns]
  cases signs? cs with
  | none => rfl
  | some signs => exact hpart signs

/-- A bare percent sign stands for any text. -/
theorem parts?_percent : parts? classes ('%' :: cs) = (parts? classes cs).map (.anyText :: ·) :=
  parts?_of_signs? classes (signs?_cons (by decide) cs) fun signs => by rw [partsFrom?, if_pos rfl]

/-- A guarded character stands for itself. -/
theorem parts?_guarded (c : Char) :
    parts? classes ('!' :: c :: cs) = (parts? classes cs).map (.literal c :: ·) :=
  parts?_of_signs? classes (signs?_guarded c cs) fun signs => by rw [partsFrom?]

/-- A character without a meaning of its own stands for itself, also where there are classes. -/
theorem parts?_cons {c : Char} (h : Matcher.isSpecial c = false) :
    parts? classes (c :: cs) = (parts? classes cs).map (.literal c :: ·) := by
  simp only [Matcher.isSpecial, Matcher.escapeMark, Bool.or_eq_false_iff, beq_eq_false_iff_ne] at h
  obtain ⟨⟨⟨hpercent, hunderscore⟩, hbracket⟩, hmark⟩ := h
  refine parts?_of_signs? classes (signs?_cons hmark cs) fun signs => ?_
  -- an opening bracket is special, so no class begins here
  have hclass : ¬(classes && c == '[') = true := by simp [hbracket]
  rw [partsFrom?, if_neg hpercent, if_neg hunderscore, if_neg hclass]

/-- An escaped text is read as itself, character by character. -/
theorem parts?_escape_append (text : List Char) :
    parts? classes (Matcher.escape text ++ cs) = (parts? classes cs).map (text.map .literal ++ ·) := by
  -- on the text: a special character is written with a guard, and both ways it is a literal part
  induction text with
  | nil => simp [Matcher.escape_nil]
  | cons c text ih =>
    rw [Matcher.escape]
    split
    · rw [List.cons_append, List.cons_append, Matcher.escapeMark, parts?_guarded, ih, Option.map_map]
      rfl
    · next h =>
      rw [List.cons_append, parts?_cons classes _ (by simpa using h), ih, Option.map_map]
      rfl

end Reading

/-! ## Fitting -/

/-- Whether a text can be cut into pieces that fit the parts one after the other. -/
def Fits : List PatternPart → List Char → Prop
  | [], text => text = []
  | .anyText :: parts, text => ∃ rest, rest <:+ text ∧ Fits parts rest
  | .oneOf set :: parts, text => ∃ c rest, text = c :: rest ∧ set.contains c = true ∧ Fits parts rest

/-- Fitting is decided by trying all ends of the text where any text may stand. -/
def decideFits : (parts : List PatternPart) → (text : List Char) → Decidable (Fits parts text)
  | [], text => inferInstanceAs (Decidable (text = []))
  | .anyText :: parts, text =>
    have := decideFits parts
    decidable_of_iff (∃ rest ∈ text.tails, Fits parts rest) (by simp [Fits])
  | .oneOf _ :: _, [] => isFalse (by simp [Fits])
  | .oneOf set :: parts, c :: rest =>
    have := decideFits parts
    decidable_of_iff (set.contains c = true ∧ Fits parts rest) (by simp [Fits])

instance (parts : List PatternPart) (text : List Char) : Decidable (Fits parts text) :=
  decideFits parts text

/-- Where any text may stand, the text is cut at some place. -/
theorem fits_anyText {parts : List PatternPart} {text : List Char} :
    Fits (.anyText :: parts) text ↔ ∃ front rest, text = front ++ rest ∧ Fits parts rest := by
  rw [Fits]
  constructor
  · rintro ⟨rest, ⟨front, hfront⟩, hrest⟩
    exact ⟨front, rest, hfront.symm, hrest⟩
  · rintro ⟨front, rest, htext, hrest⟩
    exact ⟨rest, ⟨front, htext.symm⟩, hrest⟩

/-- A literal part is fitted by its character in front. -/
theorem fits_literal {c : Char} {parts : List PatternPart} {text : List Char} :
    Fits (.literal c :: parts) text ↔ ∃ rest, text = c :: rest ∧ Fits parts rest := by
  simp [PatternPart.literal, Fits, CharSet.contains]

/-- Literal parts are fitted by their own text. -/
theorem fits_literals_append (front : List Char) {parts : List PatternPart} {text : List Char} :
    Fits (front.map .literal ++ parts) text ↔ ∃ rest, text = front ++ rest ∧ Fits parts rest := by
  induction front generalizing text with
  | nil => simp
  | cons c front ih => simp [fits_literal, ih]

/-- Any text fits where any text may stand. -/
theorem fits_anyText_nil (text : List Char) : Fits [.anyText] text := by
  rw [fits_anyText]
  exact ⟨text, [], by simp, rfl⟩

/-- Whether a text fits a pattern, in a database with or without classes; a pattern that is not well formed
is fitted by no text. -/
def Like (classes : Bool) (text pattern : String) : Prop :=
  ∃ parts, parts? classes pattern.toList = some parts ∧ Fits parts text.toList

theorem like_iff {classes : Bool} {pattern : String} {parts : List PatternPart}
    (h : parts? classes pattern.toList = some parts) (text : String) :
    Like classes text pattern ↔ Fits parts text.toList := by
  simp [Like, h]

instance (classes : Bool) (text pattern : String) : Decidable (Like classes text pattern) :=
  decidable_of_iff ((parts? classes pattern.toList).any (fun parts => decide (Fits parts text.toList)) = true)
    (by simp [Like, Option.any_eq_true])

/-- Where brackets make a class, they have to be escaped to be found. -/
example : Like true "cat" "[a-c]a_" ∧ ¬Like true "[a-c]at" "[a-c]a_" ∧ Like true "[a-c]at" "![a-c]a_" := by
  decide

end Sql

/-! ## Patterns of texts -/

namespace Matcher

open RelevanceSql.Sql

/-- The pattern for the start of a column has the token as it is, and any text behind it. -/
theorem parts?_startPattern (classes : Bool) (token : List Char) :
    parts? classes (startPattern token) = some (token.map .literal ++ [.anyText]) := by
  rw [startPattern, parts?_escape_append, parts?_percent, parts?_nil]
  rfl

/-- The pattern for a phrase has the phrase as it is, and any text on both sides. -/
theorem parts?_containsPattern (classes : Bool) (token : List Char) :
    parts? classes (containsPattern token) = some (.anyText :: (token.map .literal ++ [.anyText])) := by
  rw [containsPattern, parts?_percent, ← startPattern, parts?_startPattern]
  rfl

/-- What fits the first of these patterns begins with the token. -/
theorem fits_start (token text : List Char) :
    Fits (token.map .literal ++ [.anyText]) text ↔ token <+: text := by
  rw [fits_literals_append]
  constructor
  · rintro ⟨rest, htext, _⟩
    exact ⟨rest, htext.symm⟩
  · rintro ⟨rest, htext⟩
    exact ⟨rest, htext.symm, fits_anyText_nil rest⟩

/-- What fits the second one has the phrase somewhere in it. -/
theorem fits_contains (token text : List Char) :
    Fits (.anyText :: (token.map .literal ++ [.anyText])) text ↔ token <:+: text := by
  rw [Fits, List.infix_iff_prefix_suffix]
  simp only [fits_start, and_comm]

/-- **Texts are looked for as they are.** The matcher for the start of a column compares it with a pattern
that fits exactly what begins with the text, and the matcher for the whole phrase with one that fits exactly
what the text occurs in, whatever characters the text has and whether the database knows classes or not. -/
theorem like_literal (classes : Bool) (d : Dialect) (column : String) (weight : Float) (text : String) :
    (∃ pattern, scoreText .startOfString d column weight text =
        ⟨caseWhen (like column) weight, [.text pattern]⟩ ∧
      ∀ value : String, Like classes value pattern ↔ text.toList <+: value.toList) ∧
    ∃ pattern, scoreText .exactInString d column weight text =
        ⟨caseWhen (like column) weight, [.text pattern]⟩ ∧
      ∀ value : String, Like classes value pattern ↔ text.toList <:+: value.toList := by
  refine ⟨⟨_, rfl, fun value => ?_⟩, _, rfl, fun value => ?_⟩
  · rw [like_iff (by rw [String.toList_ofList, parts?_startPattern]), fits_start]
  · rw [like_iff (by rw [String.toList_ofList, parts?_containsPattern]), fits_contains]

end Matcher

end RelevanceSql
