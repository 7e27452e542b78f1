/-!
# Matchers

A matcher is a rule that scores a column against a token or against all tokens. Configurations name
the matchers; the order of the library is the order in which a default configuration runs them.
-/

namespace RelevanceSql

/-- The eight rules. -/
inductive Matcher where
  | exactFull
  | exactInString
  | startOfString
  | acronym
  | consecutiveCharacters
  | startOfWords
  | similarString
  | timesInString
  deriving DecidableEq, Repr

namespace Matcher

/-- All matchers, in library order. -/
def all : List Matcher :=
  [.exactFull, .exactInString, .startOfString, .acronym, .consecutiveCharacters, .startOfWords,
    .similarString, .timesInString]

/-- The name of a matcher in a configuration. -/
def name : Matcher → String
  | .exactFull => "exactFullMatcher"
  | .exactInString => "exactInStringMatcher"
  | .startOfString => "startofStringMatcher"
  | .acronym => "acronymMatcher"
  | .consecutiveCharacters => "consecutiveCharactersMatcher"
  | .startOfWords => "startOfWordsMatcher"
  | .similarString => "similarStringMatcher"
  | .timesInString => "timesInStringMatcher"

/-- The matcher of a name. -/
def ofName? (name : String) : Option Matcher := all.find? fun m => decide (m.name = name)

/-- The weight of a matcher in a default configuration. -/
def defaultWeight : Matcher → Float
  | .exactFull => 100.0
  | .exactInString => 80.0
  | .startOfString => 50.0
  | .acronym => 42.0
  | .consecutiveCharacters => 40.0
  | .startOfWords => 35.0
  | .similarString => 30.0
  | .timesInString => 8.0

/-- Whether a matcher looks at all tokens at once; the others look at each token on its own. -/
def usesWholePhrase : Matcher → Bool
  | .exactFull | .exactInString => true
  | _ => false

theorem mem_all (m : Matcher) : m ∈ all := by cases m <;> simp [all]

theorem ofName?_name (m : Matcher) : ofName? m.name = some m := by cases m <;> decide

/-- Only its own name leads to a matcher. -/
theorem name_of_ofName? {s : String} {m : Matcher} (h : ofName? s = some m) : m.name = s := by
  have := List.find?_some h
  simpa using this

end Matcher

end RelevanceSql
