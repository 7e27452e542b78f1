import RelevanceSql.Matcher.Pattern
import RelevanceSql.Search.Tokens
import RelevanceSql.Sql.Dialect
import RelevanceSql.Sql.Fragment

/-!
# Scoring one column

What a matcher adds to the relevance of a row: its weight if the column fits the token, and nothing
otherwise, or for the two graded matchers a share of the weight. The token itself is always a bound
value and never part of the SQL.
-/

namespace RelevanceSql.Matcher

open RelevanceSql.Sql RelevanceSql.Search

/-- A column in small letters. -/
def lowered (column : String) : String := "LOWER(" ++ column ++ ")"

/-- The condition that a column fits a bound pattern. -/
def like (column : String) : String := lowered column ++ " LIKE ? ESCAPE '!'"

/-- A weight if a condition holds, and zero otherwise. -/
def caseWhen (condition : String) (weight : Float) : String :=
  "CASE WHEN " ++ condition ++ " THEN " ++ Number.literal weight ++ " ELSE 0 END"

/-- A condition on one bound text, with a weight. -/
def conditional (condition : String) (weight : Float) (text : List Char) : Fragment :=
  ⟨caseWhen condition weight, [.text (String.ofList text)]⟩

/-- The length of a column without its spaces. -/
def spacelessLength (d : Dialect) (column : String) : String :=
  d.length ("REPLACE(" ++ column ++ ", ' ', '')")

/-- The larger the share of the column that the pattern covers, the more of the weight. -/
def subsequenceScore (d : Dialect) (column : String) (weight : Float) (length : Nat) : String :=
  "CASE WHEN " ++ like column ++ " AND " ++ spacelessLength d column ++ " > 0 THEN ROUND(" ++
    Number.decimalLiteral weight ++ " * " ++ toString length ++ " / " ++ spacelessLength d column ++
    ", 0) ELSE 0 END"

/-- The weight as many times as the token occurs in the column. -/
def occurrenceScore (d : Dialect) (column : String) (weight : Float) (length : Nat) : String :=
  "COALESCE(ROUND(" ++ Number.literal weight ++ " * (" ++ d.length (lowered column) ++ " - " ++
    d.length ("REPLACE(" ++ lowered column ++ ", ?, '')") ++ ") / " ++ toString length ++ ", 0), 0)"

/-- What a matcher adds for one text, a token or a phrase. -/
def scoreText (m : Matcher) (d : Dialect) (column : String) (weight : Float) (text : String) : Fragment :=
  let cs := text.toList
  match m with
  | .exactFull => conditional (lowered column ++ " = ?") weight cs
  | .exactInString => conditional (like column) weight (containsPattern cs)
  | .startOfString => conditional (like column) weight (startPattern cs)
  | .startOfWords => conditional (like column) weight (wordsPattern cs)
  | .similarString => conditional (d.soundsLike column) weight cs
  | .acronym =>
    match acronymPattern? cs with
    | some pattern => conditional (like column) weight pattern
    | none => .zero
  | .consecutiveCharacters =>
    match subsequencePattern? cs with
    | some pattern =>
      ⟨subsequenceScore d column weight (subsequenceLength cs), [.text (String.ofList pattern)]⟩
    | none => .zero
  | .timesInString =>
    if cs = [] then .zero else ⟨occurrenceScore d column weight cs.length, [.text text]⟩

/-- What a matcher adds for all tokens: once for the whole phrase, or the sum over the tokens. -/
def score (m : Matcher) (d : Dialect) (column : String) (weight : Float) (tokens : Tokens) : Fragment :=
  if m.usesWholePhrase then m.scoreText d column weight tokens.phrase
  else Fragment.total (tokens.words.map (m.scoreText d column weight))

end RelevanceSql.Matcher
