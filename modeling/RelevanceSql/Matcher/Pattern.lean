import RelevanceSql.Text.Alphanumeric
import RelevanceSql.Text.Blank

/-!
# LIKE patterns

The patterns that the matchers bind. In a pattern `%` stands for any text and `_` for any character,
some databases read `[` as the start of a character class, and `!` makes the character after it stand
for itself. `escape` guards all four in the text of a token.
-/

namespace RelevanceSql.Matcher

open RelevanceSql.Text

/-- The character that makes the next one stand for itself. -/
def escapeMark : Char := '!'

/-- The characters with a meaning of their own in a pattern. -/
def isSpecial (c : Char) : Bool := c == '%' || c == '_' || c == '[' || c == escapeMark

/-- A text with its special characters guarded. -/
def escape : List Char → List Char
  | [] => []
  | c :: cs => if isSpecial c then escapeMark :: c :: escape cs else c :: escape cs

/-- The texts that begin with a token. -/
def startPattern (token : List Char) : List Char := escape token ++ ['%']

/-- The texts in which a token occurs. -/
def containsPattern (token : List Char) : List Char := '%' :: (escape token ++ ['%'])

/-- The texts with words that begin with the letters and digits of a token, if it has any. -/
def acronymPattern? (token : List Char) : Option (List Char) :=
  match token.filter isAlphanumeric with
  | [] => none
  | letters => some (['%', ' '].intercalate (letters.map fun c => [c]) ++ ['%'])

/-- The texts that begin with the first word of a token and go on with words that begin with the next ones. -/
def wordsPattern (token : List Char) : List Char :=
  ['%', ' '].intercalate ((words isBlank token).map escape) ++ ['%']

/-- The characters of a token that a subsequence is looked for. -/
def visible (token : List Char) : List Char := token.filter fun c => !isBlank c

/-- The texts with all visible characters of a token in order, if it has any. -/
def subsequencePattern? (token : List Char) : Option (List Char) :=
  match visible token with
  | [] => none
  | cs => some ('%' :: (['%'].intercalate (cs.map fun c => escape [c]) ++ ['%']))

/-- The length of a subsequence pattern before escaping: the characters and a `%` around each. -/
def subsequenceLength (token : List Char) : Nat := 2 * (visible token).length + 1

theorem escape_nil : escape [] = [] := rfl

end RelevanceSql.Matcher
