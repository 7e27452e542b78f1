import RelevanceSql.Text.Alphanumeric
import RelevanceSql.Text.Blank
import RelevanceSql.Text.Lowercase

/-!
# Search tokens

A search text is trimmed, lower-cased and cut into tokens. A text whose letters and digits are ASCII
digits throughout is one token, its digits run together, so that a telephone number is found however
it is punctuated. Every other text is read from left to right as a row of items: a quotation mark
that is closed later opens a phrase up to the closing mark, and any other character that is not blank
starts a run up to the next blank. A phrase has its blanks reduced to single spaces, a run loses the
quotation marks at its ends, and items of which nothing is left are dropped. A cap keeps the first
tokens only.
-/

namespace RelevanceSql.Search

open RelevanceSql.Text

/-- The quotation mark that encloses a phrase. -/
def quoteMark : Char := '"'

/-- What stands between blanks: a quoted phrase without its marks, or a run of other characters. -/
inductive Item where
  | phrase (body : List Char)
  | run (body : List Char)
  deriving DecidableEq, Repr

/-- The token an item makes; empty if nothing is left of it. -/
def Item.token : Item → List Char
  | .phrase body => [' '].intercalate (words isBlank body)
  | .run body => strip (· == quoteMark) body

/-- Where a scan stands: between items, or inside one whose characters so far are given. -/
inductive ScanState where
  | idle
  | inPhrase (body : List Char)
  | inRun (body : List Char)
  deriving DecidableEq, Repr

/--
The items from a state on. A quotation mark between items opens a phrase only if another one follows
somewhere; inside a run it is a character like any other.
-/
def itemsFrom : ScanState → List Char → List Item
  | .idle, [] => []
  | .inPhrase body, [] => [.phrase body]
  | .inRun body, [] => [.run body]
  | .idle, c :: cs =>
    if isBlank c then itemsFrom .idle cs
    else if c == quoteMark && cs.contains quoteMark then itemsFrom (.inPhrase []) cs
    else itemsFrom (.inRun [c]) cs
  | .inPhrase body, c :: cs =>
    if c == quoteMark then .phrase body :: itemsFrom .idle cs
    else itemsFrom (.inPhrase (body ++ [c])) cs
  | .inRun body, c :: cs =>
    if isBlank c then .run body :: itemsFrom .idle cs
    else itemsFrom (.inRun (body ++ [c])) cs

/-- The phrases and runs of a text, in order. -/
def items (cs : List Char) : List Item := itemsFrom .idle cs

/-- The text in the form that is cut: without blanks at its ends, and in small letters. -/
def normalize (text : List Char) : List Char := lower (strip isBlank text)

/-- The digits of a text whose letters and digits are ASCII digits, if it has any. -/
def soleNumber? (cs : List Char) : Option (List Char) :=
  let marks := cs.filter isAlphanumeric
  if !marks.isEmpty && marks.all isAsciiDigit then some marks else none

/-- All tokens of a normalized text. -/
def tokensOf (cs : List Char) : List (List Char) :=
  match soleNumber? cs with
  | some digits => [digits]
  | none => ((items cs).map Item.token).filter fun t => !t.isEmpty

/-- The tokens of one search, in order of appearance. There is at least one. -/
structure Tokens where
  words : List String
  words_ne_nil : words ≠ []
  deriving DecidableEq

/-- Cuts a search text into at most `cap` tokens; `none` if there is no token. -/
def Tokens.parse (text : String) (cap : Nat) : Option Tokens :=
  let words := ((tokensOf (normalize text.toList)).take cap).map String.ofList
  if h : words = [] then none else some ⟨words, h⟩

/-- The number of tokens. -/
def Tokens.count (t : Tokens) : Nat := t.words.length

/-- The tokens, longest first; tokens of one length stay in order of appearance. -/
def Tokens.longestFirst (t : Tokens) : List String :=
  t.words.mergeSort fun a b => decide (b.length ≤ a.length)

/-- All tokens in order of appearance, with single spaces between them. -/
def Tokens.phrase (t : Tokens) : String := " ".intercalate t.words

/-- All tokens longest first, with single spaces between them. -/
def Tokens.fulltextPhrase (t : Tokens) : String := " ".intercalate t.longestFirst

theorem itemsFrom_idle_nil : itemsFrom .idle [] = [] := rfl

theorem itemsFrom_idle_blank {c : Char} (h : isBlank c = true) (cs : List Char) :
    itemsFrom .idle (c :: cs) = itemsFrom .idle cs := by simp [itemsFrom, h]

theorem Tokens.count_pos (t : Tokens) : 0 < t.count := by
  rw [count]
  exact List.length_pos_iff.2 t.words_ne_nil

/-- The cap bounds the number of tokens. -/
theorem Tokens.count_parse_le {text : String} {cap : Nat} {t : Tokens}
    (h : Tokens.parse text cap = some t) : t.count ≤ cap := by
  rw [parse] at h
  split at h
  · cases h
  · cases h
    simpa only [count, List.length_map, List.length_take] using Nat.min_le_left _ _

end RelevanceSql.Search
