import RelevanceSql.Document.Value

/-!
# Documents as text

Two ways to write a value: in one line without blanks, or with every item and member on a line of its
own, set in by two spaces for each level. Quotation marks, backslashes and control characters are
escaped, and every other character stands for itself.
-/

namespace RelevanceSql.Document

/-- A hexadecimal digit, in small letters. -/
def hexDigit (n : Nat) : Char := if n < 10 then Char.ofNat (0x30 + n) else Char.ofNat (0x57 + n)

/-- The escape that names a code point by four hexadecimal digits. -/
def hexEscape (n : Nat) : List Char :=
  ['\\', 'u', hexDigit (n / 4096 % 16), hexDigit (n / 256 % 16), hexDigit (n / 16 % 16),
    hexDigit (n % 16)]

/-- A code point inside a text. -/
def renderPoint (n : Nat) : List Char :=
  if n = 0x22 then ['\\', '"']
  else if n = 0x5C then ['\\', '\\']
  else if n = 0x08 then ['\\', 'b']
  else if n = 0x0C then ['\\', 'f']
  else if n = 0x0A then ['\\', 'n']
  else if n = 0x0D then ['\\', 'r']
  else if n = 0x09 then ['\\', 't']
  else if n < 0x20 then hexEscape n
  else if n.isValidChar then [Char.ofNat n]
  else hexEscape n

/-- A text between quotation marks. -/
def renderText (points : List Nat) : List Char := '"' :: (points.flatMap renderPoint ++ ['"'])

/-- The words for the two truth values. -/
def renderBool (b : Bool) : List Char := if b then "true".toList else "false".toList

mutual

/-- A value in one line. -/
def Value.render : Value → List Char
  | .null => "null".toList
  | .bool b => renderBool b
  | .number n => n.render
  | .text points => renderText points
  | .list items => '[' :: (renderItems items ++ [']'])
  | .object members => '\x7b' :: (renderMembers members ++ ['\x7d'])

/-- The items of a list with commas between them. -/
def renderItems : List Value → List Char
  | [] => []
  | [v] => v.render
  | v :: vs => v.render ++ ',' :: renderItems vs

/-- The members of an object with commas between them. -/
def renderMembers : List (List Nat × Value) → List Char
  | [] => []
  | [m] => renderMember m
  | m :: ms => renderMember m ++ ',' :: renderMembers ms

/-- One member of an object. -/
def renderMember : List Nat × Value → List Char
  | (name, v) => renderText name ++ ':' :: v.render

end

/-- A new line, set in by two spaces for each level. -/
def newLine (level : Nat) : List Char := '\n' :: List.replicate (2 * level) ' '

mutual

/-- A value with each item and member on a line of its own, at a level. -/
def Value.renderIndented (level : Nat) : Value → List Char
  | .null => "null".toList
  | .bool b => renderBool b
  | .number n => n.render
  | .text points => renderText points
  | .list [] => ['[', ']']
  | .list (v :: vs) =>
    '[' :: (newLine (level + 1) ++ v.renderIndented (level + 1) ++ renderItemsIndented level vs ++
      newLine level ++ [']'])
  | .object [] => ['\x7b', '\x7d']
  | .object (m :: ms) =>
    '\x7b' :: (newLine (level + 1) ++ renderMemberIndented level m ++
      renderMembersIndented level ms ++ newLine level ++ ['\x7d'])

/-- The items after the first one. -/
def renderItemsIndented (level : Nat) : List Value → List Char
  | [] => []
  | v :: vs => ',' :: (newLine (level + 1) ++ v.renderIndented (level + 1) ++
      renderItemsIndented level vs)

/-- The members after the first one. -/
def renderMembersIndented (level : Nat) : List (List Nat × Value) → List Char
  | [] => []
  | m :: ms => ',' :: (newLine (level + 1) ++ renderMemberIndented level m ++
      renderMembersIndented level ms)

/-- One member of an object. -/
def renderMemberIndented (level : Nat) : List Nat × Value → List Char
  | (name, v) => renderText name ++ ':' :: ' ' :: v.renderIndented (level + 1)

end

/-- The text of a value in one line. -/
def Value.compact (v : Value) : String := String.ofList v.render

/-- The text of a value on several lines. -/
def Value.indented (v : Value) : String := String.ofList (v.renderIndented 0)

end RelevanceSql.Document
