import RelevanceSql.Document.Value

/-!
# Documents from text

Reads the text of a JSON document: one value, with blanks around the marks of the grammar and nothing
after it. Each reader takes the characters that are left and gives what it has read and what is left
then. Lists and objects nest, so the readers of values take a number of steps that bounds the
nesting; three steps for each character of a text are always enough for it.
-/

namespace RelevanceSql.Document

open RelevanceSql.Text

/-- The four characters that may stand between the marks of a document. -/
def isDocumentBlank (c : Char) : Bool := c == ' ' || c == '\t' || c == '\n' || c == '\r'

/-- The characters after leading blanks. -/
def skipBlanks (cs : List Char) : List Char := cs.dropWhile isDocumentBlank

/-- The value of a hexadecimal digit. -/
def hexValue? (c : Char) : Option Nat :=
  let n := c.toNat
  if 0x30 ≤ n ∧ n ≤ 0x39 then some (n - 0x30)
  else if 0x61 ≤ n ∧ n ≤ 0x66 then some (n - 0x57)
  else if 0x41 ≤ n ∧ n ≤ 0x46 then some (n - 0x37)
  else none

/-- The code point named by four hexadecimal digits. -/
def hexPoint? (a b c d : Char) : Option Nat :=
  match hexValue? a, hexValue? b, hexValue? c, hexValue? d with
  | some a, some b, some c, some d => some (4096 * a + 256 * b + 16 * c + d)
  | _, _, _, _ => none

/-- The code point that a single letter after a backslash stands for. -/
def letterEscape? (c : Char) : Option Nat :=
  if c = '"' then some 0x22
  else if c = '\\' then some 0x5C
  else if c = '/' then some 0x2F
  else if c = 'b' then some 0x08
  else if c = 'f' then some 0x0C
  else if c = 'n' then some 0x0A
  else if c = 'r' then some 0x0D
  else if c = 't' then some 0x09
  else none

/-- Whether a code point is the first half of a surrogate pair. -/
def isHighHalf (n : Nat) : Bool := decide (0xD800 ≤ n) && decide (n ≤ 0xDBFF)

/-- Whether a code point is the second half of a surrogate pair. -/
def isLowHalf (n : Nat) : Bool := decide (0xDC00 ≤ n) && decide (n ≤ 0xDFFF)

/-- Puts the halves of surrogate pairs together. -/
def joinPairs : List Nat → List Nat
  | high :: low :: rest =>
    if isHighHalf high && isLowHalf low then
      (0x10000 + (high - 0xD800) * 0x400 + (low - 0xDC00)) :: joinPairs rest
    else high :: joinPairs (low :: rest)
  | points => points

/-- The code points up to the closing quotation mark, the halves of pairs one by one. -/
def readPoints? : List Char → Option (List Nat × List Char)
  | [] => none
  | '"' :: rest => some ([], rest)
  | '\\' :: 'u' :: a :: b :: c :: d :: rest =>
    match hexPoint? a b c d, readPoints? rest with
    | some n, some (points, rest) => some (n :: points, rest)
    | _, _ => none
  | '\\' :: c :: rest =>
    match letterEscape? c, readPoints? rest with
    | some n, some (points, rest) => some (n :: points, rest)
    | _, _ => none
  | c :: rest =>
    if c.toNat < 0x20 ∨ c = '\\' then none
    else (readPoints? rest).map fun (points, rest) => (c.toNat :: points, rest)

/-- A text, its opening quotation mark read already. -/
def readText? (cs : List Char) : Option (List Nat × List Char) :=
  (readPoints? cs).map fun (points, rest) => (joinPairs points, rest)

/-- Leading digits, and what follows them. -/
def spanDigits (cs : List Char) : List Char × List Char :=
  (cs.takeWhile isAsciiDigit, cs.dropWhile isAsciiDigit)

/-- The digits before the point: one digit at least, and no zero in front of others. -/
def readWhole? (cs : List Char) : Option (List Char × List Char) :=
  match spanDigits cs with
  | ([], _) => none
  | ('0' :: _ :: _, _) => none
  | digits => some digits

/-- The digits after the point, if there is one. -/
def readFraction? : List Char → Option (List Char × List Char)
  | '.' :: cs => if (spanDigits cs).1.isEmpty then none else some (spanDigits cs)
  | cs => some ([], cs)

/-- The digits of an exponent, its letter read already. -/
def readPower? (cs : List Char) : Option (Option Int × List Char) :=
  let (negative, rest) := Number.splitSign cs
  let (digits, rest) := spanDigits rest
  if digits.isEmpty then none
  else
    let size : Int := Number.ofDigits digits
    some (some (if negative then -size else size), rest)

/-- The exponent, if there is one. -/
def readExponent? : List Char → Option (Option Int × List Char)
  | 'e' :: cs => readPower? cs
  | 'E' :: cs => readPower? cs
  | cs => some (none, cs)

/-- A number. -/
def readNumeral? (cs : List Char) : Option (Numeral × List Char) :=
  let (negative, body) := match cs with
    | '-' :: rest => (true, rest)
    | _ => (false, cs)
  match readWhole? body with
  | none => none
  | some (whole, rest) =>
    match readFraction? rest with
    | none => none
    | some (fraction, rest) =>
      match readExponent? rest with
      | none => none
      | some (exponent, rest) => some (⟨negative, whole, fraction, exponent⟩, rest)

/-- What follows a given word, if the characters begin with it. -/
def afterWord? : List Char → List Char → Option (List Char)
  | [], cs => some cs
  | _ :: _, [] => none
  | w :: ws, c :: cs => if w = c then afterWord? ws cs else none

/-- A value that is neither a list nor an object. -/
def readScalar? (cs : List Char) : Option (Value × List Char) :=
  match cs with
  | '"' :: rest => (readText? rest).map fun (points, rest) => (.text points, rest)
  | 'n' :: rest => (afterWord? "ull".toList rest).map fun rest => (.null, rest)
  | 't' :: rest => (afterWord? "rue".toList rest).map fun rest => (.bool true, rest)
  | 'f' :: rest => (afterWord? "alse".toList rest).map fun rest => (.bool false, rest)
  | _ => (readNumeral? cs).map fun (n, rest) => (.number n, rest)

mutual

/-- A value. -/
def readValue? : Nat → List Char → Option (Value × List Char)
  | 0, _ => none
  | steps + 1, cs =>
    match skipBlanks cs with
    | '[' :: rest =>
      match skipBlanks rest with
      | ']' :: rest => some (.list [], rest)
      | rest => (readItems? steps rest).map fun (items, rest) => (.list items, rest)
    | '\x7b' :: rest =>
      match skipBlanks rest with
      | '\x7d' :: rest => some (.object [], rest)
      | rest => (readMembers? steps rest).map fun (members, rest) => (.object members, rest)
    | rest => readScalar? rest

/-- The items of a list up to its closing bracket; there is at least one. -/
def readItems? : Nat → List Char → Option (List Value × List Char)
  | 0, _ => none
  | steps + 1, cs =>
    match readValue? steps cs with
    | none => none
    | some (v, rest) =>
      match skipBlanks rest with
      | ',' :: rest => (readItems? steps rest).map fun (vs, rest) => (v :: vs, rest)
      | ']' :: rest => some ([v], rest)
      | _ => none

/-- The members of an object up to its closing brace; there is at least one. -/
def readMembers? : Nat → List Char → Option (List (List Nat × Value) × List Char)
  | 0, _ => none
  | steps + 1, cs =>
    match readMember? steps cs with
    | none => none
    | some (m, rest) =>
      match skipBlanks rest with
      | ',' :: rest => (readMembers? steps rest).map fun (ms, rest) => (m :: ms, rest)
      | '\x7d' :: rest => some ([m], rest)
      | _ => none

/-- One member of an object. -/
def readMember? : Nat → List Char → Option ((List Nat × Value) × List Char)
  | 0, _ => none
  | steps + 1, cs =>
    match skipBlanks cs with
    | '"' :: rest =>
      match readText? rest with
      | none => none
      | some (name, rest) =>
        match skipBlanks rest with
        | ':' :: rest => (readValue? steps rest).map fun (v, rest) => ((name, v), rest)
        | _ => none
    | _ => none

end

/-- The value of a document. -/
def Value.parse? (text : String) : Option Value :=
  let cs := text.toList
  match readValue? (3 * cs.length + 3) cs with
  | some (v, rest) => if (skipBlanks rest).isEmpty then some v else none
  | none => none

/-- Without halves of pairs there is nothing to put together. -/
theorem joinPairs_of_no_high {points : List Nat} (h : ∀ n ∈ points, isHighHalf n = false) :
    joinPairs points = points := by
  fun_induction joinPairs points with
  | case1 high low rest hpair ih =>
    have := h high (by simp)
    simp [this] at hpair
  | case2 high low rest hpair ih =>
    rw [ih fun n hn => h n (by simp [List.mem_cons.1 hn])]
  | case3 => rfl

end RelevanceSql.Document
