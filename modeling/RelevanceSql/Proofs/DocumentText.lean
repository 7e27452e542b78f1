import RelevanceSql.Document.Printer
import RelevanceSql.Proofs.DocumentNumerals

/-!
# Written documents are read back

A value is written in one line or set in over several lines; both ways the readers of documents find
the same value again (`parse?_compact`, `parse?_indented`). This holds of the values that have a text at
all: numerals with the digits that the grammar wants, and texts whose code points are characters
(`Value.IsProper`).

`IsText` says of characters that they are a text of a value, whatever stands behind them as long as it
does not continue a number. Items and members are rows of elements, and a row is put together from its
elements whatever blanks stand between them (`RowReader.isRow_write`); the two ways of writing differ in
these blanks only. Twice the length of a text is enough steps to read it, because every value, item and
member takes one step of its own and has one character of its own.
-/

namespace RelevanceSql.Document

/-! ## Blanks -/

theorem skipBlanks_append {gap : List Char} (h : ∀ c ∈ gap, isDocumentBlank c = true) (cs : List Char) :
    skipBlanks (gap ++ cs) = skipBlanks cs :=
  List.dropWhile_append_of_pos h

theorem skipBlanks_cons {c : Char} (h : isDocumentBlank c = false) (cs : List Char) :
    skipBlanks (c :: cs) = c :: cs :=
  List.dropWhile_cons_of_neg (by rw [h]; exact Bool.false_ne_true)

theorem skipBlanks_skipBlanks (cs : List Char) : skipBlanks (skipBlanks cs) = skipBlanks cs :=
  List.dropWhile_idempotent _ cs

theorem skipBlanks_append_of_eq_cons {c : Char} {cs tail : List Char} (h : skipBlanks cs = c :: tail)
    (ds : List Char) : skipBlanks (cs ++ ds) = c :: (tail ++ ds) := by
  unfold skipBlanks at h ⊢
  rw [List.dropWhile_append, h]
  rfl

/-- A new line and what it is set in by are blanks. -/
theorem isDocumentBlank_newLine (level : Nat) : ∀ c ∈ newLine level, isDocumentBlank c = true := by
  intro c hc
  rcases List.mem_cons.1 hc with rfl | hspace
  · rfl
  · rw [List.eq_of_mem_replicate hspace]
    rfl

/-! Readers pass over the blanks in front of what they read. -/

/-- A value is read from behind the blanks, so only what stands there matters. -/
theorem readValue?_congr {cs ds : List Char} (h : skipBlanks cs = skipBlanks ds) (steps : Nat) :
    readValue? steps cs = readValue? steps ds := by
  cases steps with
  | zero => rfl
  | succ steps => rw [readValue?, readValue?, h]

theorem readItems?_congr {cs ds : List Char} (h : skipBlanks cs = skipBlanks ds) (steps : Nat) :
    readItems? steps cs = readItems? steps ds := by
  cases steps with
  | zero => rfl
  | succ steps => rw [readItems?, readItems?, readValue?_congr h]

theorem readMember?_congr {cs ds : List Char} (h : skipBlanks cs = skipBlanks ds) (steps : Nat) :
    readMember? steps cs = readMember? steps ds := by
  cases steps with
  | zero => rfl
  | succ steps => rw [readMember?, readMember?, h]

theorem readMembers?_congr {cs ds : List Char} (h : skipBlanks cs = skipBlanks ds) (steps : Nat) :
    readMembers? steps cs = readMembers? steps ds := by
  cases steps with
  | zero => rfl
  | succ steps => rw [readMembers?, readMembers?, readMember?_congr h]

theorem continuesNumeral_of_isDocumentBlank {c : Char} (h : isDocumentBlank c = true) :
    continuesNumeral c = false := by
  simp only [isDocumentBlank, Bool.or_eq_true, beq_iff_eq] at h
  rcases h with ((rfl | rfl) | rfl) | rfl <;> rfl

/-- Blanks end a number, and where there are none the rest has to. -/
theorem EndsNumeral.append {gap rest : List Char} (hgap : ∀ c ∈ gap, isDocumentBlank c = true)
    (hrest : EndsNumeral rest) : EndsNumeral (gap ++ rest) := by
  cases gap with
  | nil => exact hrest
  | cons c cs =>
    exact endsNumeral_cons (continuesNumeral_of_isDocumentBlank (hgap c (List.mem_cons_self ..))) _

/-! ## Texts -/

theorem hexValue?_hexDigit : ∀ n < 16, hexValue? (hexDigit n) = some n := by decide

/-- A code point below `2 ^ 16` is read back from its escape. -/
theorem readPoints?_hexEscape {n : Nat} (h : n < 0x10000) (cs : List Char) :
    readPoints? (hexEscape n ++ cs) = (readPoints? cs).map fun (points, rest) => (n :: points, rest) := by
  have hdigits : hexPoint? (hexDigit (n / 4096 % 16)) (hexDigit (n / 256 % 16)) (hexDigit (n / 16 % 16))
      (hexDigit (n % 16)) = some n := by
    -- the four digits together are the number, as it has no more than four
    have hsum : 4096 * (n / 4096 % 16) + 256 * (n / 256 % 16) + 16 * (n / 16 % 16) + n % 16 = n := by
      omega
    rw [hexPoint?, hexValue?_hexDigit _ (Nat.mod_lt _ (by omega)),
      hexValue?_hexDigit _ (Nat.mod_lt _ (by omega)), hexValue?_hexDigit _ (Nat.mod_lt _ (by omega)),
      hexValue?_hexDigit _ (Nat.mod_lt _ (by omega))]
    show some _ = some n
    rw [hsum]
  show readPoints? ('\\' :: 'u' :: _ :: _ :: _ :: _ :: cs) = _
  rw [readPoints?, hdigits]
  cases readPoints? cs <;> rfl

/-- A code point is read back from a backslash and the letter for it. -/
theorem readPoints?_letter {c : Char} {n : Nat} (h : letterEscape? c = some n) (cs : List Char) :
    readPoints? ('\\' :: c :: cs) = (readPoints? cs).map fun (points, rest) => (n :: points, rest) := by
  rw [readPoints?, h]
  · cases readPoints? cs <;> rfl
  · rintro _ _ _ _ _ rfl -
    cases h

/-- A character that needs no escape is read as itself. -/
theorem readPoints?_char {c : Char} (hquote : c ≠ '"') (hslash : c ≠ '\\') (hcontrol : ¬c.toNat < 0x20)
    (cs : List Char) :
    readPoints? (c :: cs) = (readPoints? cs).map fun (points, rest) => (c.toNat :: points, rest) := by
  rw [readPoints?, if_neg (not_or.2 ⟨hcontrol, hslash⟩)]
  · exact hquote
  · intro _ _ _ _ _ heq
    exact absurd heq hslash
  · intro _ _ heq
    exact absurd heq hslash

/-- A code point is read back from what it is written as. -/
theorem readPoints?_renderPoint {n : Nat} (h : n.isValidChar) (cs : List Char) :
    readPoints? (renderPoint n ++ cs) =
      (readPoints? cs).map fun (points, rest) => (n :: points, rest) := by
  unfold renderPoint
  split
  · next hn => rw [hn]; exact readPoints?_letter rfl cs
  split
  · next hn => rw [hn]; exact readPoints?_letter rfl cs
  split
  · next hn => rw [hn]; exact readPoints?_letter rfl cs
  split
  · next hn => rw [hn]; exact readPoints?_letter rfl cs
  split
  · next hn => rw [hn]; exact readPoints?_letter rfl cs
  split
  · next hn => rw [hn]; exact readPoints?_letter rfl cs
  split
  · next hn => rw [hn]; exact readPoints?_letter rfl cs
  -- no letter stands for the code point, so it is written as digits or as itself
  next hquote hslash _ _ _ _ _ =>
  split
  · next hcontrol => exact readPoints?_hexEscape (by omega) cs
  · next hcontrol =>
    have hpoint : (Char.ofNat n).toNat = n := by
      rw [Char.toNat_ofNat, if_pos h]
    have hread := readPoints?_char (c := Char.ofNat n)
      (by rintro heq; rw [heq] at hpoint; exact hquote hpoint.symm)
      (by rintro heq; rw [heq] at hpoint; exact hslash hpoint.symm) (by rwa [hpoint]) cs
    rw [hpoint] at hread
    exact hread

/-- Whether all code points of a text are characters. -/
def AreChars (points : List Nat) : Prop := ∀ n ∈ points, n.isValidChar

/-- The characters of a text are read up to the closing quote, and not beyond it. -/
theorem readPoints?_append {points : List Nat} (h : AreChars points) (rest : List Char) :
    readPoints? (points.flatMap renderPoint ++ '"' :: rest) = some (points, rest) := by
  induction points with
  | nil => rfl
  | cons n points ih =>
    have htail : AreChars points := fun m hm => h m (List.mem_cons_of_mem n hm)
    rw [List.flatMap_cons, List.append_assoc, readPoints?_renderPoint (h n (List.mem_cons_self ..)),
      ih htail]
    rfl

/-- No two escapes of a written text are halves of one character, so none are joined. -/
theorem readText?_append {points : List Nat} (h : AreChars points) (rest : List Char) :
    readText? (points.flatMap renderPoint ++ '"' :: rest) = some (points, rest) := by
  -- a character is never half of a pair
  have hwhole : joinPairs points = points := by
    apply joinPairs_of_no_high
    intro n hn
    have hchar := h n hn
    rw [Nat.isValidChar] at hchar
    rw [isHighHalf, Bool.and_eq_false_iff, decide_eq_false_iff_not, decide_eq_false_iff_not]
    omega
  rw [readText?, readPoints?_append h]
  show some (joinPairs points, rest) = _
  rw [hwhole]

/-! ## Elements and rows

The items of a list and the members of an object are both rows: elements with commas between them, up to
a closing mark.
-/

/-- Whether a character closes a list or an object. -/
def endsRow (c : Char) : Bool := c == ']' || c == '\x7d'

/-- Characters that are a text of an element for its reader, whatever does not continue a number stands
behind them. -/
structure IsElement {α : Type} (element : Nat → List Char → Option (α × List Char)) (cs : List Char)
    (a : α) : Prop where
  begins : ∃ c tail, cs = c :: tail ∧ isDocumentBlank c = false ∧ endsRow c = false
  reads : ∀ steps rest, 2 * cs.length ≤ steps + 1 → EndsNumeral rest →
    element steps (cs ++ rest) = some (a, rest)

/-- Characters that are a text of a row for its reader, up to the closing mark. -/
structure IsRow {α : Type} (close : Char) (row : Nat → List Char → Option (List α × List Char))
    (cs : List Char) (as : List α) : Prop where
  begins : ∃ c tail, skipBlanks cs = c :: tail ∧ endsRow c = false
  reads : ∀ steps rest, 2 * cs.length ≤ steps → row steps (cs ++ close :: rest) = some (as, rest)

/-- A reader of rows and the reader of their elements: blanks in front of an element do not matter, and
behind it the row ends at the closing mark and goes on at a comma. -/
structure RowReader {α : Type} (close : Char) (element : Nat → List Char → Option (α × List Char))
    (row : Nat → List Char → Option (List α × List Char)) : Prop where
  ends : endsRow close = true
  congr : ∀ {cs ds : List Char}, skipBlanks cs = skipBlanks ds → ∀ steps, element steps cs = element steps ds
  last : ∀ {steps : Nat} {cs rest behind : List Char} {a : α}, element steps cs = some (a, rest) →
    skipBlanks rest = close :: behind → row (steps + 1) cs = some ([a], behind)
  more : ∀ {steps : Nat} {cs rest next behind : List Char} {a : α} {as : List α},
    element steps cs = some (a, rest) → skipBlanks rest = ',' :: next →
      row steps next = some (as, behind) → row (steps + 1) cs = some (a :: as, behind)

theorem isDocumentBlank_of_endsRow {c : Char} (h : endsRow c = true) : isDocumentBlank c = false := by
  simp only [endsRow, Bool.or_eq_true, beq_iff_eq] at h
  rcases h with rfl | rfl <;> rfl

theorem continuesNumeral_of_endsRow {c : Char} (h : endsRow c = true) : continuesNumeral c = false := by
  simp only [endsRow, Bool.or_eq_true, beq_iff_eq] at h
  rcases h with rfl | rfl <;> rfl

section Rows

variable {α : Type} {close : Char} {element : Nat → List Char → Option (α × List Char)}
  {row : Nat → List Char → Option (List α × List Char)} {cs ds gap tail : List Char} {a : α} {as : List α}

/-- An element has a character of its own, which pays for the step that reads it. -/
theorem IsElement.one_le_length (h : IsElement element cs a) : 1 ≤ cs.length := by
  obtain ⟨c, tail, rfl, -⟩ := h.begins
  rw [List.length_cons]
  omega

/-- A row that begins with an element is not closed at once. -/
theorem IsElement.begins_row (h : IsElement element cs a) (hgap : ∀ c ∈ gap, isDocumentBlank c = true)
    (rest : List Char) : ∃ c tail, skipBlanks (gap ++ cs ++ rest) = c :: tail ∧ endsRow c = false := by
  obtain ⟨c, tail, hcs, hblank, hends⟩ := h.begins
  refine ⟨c, tail ++ rest, ?_, hends⟩
  rw [List.append_assoc, skipBlanks_append hgap, hcs, List.cons_append, skipBlanks_cons hblank]

namespace RowReader

/-- The last element of a row, with blanks around it. -/
theorem isRow_last (r : RowReader close element row) (h : IsElement element cs a)
    (hgap : ∀ c ∈ gap, isDocumentBlank c = true) (htail : ∀ c ∈ tail, isDocumentBlank c = true) :
    IsRow close row (gap ++ cs ++ tail) [a] := by
  refine ⟨h.begins_row hgap tail, ?_⟩
  intro steps rest hsteps
  have hlength := h.one_le_length
  rw [List.length_append, List.length_append] at hsteps
  cases steps with
  | zero => omega
  | succ steps =>
    -- whether blanks or the closing mark come next, a number before them is at its end
    have hends : EndsNumeral (tail ++ close :: rest) :=
      (endsNumeral_cons (continuesNumeral_of_endsRow r.ends) rest).append htail
    have hread : element steps (gap ++ cs ++ tail ++ close :: rest) = some (a, tail ++ close :: rest) := by
      rw [List.append_assoc, List.append_assoc, r.congr (skipBlanks_append hgap _)]
      exact h.reads steps _ (by omega) hends
    have hclose : skipBlanks (tail ++ close :: rest) = close :: rest := by
      rw [skipBlanks_append htail, skipBlanks_cons (isDocumentBlank_of_endsRow r.ends)]
    exact r.last hread hclose

/-- An element with blanks before it, in front of others. -/
theorem isRow_cons (r : RowReader close element row) (h : IsElement element cs a)
    (hgap : ∀ c ∈ gap, isDocumentBlank c = true) (hrow : IsRow close row ds as) :
    IsRow close row (gap ++ cs ++ ',' :: ds) (a :: as) := by
  refine ⟨h.begins_row hgap (',' :: ds), ?_⟩
  intro steps rest hsteps
  have hlength := h.one_le_length
  rw [List.length_append, List.length_append, List.length_cons] at hsteps
  cases steps with
  | zero => omega
  | succ steps =>
    have hread : element steps (gap ++ cs ++ ',' :: ds ++ close :: rest) =
        some (a, ',' :: (ds ++ close :: rest)) := by
      rw [List.append_assoc, List.append_assoc, List.cons_append, r.congr (skipBlanks_append hgap _)]
      exact h.reads steps _ (by omega) (endsNumeral_cons rfl _)
    -- the element has used up at least one character, and with it two steps
    exact r.more hread (skipBlanks_cons rfl _) (hrow.reads steps rest (by omega))

/-- A way to write rows: the same blanks before each element, and blanks at the end. -/
theorem isRow_write (r : RowReader close element row) {text : α → List Char}
    (write : α → List α → List Char) (hgap : ∀ c ∈ gap, isDocumentBlank c = true)
    (htail : ∀ c ∈ tail, isDocumentBlank c = true) (hlast : ∀ a, write a [] = gap ++ text a ++ tail)
    (hcons : ∀ a b as, write a (b :: as) = gap ++ text a ++ ',' :: write b as)
    (h : ∀ b ∈ a :: as, IsElement element (text b) b) : IsRow close row (write a as) (a :: as) := by
  have ha := h a (List.mem_cons_self ..)
  -- on the elements behind the first one, since the last is written unlike the others
  induction as generalizing a with
  | nil =>
    rw [hlast]
    exact r.isRow_last ha hgap htail
  | cons b as ih =>
    have hrest : ∀ d ∈ b :: as, IsElement element (text d) d :=
      fun d hd => h d (List.mem_cons_of_mem a hd)
    rw [hcons]
    exact r.isRow_cons ha hgap (ih hrest (hrest b (List.mem_cons_self ..)))

end RowReader

end Rows

/-- Characters that are a text of a value. -/
abbrev IsText : List Char → Value → Prop := IsElement readValue?

/-- Characters that are a text of a member of an object. -/
abbrev IsMember : List Char → List Nat × Value → Prop := IsElement readMember?

/-- The items of a list are read as a row of values. -/
theorem rowReader_items : RowReader ']' readValue? readItems? where
  ends := rfl
  congr := readValue?_congr
  last := by
    intro steps cs rest behind v hread hclose
    rw [readItems?, hread]
    simp only [hclose]
  more := by
    intro steps cs rest next behind v vs hread hcomma hrow
    rw [readItems?, hread]
    simp only [hcomma, hrow, Option.map_some]

/-- The members of an object are read as a row of names with values. -/
theorem rowReader_members : RowReader '\x7d' readMember? readMembers? where
  ends := rfl
  congr := readMember?_congr
  last := by
    intro steps cs rest behind m hread hclose
    rw [readMembers?, hread]
    simp only [hclose]
  more := by
    intro steps cs rest next behind m ms hread hcomma hrow
    rw [readMembers?, hread]
    simp only [hcomma, hrow, Option.map_some]

/-! ## Scalars -/

/-- Whether a character is a blank, or opens or closes a list or an object. -/
def isMark (c : Char) : Bool := isDocumentBlank c || endsRow c || c == '[' || c == '\x7b'

theorem isMark_eq_false_iff {c : Char} :
    isMark c = false ↔ isDocumentBlank c = false ∧ endsRow c = false ∧ c ≠ '[' ∧ c ≠ '\x7b' := by
  simp [isMark, and_assoc]

/-- What begins with no mark is a scalar. -/
theorem isText_of_readScalar? {c : Char} {tail : List Char} {v : Value} (hmark : isMark c = false)
    (h : ∀ rest, EndsNumeral rest → readScalar? (c :: tail ++ rest) = some (v, rest)) :
    IsText (c :: tail) v := by
  obtain ⟨hblank, hends, hlist, hobject⟩ := isMark_eq_false_iff.1 hmark
  refine ⟨⟨c, tail, rfl, hblank, hends⟩, ?_⟩
  intro steps rest hsteps hrest
  rw [List.length_cons] at hsteps
  cases steps with
  | zero => omega
  | succ steps =>
    rw [List.cons_append, readValue?, skipBlanks_cons hblank]
    -- brackets and braces are marks, so the two other branches of the reader are not taken
    split
    · next heq => exact absurd (List.cons.inj heq).1 hlist
    · next heq => exact absurd (List.cons.inj heq).1 hobject
    · exact h rest hrest

/-- A word is read where it stands. -/
theorem afterWord?_append (word rest : List Char) : afterWord? word (word ++ rest) = some rest := by
  induction word with
  | nil => rfl
  | cons c word ih => rw [List.cons_append, afterWord?, if_pos rfl, ih]

theorem isText_null : IsText "null".toList .null := by
  show IsText ('n' :: "ull".toList) .null
  refine isText_of_readScalar? rfl ?_
  intro rest _
  rw [List.cons_append, readScalar?, afterWord?_append]
  rfl

/-- The two truth values are read back from their words. -/
theorem isText_bool (b : Bool) : IsText (renderBool b) (.bool b) := by
  cases b with
  | true =>
    show IsText ('t' :: "rue".toList) (.bool true)
    refine isText_of_readScalar? rfl ?_
    intro rest _
    rw [List.cons_append, readScalar?, afterWord?_append]
    rfl
  | false =>
    show IsText ('f' :: "alse".toList) (.bool false)
    refine isText_of_readScalar? rfl ?_
    intro rest _
    rw [List.cons_append, readScalar?, afterWord?_append]
    rfl

/-- A text is read back from its quotes. -/
theorem isText_text {points : List Nat} (h : AreChars points) :
    IsText (renderText points) (.text points) := by
  refine isText_of_readScalar? rfl ?_
  intro rest _
  rw [List.cons_append, List.append_assoc, readScalar?, List.singleton_append, readText?_append h]
  rfl

/-- A number begins with a sign or a digit, and no mark is one. -/
theorem isMark_of_opensNumeral {c : Char} (h : opensNumeral c = true) : isMark c = false := by
  rw [Bool.eq_false_iff]
  intro hmark
  simp only [isMark, isDocumentBlank, endsRow, Bool.or_eq_true, beq_iff_eq] at hmark
  rcases hmark with (((((rfl | rfl) | rfl) | rfl) | rfl | rfl) | rfl) | rfl <;> cases h

/-- A numeral of the grammar is read back, since what stands behind it does not continue it. -/
theorem isText_number {n : Numeral} (h : n.IsProper) : IsText n.render (.number n) := by
  obtain ⟨c, tail, hrender, hopens⟩ := h.exists_render
  -- a number begins like no word and no text, so the reader comes to its last branch
  have hnot : ∀ {d : Char} {ds cs : List Char}, opensNumeral d = false → c :: cs = d :: ds → False := by
    intro d ds cs hd heq
    rw [← (List.cons.inj heq).1, hopens] at hd
    cases hd
  rw [hrender]
  refine isText_of_readScalar? (isMark_of_opensNumeral hopens) ?_
  intro rest hrest
  have hread := readNumeral?_render h hrest
  rw [hrender] at hread
  rw [List.cons_append, readScalar?, ← List.cons_append, hread]
  · rfl
  all_goals
    intro ds
    exact hnot rfl

/-! ## Lists and objects -/

/-- Items between brackets. -/
theorem isText_list {cs : List Char} {items : List Value} (h : IsRow ']' readItems? cs items) :
    IsText ('[' :: (cs ++ [']'])) (.list items) := by
  refine ⟨⟨'[', cs ++ [']'], rfl, rfl, rfl⟩, ?_⟩
  intro steps rest hsteps _
  obtain ⟨c, tail, hskip, hends⟩ := h.begins
  rw [List.length_cons, List.length_append, List.length_singleton] at hsteps
  cases steps with
  | zero => omega
  | succ steps =>
    have hread := h.reads steps rest (by omega)
    rw [List.cons_append, List.append_assoc, List.singleton_append, readValue?, skipBlanks_cons rfl]
    split
    · next heq =>
      rw [← (List.cons.inj heq).2]
      -- the list is not empty, because its row does not begin with a closing mark
      split
      · next hclosed =>
        rw [skipBlanks_append_of_eq_cons hskip] at hclosed
        rw [(List.cons.inj hclosed).1] at hends
        cases hends
      · rw [readItems?_congr (skipBlanks_skipBlanks _), hread]
        rfl
    · next heq => exact absurd (List.cons.inj heq).1 (by decide)
    · next hne _ => exact absurd rfl (hne _)

/-- Brackets without items. -/
theorem isText_emptyList : IsText ['[', ']'] (.list []) := by
  refine ⟨⟨'[', [']'], rfl, rfl, rfl⟩, ?_⟩
  intro steps rest hsteps _
  rw [List.length_cons] at hsteps
  cases steps with
  | zero => omega
  | succ steps => rfl

/-- A name and a value with blanks between the colon and the value. -/
theorem isMember_text {name : List Nat} {cs gap : List Char} {v : Value} (hname : AreChars name)
    (hgap : ∀ c ∈ gap, isDocumentBlank c = true) (h : IsText cs v) :
    IsMember (renderText name ++ ':' :: (gap ++ cs)) (name, v) := by
  refine ⟨⟨'"', _, rfl, rfl, rfl⟩, ?_⟩
  intro steps rest hsteps hrest
  rw [List.length_append, List.length_cons, List.length_append] at hsteps
  cases steps with
  | zero => omega
  | succ steps =>
    have hread := h.reads steps rest (by omega) hrest
    have hbody : renderText name ++ ':' :: (gap ++ cs) ++ rest =
        '"' :: (name.flatMap renderPoint ++ '"' :: ':' :: (gap ++ (cs ++ rest))) := by
      simp only [renderText, List.append_assoc, List.cons_append, List.nil_append]
    rw [hbody, readMember?, skipBlanks_cons rfl]
    simp only [readText?_append hname, skipBlanks_cons (c := ':') rfl,
      readValue?_congr (skipBlanks_append hgap (cs ++ rest)), hread, Option.map_some]

/-- Members between braces. -/
theorem isText_object {cs : List Char} {members : List (List Nat × Value)}
    (h : IsRow '\x7d' readMembers? cs members) : IsText ('\x7b' :: (cs ++ ['\x7d'])) (.object members) := by
  refine ⟨⟨'\x7b', cs ++ ['\x7d'], rfl, rfl, rfl⟩, ?_⟩
  intro steps rest hsteps _
  obtain ⟨c, tail, hskip, hends⟩ := h.begins
  rw [List.length_cons, List.length_append, List.length_singleton] at hsteps
  cases steps with
  | zero => omega
  | succ steps =>
    have hread := h.reads steps rest (by omega)
    rw [List.cons_append, List.append_assoc, List.singleton_append, readValue?, skipBlanks_cons rfl]
    split
    · next heq => exact absurd (List.cons.inj heq).1 (by decide)
    · next heq =>
      rw [← (List.cons.inj heq).2]
      -- the object is not empty, because its row does not begin with a closing mark
      split
      · next hclosed =>
        rw [skipBlanks_append_of_eq_cons hskip] at hclosed
        rw [(List.cons.inj hclosed).1] at hends
        cases hends
      · rw [readMembers?_congr (skipBlanks_skipBlanks _), hread]
        rfl
    · next _ hne => exact absurd rfl (hne _)

/-- Braces without members. -/
theorem isText_emptyObject : IsText ['\x7b', '\x7d'] (.object []) := by
  refine ⟨⟨'\x7b', ['\x7d'], rfl, rfl, rfl⟩, ?_⟩
  intro steps rest hsteps _
  rw [List.length_cons] at hsteps
  cases steps with
  | zero => omega
  | succ steps => rfl

/-! ## The two ways to write a value -/

/-- The values that have a text: their numerals are those of the grammar, and the code points of their
texts are characters. -/
inductive Value.IsProper : Value → Prop
  | null : IsProper .null
  | bool (b : Bool) : IsProper (.bool b)
  | number {n : Numeral} (h : n.IsProper) : IsProper (.number n)
  | text {points : List Nat} (h : AreChars points) : IsProper (.text points)
  | list {items : List Value} (h : ∀ v ∈ items, IsProper v) : IsProper (.list items)
  | object {members : List (List Nat × Value)} (hnames : ∀ m ∈ members, AreChars m.1)
      (h : ∀ m ∈ members, IsProper m.2) : IsProper (.object members)

/-! ### In one line -/

/-- Items in one line are a row without blanks. -/
theorem isRow_renderItems {v : Value} {vs : List Value} (h : ∀ w ∈ v :: vs, IsText w.render w) :
    IsRow ']' readItems? (renderItems (v :: vs)) (v :: vs) := by
  refine rowReader_items.isRow_write (fun v vs => renderItems (v :: vs)) (List.forall_mem_nil _)
    (List.forall_mem_nil _) ?_ ?_ h
  · intro v
    rw [renderItems, List.nil_append, List.append_nil]
  · intro v w vs
    rw [renderItems, List.nil_append]
    rintro ⟨⟩

theorem isMember_renderMember {m : List Nat × Value} (hname : AreChars m.1)
    (h : IsText m.2.render m.2) : IsMember (renderMember m) m := by
  have hmember : IsMember (renderText m.1 ++ ':' :: ([] ++ m.2.render)) (m.1, m.2) :=
    isMember_text hname (List.forall_mem_nil _) h
  rw [renderMember]
  exact hmember

/-- Members in one line are a row without blanks. -/
theorem isRow_renderMembers {m : List Nat × Value} {ms : List (List Nat × Value)}
    (h : ∀ k ∈ m :: ms, IsMember (renderMember k) k) :
    IsRow '\x7d' readMembers? (renderMembers (m :: ms)) (m :: ms) := by
  refine rowReader_members.isRow_write (fun m ms => renderMembers (m :: ms))
    (List.forall_mem_nil _) (List.forall_mem_nil _) ?_ ?_ h
  · intro m
    rw [renderMembers, List.nil_append, List.append_nil]
  · intro m k ms
    rw [renderMembers, List.nil_append]
    rintro ⟨⟩

/-- A value in one line is a text of itself. -/
theorem Value.IsProper.isText_render {v : Value} (h : v.IsProper) : IsText v.render v := by
  -- on the value: a list or an object is a row of what is read back already
  induction h with
  | null =>
    rw [Value.render]
    exact isText_null
  | bool b =>
    rw [Value.render]
    exact isText_bool b
  | number h =>
    rw [Value.render]
    exact isText_number h
  | text h =>
    rw [Value.render]
    exact isText_text h
  | @list items _ ih =>
    rw [Value.render]
    cases items with
    | nil => exact isText_emptyList
    | cons v vs => exact isText_list (isRow_renderItems ih)
  | @object members hnames _ ih =>
    rw [Value.render]
    cases members with
    | nil => exact isText_emptyObject
    | cons m ms =>
      refine isText_object (isRow_renderMembers ?_)
      intro k hk
      exact isMember_renderMember (hnames k hk) (ih k hk)

/-! ### On several lines -/

/-- Items on lines of their own are a row with a new line in front of each and one at the end. -/
theorem isRow_renderItemsIndented {level : Nat} {v : Value} {vs : List Value}
    (h : ∀ w ∈ v :: vs, IsText (w.renderIndented (level + 1)) w) :
    IsRow ']' readItems? (newLine (level + 1) ++ v.renderIndented (level + 1) ++
      renderItemsIndented level vs ++ newLine level) (v :: vs) := by
  refine rowReader_items.isRow_write (fun v vs => newLine (level + 1) ++
    v.renderIndented (level + 1) ++ renderItemsIndented level vs ++ newLine level)
    (isDocumentBlank_newLine (level + 1)) (isDocumentBlank_newLine level) ?_ ?_ h
  · intro v
    rw [renderItemsIndented, List.append_nil]
  · intro v w vs
    rw [renderItemsIndented, List.append_assoc, List.cons_append]

theorem isMember_renderMemberIndented {level : Nat} {m : List Nat × Value} (hname : AreChars m.1)
    (h : IsText (m.2.renderIndented (level + 1)) m.2) : IsMember (renderMemberIndented level m) m := by
  have hspace : ∀ c ∈ [' '], isDocumentBlank c = true := by
    intro c hc
    rw [List.mem_singleton.1 hc]
    rfl
  have hmember : IsMember (renderText m.1 ++ ':' :: ([' '] ++ m.2.renderIndented (level + 1))) (m.1, m.2) :=
    isMember_text hname hspace h
  rw [renderMemberIndented]
  exact hmember

/-- Members on lines of their own are a row with a new line in front of each and one at the end. -/
theorem isRow_renderMembersIndented {level : Nat} {m : List Nat × Value} {ms : List (List Nat × Value)}
    (h : ∀ k ∈ m :: ms, IsMember (renderMemberIndented level k) k) :
    IsRow '\x7d' readMembers? (newLine (level + 1) ++ renderMemberIndented level m ++
      renderMembersIndented level ms ++ newLine level) (m :: ms) := by
  refine rowReader_members.isRow_write (fun m ms => newLine (level + 1) ++
    renderMemberIndented level m ++ renderMembersIndented level ms ++ newLine level)
    (isDocumentBlank_newLine (level + 1)) (isDocumentBlank_newLine level) ?_ ?_ h
  · intro m
    rw [renderMembersIndented, List.append_nil]
  · intro m k ms
    rw [renderMembersIndented, List.append_assoc, List.cons_append]

/-- A value set in by any number of levels is a text of itself. -/
theorem Value.IsProper.isText_renderIndented {v : Value} (h : v.IsProper) (level : Nat) :
    IsText (v.renderIndented level) v := by
  -- on the value, for every level, as the parts are set in by one level more
  induction h generalizing level with
  | null =>
    rw [Value.renderIndented]
    exact isText_null
  | bool b =>
    rw [Value.renderIndented]
    exact isText_bool b
  | number h =>
    rw [Value.renderIndented]
    exact isText_number h
  | text h =>
    rw [Value.renderIndented]
    exact isText_text h
  | @list items _ ih =>
    cases items with
    | nil =>
      rw [Value.renderIndented]
      exact isText_emptyList
    | cons v vs =>
      rw [Value.renderIndented]
      exact isText_list (isRow_renderItemsIndented fun w hw => ih w hw (level + 1))
  | @object members hnames _ ih =>
    cases members with
    | nil =>
      rw [Value.renderIndented]
      exact isText_emptyObject
    | cons m ms =>
      rw [Value.renderIndented]
      refine isText_object (isRow_renderMembersIndented ?_)
      intro k hk
      exact isMember_renderMemberIndented (hnames k hk) (ih k hk (level + 1))

/-! ## Documents -/

/-- A document that is a text of a value is read as that value, with steps to spare. -/
theorem parse?_of_isText {cs : List Char} {v : Value} (h : IsText cs v) :
    Value.parse? (String.ofList cs) = some v := by
  -- two steps for each character are enough, and a document is read with three
  have hread := h.reads (3 * cs.length + 3) [] (by omega) endsNumeral_nil
  rw [List.append_nil] at hread
  rw [Value.parse?, String.toList_ofList]
  simp only [hread]
  rfl

/-- A value written in one line is read back. -/
theorem parse?_compact {v : Value} (h : v.IsProper) : Value.parse? v.compact = some v :=
  parse?_of_isText h.isText_render

/-- A value written on several lines is read back. -/
theorem parse?_indented {v : Value} (h : v.IsProper) : Value.parse? v.indented = some v :=
  parse?_of_isText (h.isText_renderIndented 0)

end RelevanceSql.Document
