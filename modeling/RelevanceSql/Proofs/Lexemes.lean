import RelevanceSql.Number.Layout
import RelevanceSql.Sql.Dialect
import RelevanceSql.Sql.Identifier

/-!
# Lexemes of SQL conditions

Before a condition can be said to hold, it has to be read. This module cuts the text of a condition
into lexemes: parentheses, the words that join or bracket conditions, and everything else. Quoted text
is one lexeme, whatever stands in it, and a mark that is doubled inside does not end it. Any other word
goes as far as its letters, digits and dots do, and it is a keyword in any case of its letters. What
is left are signs, each on its own. Comments are not known here.

The scan is a machine whose state is what has been begun and not yet ended. A text that stands before a
blank or a parenthesis is read as if it stood alone (`lexemes?_append`), and so is one that stands
behind a text that leaves nothing begun (`lexemes?_append_of_outside`).
-/

namespace RelevanceSql.Sql

open RelevanceSql.Text

/-! ## The scan -/

/-- The words that join conditions. -/
inductive Connective where
  | and
  | or
  deriving DecidableEq, Repr

/-- What a condition is made of. -/
inductive Lexeme where
  | opening
  | closing
  | caseOpening
  | caseClosing
  | between
  | negation
  | connective (c : Connective)
  | other (text : List Char)
  deriving DecidableEq, Repr

/-- The words that are no names. -/
def keywords : List (List Char × Lexeme) :=
  [ ("AND".toList, .connective .and), ("OR".toList, .connective .or), ("NOT".toList, .negation),
    ("BETWEEN".toList, .between), ("CASE".toList, .caseOpening), ("END".toList, .caseClosing) ]

/-- The lexeme of a whole word. -/
def wordLexeme (word : List Char) : Lexeme :=
  match keywords.find? fun k => word.map Char.toUpper == k.1 with
  | some k => k.2
  | none => .other word

/-- The marks around quoted text. -/
inductive Quote where
  | single
  | double
  | back
  deriving DecidableEq, Repr

/-- A mark as a character. -/
def Quote.char : Quote → Char
  | .single => '\''
  | .double => '"'
  | .back => '\x60'

/-- The mark that a character is. -/
def quote? (c : Char) : Option Quote :=
  if c = '\'' then some .single else if c = '"' then some .double
  else if c = '\x60' then some .back else none

/-- The characters of which words are made, dots between names included. -/
def isWordPart (c : Char) : Bool :=
  !isBlank c && (isNamePart c || c == '.' || c == '$' || c == '@' || c == '#' || decide (128 ≤ c.toNat))

/-- What has been begun: nothing, a word, quoted text, or quoted text that goes on if its mark does. -/
inductive LexState where
  | outside
  | inWord (word : List Char)
  | inQuotes (mark : Quote) (text : List Char)
  | behindMark (mark : Quote) (text : List Char)
  deriving DecidableEq, Repr

/-- Quoted text with its two marks. -/
def quotedLexeme (mark : Quote) (text : List Char) : Lexeme :=
  .other (mark.char :: (text ++ [mark.char]))

/-- The lexemes that a character makes when nothing has been begun, and what it begins. -/
def LexState.begin (c : Char) : List Lexeme × LexState :=
  if isBlank c then ([], .outside)
  else if c = '(' then ([.opening], .outside)
  else if c = ')' then ([.closing], .outside)
  else
    match quote? c with
    | some mark => ([], .inQuotes mark [])
    | none => if isWordPart c then ([], .inWord [c]) else ([.other [c]], .outside)

/-- The lexemes that a character makes, and what is begun after it. -/
def LexState.step : LexState → Char → List Lexeme × LexState
  | .outside, c => begin c
  | .inWord word, c =>
    if isWordPart c then ([], .inWord (word ++ [c]))
    else (wordLexeme word :: (begin c).1, (begin c).2)
  | .inQuotes mark text, c =>
    if c = mark.char then ([], .behindMark mark text) else ([], .inQuotes mark (text ++ [c]))
  | .behindMark mark text, c =>
    if c = mark.char then ([], .inQuotes mark (text ++ [mark.char, mark.char]))
    else (quotedLexeme mark text :: (begin c).1, (begin c).2)

/-- The lexeme that has been begun, at the end of a text; quoted text must have come to its end. -/
def LexState.flush : LexState → Option (List Lexeme)
  | .outside => some []
  | .inWord word => some [wordLexeme word]
  | .inQuotes _ _ => none
  | .behindMark mark text => some [quotedLexeme mark text]

/-- The lexemes that a text makes, and what is begun after it. -/
def LexState.run : LexState → List Char → List Lexeme × LexState
  | state, [] => ([], state)
  | state, c :: cs =>
    let first := step state c
    let rest := run first.2 cs
    (first.1 ++ rest.1, rest.2)

/-- The lexemes of a text in which all quoted text comes to an end. -/
def lexemes? (sql : String) : Option (List Lexeme) :=
  let all := LexState.run .outside sql.toList
  (LexState.flush all.2).map (all.1 ++ ·)

/-! ## Texts in a row -/

theorem LexState.step_outside (c : Char) : step .outside c = begin c := rfl

theorem LexState.run_append (state : LexState) (cs ds : List Char) :
    run state (cs ++ ds) =
      ((run state cs).1 ++ (run (run state cs).2 ds).1, (run (run state cs).2 ds).2) := by
  induction cs generalizing state with
  | nil => rfl
  | cons c cs ih => simp only [List.cons_append, run, ih, List.append_assoc]

/-- The characters that end what has been begun, quoted text apart. -/
def isBoundary (c : Char) : Bool := isBlank c || c == '(' || c == ')'

theorem isWordPart_of_isBoundary {c : Char} (h : isBoundary c = true) : isWordPart c = false := by
  simp only [isBoundary, Bool.or_eq_true, beq_iff_eq] at h
  rcases h with (h | rfl) | rfl
  · simp [isWordPart, h]
  · decide
  · decide

theorem isBoundary_char (mark : Quote) : isBoundary mark.char = false := by cases mark <;> decide

/-- A blank or a parenthesis ends what has been begun, and is then read as it is at the start. -/
theorem LexState.step_of_isBoundary {state : LexState} {ls : List Lexeme} (h : flush state = some ls)
    {c : Char} (hc : isBoundary c = true) : step state c = (ls ++ (begin c).1, (begin c).2) := by
  cases state with
  | outside =>
    cases h
    rfl
  | inWord word =>
    cases h
    rw [step, isWordPart_of_isBoundary hc]
    rfl
  | inQuotes mark text => cases h
  | behindMark mark text =>
    cases h
    have hmark : c ≠ mark.char := by
      rintro rfl
      rw [isBoundary_char] at hc
      cases hc
    rw [step, if_neg hmark]
    rfl

/-- A text that begins with a blank or a parenthesis. -/
def BeginsApart (s : String) : Prop := s.toList.head?.any isBoundary = true

instance (s : String) : Decidable (BeginsApart s) := inferInstanceAs (Decidable (_ = true))

/-- A text that begins apart does so whatever is written behind it. -/
theorem BeginsApart.append {s : String} (h : BeginsApart s) (t : String) : BeginsApart (s ++ t) := by
  unfold BeginsApart at h ⊢
  rw [String.toList_append]
  cases hcs : s.toList with
  | nil =>
    rw [hcs] at h
    cases h
  | cons c cs =>
    rw [hcs] at h
    exact h

/-- A text before a blank or a parenthesis is read as if it stood alone. -/
theorem lexemes?_append {s t : String} {ls ms : List Lexeme} (hs : lexemes? s = some ls)
    (ht : lexemes? t = some ms) (hapart : BeginsApart t) : lexemes? (s ++ t) = some (ls ++ ms) := by
  obtain ⟨begun, hbegun, rfl⟩ := Option.map_eq_some_iff.1 hs
  unfold BeginsApart at hapart
  cases htext : t.toList with
  | nil =>
    rw [htext] at hapart
    cases hapart
  | cons c cs =>
    rw [htext] at hapart
    -- the first character of the second text ends what the first text has begun
    have hstep : LexState.step (LexState.run .outside s.toList).2 c =
        (begun ++ (LexState.begin c).1, (LexState.begin c).2) :=
      LexState.step_of_isBoundary hbegun (by simpa using hapart)
    rw [lexemes?, htext] at ht
    obtain ⟨ended, hended, rfl⟩ := Option.map_eq_some_iff.1 ht
    replace hended : LexState.flush (LexState.run (LexState.begin c).2 cs).2 = some ended := hended
    rw [lexemes?, String.toList_append, htext, LexState.run_append]
    simp only [LexState.run, hstep, LexState.step_outside, hended, Option.map_some, List.append_assoc]

/-- A text that leaves nothing begun: what stands behind it is read as if it stood alone. -/
theorem lexemes?_append_of_outside {s t : String} {ls ms : List Lexeme}
    (hs : LexState.run .outside s.toList = (ls, .outside)) (ht : lexemes? t = some ms) :
    lexemes? (s ++ t) = some (ls ++ ms) := by
  obtain ⟨ended, hended, rfl⟩ := Option.map_eq_some_iff.1 ht
  rw [lexemes?, String.toList_append, LexState.run_append, hs]
  simp only [hended, Option.map_some, List.append_assoc]

/-! ## Names and numerals -/

/-- Lexemes that are neither parentheses nor keywords. -/
def AllOther (ls : List Lexeme) : Prop := ∀ l ∈ ls, ∃ text, l = .other text

theorem AllOther.append {ls ms : List Lexeme} (hls : AllOther ls) (hms : AllOther ms) :
    AllOther (ls ++ ms) := by
  intro l hl
  rcases List.mem_append.1 hl with hl | hl
  · exact hls l hl
  · exact hms l hl

theorem allOther_nil : AllOther [] := fun _ hl => by cases hl

theorem allOther_singleton (text : List Char) : AllOther [.other text] := by
  intro l hl
  rw [List.mem_singleton.1 hl]
  exact ⟨text, rfl⟩

/-- Every dialect quotes names with one of the marks that are known here. -/
theorem exists_char_eq_quoteMark (d : Dialect) : ∃ mark : Quote, mark.char = d.quoteMark := by
  cases d with
  | pgsql | sqlsrv => exact ⟨.double, rfl⟩
  | mysql | sqlite | generic => exact ⟨.back, rfl⟩

theorem LexState.begin_char (mark : Quote) : begin mark.char = ([], .inQuotes mark []) := by
  cases mark <;> decide

/-- Marks that are doubled do not end quoted text. -/
theorem LexState.run_doubled (mark : Quote) (text cs : List Char) :
    run (.inQuotes mark text) (doubled mark.char cs) =
      ([], .inQuotes mark (text ++ doubled mark.char cs)) := by
  induction cs generalizing text with
  | nil => simp [doubled, run]
  | cons c cs ih =>
    rw [doubled]
    split
    · simp [run, step, ih]
    · next hc => simp [run, step, hc, ih]

/-- Behind a quoted name its second mark has been read, which may still be the first of two. -/
theorem LexState.run_enclosed (mark : Quote) (cs : List Char) :
    run .outside (enclosed mark.char cs) = ([], .behindMark mark (doubled mark.char cs)) := by
  rw [enclosed, run, step_outside, begin_char]
  simp [run_append, run_doubled, run, step]

/-- Where a segment of a name starts: at the front, or behind a dot. -/
def LexState.AtSegment (state : LexState) : Prop := state = .outside ∨ state = .inWord ['.']

/-- Where a segment of a name ends: behind a star, or behind its second mark. -/
def LexState.BehindSegment (state : LexState) : Prop :=
  state = .outside ∨ ∃ mark text, state = .behindMark mark text

/-- A dot that has been begun is ended by the mark behind it. -/
theorem LexState.step_of_atSegment {state : LexState} (h : state.AtSegment) {c : Char}
    (hc : isWordPart c = false) :
    ∃ ls, AllOther ls ∧ step state c = (ls ++ (begin c).1, (begin c).2) := by
  rcases h with rfl | rfl
  · exact ⟨[], allOther_nil, rfl⟩
  · have hdot : wordLexeme ['.'] = .other ['.'] := by decide
    exact ⟨[.other ['.']], allOther_singleton _, by rw [step, hc, hdot]; rfl⟩

theorem LexState.run_of_atSegment {state : LexState} (h : state.AtSegment) {c : Char} (cs : List Char)
    (hc : isWordPart c = false) :
    ∃ ls, AllOther ls ∧ run state (c :: cs) =
      (ls ++ (run .outside (c :: cs)).1, (run .outside (c :: cs)).2) := by
  obtain ⟨ls, hls, hstep⟩ := step_of_atSegment h hc
  exact ⟨ls, hls, by simp only [run, hstep, step_outside, List.append_assoc]⟩

/-- A segment of a name is read to its end, whatever characters it has. -/
theorem LexState.run_quoteSegment (d : Dialect) {state : LexState} (h : state.AtSegment)
    (segment : List Char) :
    AllOther (run state (d.quoteSegment segment)).1 ∧
      (run state (d.quoteSegment segment)).2.BehindSegment := by
  obtain ⟨mark, hmark⟩ := exists_char_eq_quoteMark d
  rw [Dialect.quoteSegment]
  split
  · next hstar =>
    obtain ⟨ls, hls, hrun⟩ := run_of_atSegment h [] (by decide : isWordPart '*' = false)
    have hrest : run .outside ['*'] = ([.other ['*']], .outside) := by decide
    rw [hstar, hrun, hrest]
    exact ⟨hls.append (allOther_singleton _), Or.inl rfl⟩
  · have hword : isWordPart mark.char = false := by cases mark <;> decide
    obtain ⟨ls, hls, hrun⟩ := run_of_atSegment h (doubled mark.char segment ++ [mark.char]) hword
    have hrest := run_enclosed mark segment
    rw [enclosed] at hrest
    rw [← hmark, enclosed, hrun, hrest]
    exact ⟨hls.append allOther_nil, Or.inr ⟨mark, _, rfl⟩⟩

/-- Behind a segment a dot goes on with the name. -/
theorem LexState.step_dot {state : LexState} (h : state.BehindSegment) :
    AllOther (step state '.').1 ∧ (step state '.').2 = .inWord ['.'] := by
  rcases h with rfl | ⟨mark, text, rfl⟩
  · exact ⟨allOther_nil, by decide⟩
  · have hmark : '.' ≠ mark.char := by cases mark <;> decide
    have hword : (begin '.').2 = .inWord ['.'] := by decide
    rw [step, if_neg hmark]
    exact ⟨allOther_singleton _, hword⟩

/-- Segments with dots between them are read to the end of the last one. -/
theorem LexState.run_segments (d : Dialect) {state : LexState} (h : state.AtSegment)
    {segments : List (List Char)} (hne : segments ≠ []) :
    AllOther (run state (['.'].intercalate (segments.map d.quoteSegment))).1 ∧
      (run state (['.'].intercalate (segments.map d.quoteSegment))).2.BehindSegment := by
  -- on the segments; a dot leads from the end of one to the start of the next
  induction segments generalizing state with
  | nil => exact absurd rfl hne
  | cons segment segments ih =>
    obtain ⟨hls, hbehind⟩ := run_quoteSegment d h segment
    cases segments with
    | nil => simpa using ⟨hls, hbehind⟩
    | cons next segments =>
      obtain ⟨hdot, hword⟩ := step_dot hbehind
      obtain ⟨hrest, hend⟩ := ih (Or.inr hword) (List.cons_ne_nil _ _)
      rw [List.map_cons, List.map_cons, List.intercalate_cons_cons, ← List.map_cons]
      simp only [run_append, run, List.append_nil] at hrest hend ⊢
      exact ⟨(hls.append hdot).append hrest, hend⟩

/-- A quoted name has no keywords and no parentheses, whatever the name is. -/
theorem lexemes?_quoteIdentifier (d : Dialect) (name : String) :
    ∃ ls, lexemes? (d.quoteIdentifier name) = some ls ∧ AllOther ls := by
  obtain ⟨hls, hbehind⟩ := LexState.run_segments d (Or.inl rfl) (fields_ne_nil (· == '.') name.toList)
  rw [lexemes?, Dialect.quoteIdentifier, String.toList_ofList]
  rcases hbehind with hend | ⟨mark, text, hend⟩
  · rw [hend]
    exact ⟨_, rfl, hls.append allOther_nil⟩
  · rw [hend]
    exact ⟨_, rfl, hls.append (allOther_singleton _)⟩

/-- The characters of numerals, and of the two words that stand for what is no number. -/
def numeralChars : List Char := "0123456789.-NaNinf".toList

/-- All ten digits are characters of numerals. -/
theorem mem_numeralChars_of_isDigit {c : Char} (h : c.isDigit = true) : c ∈ numeralChars := by
  -- a closed check over the ten code points
  have hdigits : ((List.range' 48 10).all fun n => numeralChars.contains (Char.ofNat n)) = true := by
    decide
  have hrange : 48 ≤ c.toNat ∧ c.toNat < 48 + 10 := by
    simp only [Char.isDigit, ge_iff_le, Bool.and_eq_true, decide_eq_true_eq, UInt32.le_iff_toNat_le] at h
    exact ⟨h.1, Nat.lt_succ_of_le h.2⟩
  have hc := List.all_eq_true.1 hdigits c.toNat (List.mem_range'_1.2 hrange)
  rw [Char.ofNat_toNat] at hc
  simpa using hc

/-- A minus sign is a sign, and the other characters of numerals are parts of words. -/
theorem LexState.begin_of_mem_numeralChars {c : Char} (h : c ∈ numeralChars) :
    begin c = if c = '-' then ([.other ['-']], .outside) else ([], .inWord [c]) := by
  have hall : (numeralChars.all fun c => decide
      (begin c = if c = '-' then ([.other ['-']], .outside) else ([], .inWord [c]))) = true := by decide
  exact of_decide_eq_true (List.all_eq_true.1 hall c h)

/-- Each keyword has a letter that no numeral has, so that no word of a numeral is one. -/
theorem wordLexeme_of_numeral {word : List Char} (h : ∀ c ∈ word, c ∈ numeralChars) :
    wordLexeme word = .other word := by
  -- in neither case is one of these four letters in a numeral
  have hletters : (numeralChars.all fun c => !(['D', 'O', 'W', 'S'].contains c.toUpper)) = true := by
    decide
  have hkeywords : (keywords.all fun k => k.1.any ['D', 'O', 'W', 'S'].contains) = true := by decide
  have hnone : (keywords.find? fun k => word.map Char.toUpper == k.1) = none := by
    rw [List.find?_eq_none]
    intro k hk heq
    obtain ⟨letter, hletter, hin⟩ := List.any_eq_true.1 (List.all_eq_true.1 hkeywords k hk)
    rw [← beq_iff_eq.1 heq] at hletter
    obtain ⟨c, hc, rfl⟩ := List.mem_map.1 hletter
    have hnot := List.all_eq_true.1 hletters c (h c hc)
    rw [hin] at hnot
    cases hnot
  rw [wordLexeme, hnone]

/-- Within a numeral: nothing has been begun, or a word of it. -/
def LexState.InNumeral (state : LexState) : Prop :=
  state = .outside ∨ ∃ word, state = .inWord word ∧ ∀ c ∈ word, c ∈ numeralChars

theorem LexState.begin_inNumeral {c : Char} (h : c ∈ numeralChars) :
    AllOther (begin c).1 ∧ (begin c).2.InNumeral := by
  rw [begin_of_mem_numeralChars h]
  split
  · exact ⟨allOther_singleton _, Or.inl rfl⟩
  · exact ⟨allOther_nil, Or.inr ⟨[c], rfl, by simpa using h⟩⟩

/-- A character of a numeral leads from within a numeral to within it. -/
theorem LexState.step_inNumeral {state : LexState} (hstate : state.InNumeral) {c : Char}
    (h : c ∈ numeralChars) : AllOther (step state c).1 ∧ (step state c).2.InNumeral := by
  rcases hstate with rfl | ⟨word, rfl, hword⟩
  · exact begin_inNumeral h
  · rw [step]
    split
    · refine ⟨allOther_nil, Or.inr ⟨_, rfl, fun d hd => ?_⟩⟩
      rcases List.mem_append.1 hd with hd | hd
      · exact hword d hd
      · rw [List.mem_singleton.1 hd]
        exact h
    · obtain ⟨hls, hstate⟩ := begin_inNumeral h
      rw [wordLexeme_of_numeral hword]
      exact ⟨(allOther_singleton word).append hls, hstate⟩

/-- So do many of them. -/
theorem LexState.run_inNumeral {state : LexState} (hstate : state.InNumeral) {cs : List Char}
    (h : ∀ c ∈ cs, c ∈ numeralChars) : AllOther (run state cs).1 ∧ (run state cs).2.InNumeral := by
  -- on the characters, from any state within a numeral
  induction cs generalizing state with
  | nil => exact ⟨allOther_nil, hstate⟩
  | cons c cs ih =>
    obtain ⟨hfirst, hnext⟩ := step_inNumeral hstate (h c (by simp))
    obtain ⟨hrest, hend⟩ := ih hnext fun d hd => h d (by simp [hd])
    exact ⟨hfirst.append hrest, hend⟩

/-- A text of characters of numerals. -/
def IsNumeral (sql : String) : Prop := ∀ c ∈ sql.toList, c ∈ numeralChars

instance (sql : String) : Decidable (IsNumeral sql) := List.decidableBAll _ _

/-- What is made of such characters has no keywords and no parentheses. -/
theorem lexemes?_of_numeral {sql : String} (h : IsNumeral sql) :
    ∃ ls, lexemes? sql = some ls ∧ AllOther ls := by
  obtain ⟨hls, hend⟩ := LexState.run_inNumeral (Or.inl rfl) h
  rw [lexemes?]
  rcases hend with hend | ⟨word, hend, hword⟩
  · rw [hend]
    exact ⟨_, rfl, hls.append allOther_nil⟩
  · rw [hend]
    refine ⟨_, rfl, hls.append ?_⟩
    rw [wordLexeme_of_numeral hword]
    exact allOther_singleton word

theorem IsNumeral.append {s t : String} (hs : IsNumeral s) (ht : IsNumeral t) : IsNumeral (s ++ t) := by
  intro c hc
  rw [String.toList_append] at hc
  exact (List.mem_append.1 hc).elim (hs c) (ht c)

theorem isNumeral_toString (n : Nat) : IsNumeral (toString n) := by
  intro c hc
  rw [Nat.toString_eq_ofList_toDigits, String.toList_ofList] at hc
  exact mem_numeralChars_of_isDigit (Nat.isDigit_of_mem_toDigits (by decide) (by decide) hc)

theorem isNumeral_zeros (n : Nat) : IsNumeral (Number.zeros n) := by
  intro c hc
  rw [Number.zeros, String.toList_ofList] at hc
  rw [List.eq_of_mem_replicate hc]
  decide

/-- A decimal in positional notation is a numeral. -/
theorem isNumeral_positional (x : Number.Decimal) : IsNumeral x.positional := by
  unfold Number.Decimal.positional
  split
  · exact isNumeral_toString _
  · exact ((isNumeral_toString _).append (by decide)).append
      ((isNumeral_zeros _).append (isNumeral_toString _))

/-- A number in SQL is a numeral, and so are the words that stand for what is no number. -/
theorem isNumeral_literal (x : Float) : IsNumeral (Number.literal x) := by
  have hsign : IsNumeral (Number.signText x) := by
    unfold Number.signText
    split <;> decide
  unfold Number.literal Number.plain
  split
  · decide
  · split
    · decide
    · split
      · exact hsign.append (isNumeral_positional _)
      · exact hsign.append (by decide)

/-- A numeral has no keywords and no parentheses. -/
theorem lexemes?_literal (x : Float) : ∃ ls, lexemes? (Number.literal x) = some ls ∧ AllOther ls :=
  lexemes?_of_numeral (isNumeral_literal x)

end RelevanceSql.Sql
