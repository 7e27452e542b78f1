import Mathlib.Data.List.Basic
import RelevanceSql.Sql.Dialect

/-!
# Reading quoted names

SQL reads a name segment by segment, and between the segments it wants a dot. A segment is a bare star,
or it stands between two marks, and there a doubled mark is one character of the segment. A name ends
where neither a dot nor one more mark follows. `readName?` is this reader; it gives the segments and
the text behind the name.

Reading is the inverse of writing (`readName?_eq_some_iff`). A name is cut at its dots before it is
quoted, so that in the segments that are read no dot is left: whatever characters a name has, it is read
as its own segments, and what stands behind it is not touched (`readName?_quoteIdentifier`).
-/

namespace RelevanceSql.Sql

open RelevanceSql.Text

/-! ## Segments -/

/-- A segment of a name as SQL reads it. -/
inductive Segment where
  | star
  | quoted (name : List Char)
  deriving DecidableEq, Repr

namespace Segment

/-- The characters that a segment stands for. -/
def chars : Segment → List Char
  | .star => ['*']
  | .quoted name => name

/-- A segment in SQL. -/
def written (mark : Char) : Segment → List Char
  | .star => ['*']
  | .quoted name => enclosed mark name

/-- The segment for given characters: a star alone is bare. -/
def ofChars (cs : List Char) : Segment := if cs = ['*'] then .star else .quoted cs

theorem chars_ofChars (cs : List Char) : (ofChars cs).chars = cs := by
  unfold ofChars
  split
  · next h => exact h.symm
  · rfl

theorem written_ofChars (d : Dialect) (cs : List Char) :
    (ofChars cs).written d.quoteMark = d.quoteSegment cs := by
  unfold ofChars Dialect.quoteSegment
  split
  · next h => exact h.symm
  · rfl

end Segment

/-- Segments in a row, as they are written. -/
def writtenName (mark : Char) (segments : List Segment) : List Char :=
  ['.'].intercalate (segments.map (Segment.written mark))

/-- The segments of a name: what stands between its dots, stars alone being bare. -/
structure Spells (name : String) (segments : List Segment) : Prop where
  ne_nil : segments ≠ []
  joined : ['.'].intercalate (segments.map Segment.chars) = name.toList
  dotless : ∀ s ∈ segments, '.' ∉ s.chars
  bare : ∀ s ∈ segments, s.chars = ['*'] → s = .star

/-! ## The reader -/

/-- Where a reader of a name stands: before a segment, inside its marks, or behind it. -/
inductive NameState where
  | before
  | inside (name : List Char)
  | behind (segment : Segment)
  deriving DecidableEq, Repr

/-- The characters of a quoted segment that goes on after its mark, because one more mark follows. -/
def Segment.reopened? (mark c : Char) : Segment → Option (List Char)
  | .star => none
  | .quoted name => if c = mark then some (name ++ [mark]) else none

/-- The segments that are read on from a state, and the text behind the name. -/
def readNameFrom (mark : Char) : NameState → List Char → Option (List Segment × List Char)
  | .before, [] => none
  | .before, c :: cs =>
    if c = '*' then readNameFrom mark (.behind .star) cs
    else if c = mark then readNameFrom mark (.inside []) cs
    else none
  | .inside _, [] => none
  | .inside name, c :: cs =>
    if c = mark then readNameFrom mark (.behind (.quoted name)) cs
    else readNameFrom mark (.inside (name ++ [c])) cs
  | .behind segment, [] => some ([segment], [])
  | .behind segment, c :: cs =>
    if c = '.' then (readNameFrom mark .before cs).map fun r => (segment :: r.1, r.2)
    else
      match segment.reopened? mark c with
      | some name => readNameFrom mark (.inside name) cs
      | none => some ([segment], c :: cs)

/-- The segments of the name at the front of a text, and the text behind it. -/
def Dialect.readName? (d : Dialect) (sql : List Char) : Option (List Segment × List Char) :=
  readNameFrom d.quoteMark .before sql

/-- A text that does not go on with a name that stands before it. -/
def EndsName (mark : Char) (rest : List Char) : Prop :=
  rest.head? ≠ some '.' ∧ rest.head? ≠ some mark

instance (mark : Char) (rest : List Char) : Decidable (EndsName mark rest) :=
  inferInstanceAs (Decidable (_ ∧ _))

/-! ## Written names are read -/

theorem doubled_concat (mark : Char) (cs : List Char) (c : Char) :
    doubled mark (cs ++ [c]) = doubled mark cs ++ (if c = mark then [mark, mark] else [c]) := by
  rw [doubled_append, doubled, doubled]

section Reading

variable {mark : Char}

/-- Inside of marks a reader takes doubled marks for single ones, and all else as it is. -/
theorem readNameFrom_doubled (hdot : mark ≠ '.') (name cs rest : List Char) :
    readNameFrom mark (.inside name) (doubled mark cs ++ rest) =
      readNameFrom mark (.inside (name ++ cs)) rest := by
  induction cs generalizing name with
  | nil => rw [doubled, List.nil_append, List.append_nil]
  | cons c cs ih =>
    rw [doubled]
    split
    · next hc =>
      -- the first of two marks seems to end the segment, and the second one takes that back
      rw [List.cons_append, List.cons_append, readNameFrom, if_pos rfl, readNameFrom, if_neg hdot,
        Segment.reopened?, if_pos rfl]
      show readNameFrom mark (.inside (name ++ [mark])) (doubled mark cs ++ rest) = _
      rw [ih, hc, List.append_assoc, List.singleton_append]
    · next hc =>
      rw [List.cons_append, readNameFrom, if_neg hc, ih, List.append_assoc, List.singleton_append]

theorem readNameFrom_written (hdot : mark ≠ '.') (hstar : mark ≠ '*') (segment : Segment)
    (rest : List Char) :
    readNameFrom mark .before (segment.written mark ++ rest) =
      readNameFrom mark (.behind segment) rest := by
  cases segment with
  | star => rfl
  | quoted name =>
    rw [Segment.written, enclosed, List.cons_append, readNameFrom, if_neg hstar, if_pos rfl,
      List.append_assoc, readNameFrom_doubled hdot, List.nil_append, List.singleton_append,
      readNameFrom, if_pos rfl]

theorem readNameFrom_behind_of_endsName {rest : List Char} (h : EndsName mark rest)
    (segment : Segment) : readNameFrom mark (.behind segment) rest = some ([segment], rest) := by
  cases rest with
  | nil => rfl
  | cons c cs =>
    obtain ⟨hdot, hmark⟩ := h
    rw [List.head?_cons, ne_eq, Option.some.injEq] at hdot hmark
    -- no second mark follows, so the segment is at its end
    have hclosed : segment.reopened? mark c = none := by
      cases segment with
      | star => rfl
      | quoted name => exact if_neg hmark
    rw [readNameFrom, if_neg hdot, hclosed]

/-- What is written is read, up to a text that does not go on with the name. -/
theorem readNameFrom_writtenName (hdot : mark ≠ '.') (hstar : mark ≠ '*') {segments : List Segment}
    (hne : segments ≠ []) {rest : List Char} (hrest : EndsName mark rest) :
    readNameFrom mark .before (writtenName mark segments ++ rest) = some (segments, rest) := by
  unfold writtenName
  induction segments with
  | nil => exact absurd rfl hne
  | cons segment segments ih =>
    cases segments with
    | nil =>
      rw [List.map_cons, List.map_nil, List.intercalate_singleton, readNameFrom_written hdot hstar,
        readNameFrom_behind_of_endsName hrest]
    | cons next segments =>
      rw [List.map_cons, List.map_cons, List.intercalate_cons_cons, ← List.map_cons, List.append_assoc,
        List.append_assoc, readNameFrom_written hdot hstar, List.singleton_append, readNameFrom,
        if_pos rfl, ih (List.cons_ne_nil _ _), Option.map_some]

/-! ## What is read was written -/

/-- What has been read of the segment where a reader stands. -/
def NameState.written (mark : Char) : NameState → List Char
  | .before => []
  | .inside name => mark :: doubled mark name
  | .behind segment => segment.written mark

theorem writtenName_singleton (mark : Char) (segment : Segment) :
    writtenName mark [segment] = segment.written mark := by
  rw [writtenName, List.map_singleton, List.intercalate_singleton]

theorem writtenName_cons (mark : Char) (segment : Segment) {segments : List Segment}
    (hne : segments ≠ []) :
    writtenName mark (segment :: segments) = segment.written mark ++ '.' :: writtenName mark segments := by
  cases segments with
  | nil => exact absurd rfl hne
  | cons next segments =>
    rw [writtenName, List.map_cons, List.map_cons, List.intercalate_cons_cons, ← List.map_cons,
      List.append_assoc]
    rfl

/-- A segment that goes on after its mark is read as if it had not ended, with a doubled mark. -/
theorem written_reopened {segment : Segment} {c : Char} {name : List Char}
    (h : segment.reopened? mark c = some name) :
    segment.written mark ++ [c] = mark :: doubled mark name := by
  cases segment with
  | star => cases h
  | quoted begun =>
    rw [Segment.reopened?] at h
    split at h
    · next hc =>
      cases h
      simp [Segment.written, enclosed, doubled_concat, hc]
    · cases h

theorem eq_of_readNameFrom {state : NameState} {cs rest : List Char} {segments : List Segment}
    (h : readNameFrom mark state cs = some (segments, rest)) :
    segments ≠ [] ∧ state.written mark ++ cs = writtenName mark segments ++ rest := by
  -- on the text, for every state; what the state has read stands in front of the text
  induction cs generalizing state segments with
  | nil =>
    cases state with
    | before | inside name => cases h
    | behind segment =>
      cases h
      exact ⟨List.cons_ne_nil _ _, by rw [writtenName_singleton]; rfl⟩
  | cons c cs ih =>
    cases state with
    | before =>
      rw [readNameFrom] at h
      split at h
      · next hc =>
        rw [hc]
        exact ih h
      · split at h
        · next hc =>
          rw [hc]
          exact ih h
        · cases h
    | inside name =>
      rw [readNameFrom] at h
      split at h
      · next hc =>
        obtain ⟨hne, heq⟩ := ih h
        refine ⟨hne, ?_⟩
        rw [← heq, hc]
        simp [NameState.written, Segment.written, enclosed]
      · next hc =>
        obtain ⟨hne, heq⟩ := ih h
        refine ⟨hne, ?_⟩
        rw [← heq]
        simp [NameState.written, doubled_concat, hc]
    | behind segment =>
      rw [readNameFrom] at h
      split at h
      · next hc =>
        obtain ⟨⟨others, left⟩, hothers, hpair⟩ := Option.map_eq_some_iff.1 h
        cases hpair
        obtain ⟨hne, heq⟩ := ih hothers
        refine ⟨List.cons_ne_nil _ _, ?_⟩
        rw [writtenName_cons mark segment hne, List.append_assoc, List.cons_append, ← heq, hc]
        rfl
      · split at h
        · next name hname =>
          obtain ⟨hne, heq⟩ := ih h
          refine ⟨hne, ?_⟩
          rw [← heq, NameState.written, NameState.written, ← written_reopened hname, List.append_assoc,
            List.singleton_append]
        · cases h
          exact ⟨List.cons_ne_nil _ _, by rw [writtenName_singleton]; rfl⟩

end Reading

theorem quoteMark_ne_dot (d : Dialect) : d.quoteMark ≠ '.' := by cases d <;> decide

theorem quoteMark_ne_star (d : Dialect) : d.quoteMark ≠ '*' := by cases d <;> decide

/-- The reader takes a whole text for a name exactly if it is written as one. -/
theorem readName?_eq_some_iff {d : Dialect} {sql : List Char} {segments : List Segment} :
    d.readName? sql = some (segments, []) ↔
      segments ≠ [] ∧ sql = writtenName d.quoteMark segments := by
  constructor
  · intro h
    obtain ⟨hne, heq⟩ := eq_of_readNameFrom h
    rw [List.append_nil] at heq
    exact ⟨hne, heq⟩
  · rintro ⟨hne, rfl⟩
    have hend : EndsName d.quoteMark [] := ⟨by simp, by simp⟩
    have hread := readNameFrom_writtenName (quoteMark_ne_dot d) (quoteMark_ne_star d) hne hend
    rwa [List.append_nil] at hread

/-! ## Names between dots -/

/-- A text is its fields with the separators put back. -/
theorem intercalate_fields (sep : Char) (cs : List Char) :
    [sep].intercalate (fields (· == sep) cs) = cs := by
  induction cs with
  | nil => rfl
  | cons c cs ih =>
    rw [fields]
    split
    · next hc =>
      have hsep : c = sep := by simpa using hc
      rw [List.intercalate_cons_of_ne_nil (fields_ne_nil _ cs), ih, hsep]
      rfl
    · cases hfs : fields (· == sep) cs with
      | nil => exact absurd hfs (fields_ne_nil _ cs)
      | cons f fs =>
        rw [hfs] at ih
        cases fs with
        | nil =>
          rw [List.intercalate_singleton] at ih
          rw [consHead, List.intercalate_singleton, ih]
        | cons g gs =>
          rw [List.intercalate_cons_cons] at ih
          rw [consHead, List.intercalate_cons_cons, List.cons_append, List.cons_append, ih]

/-- Texts without separators, joined by them, are the fields of what comes out. -/
theorem fields_intercalate {sep : Char} {fs : List (List Char)} (hne : fs ≠ [])
    (h : ∀ f ∈ fs, sep ∉ f) : fields (· == sep) ([sep].intercalate fs) = fs := by
  have hsepless : ∀ f ∈ fs, ∀ c ∈ f, (c == sep) = false := by
    intro f hf c hc
    rw [beq_eq_false_iff_ne]
    rintro rfl
    exact h f hf hc
  -- the induction needs the fields without separators, in the form that the scan asks for
  clear h
  induction fs with
  | nil => exact absurd rfl hne
  | cons f fs ih =>
    cases fs with
    | nil => rw [List.intercalate_singleton, fields_of_no_sep (hsepless f (by simp))]
    | cons g gs =>
      rw [List.intercalate_cons_cons, List.append_assoc, List.singleton_append,
        fields_append_sep (by simp), fields_of_no_sep (hsepless f (by simp)),
        ih (List.cons_ne_nil _ _) fun f' hf' => hsepless f' (List.mem_cons_of_mem _ hf')]
      rfl

/-- The segments of a name are its fields between dots, and no others. -/
theorem spells_iff {name : String} {segments : List Segment} :
    Spells name segments ↔ segments = (fields (· == '.') name.toList).map Segment.ofChars := by
  constructor
  · intro h
    have hfields : fields (· == '.') name.toList = segments.map Segment.chars := by
      rw [← h.joined]
      refine fields_intercalate (by simpa using h.ne_nil) fun f hf => ?_
      obtain ⟨s, hs, rfl⟩ := List.mem_map.1 hf
      exact h.dotless s hs
    have hchars : ∀ s ∈ segments, Segment.ofChars s.chars = s := by
      intro s hs
      unfold Segment.ofChars
      split
      · next hstar => exact (h.bare s hs hstar).symm
      · next hstar =>
        cases s with
        | star => exact absurd rfl hstar
        | quoted name => rfl
    have hall : segments.map (Segment.ofChars ∘ Segment.chars) = segments :=
      (List.map_congr_left hchars).trans (List.map_id _)
    rw [hfields, List.map_map, hall]
  · rintro rfl
    have hchars : Segment.chars ∘ Segment.ofChars = id := funext Segment.chars_ofChars
    refine ⟨by simpa using fields_ne_nil _ _, ?_, ?_, ?_⟩
    · rw [List.map_map, hchars, List.map_id, intercalate_fields]
    · intro s hs hdot
      obtain ⟨f, hf, rfl⟩ := List.mem_map.1 hs
      rw [Segment.chars_ofChars] at hdot
      exact absurd (not_sep_of_mem_fields hf _ hdot) (by decide)
    · intro s hs hstar
      obtain ⟨f, _, rfl⟩ := List.mem_map.1 hs
      rw [Segment.chars_ofChars] at hstar
      rw [hstar]
      rfl

theorem Spells.unique {name : String} {segments others : List Segment} (h : Spells name segments)
    (h' : Spells name others) : others = segments :=
  (spells_iff.1 h').trans (spells_iff.1 h).symm

/-- A name is known by its segments. -/
theorem Spells.name_eq {name name' : String} {segments : List Segment} (h : Spells name segments)
    (h' : Spells name' segments) : name = name' :=
  String.toList_inj.1 (h.joined.symm.trans h'.joined)

theorem exists_spells (name : String) : ∃ segments, Spells name segments :=
  ⟨_, spells_iff.2 rfl⟩

theorem toList_quoteIdentifier {name : String} {segments : List Segment} (h : Spells name segments)
    (d : Dialect) : (d.quoteIdentifier name).toList = writtenName d.quoteMark segments := by
  have hwritten : Segment.written d.quoteMark ∘ Segment.ofChars = d.quoteSegment :=
    funext (Segment.written_ofChars d)
  rw [Dialect.quoteIdentifier, String.toList_ofList, writtenName, spells_iff.1 h, List.map_map, hwritten]

/-- A quoted name before a text that does not go on with it: the name is read, and the text is left. -/
theorem readName?_append {name : String} {segments : List Segment} (h : Spells name segments)
    {d : Dialect} {rest : List Char} (hrest : EndsName d.quoteMark rest) :
    d.readName? ((d.quoteIdentifier name).toList ++ rest) = some (segments, rest) := by
  rw [toList_quoteIdentifier h]
  exact readNameFrom_writtenName (quoteMark_ne_dot d) (quoteMark_ne_star d) h.ne_nil hrest

theorem readName?_of_spells {name : String} {segments : List Segment} (h : Spells name segments)
    (d : Dialect) : d.readName? (d.quoteIdentifier name).toList = some (segments, []) :=
  readName?_eq_some_iff.2 ⟨h.ne_nil, toList_quoteIdentifier h d⟩

theorem quoteIdentifier_injective (d : Dialect) : Function.Injective d.quoteIdentifier := by
  intro name name' heq
  obtain ⟨segments, h⟩ := exists_spells name
  obtain ⟨others, h'⟩ := exists_spells name'
  have hread := readName?_of_spells h d
  rw [heq, readName?_of_spells h' d, Option.some.injEq, Prod.mk.injEq] at hread
  rw [hread.1] at h'
  exact h.name_eq h'

/-- **Quoted names are read back.** Every name has exactly one list of segments, and these are read from
the quoted name, of which nothing is left. Whatever stands behind the quoted name is left as it is if it
does not begin with a dot or a mark, so that no name ends before its last mark does. No two names are
quoted alike. And the reader takes nothing for a name but what is written as one. -/
theorem readName?_quoteIdentifier (d : Dialect) :
    (∀ name, ∃ segments, Spells name segments ∧ (∀ others, Spells name others → others = segments) ∧
      d.readName? (d.quoteIdentifier name).toList = some (segments, []) ∧
      ∀ rest, EndsName d.quoteMark rest →
        d.readName? ((d.quoteIdentifier name).toList ++ rest) = some (segments, rest)) ∧
    Function.Injective d.quoteIdentifier ∧
    ∀ sql segments rest, d.readName? sql = some (segments, rest) →
      segments ≠ [] ∧ sql = writtenName d.quoteMark segments ++ rest := by
  refine ⟨fun name => ?_, quoteIdentifier_injective d, fun sql segments rest => eq_of_readNameFrom⟩
  obtain ⟨segments, h⟩ := exists_spells name
  exact ⟨segments, h, fun others => h.unique, readName?_of_spells h d, fun rest => readName?_append h⟩

/-- A name that tries to end its quotes, with an empty segment, a star, and a star that is not alone. -/
theorem readName?_quoteIdentifier_marks :
    Spells "a\x60; --..*.**" [.quoted "a\x60; --".toList, .quoted [], .star, .quoted "**".toList] ∧
      EndsName Dialect.mysql.quoteMark " = ?".toList ∧
      Dialect.mysql.readName? ((Dialect.mysql.quoteIdentifier "a\x60; --..*.**").toList ++ " = ?".toList) =
        some ([.quoted "a\x60; --".toList, .quoted [], .star, .quoted "**".toList], " = ?".toList) := by
  have hends : EndsName Dialect.mysql.quoteMark " = ?".toList := by decide
  have hspells : Spells "a\x60; --..*.**"
      [.quoted "a\x60; --".toList, .quoted [], .star, .quoted "**".toList] := spells_iff.2 (by decide)
  obtain ⟨segments, _, hunique, _, hread⟩ :=
    (readName?_quoteIdentifier .mysql).1 "a\x60; --..*.**"
  rw [hunique _ hspells]
  exact ⟨hunique _ hspells ▸ hspells, hends, hread _ hends⟩

end RelevanceSql.Sql
