import RelevanceSql.Number.Reading
import RelevanceSql.Proofs.Alignment
import RelevanceSql.Proofs.Numbering
import RelevanceSql.Proofs.Numerals
import RelevanceSql.Proofs.Paging
import RelevanceSql.Proofs.QuotedNames

/-!
# Reading row limits

A level of a query says in two places how many rows it wants: at the front of its select list, and
behind its ordering. Databases read this in two ways. Most want `LIMIT` with a count, and an offset only
behind a count; a count is not negative, except that SQLite takes a negative one for all rows. SQL Server
wants `TOP` with a count, or else an offset behind an ordering, and behind the offset a count.
`readRowLimits?` reads either, and it knows which texts are no row limits at all.

Every level is read back with its own limit and offset, whatever its ordering is, except in one case: a
level that leaves out rows and has no limit is written with the count `-1`, on all dialects with `LIMIT`,
and only SQLite reads that (`limits_read_back`).
-/

namespace RelevanceSql.Sql

open RelevanceSql.Text RelevanceSql.Number

/-! ## The reader -/

/-- What stands behind a given text at the front of another one. -/
def behind? (text : String) (cs : List Char) : Option (List Char) := cs.dropPrefix? text.toList

/-- The number at the front of a text, and what stands behind its digits. -/
def readNumber? (cs : List Char) : Option (Nat × List Char) :=
  if isDigits (cs.takeWhile isAsciiDigit) then
    some (ofDigits (cs.takeWhile isAsciiDigit), cs.dropWhile isAsciiDigit)
  else none

/-- The number behind a given text at the front of another one, and what stands behind its digits. -/
def readNumberBehind? (text : String) (cs : List Char) : Option (Nat × List Char) :=
  (behind? text cs).bind readNumber?

/-- The count of rows at the front of a text. SQLite alone reads negative counts, as no count at all. -/
def Dialect.readCount? (d : Dialect) (cs : List Char) : Option (Option Nat × List Char) :=
  match behind? "-" cs with
  | none => (readNumber? cs).map fun r => (some r.1, r.2)
  | some digits =>
    if d = .sqlite then (readNumber? digits).map fun r => (if r.1 = 0 then some 0 else none, r.2)
    else none

/-- The offset that goes with a count, if there is one. -/
def readOffset? : List Char → Option (Option Nat)
  | [] => some none
  | cs => do
    let (skipped, rest) ← readNumberBehind? " OFFSET " cs
    if rest = [] then some (some skipped) else none

/-- The limit and the offset, where an offset needs a count. -/
def Dialect.readLimit? (d : Dialect) : List Char → Option (Option Nat × Option Nat)
  | [] => some (none, none)
  | cs => do
    let (count, rest) ← d.readCount? (← behind? " LIMIT " cs)
    let skipped ← readOffset? rest
    some (count, skipped)

/-- The count that goes with an offset, if there is one. -/
def readFetch? : List Char → Option (Option Nat)
  | [] => some none
  | cs => do
    let (count, rest) ← readNumberBehind? " FETCH NEXT " cs
    if rest = " ROWS ONLY".toList then some (some count) else none

/-- The limit and the offset, where a count needs an offset. -/
def readOffsetRows? : List Char → Option (Option Nat × Option Nat)
  | [] => some (none, none)
  | cs => do
    let (skipped, rest) ← readNumberBehind? " OFFSET " cs
    let count ← readFetch? (← behind? " ROWS" rest)
    some (count, some skipped)

/-- The count in front of a select list, if there is one. -/
def readTop? : List Char → Option (Option Nat)
  | [] => some none
  | cs => do
    let (count, rest) ← readNumberBehind? "TOP " cs
    if rest = [' '] then some (some count) else none

/-- What stands behind the first entry of an ordering: a name with its direction, or on SQL Server the
subquery that orders nothing. -/
def Dialect.behindEntry? (d : Dialect) (cs : List Char) : Option (List Char) :=
  match d.readName? cs with
  | some (_, rest) => (behind? " ASC" rest).or (behind? " DESC" rest)
  | none => if d = .sqlsrv then behind? "(SELECT NULL)" cs else none

/-- What stands behind the entries of an ordering, of which there are no more than the number says. -/
def Dialect.behindEntries? (d : Dialect) : Nat → List Char → Option (List Char)
  | 0, _ => none
  | more + 1, cs => do
    let rest ← d.behindEntry? cs
    match behind? ", " rest with
    | some next => d.behindEntries? more next
    | none => some rest

/-- Whether a text begins with an ordering, and what stands behind it. -/
def Dialect.behindOrdering? (d : Dialect) (cs : List Char) : Option (Bool × List Char) :=
  match behind? " ORDER BY " cs with
  | some entries => (d.behindEntries? entries.length entries).map fun rest => (true, rest)
  | none => some (false, cs)

/-- The limit and the offset of a level by the grammar of a dialect, from the text in front of its select
list and the text from its ordering on. -/
def Dialect.readRowLimits? (d : Dialect) (front tail : String) : Option (Option Nat × Option Nat) := do
  let top ← readTop? front.toList
  let (ordered, rest) ← d.behindOrdering? tail.toList
  match d.limitStyle with
  | .limit => if top = none then d.readLimit? rest else none
  | .top => do
    let (count, skipped) ← readOffsetRows? rest
    match top, skipped with
    | top, none => some (top, none)
    | none, some skipped => if ordered then some (count, some skipped) else none
    | some _, some _ => none

/-! ## Numbers and counts -/

theorem behind?_append (text : String) (rest : List Char) :
    behind? text (text.toList ++ rest) = some rest :=
  List.dropPrefix?_append_of_beq rest (by simp)

/-- A text with which a number before it does not go on. -/
def EndsNumber (rest : List Char) : Prop := rest.head?.all (!isAsciiDigit ·) = true

theorem readNumber?_toString (n : Nat) {rest : List Char} (h : EndsNumber rest) :
    readNumber? ((toString n).toList ++ rest) = some (n, rest) := by
  have hdigits := isDigits_toString n
  have hrest : ∀ c ∈ rest.head?, isAsciiDigit c = false := by
    rw [EndsNumber, Option.all_eq_true] at h
    intro c hc
    exact (Bool.not_eq_true' _).mp (h c hc)
  have hspan := span_of_isDigits (Bool.and_eq_true_iff.1 hdigits).2 hrest
  rw [readNumber?, hspan.1, hspan.2, if_pos hdigits, ofDigits_toString]

theorem readNumberBehind?_append (text : String) (n : Nat) {rest : List Char} (h : EndsNumber rest) :
    readNumberBehind? text (text.toList ++ ((toString n).toList ++ rest)) = some (n, rest) := by
  rw [readNumberBehind?, behind?_append, Option.bind_some, readNumber?_toString n h]

/-- A number does not begin with a sign. -/
theorem behind?_minus_toString (n : Nat) (rest : List Char) :
    behind? "-" ((toString n).toList ++ rest) = none := by
  obtain ⟨d, ds, hdigits, hd⟩ := exists_of_isDigits (isDigits_toString n)
  have hminus : (d == '-') = false := by
    rw [beq_eq_false_iff_ne]
    rintro rfl
    cases hd
  rw [hdigits]
  show (d :: (ds ++ rest)).dropPrefix? ['-'] = none
  rw [List.dropPrefix?, hminus]
  rfl

theorem readCount?_toString (d : Dialect) (n : Nat) {rest : List Char} (h : EndsNumber rest) :
    d.readCount? ((toString n).toList ++ rest) = some (some n, rest) := by
  rw [Dialect.readCount?, behind?_minus_toString, readNumber?_toString n h]
  rfl

/-! ## Orderings -/

namespace Dialect

variable {d : Dialect} {texts : List String} {rest : List Char}

/-- A text that is one entry of an ordering, whatever stands behind it. -/
def IsEntry (d : Dialect) (text : String) : Prop :=
  ∀ rest, d.behindEntry? (text.toList ++ rest) = some rest

/-- A quoted name with a direction is an entry, whatever the name is. -/
theorem isEntry_quoteIdentifier (d : Dialect) (column : String) (direction : Direction) :
    d.IsEntry (d.quoteIdentifier column ++ " " ++ direction.render) := by
  intro rest
  obtain ⟨segments, hspells⟩ := exists_spells column
  -- the blank in front of the direction ends the name
  have hends : EndsName d.quoteMark (' ' :: (direction.render.toList ++ rest)) := by
    cases d <;> simp [EndsName, quoteMark]
  have htext : (d.quoteIdentifier column ++ " " ++ direction.render).toList ++ rest =
      (d.quoteIdentifier column).toList ++ ' ' :: (direction.render.toList ++ rest) := by
    simp
  rw [htext, behindEntry?, readName?_append hspells hends]
  cases direction with
  | ascending =>
    show (behind? " ASC" (" ASC".toList ++ rest)).or _ = some rest
    rw [behind?_append]
    rfl
  | descending =>
    show (none : Option (List Char)).or (behind? " DESC" (" DESC".toList ++ rest)) = some rest
    rw [behind?_append]
    rfl

theorem isEntry_selectNull (h : d.limitStyle = .top) : d.IsEntry "(SELECT NULL)" := by
  intro rest
  cases d with
  | sqlsrv => exact behind?_append "(SELECT NULL)" rest
  | mysql | pgsql | sqlite | generic => cases h

/-- Entries with commas between them are read up to a text that is not one more. -/
theorem behindEntries?_intercalate (hne : texts ≠ []) (h : ∀ text ∈ texts, d.IsEntry text)
    (hrest : behind? ", " rest = none) {more : Nat} (hmore : texts.length ≤ more) :
    d.behindEntries? more ((", ".intercalate texts).toList ++ rest) = some rest := by
  induction texts generalizing more with
  | nil => exact absurd rfl hne
  | cons text texts ih =>
    have hentry := h text List.mem_cons_self
    cases more with
    | zero => exact absurd hmore (Nat.not_succ_le_zero _)
    | succ fewer =>
      rw [behindEntries?]
      cases texts with
      | nil => rw [String.intercalate_singleton, hentry, Option.bind_eq_bind, Option.bind_some, hrest]
      | cons next texts =>
        rw [String.intercalate_cons_cons, String.toList_append, String.toList_append, List.append_assoc,
          List.append_assoc, hentry, Option.bind_eq_bind, Option.bind_some, behind?_append]
        exact ih (List.cons_ne_nil _ _) (fun other hother => h other (List.mem_cons_of_mem _ hother))
          (Nat.le_of_succ_le_succ hmore)

/-- There are no more entries than characters. -/
theorem length_le_length_intercalate (h : ∀ text ∈ texts, d.IsEntry text) :
    texts.length ≤ (", ".intercalate texts).toList.length := by
  induction texts with
  | nil => exact Nat.zero_le _
  | cons text texts ih =>
    cases texts with
    | nil =>
      rw [String.intercalate_singleton]
      refine List.length_pos_iff.2 fun hnil => ?_
      -- no entry is read from an empty text
      have hread := h text List.mem_cons_self []
      rw [hnil] at hread
      cases d <;> cases hread
    | cons next texts =>
      have hle := ih fun other hother => h other (List.mem_cons_of_mem _ hother)
      have hcomma : ", ".toList.length = 2 := rfl
      rw [String.intercalate_cons_cons, String.toList_append, String.toList_append, List.length_append,
        List.length_append, List.length_cons, hcomma]
      omega

theorem behindOrdering?_append (hne : texts ≠ []) (h : ∀ text ∈ texts, d.IsEntry text)
    (hrest : behind? ", " rest = none) :
    d.behindOrdering? (" ORDER BY ".toList ++ ((", ".intercalate texts).toList ++ rest)) =
      some (true, rest) := by
  -- the reader allows as many entries as the text has characters
  have hlength : texts.length ≤ ((", ".intercalate texts).toList ++ rest).length := by
    rw [List.length_append]
    exact Nat.le_add_right_of_le (length_le_length_intercalate h)
  have hread := behindEntries?_intercalate hne h hrest hlength
  rw [behindOrdering?, behind?_append]
  show (d.behindEntries? _ _).map _ = _
  rw [hread]
  rfl

/-- The ordering of a level is read up to what cannot go on with it. -/
theorem behindOrdering?_renderOrders {c : Clauses} (hne : c.orders ≠ [])
    (hrest : behind? ", " rest = none) :
    d.behindOrdering? ((c.renderOrders d).toList ++ rest) = some (true, rest) := by
  let texts := c.orders.map fun entry => d.quoteIdentifier entry.1 ++ " " ++ entry.2.render
  have htexts : texts ≠ [] := by simpa [texts] using hne
  have hentries : ∀ text ∈ texts, d.IsEntry text := by
    intro text htext
    obtain ⟨entry, _, rfl⟩ := List.mem_map.1 htext
    exact isEntry_quoteIdentifier d entry.1 entry.2
  have horders : c.renderOrders d = " ORDER BY " ++ ", ".intercalate texts := if_neg htexts
  rw [horders, String.toList_append, List.append_assoc]
  exact behindOrdering?_append htexts hentries hrest

end Dialect

/-! ## Limits and offsets -/

theorem readOffset?_append (n : Nat) :
    readOffset? (" OFFSET ".toList ++ (toString n).toList) = some (some n) := by
  have hends : EndsNumber [] := rfl
  have hnumber := readNumberBehind?_append " OFFSET " n hends
  rw [List.append_nil] at hnumber
  show (readNumberBehind? " OFFSET " (" OFFSET ".toList ++ (toString n).toList)).bind _ = _
  rw [hnumber]
  rfl

theorem readFetch?_append (n : Nat) :
    readFetch? (" FETCH NEXT ".toList ++ ((toString n).toList ++ " ROWS ONLY".toList)) =
      some (some n) := by
  have hends : EndsNumber " ROWS ONLY".toList := rfl
  show (readNumberBehind? " FETCH NEXT " (" FETCH NEXT ".toList ++ _)).bind _ = _
  rw [readNumberBehind?_append " FETCH NEXT " n hends]
  rfl

theorem readTop?_append (n : Nat) :
    readTop? ("TOP ".toList ++ ((toString n).toList ++ " ".toList)) = some (some n) := by
  have hends : EndsNumber " ".toList := rfl
  show (readNumberBehind? "TOP " ("TOP ".toList ++ _)).bind _ = _
  rw [readNumberBehind?_append "TOP " n hends]
  rfl

theorem readOffsetRows?_append (n : Nat) (rest : List Char) :
    readOffsetRows? (" OFFSET ".toList ++ ((toString n).toList ++ (" ROWS".toList ++ rest))) =
      (readFetch? rest).map fun count => (count, some n) := by
  have hends : EndsNumber (" ROWS".toList ++ rest) := rfl
  show (readNumberBehind? " OFFSET " (" OFFSET ".toList ++ _)).bind _ = _
  rw [readNumberBehind?_append " OFFSET " n hends]
  show (behind? " ROWS" (" ROWS".toList ++ rest)).bind _ = _
  rw [behind?_append, Option.bind_some]
  cases readFetch? rest <;> rfl

theorem readLimit?_append (d : Dialect) (rest : List Char) :
    d.readLimit? (" LIMIT ".toList ++ rest) =
      (d.readCount? rest).bind fun r => (readOffset? r.2).map fun skipped => (r.1, skipped) := by
  show (behind? " LIMIT " (" LIMIT ".toList ++ rest)).bind _ = _
  rw [behind?_append, Option.bind_some]
  cases d.readCount? rest with
  | none => rfl
  | some r =>
    rw [Option.bind_some]
    show (readOffset? r.2).bind _ = _
    cases readOffset? r.2 <;> rfl

theorem readLimit?_count (d : Dialect) (n : Nat) :
    d.readLimit? (" LIMIT " ++ toString n).toList = some (some n, none) := by
  have hends : EndsNumber [] := rfl
  have hcount := readCount?_toString d n hends
  rw [List.append_nil] at hcount
  rw [String.toList_append, readLimit?_append, hcount]
  rfl

theorem readLimit?_count_offset (d : Dialect) (n m : Nat) :
    d.readLimit? (" LIMIT " ++ toString n ++ " OFFSET " ++ toString m).toList =
      some (some n, some m) := by
  have hends : EndsNumber (" OFFSET ".toList ++ (toString m).toList) := rfl
  simp only [String.toList_append, List.append_assoc]
  rw [readLimit?_append, readCount?_toString d n hends, Option.bind_some, readOffset?_append]
  rfl

/-- Of the count `-1`, SQLite makes no limit, and the other databases make nothing. -/
theorem readLimit?_minus_offset (d : Dialect) (m : Nat) :
    d.readLimit? (" LIMIT -1 OFFSET " ++ toString m).toList =
      if d = .sqlite then some (none, some m) else none := by
  have htext : (" LIMIT -1 OFFSET " ++ toString m).toList =
      " LIMIT ".toList ++ ("-1".toList ++ (" OFFSET ".toList ++ (toString m).toList)) := by
    rw [String.toList_append]
    rfl
  have hcount : ∀ rest, d.readCount? ("-1".toList ++ (" OFFSET ".toList ++ rest)) =
      if d = .sqlite then some (none, " OFFSET ".toList ++ rest) else none := fun rest => rfl
  rw [htext, readLimit?_append, hcount]
  split
  · rw [Option.bind_some, readOffset?_append]
    rfl
  · rfl

end RelevanceSql.Sql

namespace RelevanceSql

open RelevanceSql.Sql RelevanceSql.Search

namespace Clauses

/-- A level that leaves out rows and has no limit, where an offset needs a count that is not negative. -/
def LacksCount (c : Clauses) (d : Dialect) : Prop :=
  d.limitStyle = .limit ∧ d ≠ .sqlite ∧ c.limit = none ∧ c.offset ≠ none

/-- A level whose row limits are read as those that it has. -/
def LimitsReadBack (c : Clauses) (d : Dialect) : Prop :=
  d.readRowLimits? (c.renderTop d) (c.renderOrders d ++ c.renderLimit d) = some (c.limit, c.offset)

instance (c : Clauses) (d : Dialect) : Decidable (c.LacksCount d) :=
  inferInstanceAs (Decidable (_ ∧ _ ∧ _ ∧ _))

instance (c : Clauses) (d : Dialect) : Decidable (c.LimitsReadBack d) :=
  inferInstanceAs (Decidable (_ = _))

variable {c : Clauses} {d : Dialect}

/-! ## Levels with `LIMIT` -/

theorem readLimit?_renderLimit (h : d.limitStyle = .limit) :
    d.readLimit? (c.renderLimit d).toList =
      if c.LacksCount d then none else some (c.limit, c.offset) := by
  have hlacks : c.LacksCount d ↔ d ≠ .sqlite ∧ c.limit = none ∧ c.offset ≠ none := by
    simp only [LacksCount, h, true_and]
  -- four forms, of which only an offset without a limit is not read back everywhere
  cases hlimit : c.limit with
  | some limit =>
    rw [if_neg (by simp [hlacks, hlimit])]
    cases hoffset : c.offset with
    | some offset =>
      have htext : c.renderLimit d = " LIMIT " ++ toString limit ++ " OFFSET " ++ toString offset := by
        simp only [renderLimit, h, hlimit, hoffset]
      rw [htext, readLimit?_count_offset]
    | none =>
      have htext : c.renderLimit d = " LIMIT " ++ toString limit := by
        simp only [renderLimit, h, hlimit, hoffset]
      rw [htext, readLimit?_count]
  | none =>
    cases hoffset : c.offset with
    | some offset =>
      have htext : c.renderLimit d = " LIMIT -1 OFFSET " ++ toString offset := by
        simp only [renderLimit, h, hlimit, hoffset]
      rw [htext, readLimit?_minus_offset]
      split
      · next hlite => rw [if_neg fun h => (hlacks.1 h).1 hlite]
      · next hlite => rw [if_pos (hlacks.2 ⟨hlite, hlimit, by simp [hoffset]⟩)]
    | none =>
      have htext : c.renderLimit d = "" := by
        simp only [renderLimit, h, hlimit, hoffset]
      rw [htext, if_neg (by simp [hlacks, hoffset])]
      rfl

theorem renderOrders_of_nil (h : c.orders = []) : c.renderOrders d = "" := by
  rw [renderOrders, h]
  rfl

/-- The ordering of a level is passed over, if it has one. -/
theorem exists_behindOrdering? (c : Clauses) (d : Dialect) {rest : List Char}
    (hmore : behind? ", " rest = none) (hbare : behind? " ORDER BY " rest = none) :
    ∃ ordered, d.behindOrdering? ((c.renderOrders d).toList ++ rest) = some (ordered, rest) := by
  by_cases hne : c.orders = []
  · refine ⟨false, ?_⟩
    rw [renderOrders_of_nil hne]
    show d.behindOrdering? rest = _
    rw [Dialect.behindOrdering?, hbare]
  · exact ⟨true, Dialect.behindOrdering?_renderOrders hne hmore⟩

theorem readRowLimits?_of_limit (h : d.limitStyle = .limit) :
    d.readRowLimits? (c.renderTop d) (c.renderOrders d ++ c.renderLimit d) =
      if c.LacksCount d then none else some (c.limit, c.offset) := by
  have hfront : c.renderTop d = "" := by
    simp only [renderTop, h]
  have hapart : behind? ", " (c.renderLimit d).toList = none ∧
      behind? " ORDER BY " (c.renderLimit d).toList = none := by
    simp only [renderLimit, h]
    cases c.limit <;> cases c.offset <;> simp only [String.toList_append] <;> exact ⟨rfl, rfl⟩
  obtain ⟨ordered, hordered⟩ := exists_behindOrdering? c d hapart.1 hapart.2
  rw [← readLimit?_renderLimit h, Dialect.readRowLimits?, hfront, String.toList_append, hordered, h]
  rfl

/-! ## Levels with `TOP` -/

/-- An offset with the rest of its level's limits. -/
def offsetRows (c : Clauses) (offset : Nat) : String :=
  " OFFSET " ++ toString offset ++ " ROWS" ++
    (match c.limit with
      | some limit => " FETCH NEXT " ++ toString limit ++ " ROWS ONLY"
      | none => "")

theorem readOffsetRows?_offsetRows (c : Clauses) (offset : Nat) :
    readOffsetRows? (c.offsetRows offset).toList = some (c.limit, some offset) := by
  unfold offsetRows
  cases c.limit with
  | some limit =>
    simp only [String.toList_append, List.append_assoc]
    rw [readOffsetRows?_append, readFetch?_append]
    rfl
  | none =>
    simp only [String.toList_append, List.append_assoc]
    rw [readOffsetRows?_append]
    rfl

/-- Where an offset needs an ordering there is one: that of the level, or one that orders nothing. -/
theorem behindOrdering?_renderLimit (h : d.limitStyle = .top) {offset : Nat}
    (hoffset : c.offset = some offset) :
    d.behindOrdering? ((c.renderOrders d).toList ++ (c.renderLimit d).toList) =
      some (true, (c.offsetRows offset).toList) := by
  have hapart : behind? ", " (c.offsetRows offset).toList = none := by
    simp only [offsetRows, String.toList_append]
    rfl
  have htext : c.renderLimit d =
      (if c.orders.isEmpty then " ORDER BY (SELECT NULL)" else "") ++ c.offsetRows offset := by
    cases hlimit : c.limit <;>
      simp only [renderLimit, offsetRows, h, hoffset, hlimit, String.append_assoc]
  -- without an ordering of its own the level is ordered by nothing, since an offset asks for an ordering
  by_cases hne : c.orders = []
  · have hnull : ∀ text ∈ ["(SELECT NULL)"], d.IsEntry text := by
      intro text htext
      rw [List.mem_singleton.1 htext]
      exact Dialect.isEntry_selectNull h
    have hread := Dialect.behindOrdering?_append (List.cons_ne_nil _ _) hnull hapart
    rw [String.intercalate_singleton] at hread
    rw [htext, renderOrders_of_nil hne, hne, String.toList_append]
    exact hread
  · have hbare : c.renderLimit d = c.offsetRows offset := by
      rw [htext, if_neg (by simpa using hne), String.empty_append]
    rw [hbare]
    exact Dialect.behindOrdering?_renderOrders hne hapart

theorem readTop?_renderTop (h : d.limitStyle = .top) (hoffset : c.offset = none) :
    readTop? (c.renderTop d).toList = some c.limit := by
  simp only [renderTop, h, hoffset]
  cases c.limit with
  | some limit =>
    simp only [String.toList_append, List.append_assoc]
    exact readTop?_append limit
  | none => rfl

theorem readRowLimits?_of_top (h : d.limitStyle = .top) :
    d.readRowLimits? (c.renderTop d) (c.renderOrders d ++ c.renderLimit d) =
      some (c.limit, c.offset) := by
  rw [Dialect.readRowLimits?, String.toList_append]
  -- with an offset the count stands behind it, and without one in front of the select list
  cases hoffset : c.offset with
  | some offset =>
    have hfront : c.renderTop d = "" := by
      simp only [renderTop, h, hoffset]
      cases c.limit <;> rfl
    rw [hfront, behindOrdering?_renderLimit h hoffset, h]
    show (readOffsetRows? (c.offsetRows offset).toList).bind _ = _
    rw [readOffsetRows?_offsetRows]
    rfl
  | none =>
    have hbehind : c.renderLimit d = "" := by
      simp only [renderLimit, h, hoffset]
    have hnil : behind? ", " [] = none ∧ behind? " ORDER BY " [] = none := ⟨rfl, rfl⟩
    obtain ⟨ordered, hordered⟩ := exists_behindOrdering? c d hnil.1 hnil.2
    rw [readTop?_renderTop h hoffset, hbehind]
    show (d.behindOrdering? ((c.renderOrders d).toList ++ [])).bind _ = _
    rw [hordered, h]
    cases c.limit <;> rfl

/-- The row limits of a level are read as they are, unless an offset needs a count and there is none. -/
theorem readRowLimits?_render (c : Clauses) (d : Dialect) :
    d.readRowLimits? (c.renderTop d) (c.renderOrders d ++ c.renderLimit d) =
      if c.LacksCount d then none else some (c.limit, c.offset) := by
  cases h : d.limitStyle with
  | limit => exact readRowLimits?_of_limit h
  | top =>
    have hlacks : ¬c.LacksCount d := fun hlacks => by
      rw [hlacks.1] at h
      cases h
    rw [if_neg hlacks, readRowLimits?_of_top h]

theorem limitsReadBack_iff (c : Clauses) (d : Dialect) : c.LimitsReadBack d ↔ ¬c.LacksCount d := by
  rw [LimitsReadBack, readRowLimits?_render]
  split <;> simp [*]

end Clauses

/-! ## Row limits of queries -/

/-- A text without quotes and question marks is numbered as it is, wherever it stands. -/
theorem Sql.Placeholder.numberBehind_of_isPlain (write : Nat → String) (before : String) {sql : String}
    (h : IsPlain sql) : Placeholder.numberBehind write before sql = sql := by
  rw [Placeholder.numberBehind, numberFrom_of_countFrom_eq_zero write (countFrom_of_plain h.1 h.2 _),
    String.ofList_toList]

/-- The text of a query, cut around the two texts that limit the rows of one of its levels. Behind the
second of them the level ends, with the query or with a parenthesis. -/
structure CutAtLimits (d : Dialect) (q level : Query) (before middle after : String) : Prop where
  render_eq : q.render d = before ++ "SELECT " ++ level.clauses.renderTop d ++
    (middle ++ level.clauses.renderOrders d) ++ level.clauses.renderLimit d ++ after
  enclosed : before = "" ∧ after = "" ∨ ∃ front behind, before = front ++ "(" ∧ after = ")" ++ behind
  sql_eq : (q.toSql d).sql = Placeholder.number d.placeholder (before ++ "SELECT ") ++
    level.clauses.renderTop d ++
    Placeholder.numberBehind d.placeholder (before ++ "SELECT " ++ level.clauses.renderTop d)
      (middle ++ level.clauses.renderOrders d) ++
    level.clauses.renderLimit d ++
    Placeholder.numberBehind d.placeholder (before ++ "SELECT " ++ level.clauses.renderTop d ++
      (middle ++ level.clauses.renderOrders d) ++ level.clauses.renderLimit d) after

theorem exists_cutAtLimits (d : Dialect) {q level : Query} (h : level ∈ q.levels) :
    ∃ before middle after, CutAtLimits d q level before middle after := by
  obtain ⟨before, after, heq, henclosed⟩ := Query.exists_render_eq_of_mem_levels d h
  let middle := level.clauseSql d .select ++ " FROM " ++ level.clauseSql d .source ++
    level.clauseSql d .join ++ level.clauseSql d .filter ++ level.clauses.renderGroups d ++
    level.clauseSql d .having
  have hrender : q.render d = before ++ "SELECT " ++ level.clauses.renderTop d ++
      (middle ++ level.clauses.renderOrders d) ++ level.clauses.renderLimit d ++ after := by
    rw [heq, Query.render_eq_clauseSql]
    simp only [middle, String.append_assoc]
    rfl
  refine ⟨before, middle, after, hrender, henclosed, ?_⟩
  show Placeholder.number d.placeholder (q.render d) = _
  rw [hrender, Placeholder.number_append, Placeholder.number_append, Placeholder.number_append,
    Placeholder.number_append, Placeholder.numberBehind_of_isPlain _ _ (isPlain_renderTop d _),
    Placeholder.numberBehind_of_isPlain _ _ (isPlain_renderLimit d _)]

namespace Searcher

variable {s : Searcher} {model : Model} {base : Query} {text : String} {tokens : Tokens}

/-- The level that a search adds has a limit, and the one on top has the row limits of the caller. -/
theorem limitsReadBack_levels (htokens : Tokens.parse text (s.cap model) = some tokens) {limit : Nat}
    {threshold : Option Float} {r : Query}
    (hr : s.searchWith model base text { limit := limit, threshold := threshold } = .ok r) :
    (∀ level ∈ r.levels, level.clauses.LimitsReadBack s.dialect) ↔
      ∀ level ∈ base.levels, level.clauses.LimitsReadBack s.dialect := by
  obtain ⟨_, _, _, joins, _, _, rfl⟩ := (searchWith_eq_ok_iff htokens).1 hr
  let c := s.compiledWith model base tokens joins limit threshold
  have hnested : NestedIn (c.finalize base s.dialect) (c.scored s.dialect) base model joins _ _ limit
      s.dialect := nestedIn_finalize s model base tokens joins limit threshold
  have hinner : (c.scored s.dialect).clauses.LimitsReadBack s.dialect := by
    rw [Clauses.limitsReadBack_iff]
    intro hlacks
    have hlimit := hlacks.2.2.1
    rw [hnested.inner_limit] at hlimit
    cases hlimit
  have htop : (c.finalize base s.dialect).clauses.LimitsReadBack s.dialect ↔
      base.clauses.LimitsReadBack s.dialect := by
    rw [Clauses.limitsReadBack_iff, Clauses.limitsReadBack_iff, Clauses.LacksCount, Clauses.LacksCount,
      hnested.top_limit, offset_finalize]
  show (∀ level ∈ (c.finalize base s.dialect).levels, _) ↔ _
  rw [hnested.levels, Query.levels_eq_cons base]
  simp only [List.forall_mem_cons, htop, hinner, true_and, List.tail_cons]

end Searcher

/-- **Row limits are read back.** In the text of a query each level has its row limits at the front of its
select list and behind its ordering, and the numbering of placeholders leaves them as they are. By the
grammar of the dialect they are read as the limit and the offset of the level, whatever its ordering and
the other levels are, unless the level leaves out rows without a limit on a dialect that takes no
negative count: then they are not read at all. A search changes nothing about this: all its levels are
read back exactly if those of the caller's query are. -/
theorem limits_read_back (d : Dialect) :
    (∀ q level : Query, level ∈ q.levels →
      (∃ before middle after, CutAtLimits d q level before middle after) ∧
      (level.clauses.LimitsReadBack d ↔ ¬level.clauses.LacksCount d) ∧
      (level.clauses.LacksCount d → d.readRowLimits? (level.clauses.renderTop d)
        (level.clauses.renderOrders d ++ level.clauses.renderLimit d) = none)) ∧
    ∀ s : Searcher, s.dialect = d → ∀ (model : Model) (base : Query) (text : String) (tokens : Tokens)
      (limit : Nat) (threshold : Option Float) (r : Query),
      Tokens.parse text (s.cap model) = some tokens →
      s.searchWith model base text { limit := limit, threshold := threshold } = .ok r →
      ((∀ level ∈ r.levels, level.clauses.LimitsReadBack d) ↔
        ∀ level ∈ base.levels, level.clauses.LimitsReadBack d) := by
  refine ⟨fun q level hlevel => ⟨exists_cutAtLimits d hlevel, Clauses.limitsReadBack_iff _ _, ?_⟩, ?_⟩
  · intro hlacks
    rw [Clauses.readRowLimits?_render, if_pos hlacks]
  · rintro s rfl model base text tokens limit threshold r htokens hr
    exact Searcher.limitsReadBack_levels htokens hr

/-- A page of users whose ordering ends its quotes, if anything does. -/
def pagedUsers : Query :=
  (((Query.table "users").orderBy "name\" LIMIT 9" .descending).limit 5).offset 3

/-- All users but five, and nothing that says how many. -/
def laterUsers : Query := (Query.table "users").offset 5

theorem limits_read_back_pagedUsers :
    pagedUsers ∈ pagedUsers.levels ∧ pagedUsers.clauses.LimitsReadBack .sqlsrv ∧
      laterUsers ∈ laterUsers.levels ∧ laterUsers.clauses.LacksCount .pgsql ∧
      Dialect.pgsql.readRowLimits? "" " LIMIT -1 OFFSET 5" = none ∧
      ∃ r, (usersSearcher .sqlsrv).searchWith usersModel pagedUsers "Jo 'x?"
          { limit := 10, threshold := some 2.0 } = .ok r ∧
        ∀ level ∈ r.levels, level.clauses.LimitsReadBack .sqlsrv := by
  have hpaged : pagedUsers ∈ pagedUsers.levels := List.mem_singleton.2 rfl
  have hlater : laterUsers ∈ laterUsers.levels := List.mem_singleton.2 rfl
  have hlacks : laterUsers.clauses.LacksCount .pgsql := by decide
  have hread : pagedUsers.clauses.LimitsReadBack .sqlsrv :=
    ((limits_read_back .sqlsrv).1 _ _ hpaged).2.1.2 (by decide)
  have hbase : ∀ level ∈ pagedUsers.levels, level.clauses.LimitsReadBack .sqlsrv := by
    intro level hlevel
    rw [List.mem_singleton.1 hlevel]
    exact hread
  have hr := searchWith_tenUsers .sqlsrv pagedUsers
  exact ⟨hpaged, hread, hlater, hlacks, ((limits_read_back .pgsql).1 _ _ hlater).2.2 hlacks, _, hr,
    ((limits_read_back .sqlsrv).2 _ rfl _ _ _ _ _ _ _ (parse_usersTokens .sqlsrv) hr).2 hbase⟩

/-- An offset without a limit is written with a negative count where no database but SQLite reads it. -/
theorem negative_count_written :
    (laterUsers.toSql .mysql).sql = "SELECT * FROM \x60users\x60 LIMIT -1 OFFSET 5" ∧
      ∀ d ∈ [Dialect.mysql, .pgsql, .generic], ¬laterUsers.clauses.LimitsReadBack d := by
  decide

/-- On SQL Server a count at the front excludes an offset, and an offset needs an ordering. -/
example : Dialect.sqlsrv.readRowLimits? "TOP 5 " " ORDER BY \"name\" ASC OFFSET 3 ROWS" = none ∧
    Dialect.sqlsrv.readRowLimits? "" " OFFSET 3 ROWS FETCH NEXT 5 ROWS ONLY" = none := by decide

end RelevanceSql
