import RelevanceSql.Proofs.Placeholders

/-!
# SQL around a column

What a matcher writes is the same text around every column. A template is such a piece of SQL as a
function of the column that is put in, and it has a number of placeholders of its own: those in the
text around the column, whichever column it is. Templates are put together like the texts they make
(`Template.append`).

A column may be quoted from a name with any characters in it. As long as it closes its literals and
has no placeholders, it has no part in the numbering of those around it: the placeholders of the
template are numbered in order, and each place of the column has the column as it was put in
(`Template.number`).
-/

namespace RelevanceSql.Sql

/-! ## Numbering -/

/-- Numbering a text in two pieces: the second one starts from where the first one ends. -/
theorem numberFrom_append (write : Nat → String) (inLiteral : Bool) (used : Nat) (cs ds : List Char) :
    Placeholder.numberFrom write inLiteral used (cs ++ ds) =
      Placeholder.numberFrom write inLiteral used cs ++
        Placeholder.numberFrom write (Placeholder.endsInLiteral inLiteral cs)
          (used + Placeholder.countFrom inLiteral cs) ds := by
  induction cs generalizing inLiteral used with
  | nil => rfl
  | cons c cs ih =>
    rw [List.cons_append, Placeholder.numberFrom, Placeholder.numberFrom, Placeholder.endsInLiteral,
      Placeholder.countFrom]
    split
    · rw [ih, List.cons_append]
    · split
      · -- a placeholder: the texts behind it start one further
        rw [ih, List.append_assoc, Nat.add_right_comm, Nat.add_assoc]
      · rw [ih, List.cons_append]

/-- A text without placeholders is left as it is. -/
theorem numberFrom_of_countFrom_eq_zero (write : Nat → String) {inLiteral : Bool} {cs : List Char}
    (h : Placeholder.countFrom inLiteral cs = 0) (used : Nat) :
    Placeholder.numberFrom write inLiteral used cs = cs := by
  induction cs generalizing inLiteral with
  | nil => rfl
  | cons c cs ih =>
    rw [Placeholder.countFrom] at h
    rw [Placeholder.numberFrom]
    split
    · next hc => rw [if_pos hc] at h; rw [ih h]
    · next hc =>
      rw [if_neg hc] at h
      split
      · next hp => rw [if_pos hp] at h; omega
      · next hp => rw [if_neg hp] at h; rw [ih h]

/-- An SQL text that stands behind `used` placeholders, numbered. -/
def numberAfter (write : Nat → String) (used : Nat) (sql : String) : String :=
  String.ofList (Placeholder.numberFrom write false used sql.toList)

theorem numberAfter_zero (write : Nat → String) (sql : String) :
    numberAfter write 0 sql = Placeholder.number write sql := rfl

/-- Behind a text that binds some values, the numbers go on by as many. -/
theorem numberAfter_append (write : Nat → String) (used : Nat) {s : String} {n : Nat}
    (hs : Binds s n) (t : String) :
    numberAfter write used (s ++ t) = numberAfter write used s ++ numberAfter write (used + n) t := by
  obtain ⟨hclosed, hcount⟩ := hs
  rw [Placeholder.count] at hcount
  rw [numberAfter, String.toList_append, numberFrom_append, hclosed, hcount, String.ofList_append]
  rfl

/-- A text that binds nothing is not changed by numbering. -/
theorem numberAfter_of_binds_zero (write : Nat → String) (used : Nat) {sql : String}
    (h : Binds sql 0) : numberAfter write used sql = sql := by
  rw [numberAfter, numberFrom_of_countFrom_eq_zero write h.2, String.ofList_toList]

/-! ## Templates -/

/-- A part of a template: a text of its own, or the place of the column. -/
inductive Part where
  | text (sql : String)
  | column

/-- The texts of parts in a row, a column put in its places. -/
def fill (column : String) : List Part → String
  | [] => ""
  | .text sql :: parts => sql ++ fill column parts
  | .column :: parts => column ++ fill column parts

/-- The texts around the places of the column. -/
def ownTexts : List Part → List String
  | [] => []
  | .text sql :: parts => sql :: ownTexts parts
  | .column :: parts => ownTexts parts

/-- Parts with the placeholders of their texts numbered, `used` of them standing before. -/
def numberParts (write : Nat → String) : Nat → List Part → List Part
  | _, [] => []
  | used, .text sql :: parts =>
    .text (numberAfter write used sql) :: numberParts write (used + Placeholder.count sql) parts
  | used, .column :: parts => .column :: numberParts write used parts

/-- SQL that has the same texts around every column, with `n` placeholders in them. -/
def Template (n : Nat) (sql : String → String) : Prop :=
  ∃ parts, BindsAll (ownTexts parts) n ∧ ∀ column, sql column = fill column parts

theorem fill_append (column : String) (xs ys : List Part) :
    fill column (xs ++ ys) = fill column xs ++ fill column ys := by
  induction xs with
  | nil => rw [List.nil_append, fill, String.empty_append]
  | cons part xs ih =>
    cases part with
    | text sql => rw [List.cons_append, fill, fill, ih, String.append_assoc]
    | column => rw [List.cons_append, fill, fill, ih, String.append_assoc]

theorem ownTexts_append (xs ys : List Part) : ownTexts (xs ++ ys) = ownTexts xs ++ ownTexts ys := by
  induction xs with
  | nil => rfl
  | cons part xs ih =>
    cases part with
    | text sql => rw [List.cons_append, ownTexts, ownTexts, ih, List.cons_append]
    | column => exact ih

/-- A text that is the same around every column. -/
theorem template_text {sql : String} {n : Nat} (h : Binds sql n) : Template n fun _ => sql :=
  ⟨[.text sql], bindsAll_singleton h, fun _ => String.append_empty.symm⟩

/-- The column alone, with no text around it. -/
theorem template_column : Template 0 fun column => column :=
  ⟨[.column], .nil, fun _ => String.append_empty.symm⟩

/-- Two templates in a row, filled with the same column. -/
theorem Template.append {f g : String → String} {m n : Nat} (hf : Template m f) (hg : Template n g) :
    Template (m + n) fun column => f column ++ g column := by
  obtain ⟨xs, hxs, hf⟩ := hf
  obtain ⟨ys, hys, hg⟩ := hg
  refine ⟨xs ++ ys, ?_, fun column => ?_⟩
  · rw [ownTexts_append]
    exact hxs.append hys
  · show f column ++ g column = _
    rw [hf, hg, fill_append]

/-! ## Columns that bind nothing -/

/-- Filled with a column that binds nothing, parts bind what their texts bind. -/
theorem binds_fill {column : String} (hcolumn : Binds column 0) {parts : List Part} {n : Nat}
    (h : BindsAll (ownTexts parts) n) : Binds (fill column parts) n := by
  -- on the parts, which have as many placeholders as the texts among them
  induction parts generalizing n with
  | nil =>
    cases h
    exact binds_empty
  | cons part parts ih =>
    cases part with
    | text sql =>
      cases h with
      | cons head tail => exact head.append (ih tail)
    | column =>
      rw [← Nat.zero_add n]
      exact hcolumn.append (ih h)

/-- Filling and numbering may be done in either order. -/
theorem numberAfter_fill (write : Nat → String) {column : String} (hcolumn : Binds column 0)
    {parts : List Part} {n : Nat} (h : BindsAll (ownTexts parts) n) (used : Nat) :
    numberAfter write used (fill column parts) = fill column (numberParts write used parts) := by
  -- on the parts; a text moves the numbers on, a column leaves them where they are
  induction parts generalizing n used with
  | nil => rfl
  | cons part parts ih =>
    cases part with
    | text sql =>
      cases h with
      | cons head tail =>
        rw [fill, numberAfter_append write used head, ih tail, ← head.count_eq, numberParts, fill]
    | column =>
      rw [fill, numberAfter_append write used hcolumn, numberAfter_of_binds_zero write used hcolumn,
        Nat.add_zero, ih h, numberParts, fill]

/-- A template binds as many values around every column that binds none. -/
theorem Template.binds {f : String → String} {n : Nat} (h : Template n f) {column : String}
    (hcolumn : Binds column 0) : Binds (f column) n := by
  obtain ⟨parts, hparts, hf⟩ := h
  rw [hf]
  exact binds_fill hcolumn hparts

/-- The numbers go to the texts of a template, and the column stays as it was put in. -/
theorem Template.number {f : String → String} {n : Nat} (h : Template n f) :
    ∃ parts, BindsAll (ownTexts parts) n ∧ ∀ column, f column = fill column parts ∧
      (Binds column 0 → ∀ write used,
        numberAfter write used (f column) = fill column (numberParts write used parts)) := by
  obtain ⟨parts, hparts, hf⟩ := h
  refine ⟨parts, hparts, fun column => ⟨hf column, fun hcolumn write used => ?_⟩⟩
  rw [hf]
  exact numberAfter_fill write hcolumn hparts used

end RelevanceSql.Sql
