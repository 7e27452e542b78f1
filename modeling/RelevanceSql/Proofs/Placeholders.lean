import Mathlib.Algebra.GroupWithZero.Nat
import RelevanceSql.Query.Render
import RelevanceSql.Sql.Identifier

/-!
# Texts that bind values

SQL is put together from pieces, and values are bound to its placeholders by position. The two agree
as long as every piece closes the literals it opens and brings as many values as it has placeholders.
`Binds sql n` says so of one piece: read from outside a literal it ends outside a literal, and it has
`n` placeholders. Pieces with this property can be written one after the other (`Binds.append`) and
joined by separators (`BindsAll.intercalate`), the numbers adding up.

A plain text, one without single quotes and question marks, binds nothing (`IsPlain.binds`). Quoted
identifiers are plain if their names are, and numerals always are.
-/

namespace RelevanceSql.Sql

/-- A text without single quotes and question marks. -/
def IsPlain (s : String) : Prop := '\'' ∉ s.toList ∧ '?' ∉ s.toList

instance (s : String) : Decidable (IsPlain s) := inferInstanceAs (Decidable (_ ∧ _))

/-- A text that closes the literals it opens and has a given number of placeholders. -/
def Binds (sql : String) (n : Nat) : Prop :=
  Placeholder.endsInLiteral false sql.toList = false ∧ Placeholder.count sql = n

instance (sql : String) (n : Nat) : Decidable (Binds sql n) := inferInstanceAs (Decidable (_ ∧ _))

/-- Raw SQL that comes with its values: its single quotes pair up, and each placeholder has a value. -/
def FitsValues (sql : String) (params : List Param) : Prop :=
  sql.toList.count '\'' % 2 = 0 ∧ Placeholder.count sql = params.length

instance (sql : String) (params : List Param) : Decidable (FitsValues sql params) :=
  inferInstanceAs (Decidable (_ ∧ _))

/-! ## Pieces in a row -/

theorem Binds.count_eq {sql : String} {n : Nat} (h : Binds sql n) : Placeholder.count sql = n := h.2

/-- The numbers of two texts add up, because the first one closes its literals. -/
theorem Binds.append {s t : String} {m n : Nat} (hs : Binds s m) (ht : Binds t n) :
    Binds (s ++ t) (m + n) := by
  obtain ⟨hsEnd, hsCount⟩ := hs
  obtain ⟨htEnd, htCount⟩ := ht
  unfold Placeholder.count at hsCount htCount
  -- the first text ends outside of literals, so the second one is scanned as if it stood alone
  constructor
  · rw [String.toList_append, Placeholder.endsInLiteral_append, hsEnd]
    exact htEnd
  · rw [Placeholder.count, String.toList_append, Placeholder.countFrom_append, hsEnd, hsCount, htCount]

theorem binds_empty : Binds "" 0 := by decide

/-- An even number of single quotes leads out of every literal, an odd one into one. -/
theorem endsInLiteral_eq (inLiteral : Bool) (cs : List Char) :
    Placeholder.endsInLiteral inLiteral cs = (inLiteral ^^ decide (cs.count '\'' % 2 = 1)) := by
  induction cs generalizing inLiteral with
  | nil => simp [Placeholder.endsInLiteral]
  | cons c cs ih =>
    rw [Placeholder.endsInLiteral, ih]
    by_cases hc : c = '\''
    · -- a quote turns the state over, and with it the parity of the quotes read so far
      subst hc
      rw [if_pos rfl, List.count_cons_self]
      rcases Nat.mod_two_eq_zero_or_one (cs.count '\'') with h | h
      · rw [show (cs.count '\'' + 1) % 2 = 1 by omega, h]
        cases inLiteral <;> rfl
      · rw [show (cs.count '\'' + 1) % 2 = 0 by omega, h]
        cases inLiteral <;> rfl
    · rw [if_neg hc, List.count_cons_of_ne hc]

/-- Raw SQL that comes with its values binds them. -/
theorem FitsValues.binds {sql : String} {params : List Param} (h : FitsValues sql params) :
    Binds sql params.length := by
  refine ⟨?_, h.2⟩
  rw [endsInLiteral_eq, h.1]
  rfl

/-! ## What a scan looks at -/

/-- The characters that a scan for placeholders looks at. -/
def isScanned (c : Char) : Bool := c == '\'' || c == '?'

/-- Where a scan ends depends only on the characters that it looks at. -/
theorem endsInLiteral_filter (inLiteral : Bool) (cs : List Char) :
    Placeholder.endsInLiteral inLiteral (cs.filter isScanned) = Placeholder.endsInLiteral inLiteral cs := by
  induction cs generalizing inLiteral with
  | nil => rfl
  | cons c cs ih =>
    rw [List.filter_cons]
    split
    · exact ih _
    · next hc =>
      have hquote : c ≠ '\'' := by
        rintro rfl
        exact hc (by decide)
      rw [ih, Placeholder.endsInLiteral, if_neg hquote]

/-- How many placeholders a scan counts depends only on the characters that it looks at. -/
theorem countFrom_filter (inLiteral : Bool) (cs : List Char) :
    Placeholder.countFrom inLiteral (cs.filter isScanned) = Placeholder.countFrom inLiteral cs := by
  induction cs generalizing inLiteral with
  | nil => rfl
  | cons c cs ih =>
    rw [List.filter_cons]
    split
    · simp only [Placeholder.countFrom, ih]
    · next hc =>
      have hquote : c ≠ '\'' := by
        rintro rfl
        exact hc (by decide)
      have hmark : ¬(c = '?' ∧ inLiteral = false) := by
        rintro ⟨rfl, _⟩
        exact hc (by decide)
      rw [ih, Placeholder.countFrom, if_neg hquote, if_neg hmark]

/-- Texts in which a scan sees the same bind the same. -/
theorem binds_congr {s t : String} {n : Nat}
    (h : s.toList.filter isScanned = t.toList.filter isScanned) : Binds s n ↔ Binds t n := by
  unfold Binds Placeholder.count
  rw [← endsInLiteral_filter false s.toList, ← countFrom_filter false s.toList, h,
    endsInLiteral_filter, countFrom_filter]

/-- A plain text has nothing that a scan looks at. -/
theorem isPlain_iff_filter {s : String} : IsPlain s ↔ s.toList.filter isScanned = [] := by
  rw [List.filter_eq_nil_iff]
  constructor
  · rintro ⟨hquote, hmark⟩ c hc hscanned
    rcases (by simpa [isScanned] using hscanned : c = '\'' ∨ c = '?') with rfl | rfl
    · exact hquote hc
    · exact hmark hc
  · exact fun h => ⟨fun hc => h _ hc (by decide), fun hc => h _ hc (by decide)⟩

/-! ## Plain texts -/

theorem endsInLiteral_of_plain {cs : List Char} (h : '\'' ∉ cs) :
    Placeholder.endsInLiteral false cs = false := by
  rw [endsInLiteral_eq, List.count_eq_zero_of_not_mem h]
  rfl

theorem countFrom_of_plain {cs : List Char} (hq : '\'' ∉ cs) (hp : '?' ∉ cs) (inLiteral : Bool) :
    Placeholder.countFrom inLiteral cs = 0 := by
  induction cs with
  | nil => rfl
  | cons c cs ih =>
    rw [List.mem_cons, not_or] at hq hp
    rw [Placeholder.countFrom, if_neg (Ne.symm hq.1), if_neg fun h => hp.1 h.1.symm]
    exact ih hq.2 hp.2

/-- A plain text binds nothing. -/
theorem IsPlain.binds {s : String} (h : IsPlain s) : Binds s 0 :=
  ⟨endsInLiteral_of_plain h.1, countFrom_of_plain h.1 h.2 false⟩

theorem IsPlain.append {s t : String} (hs : IsPlain s) (ht : IsPlain t) : IsPlain (s ++ t) := by
  simp only [IsPlain, String.toList_append, List.mem_append, not_or]
  exact ⟨⟨hs.1, ht.1⟩, hs.2, ht.2⟩

/-- Plain texts around a text leave its placeholders as they are. -/
theorem Binds.between {s : String} {n : Nat} (h : Binds s n) {before after : String}
    (hbefore : IsPlain before) (hafter : IsPlain after) : Binds (before ++ s ++ after) n := by
  have hall := (hbefore.binds.append h).append hafter.binds
  rwa [Nat.zero_add, Nat.add_zero] at hall

/-- A text is plain if all its characters are neither a single quote nor a question mark. -/
theorem isPlain_of_forall {s : String} (h : ∀ c ∈ s.toList, c ≠ '\'' ∧ c ≠ '?') : IsPlain s :=
  ⟨fun hq => (h _ hq).1 rfl, fun hp => (h _ hp).2 rfl⟩

/-! ## Lists of pieces -/

/-- Texts that each bind some values, and as many as given in all. -/
inductive BindsAll : List String → Nat → Prop where
  | nil : BindsAll [] 0
  | cons {s : String} {texts : List String} {m n : Nat} (head : Binds s m) (tail : BindsAll texts n) :
    BindsAll (s :: texts) (m + n)

theorem BindsAll.append {xs ys : List String} {m n : Nat} (hx : BindsAll xs m) (hy : BindsAll ys n) :
    BindsAll (xs ++ ys) (m + n) := by
  induction hx with
  | nil => rw [Nat.zero_add]; exact hy
  | cons head _ ih => rw [Nat.add_assoc]; exact .cons head ih

theorem bindsAll_singleton {s : String} {n : Nat} (h : Binds s n) : BindsAll [s] n := .cons h .nil

/-- One more text at the end. -/
theorem BindsAll.concat {xs : List String} {s : String} {m n : Nat} (hx : BindsAll xs m)
    (hs : Binds s n) : BindsAll (xs ++ [s]) (m + n) :=
  hx.append (bindsAll_singleton hs)

/-- Each text of a list binds as many values as a function says of its source. -/
theorem bindsAll_map {α : Type} {render : α → String} {size : α → Nat} {xs : List α}
    (h : ∀ x ∈ xs, Binds (render x) (size x)) : BindsAll (xs.map render) (xs.map size).sum := by
  induction xs with
  | nil => exact .nil
  | cons x xs ih =>
    rw [List.map_cons, List.map_cons, List.sum_cons]
    exact .cons (h x (by simp)) (ih fun y hy => h y (by simp [hy]))

/-- Plain texts bind nothing together. -/
theorem bindsAll_map_plain {α : Type} {render : α → String} {xs : List α}
    (h : ∀ x ∈ xs, IsPlain (render x)) : BindsAll (xs.map render) 0 := by
  induction xs with
  | nil => exact .nil
  | cons x xs ih => exact .cons (h x (by simp)).binds (ih fun y hy => h y (by simp [hy]))

/-- Texts in a row bind what they bind one by one. -/
theorem BindsAll.join {xs : List String} {n : Nat} (h : BindsAll xs n) : Binds (String.join xs) n := by
  induction h with
  | nil => exact binds_empty
  | cons head _ ih => rw [String.join_cons]; exact head.append ih

/-- Texts with separators between them bind what they bind one by one, if the separator binds nothing. -/
theorem BindsAll.intercalate {xs : List String} {n : Nat} {separator : String} (h : BindsAll xs n)
    (hsep : Binds separator 0) : Binds (separator.intercalate xs) n := by
  induction h with
  | nil => exact binds_empty
  | cons head tail ih =>
    -- no separator behind the last text, and one behind every other
    cases tail with
    | nil => rw [String.intercalate_singleton]; exact head
    | cons head' tail' =>
      rw [String.intercalate_cons_cons]
      exact (head.append hsep).append ih

/-- A clause binds what its entries bind; without entries it is not written. -/
theorem BindsAll.renderClause {xs : List String} {n : Nat} {keyword separator : String}
    (h : BindsAll xs n) (hkey : Binds keyword 0) (hsep : Binds separator 0) :
    Binds (renderClause keyword separator xs) n := by
  unfold RelevanceSql.renderClause
  split
  · next hnil =>
    subst hnil
    cases h
    exact binds_empty
  · rw [← Nat.zero_add n]
    exact hkey.append (h.intercalate hsep)

/-! ## Identifiers -/

/-- A separator of which nothing is kept leaves no trace between what is kept. -/
theorem filter_intercalate {α : Type} {p : α → Bool} {sep : List α} (hsep : sep.filter p = [])
    (xs : List (List α)) : (sep.intercalate xs).filter p = xs.flatten.filter p := by
  induction xs with
  | nil => rfl
  | cons x xs ih =>
    by_cases hxs : xs = []
    · rw [hxs, List.intercalate_singleton, List.flatten_singleton]
    · rw [List.intercalate_cons_of_ne_nil hxs, List.filter_append, List.filter_append, hsep, ih,
        List.append_nil, List.flatten_cons, List.filter_append]

/-- Doubling a mark that is not kept changes nothing of what is kept. -/
theorem filter_doubled {p : Char → Bool} {mark : Char} (h : p mark = false) (cs : List Char) :
    (doubled mark cs).filter p = cs.filter p := by
  induction cs with
  | nil => rfl
  | cons c cs ih =>
    rw [doubled]
    split
    · -- a doubled mark: neither of its copies is kept
      next hc =>
      subst hc
      simp only [List.filter_cons, h, ih]
      rfl
    · rw [List.filter_cons, List.filter_cons, ih]

theorem isScanned_quoteMark (d : Dialect) : isScanned d.quoteMark = false := by cases d <;> decide

/-- The marks around a segment and in it are not looked at by a scan. -/
theorem filter_quoteSegment (d : Dialect) (segment : List Char) :
    (d.quoteSegment segment).filter isScanned = segment.filter isScanned := by
  have hmark := isScanned_quoteMark d
  rw [Dialect.quoteSegment]
  split
  · rfl
  · rw [enclosed, List.filter_cons, hmark, if_neg Bool.false_ne_true, List.filter_append,
      filter_doubled hmark, List.filter_cons, hmark, if_neg Bool.false_ne_true, List.filter_nil,
      List.append_nil]

/-- Quoting adds marks and dots to a name, and a scan looks at neither. -/
theorem filter_quoteIdentifier (d : Dialect) (name : String) :
    (d.quoteIdentifier name).toList.filter isScanned = name.toList.filter isScanned := by
  have hsegments : ∀ segments : List (List Char),
      ((segments.map d.quoteSegment).flatten).filter isScanned = segments.flatten.filter isScanned := by
    intro segments
    induction segments with
    | nil => rfl
    | cons segment segments ih =>
      rw [List.map_cons, List.flatten_cons, List.filter_append, filter_quoteSegment, ih,
        List.flatten_cons, List.filter_append]
  rw [Dialect.quoteIdentifier, String.toList_ofList, filter_intercalate (by decide), hsegments,
    Text.flatten_fields, List.filter_filter]
  -- a dot is not looked at, so it makes no difference that the dots are gone
  refine List.filter_congr fun c _ => ?_
  by_cases hc : c = '.'
  · subst hc
    decide
  · simp [hc]

/-- A quoted name is scanned like the bare name. -/
theorem binds_quoteIdentifier_iff {d : Dialect} {name : String} {n : Nat} :
    Binds (d.quoteIdentifier name) n ↔ Binds name n :=
  binds_congr (filter_quoteIdentifier d name)

theorem isPlain_quoteIdentifier {name : String} (h : IsPlain name) (d : Dialect) :
    IsPlain (d.quoteIdentifier name) := by
  rw [isPlain_iff_filter] at h ⊢
  rw [filter_quoteIdentifier, h]

/-- A plain column of a plain table has a plain name. -/
theorem isPlain_qualify {table column : String} (ht : IsPlain table) (hc : IsPlain column) :
    IsPlain (qualify table column) := by
  unfold qualify
  split
  · exact hc
  · exact (ht.append (by decide)).append hc

/-! ## Numerals -/

theorem isPlain_toString (n : Nat) : IsPlain (toString n) := by
  apply isPlain_of_forall
  intro c hc
  rw [Nat.toString_eq_ofList_toDigits, String.toList_ofList] at hc
  have hdigit := Nat.isDigit_of_mem_toDigits (by decide) (by decide) hc
  constructor
  · rintro rfl
    exact absurd hdigit (by decide)
  · rintro rfl
    exact absurd hdigit (by decide)

theorem isPlain_padded (width n : Nat) : IsPlain (Number.padded width n) := by
  refine IsPlain.append ?_ (isPlain_toString n)
  apply isPlain_of_forall
  intro c hc
  rw [Number.zeros, String.toList_ofList] at hc
  rw [List.eq_of_mem_replicate hc]
  decide

theorem isPlain_positional (x : Number.Decimal) : IsPlain x.positional := by
  unfold Number.Decimal.positional
  split
  · exact isPlain_toString _
  · exact ((isPlain_toString _).append (by decide)).append (isPlain_padded _ _)

theorem isPlain_plain (x : Float) : IsPlain (Number.plain x) := by
  have hsign : IsPlain (Number.signText x) := by
    unfold Number.signText
    split <;> decide
  unfold Number.plain
  split
  · decide
  · split
    · exact hsign.append (isPlain_positional _)
    · exact hsign.append (by decide)

/-- A number in SQL is plain, and so are the words that stand for what is no number. -/
theorem isPlain_literal (x : Float) : IsPlain (Number.literal x) := by
  unfold Number.literal
  split
  · decide
  · exact isPlain_plain x

/-- Adding a fraction to a number leaves it plain. -/
theorem isPlain_decimalLiteral (x : Float) : IsPlain (Number.decimalLiteral x) := by
  simp only [Number.decimalLiteral]
  split
  · exact isPlain_literal x
  · exact (isPlain_literal x).append (by decide)

end RelevanceSql.Sql
