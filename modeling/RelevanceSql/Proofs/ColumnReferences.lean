import RelevanceSql.Proofs.QuotedNames
import RelevanceSql.Proofs.Searching
import RelevanceSql.Proofs.Terms

/-!
# References to columns

Every term of a score is written around a reference to a column: the quoted name with its table, inside a
function or not. `readReference?` reads such a reference, and it is a column if each of its segments stands
between marks and holds a character; a bare star stands for all columns.

A specification refuses the name of a column if a segment of it is empty or holds a blank. A star alone is
neither, and quoting leaves it bare. So the references in the terms of a valid specification are columns
exactly for the names without a star between dots (`references_of_build`).
-/

namespace RelevanceSql.Sql

open RelevanceSql.Text

/-! ## The reader -/

/-- A reference as SQL reads it: the function around it, if there is one, and the segments of the name. -/
structure Reference where
  function? : Option String
  segments : List Segment
  deriving DecidableEq, Repr

/-- A reference to one column: every segment is quoted, and none is empty. -/
def Reference.IsColumn (r : Reference) : Prop := ∀ s ∈ r.segments, s ≠ .star ∧ s ≠ .quoted []

instance (r : Reference) : Decidable r.IsColumn :=
  inferInstanceAs (Decidable (∀ s ∈ r.segments, s ≠ .star ∧ s ≠ .quoted []))

/-- The segments of the name at the front of a text, if nothing but a given text stands behind it. -/
def Dialect.readNameBefore? (d : Dialect) (closing cs : List Char) : Option (List Segment) :=
  match d.readName? cs with
  | some (segments, rest) => if rest = closing then some segments else none
  | none => none

/-- A text that is a reference and nothing else. -/
def Dialect.readReference? (d : Dialect) (sql : String) : Option Reference :=
  match sql.toList.dropWhile isNamePart with
  | [] => none
  | c :: cs =>
    if c = '(' then
      (d.readNameBefore? [')'] cs).map fun segments =>
        ⟨some (String.ofList (sql.toList.takeWhile isNamePart)), segments⟩
    else (d.readNameBefore? [] sql.toList).map fun segments => ⟨none, segments⟩

section Reading

variable {d : Dialect} {name : String} {segments : List Segment}

/-- A quoted name begins with a mark or a star, neither of which is in the name of a function. -/
theorem exists_quoteIdentifier_eq_cons (h : Spells name segments) (d : Dialect) :
    ∃ c cs, (d.quoteIdentifier name).toList = c :: cs ∧ isNamePart c = false ∧ c ≠ '(' := by
  have hmark : isNamePart d.quoteMark = false ∧ d.quoteMark ≠ '(' := by cases d <;> decide
  rw [toList_quoteIdentifier h]
  cases segments with
  | nil => exact absurd rfl h.ne_nil
  | cons segment segments =>
    have hfirst : ∃ c cs, segment.written d.quoteMark = c :: cs ∧ isNamePart c = false ∧ c ≠ '(' := by
      cases segment with
      | star => exact ⟨'*', [], rfl, by decide, by decide⟩
      | quoted name => exact ⟨d.quoteMark, _, rfl, hmark⟩
    obtain ⟨c, cs, hwritten, hc⟩ := hfirst
    -- the first segment decides; behind the only one there is nothing, and behind another a dot
    cases segments with
    | nil => exact ⟨c, cs, by rw [writtenName_singleton, hwritten], hc⟩
    | cons next segments =>
      refine ⟨c, cs ++ '.' :: writtenName d.quoteMark (next :: segments), ?_, hc⟩
      rw [writtenName_cons _ _ (List.cons_ne_nil _ _), hwritten, List.cons_append]

theorem readNameBefore?_append (h : Spells name segments) {closing : List Char}
    (hclosing : EndsName d.quoteMark closing) :
    d.readNameBefore? closing ((d.quoteIdentifier name).toList ++ closing) = some segments := by
  rw [Dialect.readNameBefore?, readName?_append h hclosing]
  exact if_pos rfl

theorem readReference?_quoteIdentifier (h : Spells name segments) (d : Dialect) :
    d.readReference? (d.quoteIdentifier name) = some ⟨none, segments⟩ := by
  obtain ⟨c, cs, hcons, hpart, hopen⟩ := exists_quoteIdentifier_eq_cons h d
  have hdrop : (d.quoteIdentifier name).toList.dropWhile isNamePart = c :: cs := by
    rw [hcons, List.dropWhile_cons_of_neg (by rw [hpart]; decide)]
  have hends : EndsName d.quoteMark [] := ⟨by simp, by simp⟩
  have hread := readNameBefore?_append h hends
  rw [List.append_nil] at hread
  simp only [Dialect.readReference?, hdrop, if_neg hopen, hread, Option.map_some]

theorem readReference?_function (h : Spells name segments) (d : Dialect) {function : String}
    (hfunction : isIdentifier function = true) :
    d.readReference? (function ++ "(" ++ d.quoteIdentifier name ++ ")") =
      some ⟨some function, segments⟩ := by
  have hparts := isNamePart_of_isIdentifier hfunction
  have htext : (function ++ "(" ++ d.quoteIdentifier name ++ ")").toList =
      function.toList ++ '(' :: ((d.quoteIdentifier name).toList ++ [')']) := by
    simp
  have hopen : ¬isNamePart '(' = true := by decide
  have hends : EndsName d.quoteMark [')'] := by cases d <;> decide
  -- the name of the function ends at the parenthesis, which is no part of a name
  have htake : (function ++ "(" ++ d.quoteIdentifier name ++ ")").toList.takeWhile isNamePart =
      function.toList := by
    rw [htext, List.takeWhile_append_of_pos hparts, List.takeWhile_cons_of_neg hopen, List.append_nil]
  have hdrop : (function ++ "(" ++ d.quoteIdentifier name ++ ")").toList.dropWhile isNamePart =
      '(' :: ((d.quoteIdentifier name).toList ++ [')']) := by
    rw [htext, List.dropWhile_append_of_pos hparts, List.dropWhile_cons_of_neg hopen]
  simp only [Dialect.readReference?, hdrop, htake, if_true, readNameBefore?_append h hends,
    Option.map_some, String.ofList_toList]

/-- A name with its table refers to a column if no segment of either is empty or a star alone. -/
theorem isColumn_iff (h : Spells name segments) (function? : Option String) :
    (Reference.mk function? segments).IsColumn ↔
      ∀ f ∈ fields (· == '.') name.toList, f ≠ [] ∧ f ≠ ['*'] := by
  have hsegment : ∀ f, Segment.ofChars f ≠ .star ∧ Segment.ofChars f ≠ .quoted [] ↔
      f ≠ [] ∧ f ≠ ['*'] := by
    intro f
    unfold Segment.ofChars
    split
    · next hf => simp [hf]
    · next hf => simp [hf]
  rw [Reference.IsColumn, spells_iff.1 h]
  simp only [List.forall_mem_map, hsegment]

end Reading

/-- The segments of a qualified name are its own, with those of the table in front unless it names one. -/
theorem mem_fields_qualify {table column : String} {f : List Char}
    (h : f ∈ fields (· == '.') (qualify table column).toList) :
    f ∈ fields (· == '.') table.toList ∨ f ∈ fields (· == '.') column.toList := by
  rw [qualify] at h
  split at h
  · exact .inr h
  · have htext : (table ++ "." ++ column).toList = table.toList ++ '.' :: column.toList := by simp
    rwa [htext, fields_append_sep (by decide), List.mem_append] at h

theorem mem_fields_qualify_of_mem {table column : String} {f : List Char}
    (h : f ∈ fields (· == '.') column.toList) :
    f ∈ fields (· == '.') (qualify table column).toList := by
  rw [qualify]
  split
  · exact h
  · have htext : (table ++ "." ++ column).toList = table.toList ++ '.' :: column.toList := by simp
    rw [htext, fields_append_sep (by decide), List.mem_append]
    exact .inr h

end RelevanceSql.Sql

namespace RelevanceSql

open RelevanceSql.Sql RelevanceSql.Text RelevanceSql.Search

/-! ## Names that are refused -/

/-- A name is refused exactly if a segment of it is empty or holds a blank. -/
theorem columnFault?_eq_invalidColumn_iff {entry : String × Float} :
    columnFault? entry = some (.invalidColumn entry.1) ↔
      ∃ f ∈ fields (· == '.') entry.1.toList, f = [] ∨ ∃ c ∈ f, isBlank c = true := by
  have hpath : isIdentifierPath entry.1 = false ↔
      ∃ f ∈ fields (· == '.') entry.1.toList, f = [] ∨ ∃ c ∈ f, isBlank c = true := by
    rw [isIdentifierPath, List.all_eq_false]
    refine exists_congr fun f => and_congr_right fun _ => ?_
    rw [Bool.not_eq_true, Bool.and_eq_false_iff]
    simp
  rw [← hpath, columnFault?]
  cases isIdentifierPath entry.1 with
  | true => cases isBadWeight entry.2 <;> simp
  | false => simp

namespace SearchSpec

/-- In a specification without a fault, no segment of a column is empty. -/
theorem ne_nil_of_mem_fields {spec : SearchSpec} (h : spec.fault? = none) {entry : String × Float}
    (he : entry ∈ spec.weightedColumns) {f : List Char}
    (hf : f ∈ fields (· == '.') entry.1.toList) : f ≠ [] := by
  rintro rfl
  simp only [fault?, Option.or_eq_none_iff, List.findSome?_eq_none_iff] at h
  have hfault := columnFault?_eq_invalidColumn_iff.2 ⟨[], hf, .inl rfl⟩
  rw [h.1 entry he] at hfault
  cases hfault

/-- The reference to a column is read as the function for it and its name with the table in front. -/
theorem readReference?_reference {spec : SearchSpec} (h : spec.fault? = none) (d : Dialect)
    (name : String) {qualified : String} {segments : List Segment} (hq : Spells qualified segments) :
    d.readReference? (spec.reference d name qualified) =
      some ⟨spec.mutation? name qualified, segments⟩ := by
  unfold reference
  split
  · next function hm =>
    rw [hm]
    exact readReference?_function hq d (isIdentifier_of_mutation? h hm)
  · next hm =>
    rw [hm]
    exact readReference?_quoteIdentifier hq d

end SearchSpec

/-! ## References in terms -/

/-- What a term says about a column, as a function of the reference to it. -/
inductive TermAround (d : Dialect) (tokens : Tokens) : (String → String) → Prop where
  | matcher (m : Matcher) (weight : Float) :
      TermAround d tokens fun reference => (m.score d reference weight tokens).sql
  | fullText (weight : Float) :
      TermAround d tokens fun reference =>
        "(" ++ d.fullText reference ++ ") * " ++ Number.literal weight ++ " * 2 * 100"

/-- A term has the same texts around every reference. -/
theorem TermAround.exists_parts {d : Dialect} {tokens : Tokens} {sql : String → String}
    (h : TermAround d tokens sql) : ∃ parts, ∀ reference, sql reference = fill reference parts := by
  cases h with
  | matcher m weight =>
    obtain ⟨_, _, parts, _, hparts⟩ := m.balancedAround_score d weight tokens
    exact ⟨parts, hparts⟩
  | fullText weight =>
    have hopen : Template 0 fun _ => "(" := template_text (by decide)
    have htimes : Template 0 fun _ => ") * " := template_text (by decide)
    have hweight : Template 0 fun _ => Number.literal weight := template_text (isPlain_literal weight).binds
    have hscale : Template 0 fun _ => " * 2 * 100" := template_text (by decide)
    obtain ⟨parts, _, hparts⟩ :=
      (((hopen.append (template_fullText d)).append htimes).append hweight).append hscale
    exact ⟨parts, hparts⟩

/-- Every term of a score is written around the reference to a weighted column, or where it comes from
full-text search around its quoted name. -/
theorem exists_termAround {spec : SearchSpec} {table : String} {tokens : Tokens}
    {matchers : MatcherSet} {d : Dialect} {t : ScoreTerm}
    (h : t ∈ (Score.build spec table tokens matchers d).terms) :
    ∃ entry ∈ spec.weightedColumns, ∃ sql, TermAround d tokens sql ∧
      (t.fragment.sql = sql (spec.reference d entry.1 (qualify table entry.1)) ∨
        t.fragment.sql = sql (d.quoteIdentifier (qualify table entry.1))) := by
  rcases mem_terms_build h with ⟨entry, he, m, weight, ht⟩ | ⟨entry, he, rfl⟩
  · refine ⟨entry, List.mem_append_left _ he, _, .matcher m weight, .inl ?_⟩
    rw [ht]
  · exact ⟨entry, List.mem_append_right _ he, _, .fullText entry.2, .inr rfl⟩

/-- **References in a score.** The name of a column is refused exactly if a segment of it is empty or holds a
blank. In a valid specification on a table without empty segments and stars, every term has the reference
to a weighted column in its places, with the same texts around it as around any other. The reference is
read as the segments of the qualified name, inside one of the specification's functions or not, and it
refers to one column exactly if no segment of the name is a star. -/
theorem references_of_build {spec : SearchSpec} (hvalid : spec.validate = .ok ()) {table : String}
    (htable : ∀ f ∈ fields (· == '.') table.toList, f ≠ [] ∧ f ≠ ['*']) (d : Dialect) (tokens : Tokens)
    (matchers : MatcherSet) :
    (∀ entry : String × Float, columnFault? entry = some (.invalidColumn entry.1) ↔
      ∃ f ∈ fields (· == '.') entry.1.toList, f = [] ∨ ∃ c ∈ f, isBlank c = true) ∧
    ∀ t ∈ (Score.build spec table tokens matchers d).terms,
      ∃ entry ∈ spec.weightedColumns, ∃ sql parts reference read,
        TermAround d tokens sql ∧ (∀ other, sql other = fill other parts) ∧
        t.fragment.sql = sql reference ∧ d.readReference? reference = some read ∧
        Spells (qualify table entry.1) read.segments ∧
        (∀ function, read.function? = some function → isIdentifier function = true) ∧
        (read.IsColumn ↔ ['*'] ∉ fields (· == '.') entry.1.toList) := by
  refine ⟨fun entry => columnFault?_eq_invalidColumn_iff, fun t ht => ?_⟩
  have hfault := validate_eq_ok_iff.1 hvalid
  obtain ⟨entry, he, sql, haround, hsql⟩ := exists_termAround ht
  obtain ⟨parts, hparts⟩ := haround.exists_parts
  obtain ⟨segments, hspells⟩ := exists_spells (qualify table entry.1)
  -- the table brings no stars and a valid column no empty segments, so a star of the column is all that is
  -- left
  have hcolumn : ∀ function?, (Reference.mk function? segments).IsColumn ↔
      ['*'] ∉ fields (· == '.') entry.1.toList := by
    intro function?
    rw [isColumn_iff hspells]
    constructor
    · intro hall hstar
      exact (hall _ (mem_fields_qualify_of_mem hstar)).2 rfl
    · intro hstar f hf
      rcases mem_fields_qualify hf with hf | hf
      · exact htable f hf
      · refine ⟨SearchSpec.ne_nil_of_mem_fields hfault he hf, ?_⟩
        rintro rfl
        exact hstar hf
  -- the reference is inside a function or not, except in full-text terms, which have the bare name
  rcases hsql with hsql | hsql
  · exact ⟨entry, he, sql, parts, _, _, haround, hparts, hsql,
      SearchSpec.readReference?_reference hfault d entry.1 hspells, hspells,
      fun function hm => SearchSpec.isIdentifier_of_mutation? hfault hm, hcolumn _⟩
  · have hbare : ∀ function, (none : Option String) = some function → isIdentifier function = true := by
      intro function hnone
      cases hnone
    exact ⟨entry, he, sql, parts, _, _, haround, hparts, hsql, readReference?_quoteIdentifier hspells d,
      hspells, hbare, hcolumn _⟩

/-- The names of users inside a function, and from another schema a column whose name ends in a star. -/
def titledSpec : SearchSpec where
  columns := .ofList [("name", 10.0), ("blog.posts.title*", 5.0)]
  mutations := .ofList [("name", "UNACCENT")]

theorem references_of_build_titled :
    titledSpec.validate = .ok () ∧
      (∀ f ∈ fields (· == '.') "app.users".toList, f ≠ [] ∧ f ≠ ['*']) ∧
      ∀ t ∈ (Score.build titledSpec "app.users" usersTokens [(.startOfString, 50.0)] .mysql).terms,
        ∃ sql reference read, TermAround .mysql usersTokens sql ∧ t.fragment.sql = sql reference ∧
          Dialect.mysql.readReference? reference = some read ∧ read.IsColumn := by
  have hvalid : titledSpec.validate = .ok () := validate_eq_ok_iff.2 (by decide)
  have htable : ∀ f ∈ fields (· == '.') "app.users".toList, f ≠ [] ∧ f ≠ ['*'] := by decide
  have hstarless : ∀ entry ∈ titledSpec.weightedColumns,
      ['*'] ∉ fields (· == '.') entry.1.toList := by decide
  refine ⟨hvalid, htable, fun t ht => ?_⟩
  obtain ⟨entry, he, sql, _, reference, read, haround, _, hsql, hread, _, _, hcolumn⟩ :=
    (references_of_build hvalid htable .mysql usersTokens [(.startOfString, 50.0)]).2 t ht
  exact ⟨sql, reference, read, haround, hsql, hread, hcolumn.2 (hstarless entry he)⟩

/-- A specification whose only column is a star. -/
def starSpec : SearchSpec := { columns := .ofList [("*", 10.0)] }

/-- The specification is valid, and what its term compares are all columns of the table. -/
theorem star_accepted :
    starSpec.validate = .ok () ∧
      starSpec.reference .mysql "*" (qualify "users" "*") = "\x60users\x60.*" ∧
      (∃ t ∈ (Score.build starSpec "users" usersTokens [(.startOfString, 50.0)] .mysql).terms,
        t.fragment = Matcher.startOfString.score .mysql "\x60users\x60.*" (10.0 * 50.0) usersTokens) ∧
      Dialect.mysql.readReference? "\x60users\x60.*" =
        some ⟨none, [.quoted "users".toList, .star]⟩ ∧
      ¬(Reference.mk none [.quoted "users".toList, .star]).IsColumn := by
  refine ⟨validate_eq_ok_iff.2 (by decide), by decide, ⟨_, List.mem_singleton.2 rfl, rfl⟩, by decide,
    by decide⟩

end RelevanceSql
