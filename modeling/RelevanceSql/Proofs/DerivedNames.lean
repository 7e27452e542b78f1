import RelevanceSql.Proofs.Grouping
import RelevanceSql.Proofs.LimitClauses

/-!
# Names of derived tables

A query that is read from has a name behind `AS`, and columns of it are qualified by that name. A table
may be named by a path, such as a schema and a table, but the name of a derived table is no path: SQL wants
one quoted identifier there, of at least one character. `readAlias?` reads it, and `castSegments?` reads the
column in a condition on the relevance.

A search names the derived table after the model's table and quotes that name like a path. So the alias is
read back as the name of the table if that is no path and not a lone star, and otherwise it is no alias at
all (`alias_of_search`). What qualifies the relevance are the same segments in both cases.
-/

namespace RelevanceSql.Sql

open RelevanceSql.Text

/-! ## Aliases -/

/-- The alias at the front of a text, and what stands behind it: one quoted segment with a character. -/
def Dialect.readAlias? (d : Dialect) (sql : List Char) : Option (List Char × List Char) :=
  match d.readName? sql with
  | some ([.quoted name], rest) => if name = [] then none else some (name, rest)
  | _ => none

/-- The segments of the column in a condition that compares the column as a decimal. -/
def Dialect.castSegments? (d : Dialect) (condition : String) : Option (List Segment) := do
  let (segments, rest) ← d.readName? (← behind? "CAST(" condition.toList)
  let _ ← behind? " AS DECIMAL(10,2)) >= " rest
  some segments

/-- A name that can be an alias as it is: it is not empty, has no dots, and is not a lone star. -/
def IsAliasName (name : String) : Prop := name ≠ "" ∧ name ≠ "*" ∧ '.' ∉ name.toList

instance (name : String) : Decidable (IsAliasName name) := inferInstanceAs (Decidable (_ ∧ _ ∧ _))

/-- A name without dots is one segment. -/
theorem spells_of_dotless {name : String} (h : '.' ∉ name.toList) :
    Spells name [Segment.ofChars name.toList] := by
  have hdotless : ∀ c ∈ name.toList, (c == '.') = false := by
    intro c hc
    rw [beq_eq_false_iff_ne]
    rintro rfl
    exact h hc
  rw [spells_iff, fields_of_no_sep hdotless]
  rfl

/-- A path with a dot has a segment before it and one behind it. -/
theorem Spells.exists_of_dot {name : String} {segments : List Segment} (h : Spells name segments)
    (hdot : '.' ∈ name.toList) : ∃ first second rest, segments = first :: second :: rest := by
  obtain ⟨before, behind, hname⟩ := List.append_of_mem hdot
  rw [spells_iff, hname, fields_append_sep (by decide), List.map_append] at h
  cases hbefore : fields (· == '.') before with
  | nil => exact absurd hbefore (fields_ne_nil _ before)
  | cons f fs =>
    cases hbehind : fields (· == '.') behind with
    | nil => exact absurd hbehind (fields_ne_nil _ behind)
    | cons g gs =>
      rw [hbefore, hbehind] at h
      cases fs with
      | nil => exact ⟨_, _, _, h⟩
      | cons f' fs => exact ⟨_, _, _, h⟩

/-- A qualified column has the segments of its table and then its own. -/
theorem Spells.append {table column : String} {segments others : List Segment}
    (h : Spells table segments) (h' : Spells column others) :
    Spells (table ++ "." ++ column) (segments ++ others) := by
  have hname : (table ++ "." ++ column).toList = table.toList ++ '.' :: column.toList := by simp
  rw [spells_iff] at h h' ⊢
  rw [hname, fields_append_sep (by decide), List.map_append, h, h']

/-- A quoted name is read as an alias exactly if it can be one, and then as it is. -/
theorem readAlias?_append (d : Dialect) (name : String) {rest : List Char}
    (hrest : EndsName d.quoteMark rest) :
    d.readAlias? ((d.quoteIdentifier name).toList ++ rest) =
      if IsAliasName name then some (name.toList, rest) else none := by
  -- a name with a dot has two segments, and one without is a single segment, quoted unless it is a star
  by_cases hdot : '.' ∈ name.toList
  · obtain ⟨segments, hspells⟩ := exists_spells name
    obtain ⟨first, second, others, rfl⟩ := hspells.exists_of_dot hdot
    rw [if_neg fun h => h.2.2 hdot, Dialect.readAlias?, readName?_append hspells hrest]
    cases first <;> rfl
  · have hread := readName?_append (spells_of_dotless hdot) hrest
    rw [Dialect.readAlias?, hread]
    by_cases hstar : name = "*"
    · rw [if_neg fun h => h.2.1 hstar, hstar]
      rfl
    · have hquoted : Segment.ofChars name.toList = .quoted name.toList :=
        if_neg fun h => hstar (String.toList_inj.1 h)
      rw [hquoted]
      by_cases hempty : name = ""
      · rw [if_neg fun h => h.1 hempty, hempty]
        rfl
      · rw [if_pos ⟨hempty, hstar, hdot⟩]
        exact if_neg fun h => hempty (String.toList_inj.1 h)

/-- The relevance is a column of one segment. -/
theorem spells_relevanceName : Spells relevanceName [.quoted relevanceName.toList] :=
  spells_of_dotless (by decide)

/-- The column that a search compares has the segments of the table in front of its own. -/
theorem castSegments?_outerCondition (d : Dialect) {table : String} {segments : List Segment}
    (h : Spells table segments) (threshold : Float) :
    d.castSegments? (outerCondition d table threshold) =
      some (segments ++ [.quoted relevanceName.toList]) := by
  -- a blank ends the name of the column, and it is no mark of any dialect
  have hends : EndsName d.quoteMark
      (" AS DECIMAL(10,2)) >= ".toList ++ (Number.literal threshold).toList) := by
    cases d <;> exact ⟨by simp, by simp [Dialect.quoteMark]⟩
  have htext : (outerCondition d table threshold).toList =
      "CAST(".toList ++ ((d.quoteIdentifier (table ++ "." ++ relevanceName)).toList ++
        (" AS DECIMAL(10,2)) >= ".toList ++ (Number.literal threshold).toList)) := by
    simp only [outerCondition, String.toList_append, List.append_assoc]
  have hname := readName?_append (h.append spells_relevanceName) hends
  have hcast := behind?_append "CAST(" ((d.quoteIdentifier (table ++ "." ++ relevanceName)).toList ++
    (" AS DECIMAL(10,2)) >= ".toList ++ (Number.literal threshold).toList))
  have hdecimal := behind?_append " AS DECIMAL(10,2)) >= " (Number.literal threshold).toList
  simp only [Dialect.castSegments?, htext, hcast, hname, hdecimal, Option.bind_eq_bind,
    Option.bind_some]

/-! ## What stands behind a name -/

/-- A text that begins with a blank. -/
def BeginsBlank (s : String) : Prop := s.toList.head? = some ' '

instance (s : String) : Decidable (BeginsBlank s) := inferInstanceAs (Decidable (_ = _))

/-- A text that ends a name in front of it, whatever the mark: there is nothing, a blank, or a parenthesis. -/
def StandsApart (s : String) : Prop := s = "" ∨ BeginsBlank s ∨ s.toList.head? = some ')'

/-- A text that begins with a blank does so whatever is written behind it. -/
theorem BeginsBlank.append {s : String} (h : BeginsBlank s) (t : String) : BeginsBlank (s ++ t) := by
  rw [BeginsBlank, String.toList_append, List.head?_append, h, Option.some_or]

theorem BeginsBlank.standsApart {s : String} (h : BeginsBlank s) : StandsApart s := .inr (.inl h)

theorem standsApart_empty : StandsApart "" := .inl rfl

theorem standsApart_parenthesis (s : String) : StandsApart (")" ++ s) := by
  refine .inr (.inr ?_)
  rw [String.toList_append, List.head?_append]
  rfl

/-- Of two such texts in a row the first one that is not empty ends the name. -/
theorem StandsApart.append {s t : String} (hs : StandsApart s) (ht : StandsApart t) :
    StandsApart (s ++ t) := by
  rcases hs with rfl | hs | hs
  · rwa [String.empty_append]
  · exact (hs.append t).standsApart
  · refine .inr (.inr ?_)
    rw [String.toList_append, List.head?_append, hs, Option.some_or]

/-- Neither a blank nor a parenthesis goes on with a quoted name, in any dialect. -/
theorem StandsApart.endsName {s : String} (h : StandsApart s) (d : Dialect) :
    EndsName d.quoteMark s.toList := by
  rcases h with rfl | h | h
  · exact ⟨by simp, by simp⟩
  · rw [EndsName, h]
    cases d <;> decide
  · rw [EndsName, h]
    cases d <;> decide

end RelevanceSql.Sql

namespace RelevanceSql

open RelevanceSql.Sql RelevanceSql.Search

/-- A clause is apart from what stands before it, written or left out. -/
theorem standsApart_renderClause {keyword : String} (h : BeginsBlank keyword) (separator : String)
    (entries : List String) : StandsApart (renderClause keyword separator entries) := by
  rw [renderClause]
  split
  · exact standsApart_empty
  · exact (h.append _).standsApart

namespace Clauses

variable (c : Clauses) (d : Dialect)

/-- Joins are apart from what stands before them, however many there are. -/
theorem standsApart_renderJoins : StandsApart (c.renderJoins d) := by
  unfold renderJoins
  induction c.joins with
  | nil => exact standsApart_empty
  | cons join joins ih =>
    have hword : BeginsBlank " LEFT JOIN " := by decide
    have hjoin : BeginsBlank (join.render d) :=
      (((((hword.append _).append _).append _).append _).append _).append _
    rw [List.map_cons, String.join_cons]
    exact hjoin.standsApart.append ih

/-- Limit and offset are apart from what stands before them, in all their forms. -/
theorem standsApart_renderLimit : StandsApart (c.renderLimit d) := by
  have hlimit : BeginsBlank " LIMIT " := by decide
  have hall : BeginsBlank " LIMIT -1 OFFSET " := by decide
  have hoffset : BeginsBlank " OFFSET " := by decide
  have hnull : BeginsBlank " ORDER BY (SELECT NULL)" := by decide
  unfold renderLimit
  split
  · exact (((hlimit.append _).append _).append _).standsApart
  · exact (hlimit.append _).standsApart
  · exact (hall.append _).standsApart
  · split
    · exact ((((hnull.append _).append _).append _).append _).standsApart
    · rw [String.empty_append]
      exact (((hoffset.append _).append _).append _).standsApart
  · exact standsApart_empty

/-- What stands behind the text that a level reads from is apart from it. -/
theorem exists_render_eq_apart : ∃ before after, StandsApart after ∧
    ∀ source, c.render d source = before ++ source ++ after := by
  refine ⟨"SELECT " ++ c.renderTop d ++ c.renderColumns d ++ " FROM ",
    c.renderJoins d ++ c.renderWheres d ++ c.renderGroups d ++ c.renderHavings ++ c.renderOrders d ++
      c.renderLimit d, ?_, fun source => ?_⟩
  · have hwhere : BeginsBlank " WHERE " := by decide
    have hgroup : BeginsBlank " GROUP BY " := by decide
    have hhaving : BeginsBlank " HAVING " := by decide
    have horder : BeginsBlank " ORDER BY " := by decide
    exact (((((c.standsApart_renderJoins d).append (standsApart_renderClause hwhere _ _)).append
      (standsApart_renderClause hgroup _ _)).append (standsApart_renderClause hhaving _ _)).append
      (standsApart_renderClause horder _ _)).append (c.standsApart_renderLimit d)
  · unfold Clauses.render
    simp only [String.append_assoc]

end Clauses

/-! ## Derived tables in the text of a query -/

/-- Where question marks stay, no text is changed by what stands before it. -/
theorem Sql.Placeholder.numberBehind_of_question {write : Nat → String} (h : ∀ k, write k = "?")
    (before sql : String) : Placeholder.numberBehind write before sql = sql := by
  have happend := Placeholder.number_append write before sql
  rw [Placeholder.number_of_question h, Placeholder.number_of_question h] at happend
  exact (String.append_right_inj before).1 happend.symm

theorem Query.onQuery_mem_levels (inner : Query) (name : String) (c : Clauses) :
    .onQuery inner name c ∈ (Query.onQuery inner name c).levels := List.mem_cons_self

/-- The text of a query, cut around the alias of a level that reads from another query. If the numbering
leaves question marks or the name has nothing to number, the alias stays as it is. -/
structure CutAtAlias (d : Dialect) (q inner : Query) (name before after : String) : Prop where
  render_eq : q.render d = before ++ "(" ++ inner.render d ++ ") AS " ++ d.quoteIdentifier name ++ after
  apart : StandsApart after
  sql_eq : (∀ k, d.placeholder k = "?") ∨ IsPlain name →
    (q.toSql d).sql = Placeholder.number d.placeholder (before ++ "(" ++ inner.render d ++ ") AS ") ++
      d.quoteIdentifier name ++
      Placeholder.numberBehind d.placeholder
        (before ++ "(" ++ inner.render d ++ ") AS " ++ d.quoteIdentifier name) after

/-- Each level that reads from a query has its alias in the text of the whole query. -/
theorem exists_cutAtAlias (d : Dialect) {q inner : Query} {name : String} {c : Clauses}
    (h : .onQuery inner name c ∈ q.levels) : ∃ before after, CutAtAlias d q inner name before after := by
  obtain ⟨front, behind, heq, hends⟩ := Query.exists_render_eq_of_mem_levels d h
  obtain ⟨before, after, hafter, hclauses⟩ := c.exists_render_eq_apart d
  have hrender : q.render d = (front ++ before) ++ "(" ++ inner.render d ++ ") AS " ++
      d.quoteIdentifier name ++ (after ++ behind) := by
    rw [heq]
    show front ++ c.render d ("(" ++ inner.render d ++ ") AS " ++ d.quoteIdentifier name) ++ behind = _
    rw [hclauses]
    simp only [String.append_assoc]
  -- behind a level there is nothing, or the parenthesis around it
  have hbehind : StandsApart behind := by
    rcases hends with ⟨_, rfl⟩ | ⟨_, rest, _, rfl⟩
    · exact standsApart_empty
    · exact standsApart_parenthesis rest
  refine ⟨front ++ before, after ++ behind, hrender, hafter.append hbehind, fun hname => ?_⟩
  show Placeholder.number d.placeholder (q.render d) = _
  -- numbering does not reach into the alias
  have hkept : Placeholder.numberBehind d.placeholder
      (front ++ before ++ "(" ++ inner.render d ++ ") AS ") (d.quoteIdentifier name) =
        d.quoteIdentifier name := by
    rcases hname with hquestion | hplain
    · exact Placeholder.numberBehind_of_question hquestion _ _
    · exact Placeholder.numberBehind_of_isPlain _ _ (isPlain_quoteIdentifier hplain d)
  rw [hrender, Placeholder.number_append, Placeholder.number_append, hkept]

/-- No restriction in steps gives a search another table. -/
theorem CompiledQuery.table_restrict (c : CompiledQuery) (steps : List RestrictionStep) :
    (c.restrict steps).table = c.table := by
  have hstep : ∀ (c : CompiledQuery) step,
      (c.restrictStep step).table = (none : Option String).getD c.table := by
    intro c step
    cases step <;> rfl
  rw [@get_restrict _ table (fun _ => none) hstep c steps, List.filterMap_none]
  rfl

namespace Searcher

variable {s : Searcher} {model : Model} {base : Query} {text : String} {tokens : Tokens}

/-- **The alias of a search.** A search with tokens reads from a derived table, and behind `AS` stands the
quoted name of the model's table. A dialect reads it as an alias exactly if the name is not empty, has no
dots and is not a star, and then the alias is that name. Where the relevance is compared on top, it is
qualified by the segments of the same name, so by the alias if there is one. Restrictions in steps change
nothing about this. -/
theorem alias_of_search (htokens : Tokens.parse text (s.cap model) = some tokens)
    {options : SearchOptions} (hrestriction : ∀ c, ∃ steps, options.restriction c = c.restrict steps)
    {r : Query} (hr : s.searchWith model base text options = .ok r) :
    ∃ inner before after, r.inner? = some inner ∧
      CutAtAlias s.dialect r inner model.table before after ∧
      s.dialect.readAlias? ((s.dialect.quoteIdentifier model.table).toList ++ after.toList) =
        (if IsAliasName model.table then some (model.table.toList, after.toList) else none) ∧
      (s.dialect.relevanceFilter = .outerWhere → ∃ condition segments,
        r.clauses.wheres = [.raw condition] ∧
        s.dialect.castSegments? condition = some (segments ++ [.quoted relevanceName.toList]) ∧
        Spells model.table segments ∧
        (IsAliasName model.table → segments = [.quoted model.table.toList])) := by
  obtain ⟨_, _, _, joins, _, _, rfl⟩ := (searchWith_eq_ok_iff htokens).1 hr
  let c := s.compiledWith model base tokens joins options.limit options.threshold
  obtain ⟨steps, hsteps⟩ := hrestriction c
  have htable : (options.restriction c).table = model.table := by
    rw [hsteps, CompiledQuery.table_restrict]
    rfl
  have hfilter : (options.restriction c).filter = s.dialect.relevanceFilter := by
    rw [hsteps, CompiledQuery.filter_restrict]
    rfl
  have hfinal := (options.restriction c).finalize_eq base s.dialect
  rw [htable, hfilter] at hfinal
  show ∃ inner before after, ((options.restriction c).finalize base s.dialect).inner? = some inner ∧ _
  rw [hfinal]
  obtain ⟨before, after, hcut⟩ := exists_cutAtAlias s.dialect (Query.onQuery_mem_levels _ _ _)
  refine ⟨_, before, after, rfl, hcut, readAlias?_append s.dialect model.table (hcut.apart.endsName _),
    fun houter => ?_⟩
  obtain ⟨segments, hspells⟩ := exists_spells model.table
  rw [houter]
  refine ⟨_, segments, rfl, castSegments?_outerCondition s.dialect hspells _, hspells, fun halias => ?_⟩
  have hquoted : Segment.ofChars model.table.toList = .quoted model.table.toList :=
    if_neg fun h => halias.2.1 (String.toList_inj.1 h)
  rw [(spells_of_dotless halias.2.2).unique hspells, hquoted]

theorem alias_of_search_users :
    ∃ r inner before after, (usersSearcher .pgsql).searchWith usersModel usersQuery "Jo 'x?"
        { limit := 10, threshold := some 2.0, restriction := (·.restrict [.setLimit 5]) } = .ok r ∧
      CutAtAlias .pgsql r inner "users" before after ∧
      Dialect.pgsql.readAlias? ((Dialect.pgsql.quoteIdentifier "users").toList ++ after.toList) =
        some ("users".toList, after.toList) ∧
      ∃ condition, r.clauses.wheres = [.raw condition] ∧
        Dialect.pgsql.castSegments? condition =
          some [.quoted "users".toList, .quoted "relevance".toList] := by
  have hfinite : Number.isFinite 2.0 = true := by decide
  have hr := searchWith_users .pgsql
    { limit := 10, threshold := some 2.0, restriction := (·.restrict [.setLimit 5]) } (by decide)
    (isFinite_of_some_eq_some hfinite) hfinite
  have halias : IsAliasName usersModel.table := by decide
  obtain ⟨inner, before, after, _, hcut, hread, houter⟩ :=
    alias_of_search (parse_usersTokens .pgsql) (fun c => ⟨[.setLimit 5], rfl⟩) hr
  obtain ⟨condition, segments, hwheres, hcast, _, hsegments⟩ := houter rfl
  rw [if_pos halias] at hread
  rw [hsegments halias] at hcast
  exact ⟨_, inner, before, after, hr, hcut, hread, condition, hwheres, hcast⟩

/-- The users of an application, named by a schema and a table. -/
def schemaModel : Model where
  table := "app.users"
  search := { columns := .ofList [("name", 10.0)] }

/-- Of a table with its schema in front the alias is a path, which is no alias, and so is the qualifier. -/
theorem alias_of_schema :
    ∃ s : Searcher, s.dialect = .pgsql ∧ ∃ r inner before after condition,
      s.searchWith schemaModel (.table "app.users") "jo" { limit := 10, threshold := some 12.5 } = .ok r ∧
      r.inner? = some inner ∧ CutAtAlias .pgsql r inner "app.users" before after ∧
      Dialect.pgsql.quoteIdentifier "app.users" = "\"app\".\"users\"" ∧
      Dialect.pgsql.readAlias? ((Dialect.pgsql.quoteIdentifier "app.users").toList ++ after.toList) =
        none ∧
      r.clauses.wheres = [.raw condition] ∧
      Dialect.pgsql.castSegments? condition =
        some [.quoted "app".toList, .quoted "users".toList, .quoted "relevance".toList] := by
  have hfinite : Number.isFinite 12.5 = true := by decide
  have htokens : Tokens.parse "jo" 5 = some ⟨["jo"], by decide⟩ := by decide
  let s : Searcher := ⟨[(.startOfString, 50.0)], 5, .pgsql⟩
  have hspells : Spells "app.users" [.quoted "app".toList, .quoted "users".toList] :=
    spells_iff.2 (by decide)
  obtain ⟨before, after, hcut⟩ := exists_cutAtAlias .pgsql (Query.onQuery_mem_levels _ _ _)
  refine ⟨s, rfl, _, _, before, after, _,
    (searchWith_eq_ok_iff htokens).2
      ⟨by decide, isFinite_of_some_eq_some hfinite, by decide, [], rfl, hfinite, rfl⟩,
    rfl, hcut, by decide, ?_, rfl, castSegments?_outerCondition .pgsql hspells _⟩
  rw [readAlias?_append .pgsql "app.users" (hcut.apart.endsName .pgsql)]
  exact if_neg (by decide)

end Searcher

end RelevanceSql
