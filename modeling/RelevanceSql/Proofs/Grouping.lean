import Mathlib.Data.List.Sort
import RelevanceSql.Proofs.RowLimits
import RelevanceSql.Proofs.Spellings

/-!
# The grouping of a search

Joining a table multiplies the rows of a model's table. The scored query is therefore grouped: as the
model says, or else by the key and by the searched columns of joined tables. Which table a column belongs
to is what stands before its last dot, and columns are compared with their tables in front, so that one
that is written in two ways or searched in two ways counts once.

The grouping is computed by a run over the searched columns that adds to a list what it does not have
yet. `DefaultGrouping` says without a run which list that is, and there is no other one
(`defaultGrouping_iff`). `grouping_of_search` says where the grouping goes: behind that of the caller's
query, in the scored query and nowhere else, and nowhere at all where a dialect compares the relevance
only on top.
-/

namespace RelevanceSql

open RelevanceSql.Sql RelevanceSql.Search

/-! ## Tables of columns -/

/-- A list from the first separator on: in front of it there is none. -/
theorem dropWhile_ne_eq_cons_iff {sep c : Char} {cs rest : List Char} :
    cs.dropWhile (· != sep) = c :: rest ↔ c = sep ∧ ∃ front, sep ∉ front ∧ cs = front ++ c :: rest := by
  constructor
  · intro h
    have hhead := List.head?_dropWhile_not (· != sep) cs
    rw [h] at hhead
    refine ⟨by simpa using hhead, cs.takeWhile (· != sep), fun hmem => ?_, ?_⟩
    · simpa using List.mem_takeWhile_imp hmem
    · rw [← h, List.takeWhile_append_dropWhile]
  · rintro ⟨rfl, front, hfront, rfl⟩
    have hall : ∀ c' ∈ front, (c' != c) = true := by
      intro c' hc'
      rw [bne_iff_ne]
      rintro rfl
      exact hfront hc'
    rw [List.dropWhile_append_of_pos hall, List.dropWhile_cons_of_neg (by simp)]

/-- A column belongs to a table if it is written as the table, a dot, and one segment more. -/
theorem Sql.tableOf?_eq_some_iff {column table : String} :
    tableOf? column = some table ↔
      ∃ name : String, '.' ∉ name.toList ∧ column = table ++ "." ++ name := by
  unfold tableOf?
  constructor
  · intro h
    split at h
    · cases h
    · next dot before hdrop =>
      cases h
      obtain ⟨hdot, name, hname, heq⟩ := dropWhile_ne_eq_cons_iff.1 hdrop
      refine ⟨String.ofList name.reverse, by simpa using hname, String.toList_inj.1 ?_⟩
      rw [← List.reverse_reverse column.toList, heq, hdot]
      simp
  · rintro ⟨name, hname, rfl⟩
    have hdrop : (table ++ "." ++ name).toList.reverse.dropWhile (· != '.') =
        '.' :: table.toList.reverse :=
      dropWhile_ne_eq_cons_iff.2 ⟨rfl, name.toList.reverse, by simpa using hname, by simp⟩
    rw [hdrop]
    simp

/-- A column that belongs to a table which the model joins, and not to the table of the model. -/
def Model.OnJoinedTable (model : Model) (column : String) : Prop :=
  ∃ table name : String, column = table ++ "." ++ name ∧ '.' ∉ name.toList ∧ table ≠ model.table ∧
    table ∈ model.search.joins.keys

/-- A name has a value exactly if it is one of the names. -/
theorem OrderedMap.contains_eq_true_iff {α : Type} {m : OrderedMap α} {key : String} :
    m.contains key = true ↔ key ∈ m.keys := by
  rw [contains, Option.isSome_iff_exists, keys, List.mem_map]
  constructor
  · rintro ⟨value, h⟩
    exact ⟨_, get?_eq_some_iff.1 h, rfl⟩
  · rintro ⟨⟨_, value⟩, h, rfl⟩
    exact ⟨value, get?_eq_some_iff.2 h⟩

theorem Model.isJoinedColumn_iff {model : Model} {column : String} :
    model.isJoinedColumn column = true ↔ model.OnJoinedTable column := by
  have hpart : model.isJoinedColumn column = true ↔
      ∃ table, tableOf? column = some table ∧ table ≠ model.table ∧ table ∈ model.search.joins.keys := by
    unfold isJoinedColumn
    cases tableOf? column with
    | none => simp
    | some table => simp [OrderedMap.contains_eq_true_iff]
  rw [hpart]
  constructor
  · rintro ⟨table, htable, hne, hjoined⟩
    obtain ⟨name, hname, heq⟩ := tableOf?_eq_some_iff.1 htable
    exact ⟨table, name, heq, hname, hne, hjoined⟩
  · rintro ⟨table, name, heq, hname, hne, hjoined⟩
    exact ⟨table, tableOf?_eq_some_iff.2 ⟨name, hname, heq⟩, hne, hjoined⟩

/-! ## What a run adds to a list -/

section Added

variable {α : Type} [DecidableEq α] (p : α → Bool)

/-- What a run over a list adds to those it has: each that passes, where it comes first. -/
def added : List α → List α → List α
  | _, [] => []
  | seen, x :: xs =>
    if p x && !seen.contains x then x :: added (seen ++ [x]) xs else added seen xs

theorem foldl_eq_append_added (seen xs : List α) :
    xs.foldl (fun seen x => if p x && !seen.contains x then seen ++ [x] else seen) seen =
      seen ++ added p seen xs := by
  induction xs generalizing seen with
  | nil => rw [List.foldl_nil, added, List.append_nil]
  | cons x xs ih =>
    rw [List.foldl_cons, ih, added]
    split
    · rw [List.append_assoc, List.singleton_append]
    · rfl

variable {p}

theorem mem_added {seen xs : List α} {y : α} :
    y ∈ added p seen xs ↔ y ∈ xs ∧ p y = true ∧ y ∉ seen := by
  -- on the list, for whatever has been seen before
  induction xs generalizing seen with
  | nil => simp [added]
  | cons x xs ih =>
    rw [added]
    by_cases hy : y = x
    · subst hy
      split <;> simp_all
    · split <;> simp [ih, hy]

theorem nodup_added (seen xs : List α) : (added p seen xs).Nodup := by
  induction xs generalizing seen with
  | nil => exact List.nodup_nil
  | cons x xs ih =>
    rw [added]
    split
    · refine List.nodup_cons.2 ⟨fun hmem => ?_, ih _⟩
      exact (mem_added.1 hmem).2.2 (by simp)
    · exact ih _

/-- What is added comes in the order of first places. -/
theorem pairwise_added (seen xs : List α) :
    (added p seen xs).Pairwise fun a b => xs.idxOf a < xs.idxOf b := by
  induction xs generalizing seen with
  | nil => exact .nil
  | cons x xs ih =>
    -- past the first one, all places move on by one
    have hstep : ∀ seen', (∀ y ∈ added p seen' xs, y ≠ x) →
        (added p seen' xs).Pairwise fun a b => (x :: xs).idxOf a < (x :: xs).idxOf b := by
      intro seen' hne
      refine (ih seen').imp_of_mem fun {a b} ha hb hlt => ?_
      rw [List.idxOf_cons_ne _ (hne a ha).symm, List.idxOf_cons_ne _ (hne b hb).symm]
      exact Nat.succ_lt_succ hlt
    rw [added]
    split
    · have hne : ∀ y ∈ added p (seen ++ [x]) xs, y ≠ x := by
        rintro y hy rfl
        exact (mem_added.1 hy).2.2 (by simp)
      refine List.pairwise_cons.2 ⟨fun y hy => ?_, hstep _ hne⟩
      rw [List.idxOf_cons_self, List.idxOf_cons_ne _ (hne y hy).symm]
      exact Nat.succ_pos _
    · next hout =>
      refine hstep seen ?_
      rintro y hy rfl
      obtain ⟨_, hp, hseen⟩ := mem_added.1 hy
      exact hout (by simp [hp, hseen])

end Added

/-! ## The grouping of a model -/

namespace Model

/-- The columns that are searched with their tables in front, those for full text last. -/
def searched (model : Model) : List String :=
  (model.search.columns.keys ++ model.search.fulltextColumns.keys).map (qualify model.table)

/-- The key with its table in front. -/
def qualifiedKey (model : Model) : String := qualify model.table model.key

/-- The key, and behind it the searched columns of joined tables in the order in which they are first
searched, without the key and each once. -/
structure DefaultGrouping (model : Model) (columns : List String) : Prop where
  head : columns.head? = some model.qualifiedKey
  nodup : columns.Nodup
  mem_iff : ∀ column, column ∈ columns ↔
    column = model.qualifiedKey ∨ (column ∈ model.searched ∧ model.OnJoinedTable column)
  ordered : columns.tail.Pairwise fun a b => model.searched.idxOf a < model.searched.idxOf b

variable {model : Model}

theorem grouping_of_groupBy {groupBy : GroupBy} (h : model.search.groupBy = some groupBy) :
    model.grouping = groupBy.names.map (qualify model.table) := by
  rw [grouping, h]

theorem grouping_of_none (h : model.search.groupBy = none) :
    model.grouping =
      model.qualifiedKey :: added model.isJoinedColumn [model.qualifiedKey] model.searched := by
  -- the run goes over the qualified names of all weighted columns
  have hsearched :
      (model.search.weightedColumns.map fun e => qualify model.table e.1) = model.searched := by
    rw [searched, SearchSpec.weightedColumns, OrderedMap.keys, OrderedMap.keys, ← List.map_append,
      List.map_map]
    rfl
  rw [grouping, h]
  show (model.search.weightedColumns.map fun e => qualify model.table e.1).foldl _ _ = _
  rw [hsearched]
  exact foldl_eq_append_added model.isJoinedColumn [model.qualifiedKey] model.searched

theorem defaultGrouping_grouping (h : model.search.groupBy = none) :
    model.DefaultGrouping model.grouping := by
  rw [grouping_of_none h]
  refine ⟨rfl, List.nodup_cons.2 ⟨fun hmem => ?_, nodup_added _ _⟩, fun column => ?_,
    pairwise_added _ _⟩
  · exact (mem_added.1 hmem).2.2 (List.mem_singleton.2 rfl)
  · rw [List.mem_cons, mem_added, isJoinedColumn_iff, List.mem_singleton]
    tauto

/-- Behind the key are the columns of joined tables, without the key. -/
theorem DefaultGrouping.eq_cons {columns : List String} (h : model.DefaultGrouping columns) :
    ∃ rest, columns = model.qualifiedKey :: rest ∧ ∀ column, column ∈ rest ↔
      column ≠ model.qualifiedKey ∧ column ∈ model.searched ∧ model.OnJoinedTable column := by
  obtain ⟨rest, rfl⟩ := List.head?_eq_some_iff.1 h.head
  refine ⟨rest, rfl, fun column => ?_⟩
  have hkey : model.qualifiedKey ∉ rest := (List.nodup_cons.1 h.nodup).1
  have hmem := h.mem_iff column
  rw [List.mem_cons] at hmem
  constructor
  · intro hrest
    have hne : column ≠ model.qualifiedKey := by
      rintro rfl
      exact hkey hrest
    exact ⟨hne, (hmem.1 (.inr hrest)).resolve_left hne⟩
  · rintro ⟨hne, hjoined⟩
    exact (hmem.2 (.inr hjoined)).resolve_left hne

/-- Two lists that are the default grouping are the same list. -/
theorem DefaultGrouping.unique {columns others : List String} (h : model.DefaultGrouping columns)
    (h' : model.DefaultGrouping others) : columns = others := by
  obtain ⟨rest, rfl, hrest⟩ := h.eq_cons
  obtain ⟨rest', rfl, hrest'⟩ := h'.eq_cons
  -- behind the key both lists have the same members in one strict order
  let before (a b : String) : Prop := model.searched.idxOf a < model.searched.idxOf b
  have hirrefl : Std.Irrefl before := ⟨fun _ => Nat.lt_irrefl _⟩
  have hantisymm : Std.Antisymm before := ⟨fun _ _ hlt hgt => absurd hgt (Nat.lt_asymm hlt)⟩
  have heq : rest = rest' := List.Pairwise.eq_of_mem_iff h.ordered h'.ordered
    fun column => (hrest column).trans (hrest' column).symm
  rw [heq]

/-- The default grouping of a model is what the run computes, and nothing else. -/
theorem defaultGrouping_iff (h : model.search.groupBy = none) {columns : List String} :
    model.DefaultGrouping columns ↔ columns = model.grouping := by
  constructor
  · intro hcolumns
    exact hcolumns.unique (defaultGrouping_grouping h)
  · rintro rfl
    exact defaultGrouping_grouping h

end Model

/-! ## The grouping of a search -/

/-- The grouping that a step sets, if it sets one. -/
def RestrictionStep.groupBy? : RestrictionStep → Option (List String)
  | .setGroupBy columns => some columns
  | _ => none

/-- A step that leaves the grouping of every query as it is. -/
def RestrictionStep.KeepsGroups : RestrictionStep → Prop
  | .mapQuery change => ∀ q, (change q).clauses.groups = q.clauses.groups
  | _ => True

namespace CompiledQuery

theorem groupBy_restrict (c : CompiledQuery) (steps : List RestrictionStep) :
    (c.restrict steps).groupBy = (steps.filterMap RestrictionStep.groupBy?).getLast?.getD c.groupBy :=
  get_restrict (fun _ step => by cases step <;> rfl) c steps

theorem filter_restrict (c : CompiledQuery) (steps : List RestrictionStep) :
    (c.restrict steps).filter = c.filter := by
  have hstep : ∀ (c : CompiledQuery) step,
      (c.restrictStep step).filter = (none : Option RelevanceFilter).getD c.filter := by
    intro c step
    cases step <;> rfl
  rw [@get_restrict _ filter (fun _ => none) hstep c steps, List.filterMap_none]
  rfl

theorem groups_restrict {steps : List RestrictionStep} (h : ∀ step ∈ steps, step.KeepsGroups)
    (c : CompiledQuery) : (c.restrict steps).query.clauses.groups = c.query.clauses.groups := by
  unfold restrict
  induction steps generalizing c with
  | nil => rfl
  | cons step steps ih =>
    rw [List.foldl_cons, ih fun other hother => h other (List.mem_cons_of_mem _ hother)]
    have hstep := h step List.mem_cons_self
    cases step with
    | mapQuery change => exact hstep c.query
    | setThreshold threshold | setLimit limit | setGroupBy columns => rfl

theorem groups_scored (c : CompiledQuery) (d : Dialect) :
    (c.scored d).clauses.groups = c.query.clauses.groups ++ c.filter.inHaving c.groupBy := by
  rw [clauses_scored]

end CompiledQuery

namespace Searcher

/-- **The grouping of a search.** Of a model that says nothing about it, the grouping is the list of the
key and the searched columns of joined tables that `DefaultGrouping` describes; otherwise it is what the
model says, with its table in front. A search with tokens puts it behind the grouping of the caller's
query, in the scored query, where the dialect compares the relevance there; on other dialects it adds
none. A restriction in steps can set another grouping, of which the last one counts, and only steps that
change the scored query itself can have a part in the caller's. The query on top groups nothing. -/
theorem grouping_of_search (s : Searcher) (model : Model) :
    (model.search.groupBy = none →
      ∀ columns, model.DefaultGrouping columns ↔ columns = model.grouping) ∧
    (∀ groupBy, model.search.groupBy = some groupBy →
      model.grouping = groupBy.names.map (qualify model.table)) ∧
    ∀ base text tokens options r, Tokens.parse text (s.cap model) = some tokens →
      s.searchWith model base text options = .ok r →
      ∃ compiled inner,
        s.compile model base text options.limit options.threshold = .ok (some compiled) ∧
        compiled.groupBy = model.grouping ∧ r.inner? = some inner ∧ r.clauses.groups = [] ∧
        ∀ steps, options.restriction compiled = compiled.restrict steps →
          inner.clauses.groups = (options.restriction compiled).query.clauses.groups ++
            s.dialect.relevanceFilter.inHaving
              ((steps.filterMap RestrictionStep.groupBy?).getLast?.getD model.grouping) ∧
          ((∀ step ∈ steps, step.KeepsGroups) →
            (options.restriction compiled).query.clauses.groups = base.clauses.groups) := by
  refine ⟨fun h columns => Model.defaultGrouping_iff h, fun groupBy => Model.grouping_of_groupBy,
    fun base text tokens options r htokens hr => ?_⟩
  obtain ⟨hlimit, hgiven, hfault, joins, hjoins, _, rfl⟩ := (searchWith_eq_ok_iff htokens).1 hr
  let c := s.compiledWith model base tokens joins options.limit options.threshold
  refine ⟨c, (options.restriction c).scored s.dialect,
    (compile_eq_ok_iff htokens).2 ⟨hlimit, hgiven, hfault, joins, hjoins, rfl⟩, rfl,
    CompiledQuery.inner?_finalize _ _ _, ?_, fun steps hsteps => ⟨?_, fun hkept => ?_⟩⟩
  · rw [CompiledQuery.finalize_eq]
    rfl
  · rw [CompiledQuery.groups_scored, hsteps, CompiledQuery.groupBy_restrict,
      CompiledQuery.filter_restrict]
    rfl
  · rw [hsteps, CompiledQuery.groups_restrict hkept, clauses_query_compiledWith]

/-- The users of teams: grouped by the team as well, which the model writes without its table. -/
def teamsModel : Model :=
  { usersModel with search := usersModel.search.withGroupBy (.columns ["team", "posts.title"]) }

theorem grouping_of_search_users :
    usersModel.search.groupBy = none ∧ usersModel.DefaultGrouping ["users.id", "posts.title"] ∧
      teamsModel.search.groupBy = some (.columns ["team", "posts.title"]) ∧
      teamsModel.grouping = ["users.team", "posts.title"] ∧
      ∃ r inner, (usersSearcher .mysql).searchWith usersModel (usersQuery.groupBy ["users.city"]) "Jo 'x?"
          { limit := 10, restriction := (·.restrict [.setThreshold 1.5, .mapQuery (·.limit 0)]) } = .ok r ∧
        r.inner? = some inner ∧ r.clauses.groups = [] ∧
        inner.clauses.groups = ["users.city", "users.id", "posts.title"] := by
  let steps : List RestrictionStep := [.setThreshold 1.5, .mapQuery (·.limit 0)]
  have hgrouping : ["users.id", "posts.title"] = usersModel.grouping := by decide
  have hkept : ∀ step ∈ steps, step.KeepsGroups := by
    intro step hstep
    simp only [steps, List.mem_cons, List.not_mem_nil, or_false] at hstep
    rcases hstep with rfl | rfl
    · trivial
    · intro q
      simp only [Query.limit, Query.clauses_modify]
  have hfinite : Number.isFinite 1.5 = true := by decide
  have hr := searchWith_usersModel .mysql (usersQuery.groupBy ["users.city"])
    { limit := 10, restriction := (·.restrict steps) } (by decide) (fun t ht => by cases ht) hfinite
  obtain ⟨hdefault, _, hsearch⟩ := grouping_of_search (usersSearcher .mysql) usersModel
  obtain ⟨compiled, inner, _, _, hinner, htop, hsteps⟩ :=
    hsearch _ _ _ _ _ (parse_usersTokens .mysql) hr
  obtain ⟨hgroups, hbase⟩ := hsteps steps rfl
  rw [hbase hkept, ← hgrouping] at hgroups
  exact ⟨rfl, (hdefault rfl _).2 hgrouping, rfl,
    (grouping_of_search (usersSearcher .mysql) teamsModel).2.1 _ rfl, _, inner, hr, hinner, htop, hgroups⟩

/-- A joined table may be named by a path, a column may be searched in two ways, and the key may belong
to a joined table; columns of the model's own table are not grouped, joined or not. -/
example :
    { table := "users", key := "posts.id",
      search :=
        { columns := .ofList [("name", 10.0), ("blog.posts.title", 5.0), ("posts.id", 1.0)]
          fulltextColumns := .ofList [("posts.body", 2.0), ("users.bio", 2.0), ("blog.posts.title", 2.0)]
          joins := .ofList [("users", {}), ("posts", {}), ("blog.posts", {})] } : Model }.grouping =
      ["posts.id", "blog.posts.title", "posts.body"] := by decide

end Searcher

end RelevanceSql
