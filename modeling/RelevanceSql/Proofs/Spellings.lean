import Mathlib.Data.List.Nodup
import RelevanceSql.Proofs.Outcome

/-!
# Two spellings of a column

A column of the table can be written alone or with the table in front, in the weights, in the grouping
and in the functions for columns. Everything that goes into a scored query has the table in front, and so
a specification and the one with all names written in full make the same queries (`searchWith_qualified`),
where both pass the checks. There are two exceptions. A function is looked up under the column as it is
written and then with the table in front, never without it, so that a function given for the bare name
does not reach a column written in full (`MissesFunction`). And a name is checked as it is written, so
that the table is checked only where it is written too.
-/

namespace RelevanceSql

open RelevanceSql.Sql RelevanceSql.Search RelevanceSql.Text

/-! ## Maps with other names -/

namespace OrderedMap

variable {α : Type}

/-- The map with other names for the same values. -/
def mapKeys (m : OrderedMap α) (f : String → String) : OrderedMap α :=
  ofList (m.entries.map fun e => (f e.1, e.2))

/-- If no two names become the same, each entry keeps its place and its value. -/
theorem entries_mapKeys {m : OrderedMap α} {f : String → String} (h : (m.keys.map f).Nodup) :
    (m.mapKeys f).entries = m.entries.map fun e => (f e.1, e.2) := by
  apply entries_ofList
  rw [keys, List.map_map] at h
  rw [List.map_map]
  exact h

end OrderedMap

/-! ## Names with the table in front -/

/-- Whether a name is written with a table. -/
def isDotted (name : String) : Bool := name.toList.contains '.'

/-- A name that is written with a table stays as it is. -/
theorem qualify_of_isDotted {name : String} (h : isDotted name = true) (table : String) :
    qualify table name = name := qualify_of_contains h table

/-- The table is put in front of a name that is written alone. -/
theorem qualify_of_not_isDotted {name : String} (h : isDotted name = false) (table : String) :
    qualify table name = table ++ "." ++ name := by
  rw [qualify]
  exact if_neg (by rw [isDotted] at h; rw [h]; decide)

/-- Two names of one column are the same, or one of them is the other with the table in front. -/
theorem qualify_eq_qualify_iff {table a b : String} :
    qualify table a = qualify table b ↔ a = b ∨ a = qualify table b ∨ b = qualify table a := by
  constructor
  · intro h
    -- a name that is written in full is the other one in full; otherwise both are written alone and the
    -- table is taken off
    cases ha : isDotted a with
    | true => exact Or.inr (Or.inl ((qualify_of_isDotted ha table).symm.trans h))
    | false =>
      cases hb : isDotted b with
      | true => exact Or.inr (Or.inr ((qualify_of_isDotted hb table).symm.trans h.symm))
      | false =>
        rw [qualify_of_not_isDotted ha, qualify_of_not_isDotted hb] at h
        exact Or.inl (String.append_right_inj _ |>.1 h)
  · rintro (rfl | rfl | rfl)
    · rfl
    · exact qualify_qualify table b
    · exact (qualify_qualify table a).symm

/-- A name in full is a path if the name and the table are. -/
theorem isIdentifierPath_qualify (table name : String) :
    isIdentifierPath (qualify table name) =
      (isIdentifierPath name && (isDotted name || isIdentifierPath table)) := by
  cases h : isDotted name with
  | true => rw [qualify_of_isDotted h, Bool.true_or, Bool.and_true]
  | false =>
    have hpoint : ".".toList = ['.'] := rfl
    -- the segments of the name come behind those of the table
    rw [qualify_of_not_isDotted h, Bool.false_or]
    unfold isIdentifierPath
    rw [String.toList_append, String.toList_append, hpoint, List.append_assoc, List.singleton_append,
      fields_append_sep rfl, List.all_append, Bool.and_comm]

/-! ## Specifications with names in full -/

/-- A grouping with all names in full. -/
def GroupBy.qualified (table : String) : GroupBy → GroupBy
  | .column name => .column (qualify table name)
  | .columns names => .columns (names.map (qualify table))

/-- The columns of a grouping are written in full before they are used, whatever they were written like. -/
theorem GroupBy.map_qualify_names_qualified (table : String) (groupBy : GroupBy) :
    (groupBy.qualified table).names.map (qualify table) = groupBy.names.map (qualify table) := by
  cases groupBy with
  | column name => simp only [qualified, names, List.map_cons, List.map_nil, qualify_qualify]
  | columns names => simp only [qualified, GroupBy.names, List.map_map, Function.comp_def, qualify_qualify]

/-- A specification with all names of columns in full. -/
def SearchSpec.qualified (spec : SearchSpec) (table : String) : SearchSpec :=
  { spec with
    columns := spec.columns.mapKeys (qualify table)
    fulltextColumns := spec.fulltextColumns.mapKeys (qualify table)
    groupBy := spec.groupBy.map (GroupBy.qualified table)
    mutations := spec.mutations.mapKeys (qualify table) }

/-- A model with all names of columns in full. -/
def Model.qualified (model : Model) : Model :=
  { model with search := model.search.qualified model.table }

/-- No two names of one map are the same in full. -/
structure DistinctInFull (spec : SearchSpec) (table : String) : Prop where
  columns : (spec.columns.keys.map (qualify table)).Nodup
  fulltextColumns : (spec.fulltextColumns.keys.map (qualify table)).Nodup
  mutations : (spec.mutations.keys.map (qualify table)).Nodup

/-- A function is given for a column, but for another spelling of it: the column is written in full, and
the function is given for the bare name. -/
def SearchSpec.MissesFunction (spec : SearchSpec) (table name : String) : Prop :=
  ∃ e ∈ spec.mutations.entries, name = qualify table e.1 ∧ name ≠ e.1

instance (spec : SearchSpec) (table name : String) : Decidable (spec.MissesFunction table name) :=
  inferInstanceAs (Decidable (∃ e ∈ spec.mutations.entries, name = qualify table e.1 ∧ name ≠ e.1))

namespace SearchSpec

variable {spec : SearchSpec} {table : String}

/-- One function at most is given for a column, whatever its name is written like. -/
theorem eq_of_qualify_eq (h : DistinctInFull spec table) {e e' : String × String}
    (he : e ∈ spec.mutations.entries) (he' : e' ∈ spec.mutations.entries)
    (heq : qualify table e.1 = qualify table e'.1) : e = e' := by
  have hdistinct := h.mutations
  rw [OrderedMap.keys, List.map_map] at hdistinct
  exact List.inj_on_of_nodup_map hdistinct he he' heq

/-- A column has the function that is given for its name as it is written or in full. -/
theorem mutation?_eq_some_iff (h : DistinctInFull spec table) {name function : String} :
    spec.mutation? name (qualify table name) = some function ↔
      (name, function) ∈ spec.mutations.entries ∨ (qualify table name, function) ∈ spec.mutations.entries := by
  rw [mutation?, Option.or_eq_some_iff, OrderedMap.get?_eq_some_iff, OrderedMap.get?_eq_some_iff]
  constructor
  · rintro (hname | ⟨_, hfull⟩)
    · exact Or.inl hname
    · exact Or.inr hfull
  · rintro (hname | hfull)
    · exact Or.inl hname
    · -- if both names have a function, it is one entry, since they are the same in full
      cases hget : spec.mutations.get? name with
      | none => exact Or.inr ⟨rfl, hfull⟩
      | some other =>
        have hother := OrderedMap.get?_eq_some_iff.1 hget
        have heq := eq_of_qualify_eq h hother hfull (qualify_qualify table name).symm
        exact Or.inl ((Prod.mk.inj heq).2 ▸ hother)

/-- Written in full, a column has the function that is given for any of its spellings. -/
theorem mutation?_qualified_eq_some_iff (h : DistinctInFull spec table) {name function : String} :
    (spec.qualified table).mutation? (qualify table name) (qualify table name) = some function ↔
      ∃ e ∈ spec.mutations.entries, qualify table e.1 = qualify table name ∧ e.2 = function := by
  have hentries : (spec.qualified table).mutations.entries =
      spec.mutations.entries.map fun e => (qualify table e.1, e.2) := OrderedMap.entries_mapKeys h.mutations
  rw [mutation?, Option.or_self, OrderedMap.get?_eq_some_iff, hentries, List.mem_map]
  simp only [Prod.mk.injEq]

/-- A function that a column misses is not applied to it, and it is once the names are in full. -/
theorem mutation?_of_missesFunction (h : DistinctInFull spec table) {name : String}
    (hmissed : spec.MissesFunction table name) :
    spec.mutation? name (qualify table name) = none ∧
      ∃ function, (spec.qualified table).mutation? (qualify table name) (qualify table name) =
        some function := by
  obtain ⟨e, he, hname, hne⟩ := hmissed
  have hfull : qualify table e.1 = qualify table name := by rw [hname, qualify_qualify]
  refine ⟨?_, e.2, (mutation?_qualified_eq_some_iff h).2 ⟨e, he, hfull, rfl⟩⟩
  by_contra hsome
  obtain ⟨function, hfunction⟩ := Option.ne_none_iff_exists'.1 hsome
  rw [mutation?_eq_some_iff h, ← hfull, ← hname, or_self] at hfunction
  -- the same function, found under the name in full
  have heq := eq_of_qualify_eq h he hfunction hfull
  exact hne (congrArg Prod.fst heq).symm

/-- Every other column has the same function in both specifications. -/
theorem mutation?_qualified (h : DistinctInFull spec table) {name : String}
    (hfound : ¬spec.MissesFunction table name) :
    (spec.qualified table).mutation? (qualify table name) (qualify table name) =
      spec.mutation? name (qualify table name) := by
  apply Option.ext
  intro function
  rw [mutation?_qualified_eq_some_iff h, mutation?_eq_some_iff h]
  constructor
  · rintro ⟨e, he, heq, rfl⟩
    -- the entry is for this spelling, for the name in full, or for the bare name; the last is what would be
    -- missed
    rcases qualify_eq_qualify_iff.1 heq with hsame | hfull | hbare
    · exact Or.inl (hsame ▸ he)
    · exact Or.inr (hfull ▸ he)
    · by_cases hne : name = e.1
      · exact Or.inl (hne ▸ he)
      · exact absurd ⟨e, he, hbare, hne⟩ hfound
  · rintro (hname | hfull)
    · exact ⟨_, hname, rfl, rfl⟩
    · exact ⟨_, hfull, qualify_qualify table name, rfl⟩

/-- A column is written the same way in both specifications, unless it misses a function. -/
theorem reference_qualified_iff (h : DistinctInFull spec table) (d : Dialect) {name : String} :
    (spec.qualified table).reference d (qualify table name) (qualify table name) =
        spec.reference d name (qualify table name) ↔
      ¬spec.MissesFunction table name := by
  constructor
  · intro heq hmissed
    obtain ⟨hnone, function, hsome⟩ := mutation?_of_missesFunction h hmissed
    rw [reference, reference, hnone, hsome] at heq
    -- a function makes the text longer
    have hlength := congrArg String.length heq
    simp only [String.length_append] at hlength
    have hopen : "(".length = 1 := rfl
    omega
  · intro hfound
    rw [reference, reference, mutation?_qualified h hfound]

theorem entries_columns_qualified (h : DistinctInFull spec table) :
    (spec.qualified table).columns.entries = spec.columns.entries.map fun e => (qualify table e.1, e.2) :=
  OrderedMap.entries_mapKeys h.columns

theorem entries_fulltextColumns_qualified (h : DistinctInFull spec table) :
    (spec.qualified table).fulltextColumns.entries =
      spec.fulltextColumns.entries.map fun e => (qualify table e.1, e.2) :=
  OrderedMap.entries_mapKeys h.fulltextColumns

theorem entries_mutations_qualified (h : DistinctInFull spec table) :
    (spec.qualified table).mutations.entries =
      spec.mutations.entries.map fun e => (qualify table e.1, e.2) :=
  OrderedMap.entries_mapKeys h.mutations

/-- The searched columns of both kinds keep their order and their weights. -/
theorem weightedColumns_qualified (h : DistinctInFull spec table) :
    (spec.qualified table).weightedColumns =
      spec.weightedColumns.map fun e => (qualify table e.1, e.2) := by
  rw [weightedColumns, entries_columns_qualified h, entries_fulltextColumns_qualified h, ← List.map_append]
  rfl

end SearchSpec

/-! ## Scored queries -/

/-- A full-text term is written for the name in full. -/
theorem fullTextTerm_qualified (table : String) (d : Dialect) (tokens : Tokens) (entry : String × Float) :
    fullTextTerm table d tokens (qualify table entry.1, entry.2) = fullTextTerm table d tokens entry := by
  simp only [fullTextTerm, qualify_qualify]

section Scores

variable {spec : SearchSpec} {table : String} (h : DistinctInFull spec table)
include h

/-- The terms of a column are written for its name in full, and with its function. -/
theorem columnTerms_qualified (d : Dialect) (tokens : Tokens) (matchers : MatcherSet)
    {entry : String × Float} (hfound : ¬spec.MissesFunction table entry.1) :
    columnTerms (spec.qualified table) table d tokens matchers (qualify table entry.1, entry.2) =
      columnTerms spec table d tokens matchers entry := by
  simp only [columnTerms, qualify_qualify]
  rw [(SearchSpec.reference_qualified_iff h d).2 hfound]

/-- Both specifications have the same score if no column misses a function. -/
theorem build_qualified (hfound : ∀ e ∈ spec.columns.entries, ¬spec.MissesFunction table e.1)
    (tokens : Tokens) (matchers : MatcherSet) (d : Dialect) :
    Score.build (spec.qualified table) table tokens matchers d = Score.build spec table tokens matchers d := by
  have hcolumns := SearchSpec.entries_columns_qualified h
  -- the threshold counts the columns, and their number stays the same
  have hsize : (spec.qualified table).columns.size = spec.columns.size := by
    rw [OrderedMap.size, hcolumns, List.length_map]
    rfl
  have hterms : spec.columns.entries.flatMap (fun e =>
        columnTerms (spec.qualified table) table d tokens (matchers.applicable tokens.count d)
          (qualify table e.1, e.2)) =
      spec.columns.entries.flatMap
        (columnTerms spec table d tokens (matchers.applicable tokens.count d)) := by
    apply List.flatMap_congr
    intro e he
    exact columnTerms_qualified h d tokens _ (hfound e he)
  simp only [Score.build, hsize, SearchSpec.weightedColumns_qualified h, hcolumns,
    SearchSpec.entries_fulltextColumns_qualified h, List.foldl_map, List.flatMap_map, List.map_map,
    Function.comp_def, fullTextTerm_qualified, hterms]

end Scores

/-- Both specifications group the rows by the same columns. -/
theorem grouping_qualified {model : Model} (h : DistinctInFull model.search model.table) :
    model.qualified.grouping = model.grouping := by
  have hgroup : model.qualified.search.groupBy = model.search.groupBy.map (GroupBy.qualified model.table) :=
    rfl
  have hnames : (model.search.qualified model.table).weightedColumns.map (fun e => qualify model.table e.1) =
      model.search.weightedColumns.map fun e => qualify model.table e.1 := by
    rw [SearchSpec.weightedColumns_qualified h, List.map_map]
    simp only [Function.comp_def, qualify_qualify]
  unfold Model.grouping
  rw [hgroup]
  cases model.search.groupBy with
  | some groupBy => exact GroupBy.map_qualify_names_qualified model.table groupBy
  | none =>
    -- a joined column is one of a table that is joined, and the joins are the same
    show ((model.search.qualified model.table).weightedColumns.map
      fun e => qualify model.table e.1).foldl _ _ = _
    rw [hnames]
    rfl

/-! ## Faults -/

/-- A fault of a specification, with its column in full. -/
def ConfigFault.qualified (table : String) : ConfigFault → ConfigFault
  | .invalidColumn column => .invalidColumn (qualify table column)
  | .negativeWeight name weight => .negativeWeight (qualify table name) weight
  | .invalidMutation column function => .invalidMutation (qualify table column) function
  | fault => fault

/-- A fault of a search, with its column in full. -/
def SearchFault.qualified (table : String) : SearchFault → SearchFault
  | .config fault => .config (fault.qualified table)
  | fault => fault

/-- A column in full has the fault that it had, unless the table is written now and is no path. -/
theorem columnFault?_qualify {table : String} {entry : String × Float}
    (hpath : isDotted entry.1 = true ∨ isIdentifierPath table = true) :
    columnFault? (qualify table entry.1, entry.2) = (columnFault? entry).map (ConfigFault.qualified table) := by
  have hwhole : (isDotted entry.1 || isIdentifierPath table) = true := by
    rw [Bool.or_eq_true]
    exact hpath
  unfold columnFault?
  rw [isIdentifierPath_qualify, hwhole, Bool.and_true]
  split
  · rfl
  · split <;> rfl

/-- Whether a function is refused depends on the function and not on the column. -/
theorem mutationFault?_qualify (table : String) (entry : String × String) :
    mutationFault? (qualify table entry.1, entry.2) =
      (mutationFault? entry).map (ConfigFault.qualified table) := by
  unfold mutationFault?
  split <;> rfl

/-- Two searches through one list that agree on each element find corresponding results. -/
theorem findSome?_eq_map {α β γ : Type} {f : α → Option β} {g : α → Option γ} {k : β → γ} {xs : List α}
    (h : ∀ x ∈ xs, g x = (f x).map k) : xs.findSome? g = (xs.findSome? f).map k := by
  induction xs with
  | nil => rfl
  | cons x xs ih =>
    rw [List.findSome?_cons, List.findSome?_cons, h x (by simp), ih fun y hy => h y (by simp [hy])]
    cases f x <;> rfl

namespace SearchSpec

variable {spec : SearchSpec} {table : String}

/-- The first fault is the same, but for the name, where the table is a path or is written already. -/
theorem fault?_qualified (h : DistinctInFull spec table)
    (hpath : ∀ e ∈ spec.weightedColumns, isDotted e.1 = true ∨ isIdentifierPath table = true) :
    (spec.qualified table).fault? = spec.fault?.map (ConfigFault.qualified table) := by
  have hcolumns : (spec.qualified table).weightedColumns.findSome? columnFault? =
      (spec.weightedColumns.findSome? columnFault?).map (ConfigFault.qualified table) := by
    rw [weightedColumns_qualified h, List.findSome?_map]
    refine findSome?_eq_map fun e he => ?_
    rw [Function.comp_apply, columnFault?_qualify (hpath e he)]
  have hmutations : (spec.qualified table).mutations.entries.findSome? mutationFault? =
      (spec.mutations.entries.findSome? mutationFault?).map (ConfigFault.qualified table) := by
    rw [entries_mutations_qualified h, List.findSome?_map]
    refine findSome?_eq_map fun e _ => ?_
    rw [Function.comp_apply, mutationFault?_qualify]
  have hcap : (spec.qualified table).maxWords = spec.maxWords := rfl
  simp only [fault?, hcolumns, hmutations, hcap]
  -- the cap is looked at last, and its fault names no column
  cases spec.weightedColumns.findSome? columnFault? with
  | some fault => rfl
  | none =>
    cases spec.mutations.entries.findSome? mutationFault? with
    | some fault => rfl
    | none =>
      simp only [Option.map_none, Option.none_or]
      split <;> rfl

/-- A table that is no path is no fault as long as it is not written. -/
theorem fault?_qualified_ne_none (h : DistinctInFull spec table) (hpath : isIdentifierPath table = false)
    {e : String × Float} (he : e ∈ spec.weightedColumns) (hbare : isDotted e.1 = false) :
    (spec.qualified table).fault? ≠ none := by
  intro hnone
  rw [fault?, Option.or_eq_none_iff, List.findSome?_eq_none_iff, weightedColumns_qualified h] at hnone
  have hcolumn := hnone.1 _ (List.mem_map_of_mem he)
  -- the name is a path only if the table in front of it is one
  have hrefused : isIdentifierPath (qualify table e.1) = false := by
    rw [isIdentifierPath_qualify, hbare, hpath, Bool.or_self, Bool.and_false]
  unfold columnFault? at hcolumn
  rw [hrefused] at hcolumn
  cases hcolumn

theorem joinClauses_qualified (spec : SearchSpec) (table : String) :
    (spec.qualified table).joinClauses = spec.joinClauses := rfl

end SearchSpec

/-! ## Searches -/

/-- Changing the faults of a chain is changing those of its steps. -/
theorem mapError_bind {ε ε' α β : Type} (g : ε → ε') (x : Except ε α) (f : α → Except ε β) :
    (x >>= f).mapError g = x.mapError g >>= fun a => (f a).mapError g := by
  cases x <;> rfl

/-- A check that has nothing to do with columns has the same fault for every spelling. -/
theorem mapError_checkLimit (table : String) (limit : Nat) :
    (checkLimit limit).mapError (SearchFault.qualified table) = checkLimit limit := by
  unfold checkLimit
  split <;> rfl

theorem mapError_checkThreshold (table : String) (threshold : Float) :
    (checkThreshold threshold).mapError (SearchFault.qualified table) = checkThreshold threshold := by
  unfold checkThreshold
  split <;> rfl

theorem mapError_forM_checkThreshold (table : String) (threshold : Option Float) :
    (threshold.forM checkThreshold).mapError (SearchFault.qualified table) =
      threshold.forM checkThreshold := by
  cases threshold with
  | none => rfl
  | some threshold => exact mapError_checkThreshold table threshold

theorem mapError_configResult_validate {spec qualified : SearchSpec} {table : String}
    (h : qualified.fault? = spec.fault?.map (ConfigFault.qualified table)) :
    (configResult spec.validate).mapError (SearchFault.qualified table) = configResult qualified.validate := by
  rw [SearchSpec.validate, SearchSpec.validate, h]
  cases spec.fault? <;> rfl

/-- The fault of a join names a table, so that it has nothing to do with columns. -/
theorem mapError_configResult_joinClauses (table : String) (spec : SearchSpec) :
    (configResult spec.joinClauses).mapError (SearchFault.qualified table) =
      configResult spec.joinClauses := by
  cases h : spec.joinFault? with
  | none =>
    obtain ⟨joins, hjoins⟩ := SearchSpec.exists_joinClauses_of_joinFault? h
    rw [hjoins]
    rfl
  | some fault =>
    obtain ⟨_, _, _, _, _, _, _, _, _, rfl⟩ := SearchSpec.joinFault?_eq_some_iff.1 h
    rw [SearchSpec.joinClauses_eq_error h]
    rfl

namespace Searcher

variable {model : Model}

/-- Both spellings come to the same scored query if no column misses a function. -/
theorem compiledWith_qualified (h : DistinctInFull model.search model.table)
    (hfound : ∀ e ∈ model.search.columns.entries, ¬model.search.MissesFunction model.table e.1)
    (s : Searcher) (base : Query) (tokens : Tokens) (joins : List Join) (limit : Nat)
    (threshold : Option Float) :
    s.compiledWith model.qualified base tokens joins limit threshold =
      s.compiledWith model base tokens joins limit threshold := by
  have hscore : s.score model.qualified tokens = s.score model tokens :=
    build_qualified h hfound tokens s.matchers s.dialect
  have htable : model.qualified.table = model.table := rfl
  simp only [compiledWith, hscore, htable, grouping_qualified h]

/-- Both spellings end alike: in the same query, or in the same fault of the same column. -/
theorem searchWith_qualified_eq (h : DistinctInFull model.search model.table)
    (hpath : ∀ e ∈ model.search.weightedColumns,
      isDotted e.1 = true ∨ isIdentifierPath model.table = true)
    (hfound : ∀ e ∈ model.search.columns.entries, ¬model.search.MissesFunction model.table e.1)
    (s : Searcher) (base : Query) (text : String) (options : SearchOptions) :
    s.searchWith model.qualified base text options =
      (s.searchWith model base text options).mapError (SearchFault.qualified model.table) := by
  have hvalid : (configResult model.search.validate).mapError (SearchFault.qualified model.table) =
      configResult model.qualified.search.validate :=
    mapError_configResult_validate (SearchSpec.fault?_qualified h hpath)
  have hjoins := mapError_configResult_joinClauses model.table model.search
  have hpure : ∀ q : Query, (pure q : Except SearchFault Query).mapError
      (SearchFault.qualified model.table) = pure q := fun _ => rfl
  -- both spellings have the same tokens, and then the same checks in the same order
  cases htokens : Tokens.parse text (s.cap model) with
  | none =>
    have hqualified : Tokens.parse text (s.cap model.qualified) = none := htokens
    rw [searchWith_eq_bind_of_none htokens, searchWith_eq_bind_of_none hqualified]
    simp only [mapError_bind, mapError_checkLimit, mapError_forM_checkThreshold, hvalid, hpure]
  | some tokens =>
    have hqualified : Tokens.parse text (s.cap model.qualified) = some tokens := htokens
    have hclauses : model.qualified.search.joinClauses = model.search.joinClauses :=
      SearchSpec.joinClauses_qualified model.search model.table
    rw [searchWith_eq_bind htokens, searchWith_eq_bind hqualified]
    simp only [mapError_bind, mapError_checkLimit, mapError_forM_checkThreshold, hvalid, hjoins,
      mapError_checkThreshold, hpure, hclauses, compiledWith_qualified h hfound]

/-- Only with a specification without faults a search succeeds, whether or not the text has tokens. -/
theorem fault?_eq_none_of_searchWith {s : Searcher} {base : Query} {text : String} {options : SearchOptions}
    {r : Query} (hr : s.searchWith model base text options = .ok r) : model.search.fault? = none := by
  cases htokens : Tokens.parse text (s.cap model) with
  | none =>
    rw [searchWith_eq_bind_of_none htokens] at hr
    simp only [bind_eq_ok, configResult_eq_ok_iff, validate_eq_ok_iff] at hr
    obtain ⟨_, _, _, _, _, hfault, _⟩ := hr
    exact hfault
  | some tokens =>
    obtain ⟨_, _, hfault, _⟩ := (searchWith_eq_ok_iff htokens).1 hr
    exact hfault

/-- With a table that is no path, a search is refused as soon as the table is written. -/
theorem searchWith_qualified_ne_ok (h : DistinctInFull model.search model.table)
    (hpath : isIdentifierPath model.table = false)
    (hbare : ∃ e ∈ model.search.weightedColumns, isDotted e.1 = false)
    (s : Searcher) (base : Query) (text : String) (options : SearchOptions) (r : Query) :
    s.searchWith model.qualified base text options ≠ .ok r := by
  obtain ⟨e, he, hbare⟩ := hbare
  exact fun hr => SearchSpec.fault?_qualified_ne_none h hpath he hbare (fault?_eq_none_of_searchWith hr)

/-- **Spellings of columns.** A column has the function that is given for its name as it is written or
in full. So it is written alike in a specification and in the one with all names in full, unless it is
written in full and the function is given for the bare name: then it has no function in the one and has
one in the other. If no searched column is such, and the table is a path or not needed, all searches end
alike in both, in the same query or in the same fault of the same column. If the table is needed and no
path, no search with the names in full succeeds. -/
theorem searchWith_spellings (h : DistinctInFull model.search model.table) :
    (∀ name function, model.search.mutation? name (qualify model.table name) = some function ↔
      (name, function) ∈ model.search.mutations.entries ∨
        (qualify model.table name, function) ∈ model.search.mutations.entries) ∧
    (∀ d name, (model.qualified.search.reference d (qualify model.table name) (qualify model.table name) =
        model.search.reference d name (qualify model.table name) ↔
      ¬model.search.MissesFunction model.table name)) ∧
    (∀ name, model.search.MissesFunction model.table name →
      model.search.mutation? name (qualify model.table name) = none ∧
        ∃ function, model.qualified.search.mutation? (qualify model.table name)
          (qualify model.table name) = some function) ∧
    ((∀ e ∈ model.search.columns.entries, ¬model.search.MissesFunction model.table e.1) →
      (isIdentifierPath model.table = true ∨ ∀ e ∈ model.search.weightedColumns, isDotted e.1 = true) →
        ∀ (s : Searcher) base text options,
          s.searchWith model.qualified base text options =
            (s.searchWith model base text options).mapError (SearchFault.qualified model.table)) ∧
    (isIdentifierPath model.table = false → (∃ e ∈ model.search.weightedColumns, isDotted e.1 = false) →
      ∀ (s : Searcher) base text options r, s.searchWith model.qualified base text options ≠ .ok r) := by
  refine ⟨fun name function => SearchSpec.mutation?_eq_some_iff h,
    fun d name => SearchSpec.reference_qualified_iff h d,
    fun name hmissed => SearchSpec.mutation?_of_missesFunction h hmissed,
    fun hfound htable s base text options => searchWith_qualified_eq h (fun e he => ?_) hfound s base text
      options,
    fun hpath hbare s base text options r => searchWith_qualified_ne_ok h hpath hbare s base text options r⟩
  rcases htable with hpath | hdotted
  · exact Or.inr hpath
  · exact Or.inl (hdotted e he)

/-- One column that is written alone, with its function given for the name in full, and one of another
table. -/
def mixedModel : Model where
  table := "users"
  search :=
    { columns := .ofList [("name", 10.0), ("posts.title", 5.0)]
      groupBy := some (.columns ["id", "posts.id"])
      mutations := .ofList [("users.name", "TRIM")] }

/-- A function that is given in full reaches the column that is written alone. -/
theorem searchWith_spellings_mixed :
    DistinctInFull mixedModel.search mixedModel.table ∧
    ∃ r, (usersSearcher .mysql).searchWith mixedModel usersQuery "Jo 'x?"
        { limit := 10, threshold := some 2.0 } = .ok r ∧
      (usersSearcher .mysql).searchWith mixedModel.qualified usersQuery "Jo 'x?"
        { limit := 10, threshold := some 2.0 } = .ok r := by
  have hdistinct : DistinctInFull mixedModel.search mixedModel.table := ⟨by decide, by decide, by decide⟩
  have hfinite : Number.isFinite 2.0 = true := by decide
  have htokens : Tokens.parse "Jo 'x?" ((usersSearcher .mysql).cap mixedModel) = some usersTokens :=
    parse_usersTokens .mysql
  have hsearch : ∃ r, (usersSearcher .mysql).searchWith mixedModel usersQuery "Jo 'x?"
      { limit := 10, threshold := some 2.0 } = .ok r :=
    ⟨_, (searchWith_eq_ok_iff htokens).2
      ⟨by decide, isFinite_of_some_eq_some hfinite, by decide, [], rfl, hfinite, rfl⟩⟩
  obtain ⟨r, hr⟩ := hsearch
  -- all names of this model are paths, and none is written in full with its function bare
  obtain ⟨_, _, _, hsame, _⟩ := searchWith_spellings hdistinct
  refine ⟨hdistinct, r, hr, ?_⟩
  rw [hsame (by decide) (Or.inl (by decide)), hr]
  rfl

/-- A column that is written in full, with its function given for the bare name. -/
def missingModel : Model where
  table := "users"
  search := { columns := .ofList [("users.phone", 10.0)], mutations := .ofList [("phone", "TRIM")] }

/-- The function is applied where its name is in full, and it is not where its name is bare. -/
theorem function_missed :
    DistinctInFull missingModel.search "users" ∧ ∃ s : Searcher, ∃ r r',
      s.searchWith missingModel (.table "users") "jo" { threshold := some 12.5 } = .ok r ∧
      s.searchWith missingModel.qualified (.table "users") "jo" { threshold := some 12.5 } = .ok r' ∧
      missingModel.search.mutation? "users.phone" "users.phone" = none ∧
      missingModel.qualified.search.mutation? "users.phone" "users.phone" = some "TRIM" ∧
      r.render .mysql ≠ r'.render .mysql := by
  have hfinite : Number.isFinite 12.5 = true := by decide
  have htokens : Tokens.parse "jo" 5 = some ⟨["jo"], by decide⟩ := by decide
  let s : Searcher := ⟨[(.startOfString, 50.0)], 5, .mysql⟩
  refine ⟨⟨by decide, by decide, by decide⟩, s, _, _,
    (searchWith_eq_ok_iff htokens).2
      ⟨by decide, isFinite_of_some_eq_some hfinite, by decide, [], rfl, hfinite, rfl⟩,
    (searchWith_eq_ok_iff htokens).2
      ⟨by decide, isFinite_of_some_eq_some hfinite, by decide, [], rfl, hfinite, rfl⟩,
    by decide, by decide, ?_⟩
  decide +kernel

end Searcher

end RelevanceSql
