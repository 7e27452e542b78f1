import RelevanceSql.Proofs.Nesting

/-!
# Pages of a search

A limit and an offset cut a page out of the rows that a level finds: the offset leaves out rows at the
start, and of the others the limit lets through as many as it says. A search gives the scored query a
limit of its own, but no offset of its own. An offset of the caller stays with the caller's query,
which is put on top, and it stays in the scored query as well (`offset_skipped_twice`): the best rows
are left out there already, and as many of the rest are left out once more on top. With a limit no
larger than the offset nothing comes out at all.
-/

namespace RelevanceSql

open RelevanceSql.Sql RelevanceSql.Search

/-! ## Rows that a level lets through -/

/-- Of the rows that a level finds, in their order, those that its offset and limit let through. -/
def Clauses.page {Row : Type} (c : Clauses) (rows : List Row) : List Row :=
  match c.limit with
  | some count => (rows.drop (c.offset.getD 0)).take count
  | none => rows.drop (c.offset.getD 0)

theorem Clauses.page_of_limit {Row : Type} {c : Clauses} {count : Nat} (h : c.limit = some count)
    (rows : List Row) : c.page rows = (rows.drop (c.offset.getD 0)).take count := by
  rw [page, h]

/-- A page has no more rows than are left behind the offset. -/
theorem Clauses.length_page_le {Row : Type} (c : Clauses) (rows : List Row) :
    (c.page rows).length ≤ rows.length - c.offset.getD 0 := by
  unfold page
  split
  · rw [List.length_take, List.length_drop]
    omega
  · exact Nat.le_of_eq List.length_drop

/-- Leaving out rows first gives the top rows of every list only if none are left out. -/
theorem take_drop_eq_take_iff {Row : Type} [Inhabited Row] {skipped count : Nat} (hcount : count ≠ 0) :
    (∀ rows : List Row, (rows.drop skipped).take count = rows.take count) ↔ skipped = 0 := by
  constructor
  · intro h
    -- of exactly as many rows as are wanted, each row that is left out is missing
    have hrows := congrArg List.length (h (List.replicate count default))
    simp only [List.length_take, List.length_drop, List.length_replicate] at hrows
    omega
  · rintro rfl rows
    rw [List.drop_zero]

/-! ## Offsets of levels -/

namespace Query

/-- The levels of a query that carry a given offset. -/
def levelsWithOffset (q : Query) (count : Nat) : List Query :=
  q.levels.filter fun level => level.clauses.offset = some count

variable {r inner base : Query}

/-- If a new level is put on top of a query and both have its offset, the offset is there twice. -/
theorem map_offset_levels (hlevels : r.levels = r :: inner :: base.levels.tail)
    (htop : r.clauses.offset = base.clauses.offset)
    (hinner : inner.clauses.offset = base.clauses.offset) :
    r.levels.map (·.clauses.offset) = base.clauses.offset :: base.levels.map (·.clauses.offset) := by
  rw [hlevels, levels_eq_cons base, List.map_cons, List.map_cons, List.map_cons, htop, hinner]
  rfl

theorem length_levelsWithOffset (q : Query) (count : Nat) :
    (q.levelsWithOffset count).length = (q.levels.map (·.clauses.offset)).count (some count) := by
  rw [levelsWithOffset, ← List.countP_eq_length_filter, List.count, List.countP_map]
  exact List.countP_congr fun level _ => by simp

end Query

namespace Searcher

variable {s : Searcher} {model : Model} {base : Query} {text : String} {tokens : Tokens}

/-- The scored query has the offset of the caller's query. -/
theorem offset_scored_compiledWith (s : Searcher) (model : Model) (base : Query) (tokens : Tokens)
    (joins : List Join) (limit : Nat) (threshold : Option Float) :
    ((s.compiledWith model base tokens joins limit threshold).scored s.dialect).clauses.offset =
      base.clauses.offset := by
  rw [CompiledQuery.clauses_scored, clauses_query_compiledWith]

/-- So has the query on top of it. -/
theorem offset_finalize (c : CompiledQuery) (base : Query) (d : Dialect) :
    (c.finalize base d).clauses.offset = base.clauses.offset := by
  rw [CompiledQuery.finalize_eq]
  rfl

/-- **An offset is skipped twice.** In a search with tokens, the offsets of the levels are those of the
caller's levels, and that of the outermost one stands there twice: on top, and in the scored query.
The scored query lets the top rows through exactly if that offset leaves out no rows. Otherwise it
leaves out as many of the best rows, and the level on top as many of those that remain. -/
theorem offset_skipped_twice (htokens : Tokens.parse text (s.cap model) = some tokens) {limit : Nat}
    {threshold : Option Float} {r : Query}
    (hr : s.searchWith model base text { limit := limit, threshold := threshold } = .ok r) :
    ∃ inner, r.inner? = some inner ∧
      r.levels.map (·.clauses.offset) = base.clauses.offset :: base.levels.map (·.clauses.offset) ∧
      (∀ count, base.clauses.offset = some count →
        (r.levelsWithOffset count).length = (base.levelsWithOffset count).length + 1) ∧
      ∀ {Row : Type} [Inhabited Row],
        (∀ rows : List Row,
          inner.clauses.page rows = (rows.drop (base.clauses.offset.getD 0)).take limit ∧
          (r.clauses.page (inner.clauses.page rows)).length ≤ limit - base.clauses.offset.getD 0) ∧
        ((∀ rows : List Row, inner.clauses.page rows = rows.take limit) ↔
          base.clauses.offset.getD 0 = 0) := by
  obtain ⟨hlimit, _, _, joins, _, _, hfinal⟩ := (searchWith_eq_ok_iff htokens).1 hr
  let c := s.compiledWith model base tokens joins limit threshold
  have hnested : NestedIn (c.finalize base s.dialect) (c.scored s.dialect) base model joins _ _ limit
      s.dialect := nestedIn_finalize s model base tokens joins limit threshold
  have hinner : (c.scored s.dialect).clauses.offset = base.clauses.offset :=
    offset_scored_compiledWith s model base tokens joins limit threshold
  have htop : r.clauses.offset = base.clauses.offset := by
    rw [← hfinal]
    exact offset_finalize c base s.dialect
  have hoffsets : r.levels.map (·.clauses.offset) =
      base.clauses.offset :: base.levels.map (·.clauses.offset) := by
    rw [← hfinal]
    exact Query.map_offset_levels hnested.levels (offset_finalize c base s.dialect) hinner
  have hpage : ∀ {Row : Type} (rows : List Row),
      (c.scored s.dialect).clauses.page rows = (rows.drop (base.clauses.offset.getD 0)).take limit := by
    intro Row rows
    rw [Clauses.page_of_limit hnested.inner_limit, hinner]
  refine ⟨c.scored s.dialect, ?_, hoffsets, ?_, ?_⟩
  · rw [← hfinal]
    exact hnested.top_inner?
  · intro count hcount
    rw [Query.length_levelsWithOffset, Query.length_levelsWithOffset, hoffsets, hcount,
      List.count_cons_self]
  · intro Row _
    refine ⟨fun rows => ⟨hpage rows, ?_⟩, ?_⟩
    · -- the scored query lets at most `limit` rows through, and the offset is taken off once more
      have hle := r.clauses.length_page_le ((c.scored s.dialect).clauses.page rows)
      have hcut : ((c.scored s.dialect).clauses.page rows).length ≤ limit := by
        rw [hpage]
        exact List.length_take_le _ _
      rw [htop] at hle
      omega
    · simp only [hpage]
      exact take_drop_eq_take_iff hlimit

theorem offset_skipped_twice_users :
    ∃ r inner, (usersSearcher .mysql).searchWith usersModel (usersQuery.offset 3) "Jo 'x?"
        { limit := 10, threshold := some 2.0 } = .ok r ∧ r.inner? = some inner ∧
      inner.clauses.page (List.range 20) = ((List.range 20).drop 3).take 10 := by
  have hr := searchWith_tenUsers .mysql (usersQuery.offset 3)
  obtain ⟨inner, hinner, _, _, hrows⟩ := offset_skipped_twice (parse_usersTokens .mysql) hr
  exact ⟨_, inner, hr, hinner, (hrows.1 (List.range 20)).1⟩

/-- Not one level but two carry the offset of the caller, and the best rows are left out below. -/
theorem offset_on_two_levels :
    ∃ r inner, (usersSearcher .mysql).searchWith usersModel ((Query.table "users").offset 5) "Jo 'x?"
        { limit := 10, threshold := some 2.0 } = .ok r ∧ r.inner? = some inner ∧
      (r.levelsWithOffset 5).length = 2 ∧ inner.clauses.page [1, 2, 3] ≠ [1, 2, 3].take 10 := by
  refine ⟨_, _, searchWith_tenUsers .mysql _, rfl, rfl, ?_⟩
  decide

end Searcher

end RelevanceSql
