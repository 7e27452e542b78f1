import RelevanceSql.Proofs.BooleanSql
import RelevanceSql.Proofs.Searching

/-!
# Filters

Which rows the WHERE clause and the HAVING clause of a query let through. A condition in SQL stands in
parentheses in the WHERE clause, so that the clause holds exactly if all its conditions hold
(`Clauses.lets_renderWheres`). In the HAVING clause it stands as it is. There the conditions are joined
as units only as long as no `OR` cuts one of them (`Clauses.lets_renderHavings`). The condition on the
relevance comes last: behind a condition with an `OR` it is joined with what follows that `OR`, and
rows for which the rest of the condition holds come through whatever their relevance
(`CompiledQuery.lets_havings_scored_of_or`). Where the relevance is compared on top of the scored
query, no row gets past (`CompiledQuery.lets_wheres_finalize`).
-/

namespace RelevanceSql

open RelevanceSql.Sql

/-! ## Conditions -/

/-- A condition as it stands alone. -/
def Condition.text (d : Dialect) : Condition → String
  | .raw sql => sql
  | .equals column => d.quoteIdentifier column ++ " = ?"
  | .member column count => renderMember (d.quoteIdentifier column) count

/-- A condition that can be read and that nothing cuts. -/
def Uncut (sql : String) : Prop := Readable sql ∧ ∀ c, ¬CutAt c sql

theorem uncut_of_reads {sql : String} {ps : List Piece} (h : Reads sql ps)
    (hps : ∀ c, .connective c ∉ ps) : Uncut sql :=
  ⟨⟨ps, h⟩, fun c hcut => hps c ((cutAt_iff h).1 hcut)⟩

theorem uncut_of_allOther {sql : String} {ls : List Lexeme} (h : lexemes? sql = some ls)
    (hls : AllOther ls) : Uncut sql := by
  obtain ⟨ps, hreads, hps⟩ := reads_of_allOther h hls
  exact uncut_of_reads hreads hps

/-- Uncut conditions in a row, of which the second begins with a blank or a parenthesis. -/
theorem Sql.Reads.append {s t : String} {ps qs : List Piece} (hs : Reads s ps) (ht : Reads t qs)
    (hapart : BeginsApart t) : Reads (s ++ t) (ps ++ qs) := by
  refine ⟨?_, allClosed_append hs.2 ht.2⟩
  rw [lexemesOf_append]
  exact lexemes?_append hs.1 ht.1 hapart

theorem Uncut.append {s t : String} (hs : Uncut s) (ht : Uncut t) (hapart : BeginsApart t) :
    Uncut (s ++ t) := by
  obtain ⟨⟨ps, hps⟩, hscut⟩ := hs
  obtain ⟨⟨qs, hqs⟩, htcut⟩ := ht
  refine uncut_of_reads (hps.append hqs hapart) fun c hmem => ?_
  rcases List.mem_append.1 hmem with hmem | hmem
  · exact hscut c ((cutAt_iff hps).2 hmem)
  · exact htcut c ((cutAt_iff hqs).2 hmem)

theorem uncut_quoteIdentifier (d : Dialect) (name : String) : Uncut (d.quoteIdentifier name) := by
  obtain ⟨ls, hls, hother⟩ := lexemes?_quoteIdentifier d name
  exact uncut_of_allOther hls hother

theorem uncut_equals (d : Dialect) (column : String) : Uncut (d.quoteIdentifier column ++ " = ?") := by
  have hvalue : lexemes? " = ?" = some [.other ['='], .other ['?']] := by decide
  exact (uncut_quoteIdentifier d column).append
    (uncut_of_allOther hvalue ((allOther_singleton _).append (allOther_singleton _))) (by decide)

/-- A list of placeholders. -/
theorem lexemes?_placeholders (count : Nat) :
    ∃ ls, lexemes? (", ".intercalate (List.replicate count "?")) = some ls ∧ AllOther ls := by
  induction count with
  | zero => exact ⟨[], by decide, allOther_nil⟩
  | succ count ih =>
    obtain ⟨ls, hls, hother⟩ := ih
    cases count with
    | zero => exact ⟨[.other ['?']], by decide, allOther_singleton _⟩
    | succ count =>
      have hfirst : LexState.run .outside "?, ".toList = ([.other ['?'], .other [',']], .outside) := by
        decide
      rw [List.replicate_succ, List.replicate_succ, String.intercalate_cons_cons, ← List.replicate_succ]
      exact ⟨_, lexemes?_append_of_outside hfirst hls,
        ((allOther_singleton _).append (allOther_singleton _)).append hother⟩

theorem uncut_renderMember (d : Dialect) (column : String) (count : Nat) :
    Uncut (renderMember (d.quoteIdentifier column) count) := by
  unfold renderMember
  split
  · have hnever : lexemes? "1 = 0" = some [.other ['1'], .other ['='], .other ['0']] := by decide
    exact uncut_of_allOther hnever
      ((allOther_singleton _).append ((allOther_singleton _).append (allOther_singleton _)))
  · obtain ⟨ls, hls, hother⟩ := lexemes?_placeholders count
    obtain ⟨ps, hps, _⟩ := reads_of_allOther hls hother
    have hin : LexState.run .outside " IN ".toList = ([.other ['I', 'N']], .outside) := by decide
    have hopen : " IN (" = " IN " ++ "(" := by decide
    have hlist := reads_parenthesized hps
    have hmember : Reads (" IN " ++ ("(" ++ ", ".intercalate (List.replicate count "?") ++ ")"))
        (.other ['I', 'N'] :: [.group .parentheses ps]) :=
      ⟨lexemes?_append_of_outside hin hlist.1, trivial, hlist.2⟩
    have hapart : BeginsApart " IN " := by decide
    have hall := (uncut_quoteIdentifier d column).append (uncut_of_reads hmember (by simp))
      (hapart.append _)
    rw [hopen]
    simpa only [String.append_assoc] using hall

/-- As it is rendered no condition is cut, and it holds as it does alone. -/
theorem Condition.uncut_render (d : Dialect) {w : Condition} (h : ∀ sql, w = .raw sql → Readable sql) :
    Uncut (w.render d) ∧ ∀ v, Holds v (w.render d) ↔ Holds v (w.text d) := by
  cases w with
  | raw sql =>
    obtain ⟨hreadable, huncut, hholds⟩ := holds_parenthesized (h sql rfl)
    exact ⟨⟨hreadable, huncut⟩, hholds⟩
  | equals column => exact ⟨uncut_equals d column, fun _ => Iff.rfl⟩
  | member column count => exact ⟨uncut_renderMember d column count, fun _ => Iff.rfl⟩

/-- A condition that compares something with a number. -/
theorem uncut_atLeast {sql : String} (h : Uncut sql) (threshold : Float) :
    Uncut (sql ++ " >= " ++ Number.literal threshold) := by
  obtain ⟨ls, hls, hother⟩ := lexemes?_literal threshold
  have hsign : LexState.run .outside " >= ".toList = ([.other ['>'], .other ['=']], .outside) := by
    decide
  have hnumber : Uncut (" >= " ++ Number.literal threshold) :=
    uncut_of_allOther (lexemes?_append_of_outside hsign hls)
      (((allOther_singleton _).append (allOther_singleton _)).append hother)
  have hapart : BeginsApart " >= " := by decide
  rw [String.append_assoc]
  exact h.append hnumber (hapart.append _)

theorem uncut_havingCondition (d : Dialect) (threshold : Float) : Uncut (havingCondition d threshold) :=
  uncut_atLeast (uncut_quoteIdentifier d relevanceName) threshold

theorem uncut_outerCondition (d : Dialect) (table : String) (threshold : Float) :
    Uncut (outerCondition d table threshold) := by
  have htype : Reads " AS DECIMAL(10,2)"
      [.other "AS".toList, .other "DECIMAL".toList,
        .group .parentheses [.other "10".toList, .other [','], .other "2".toList]] :=
    ⟨by decide, by simp [AllClosed, Piece.Closed, Piece.head, Bracket.closing]⟩
  have hcast : Reads "CAST" [.other "CAST".toList] := ⟨by decide, trivial, trivial⟩
  obtain ⟨⟨ps, hps⟩, _⟩ := (uncut_quoteIdentifier d (table ++ "." ++ relevanceName)).append
    (uncut_of_reads htype (by simp)) (by decide)
  have hopen : BeginsApart "(" := by decide
  have hparts := hcast.append (reads_parenthesized hps) ((hopen.append _).append _)
  have hall := uncut_atLeast (uncut_of_reads hparts (by simp)) threshold
  -- the pieces are cut differently here, with the parentheses on their own
  have htext : outerCondition d table threshold =
      "CAST" ++
        ("(" ++ (d.quoteIdentifier (table ++ "." ++ relevanceName) ++ " AS DECIMAL(10,2)") ++ ")") ++
        " >= " ++ Number.literal threshold := by
    have hfront : "CAST(" = "CAST" ++ "(" := by decide
    have hback : " AS DECIMAL(10,2)) >= " = " AS DECIMAL(10,2)" ++ ")" ++ " >= " := by decide
    rw [outerCondition, hfront, hback]
    simp only [String.append_assoc]
  rw [htext]
  exact hall

/-! ## Clauses -/

/-- Whether a clause lets a row through: there is none, or the condition behind its keyword holds. -/
def Lets (v : Assignment) (keyword clause : String) : Prop :=
  clause = "" ∨ ∃ condition, clause = keyword ++ condition ∧ Holds v condition

theorem lets_renderClause {keyword : String} (hkeyword : keyword ≠ "") {entries : List String}
    (hne : entries ≠ []) (v : Assignment) :
    Lets v keyword (renderClause keyword " AND " entries) ↔ Holds v (" AND ".intercalate entries) := by
  rw [renderClause, if_neg hne]
  constructor
  · rintro (hempty | ⟨condition, htext, hholds⟩)
    · exact absurd (String.append_eq_empty_iff.1 hempty).1 hkeyword
    · rw [String.append_right_inj] at htext
      rw [htext]
      exact hholds
  · exact fun hholds => Or.inr ⟨_, rfl, hholds⟩

/-- A clause of conditions that no `OR` cuts lets a row through if all its conditions hold. -/
theorem lets_renderClause_of_uncut {keyword : String} (hkeyword : keyword ≠ "") {entries : List String}
    (h : ∀ s ∈ entries, Readable s ∧ ¬CutAt .or s) (v : Assignment) :
    Lets v keyword (renderClause keyword " AND " entries) ↔ ∀ s ∈ entries, Holds v s := by
  by_cases hne : entries = []
  · subst hne
    simp [Lets, renderClause]
  · rw [lets_renderClause hkeyword hne]
    exact (holds_intercalate_and hne h).2.2 v

namespace Clauses

/-- The WHERE clause lets a row through if all conditions hold. -/
theorem lets_renderWheres (d : Dialect) {c : Clauses}
    (h : ∀ sql, Condition.raw sql ∈ c.wheres → Readable sql) (v : Assignment) :
    Lets v " WHERE " (c.renderWheres d) ↔ ∀ w ∈ c.wheres, Holds v (w.text d) := by
  have hrender : ∀ w ∈ c.wheres,
      Uncut (w.render d) ∧ ∀ v, Holds v (w.render d) ↔ Holds v (w.text d) := by
    intro w hw
    refine Condition.uncut_render d fun sql heq => ?_
    subst heq
    exact h sql hw
  have huncut : ∀ s ∈ c.wheres.map (Condition.render d), Readable s ∧ ¬CutAt .or s := by
    intro s hs
    obtain ⟨w, hw, rfl⟩ := List.mem_map.1 hs
    exact ⟨(hrender w hw).1.1, (hrender w hw).1.2 .or⟩
  rw [renderWheres, lets_renderClause_of_uncut (by decide) huncut, List.forall_mem_map]
  exact forall₂_congr fun w hw => (hrender w hw).2 v

/-- The HAVING clause does so if it has one condition at most, or none that an `OR` cuts. -/
theorem lets_renderHavings {c : Clauses} (h : ∀ sql ∈ c.havings, Readable sql)
    (hcut : c.havings.length ≤ 1 ∨ ∀ sql ∈ c.havings, ¬CutAt .or sql) (v : Assignment) :
    Lets v " HAVING " c.renderHavings ↔ ∀ sql ∈ c.havings, Holds v sql := by
  rcases hcut with hlength | hcut
  · -- a condition that is alone is not joined with anything
    rw [renderHavings]
    match hhavings : c.havings with
    | [] => simp [Lets, renderClause]
    | [sql] =>
      rw [lets_renderClause (by decide) (List.cons_ne_nil _ _), String.intercalate_singleton,
        List.forall_mem_singleton]
    | _ :: _ :: _ =>
      rw [hhavings] at hlength
      simp at hlength
  · exact lets_renderClause_of_uncut (by decide) (fun sql hsql => ⟨h sql hsql, hcut sql hsql⟩) v

end Clauses

/-! ## The condition on the relevance -/

namespace CompiledQuery

variable {c : CompiledQuery} {d : Dialect}

theorem havings_scored (h : c.filter = .having) :
    (c.scored d).clauses.havings = c.query.clauses.havings ++ [havingCondition d c.threshold] := by
  rw [clauses_scored, h]
  rfl

/-- Behind conditions that no `OR` cuts, the relevance decides. -/
theorem lets_havings_scored (h : c.filter = .having)
    (huncut : ∀ sql ∈ c.query.clauses.havings, Readable sql ∧ ¬CutAt .or sql) (v : Assignment) :
    Lets v " HAVING " (c.scored d).clauses.renderHavings ↔
      (∀ sql ∈ c.query.clauses.havings, Holds v sql) ∧ Holds v (havingCondition d c.threshold) := by
  obtain ⟨hreadable, hthreshold⟩ := uncut_havingCondition d c.threshold
  have hall : ∀ sql ∈ (c.scored d).clauses.havings, Readable sql ∧ ¬CutAt .or sql := by
    intro sql hsql
    rw [havings_scored h, List.mem_append, List.mem_singleton] at hsql
    rcases hsql with hsql | rfl
    · exact huncut sql hsql
    · exact ⟨hreadable, hthreshold .or⟩
  rw [Clauses.lets_renderHavings (fun sql hsql => (hall sql hsql).1)
    (Or.inr fun sql hsql => (hall sql hsql).2), havings_scored h, List.forall_mem_append,
    List.forall_mem_singleton]

/-- Behind a condition with an `OR`, the relevance counts only for what follows the `OR`. -/
theorem lets_havings_scored_of_or (h : c.filter = .having) {s t : String}
    (hhavings : c.query.clauses.havings = [joined .or s t]) (hs : Readable s) (ht : Readable t)
    (hcut : ¬CutAt .or t) (v : Assignment) :
    Lets v " HAVING " (c.scored d).clauses.renderHavings ↔
      Holds v s ∨ Holds v t ∧ Holds v (havingCondition d c.threshold) := by
  obtain ⟨hreadable, hthreshold⟩ := uncut_havingCondition d c.threshold
  -- two conditions, the first with an OR, and the AND between them joins what is next to it
  have hall : (c.scored d).clauses.havings = [joined .or s t, havingCondition d c.threshold] := by
    rw [havings_scored h, hhavings]
    rfl
  rw [Clauses.renderHavings, hall, lets_renderClause (by decide) (List.cons_ne_nil _ _),
    String.intercalate_cons_cons, String.intercalate_singleton]
  exact holds_or_and hs ht hreadable hcut (hthreshold .or) v

/-- On top of the scored query, the relevance decides alone. -/
theorem lets_wheres_finalize (h : c.filter = .outerWhere) (base : Query) (v : Assignment) :
    Lets v " WHERE " ((c.finalize base d).clauses.renderWheres d) ↔
      Holds v (outerCondition d c.table c.threshold) := by
  have hwheres : (c.finalize base d).clauses.wheres = [.raw (outerCondition d c.table c.threshold)] := by
    rw [finalize_eq, h]
    rfl
  have hreadable : ∀ sql, Condition.raw sql ∈ (c.finalize base d).clauses.wheres → Readable sql := by
    intro sql hsql
    rw [hwheres, List.mem_singleton] at hsql
    cases hsql
    exact (uncut_outerCondition d c.table c.threshold).1
  rw [Clauses.lets_renderWheres d hreadable, hwheres, List.forall_mem_singleton]
  rfl

end CompiledQuery

/-- **How conditions are joined.** A condition that is put together from atoms holds as the formula does.
The WHERE clause lets a row through exactly if all its conditions hold, and so does the HAVING clause if
it has one condition at most or none that an `OR` cuts. Whatever a restriction has made of the scored
query, a row that the WHERE clause on top of it lets through has the relevance. The HAVING clause asks
for the relevance of every row if no `OR` cuts the caller's conditions; behind an `OR` it asks for it
only where the condition in front of the `OR` does not hold. -/
theorem conditions_joined (d : Dialect) (v : Assignment) :
    (∀ f : Formula, f.AtomsUncut → Readable f.text ∧ (Holds v f.text ↔ f.Holds v)) ∧
    (∀ c : Clauses, (∀ sql, Condition.raw sql ∈ c.wheres → Readable sql) →
      (Lets v " WHERE " (c.renderWheres d) ↔ ∀ w ∈ c.wheres, Holds v (w.text d))) ∧
    (∀ c : Clauses, (∀ sql ∈ c.havings, Readable sql) →
      (c.havings.length ≤ 1 ∨ ∀ sql ∈ c.havings, ¬CutAt .or sql) →
        (Lets v " HAVING " c.renderHavings ↔ ∀ sql ∈ c.havings, Holds v sql)) ∧
    (∀ (c : CompiledQuery) (base : Query), c.filter = .outerWhere →
      (Lets v " WHERE " ((c.finalize base d).clauses.renderWheres d) ↔
        Holds v (outerCondition d c.table c.threshold))) ∧
    (∀ c : CompiledQuery, c.filter = .having →
      (∀ sql ∈ c.query.clauses.havings, Readable sql ∧ ¬CutAt .or sql) →
        (Lets v " HAVING " (c.scored d).clauses.renderHavings ↔
          (∀ sql ∈ c.query.clauses.havings, Holds v sql) ∧
            Holds v (havingCondition d c.threshold))) ∧
    (∀ (c : CompiledQuery) (s t : String), c.filter = .having →
      c.query.clauses.havings = [joined .or s t] → Readable s → Readable t → ¬CutAt .or t →
        (Lets v " HAVING " (c.scored d).clauses.renderHavings ↔
          Holds v s ∨ Holds v t ∧ Holds v (havingCondition d c.threshold))) := by
  refine ⟨fun f hf => ?_, fun c h => Clauses.lets_renderWheres d h v,
    fun c h hcut => Clauses.lets_renderHavings h hcut v,
    fun c base h => CompiledQuery.lets_wheres_finalize h base v,
    fun c h huncut => CompiledQuery.lets_havings_scored h huncut v,
    fun c s t h hhavings hs ht hcut =>
      CompiledQuery.lets_havings_scored_of_or h hhavings hs ht hcut v⟩
  have hread := Formula.wellRead_text hf
  exact ⟨hread.readable, hread.holds_iff v⟩

/-- Two conditions, the first of which an `OR` cuts, and an assignment under which both hold. -/
theorem conditions_joined_or :
    Readable "a = 1 OR b = 2" ∧
      Lets (fun _ => true) " WHERE "
        (({ wheres := [.raw "a = 1 OR b = 2", .equals "id"] } : Clauses).renderWheres .mysql) := by
  have hreads : Reads "a = 1 OR b = 2"
      [.other ['a'], .other ['='], .other ['1'], .connective .or, .other ['b'], .other ['='],
        .other ['2']] := ⟨by decide, by simp [AllClosed, Piece.Closed]⟩
  have hid : Reads (Condition.text .mysql (.equals "id"))
      [.other "\x60id\x60".toList, .other ['='], .other ['?']] :=
    ⟨by decide, by simp [AllClosed, Piece.Closed]⟩
  obtain ⟨_, hwheres, _⟩ := conditions_joined .mysql (fun _ => true)
  refine ⟨⟨_, hreads⟩, (hwheres _ ?_).2 ?_⟩
  · intro sql hsql
    rw [List.mem_cons, List.mem_singleton] at hsql
    rcases hsql with hsql | hsql
    · cases hsql
      exact ⟨_, hreads⟩
    · cases hsql
  · intro w hw
    rw [List.mem_cons, List.mem_singleton] at hw
    rcases hw with rfl | rfl
    · exact (holds_iff hreads).2 (by rfl)
    · exact (holds_iff hid).2 (by rfl)

/-- An assignment under which there are enough rows, and nothing else holds. -/
def onlyCounts : Assignment
  | .other text :: _ => text == "COUNT".toList
  | _ => false

/-- The HAVING clause of a scored query lets a row through that is not relevant enough. -/
theorem threshold_passed_by :
    ∃ r inner, (usersSearcher .mysql).searchWith usersModel
        ((Query.table "users").havingRaw "COUNT(*) > 1 OR MAX(age) > 3") "Jo 'x?"
        { limit := 10, threshold := some 2.0 } = .ok r ∧ r.inner? = some inner ∧
      inner.clauses.havings = ["COUNT(*) > 1 OR MAX(age) > 3", havingCondition .mysql 2.0] ∧
      Lets onlyCounts " HAVING " inner.clauses.renderHavings ∧
      ¬Holds onlyCounts (havingCondition .mysql 2.0) := by
  have hcount : Reads "COUNT(*) > 1"
      [.other "COUNT".toList, .group .parentheses [.other ['*']], .other ['>'], .other ['1']] :=
    ⟨by decide, by simp [AllClosed, Piece.Closed, Piece.head, Bracket.closing]⟩
  have hage : Reads "MAX(age) > 3"
      [.other "MAX".toList, .group .parentheses [.other "age".toList], .other ['>'], .other ['3']] :=
    ⟨by decide, by simp [AllClosed, Piece.Closed, Piece.head, Bracket.closing]⟩
  have hrelevance : Reads (havingCondition .mysql 2.0)
      [.other "\x60relevance\x60".toList, .other ['>'], .other ['='], .other ['2']] :=
    ⟨by decide +kernel, by simp [AllClosed, Piece.Closed]⟩
  have hcut : ¬CutAt .or "MAX(age) > 3" := by
    rw [cutAt_iff hage]
    simp
  have hcounts : Holds onlyCounts "COUNT(*) > 1" := (holds_iff hcount).2 (by decide)
  refine ⟨_, _, searchWith_tenUsers .mysql _, rfl, rfl, ?_, ?_⟩
  · exact (CompiledQuery.lets_havings_scored_of_or rfl rfl ⟨_, hcount⟩ ⟨_, hage⟩ hcut onlyCounts).2
      (Or.inl hcounts)
  · rw [holds_iff hrelevance]
    decide

end RelevanceSql
