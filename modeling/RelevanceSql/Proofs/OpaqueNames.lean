import RelevanceSql.Proofs.Searching
import RelevanceSql.Proofs.Terms

/-!
# Names and the numbering of placeholders

A scan for placeholders knows literals in single quotes and nothing else. It looks into the quotation
marks of an identifier, and sees there what it would see in the bare name: a single quote begins a
literal, and a question mark outside a literal counts. A name of a column may hold both.

The numbering passes over a quoted name exactly if the name closes its literals and has no
placeholders (`passedOver_iff`). With such names all is well (`passedOver_quoteIdentifier_iff`): each
term of a score has as many placeholders as values, and only these are numbered. With others the
marks in a name are taken for values (`scanned_inside_name`).
-/

namespace RelevanceSql

open RelevanceSql.Sql RelevanceSql.Search

/-- Wherever a piece of SQL stands outside of literals, the numbering leaves it as it is, and the
placeholders behind it have the numbers that they would have without it. -/
def PassedOver (sql : String) : Prop :=
  ∀ before after n, Binds before n →
    Placeholder.number Dialect.pgsql.placeholder (before ++ sql ++ after) =
      Placeholder.number Dialect.pgsql.placeholder before ++ sql ++
        numberAfter Dialect.pgsql.placeholder n after

theorem two_le_length_placeholder (n : Nat) : 2 ≤ (Dialect.pgsql.placeholder n).toList.length := by
  have hdigits : 0 < (Nat.toDigits 10 n).length := Nat.length_toDigits_pos
  have hdollar : "$".toList.length = 1 := by decide
  show 2 ≤ ("$" ++ toString n).toList.length
  rw [String.toList_append, List.length_append, hdollar, Nat.toString_eq_ofList_toDigits,
    String.toList_ofList]
  omega

/-- Every number takes more room than the question mark in its place. -/
theorem length_add_countFrom_le (inLiteral : Bool) (used : Nat) (cs : List Char) :
    cs.length + Placeholder.countFrom inLiteral cs ≤
      (Placeholder.numberFrom Dialect.pgsql.placeholder inLiteral used cs).length := by
  induction cs generalizing inLiteral used with
  | nil => exact Nat.le_refl _
  | cons c cs ih =>
    rw [Placeholder.countFrom, Placeholder.numberFrom]
    split
    · have := ih (!inLiteral) used
      rw [List.length_cons, List.length_cons]
      omega
    · split
      · have := ih inLiteral (used + 1)
        have := two_le_length_placeholder (used + 1)
        rw [List.length_cons, List.length_append]
        omega
      · have := ih inLiteral used
        rw [List.length_cons, List.length_cons]
        omega

theorem passedOver_iff {sql : String} : PassedOver sql ↔ Binds sql 0 := by
  constructor
  · intro h
    -- on its own the piece is left as it is, so that nothing in it is numbered
    have hkept : Placeholder.numberFrom Dialect.pgsql.placeholder false 0 sql.toList = sql.toList := by
      have halone := congrArg String.toList (h "" "" 0 binds_empty)
      simpa [Placeholder.number, numberAfter, Placeholder.numberFrom] using halone
    have hcount : Placeholder.countFrom false sql.toList = 0 := by
      have hle := length_add_countFrom_le false 0 sql.toList
      rw [hkept] at hle
      omega
    -- a placeholder right behind it is numbered, so that the piece ends outside of literals
    have hbehind : Placeholder.numberFrom Dialect.pgsql.placeholder
        (Placeholder.endsInLiteral false sql.toList) 0 ['?'] =
          Placeholder.numberFrom Dialect.pgsql.placeholder false 0 ['?'] := by
      have hwith := congrArg String.toList (h "" "?" 0 binds_empty)
      simpa [Placeholder.number, numberAfter, Placeholder.numberFrom, numberFrom_append, hkept,
        hcount] using hwith
    refine ⟨?_, hcount⟩
    cases hends : Placeholder.endsInLiteral false sql.toList with
    | false => rfl
    | true =>
      rw [hends] at hbehind
      exact absurd hbehind (by decide)
  · intro h before after n hbefore
    rw [← numberAfter_zero, ← numberAfter_zero, String.append_assoc, numberAfter_append _ _ hbefore,
      numberAfter_append _ _ h, numberAfter_of_binds_zero _ _ h, Nat.zero_add, Nat.add_zero,
      String.append_assoc]

/-- A quoted name is passed over exactly if the bare name binds nothing. -/
theorem passedOver_quoteIdentifier_iff {d : Dialect} {name : String} :
    PassedOver (d.quoteIdentifier name) ↔ Binds name 0 :=
  passedOver_iff.trans binds_quoteIdentifier_iff

/-- The number of a query's placeholders goes on behind a name that binds nothing. -/
theorem toSql_of_render {q : Query} {before after : String} {n : Nat} {sql : String}
    (hsql : Binds sql 0) (hbefore : Binds before n) (hq : q.render .pgsql = before ++ sql ++ after) :
    (q.toSql .pgsql).sql = Placeholder.number Dialect.pgsql.placeholder before ++ sql ++
      numberAfter Dialect.pgsql.placeholder n after := by
  show Placeholder.number Dialect.pgsql.placeholder (q.render .pgsql) = _
  rw [hq]
  exact passedOver_iff.2 hsql before after n hbefore

/-- What a matcher adds, with the column put in: the numbers go to the texts around it. -/
theorem score_eq_fill (m : Matcher) (d : Dialect) (weight : Float) (tokens : Tokens)
    (write : Nat → String) :
    ∃ parts params, BindsAll (ownTexts parts) params.length ∧ ∀ column,
      m.score d column weight tokens = ⟨fill column parts, params⟩ ∧
        (Binds column 0 →
          Placeholder.number write (fill column parts) = fill column (numberParts write 0 parts)) := by
  obtain ⟨params, hparams, htemplate⟩ := m.balancedAround_score d weight tokens
  obtain ⟨parts, hparts, hfill⟩ := htemplate.number
  refine ⟨parts, params, hparts, fun column => ?_⟩
  obtain ⟨hsql, hnumber⟩ := hfill column
  constructor
  · rw [← hsql, ← hparams column]
  · intro hcolumn
    rw [← hsql, ← numberAfter_zero]
    exact hnumber hcolumn write 0

/-- **Names that bind nothing are opaque, and no others.** A quoted name is scanned like the bare name,
from within a literal or outside, and the numbering passes over it exactly if the name binds nothing.
In the SQL of a query such a name stays as it is. So does it in what a matcher adds, which has the same
texts around every column. If all names of a valid specification bind nothing, each term of a score
has as many placeholders as values. -/
theorem passedOver_of_binds {spec : SearchSpec} (hvalid : spec.validate = .ok ()) (table : String)
    (d : Dialect) (tokens : Tokens) (matchers : MatcherSet) :
    (∀ name inLiteral,
      Placeholder.endsInLiteral inLiteral (d.quoteIdentifier name).toList =
          Placeholder.endsInLiteral inLiteral name.toList ∧
        Placeholder.countFrom inLiteral (d.quoteIdentifier name).toList =
          Placeholder.countFrom inLiteral name.toList) ∧
      (∀ name, PassedOver (d.quoteIdentifier name) ↔ Binds name 0) ∧
      (∀ (q : Query) name before after n, Binds name 0 → Binds before n →
        q.render .pgsql = before ++ Dialect.pgsql.quoteIdentifier name ++ after →
          (q.toSql .pgsql).sql =
            Placeholder.number Dialect.pgsql.placeholder before ++ Dialect.pgsql.quoteIdentifier name ++
              numberAfter Dialect.pgsql.placeholder n after) ∧
      (∀ (m : Matcher) weight, ∃ parts params, BindsAll (ownTexts parts) params.length ∧ ∀ column,
        m.score d column weight tokens = ⟨fill column parts, params⟩ ∧
          (Binds column 0 → Placeholder.number Dialect.pgsql.placeholder (fill column parts) =
            fill column (numberParts Dialect.pgsql.placeholder 0 parts))) ∧
      ((∀ entry ∈ spec.weightedColumns, Binds (qualify table entry.1) 0) →
        ∀ t ∈ (Score.build spec table tokens matchers d).terms,
          t.fragment.placeholderCount = t.fragment.params.length) := by
  refine ⟨fun name inLiteral => ⟨?_, ?_⟩, fun name => passedOver_quoteIdentifier_iff,
    fun q name before after n hname hbefore hq =>
      toSql_of_render (binds_quoteIdentifier_iff.2 hname) hbefore hq,
    fun m weight => score_eq_fill m d weight tokens _, fun hnames t ht => ?_⟩
  · rw [← endsInLiteral_filter, filter_quoteIdentifier, endsInLiteral_filter]
  · rw [← countFrom_filter, filter_quoteIdentifier, countFrom_filter]
  · exact (balanced_of_mem_build_of_binds (validate_eq_ok_iff.1 hvalid) hnames ht).count_eq

/-- A name with a literal of its own, a question mark in it, binds nothing. -/
def literalNameSpec : SearchSpec := { columns := .ofList [("name", 10.0), ("o'?'", 5.0)] }

theorem passedOver_of_binds_literalName :
    literalNameSpec.validate = .ok () ∧ PassedOver (Dialect.pgsql.quoteIdentifier "o'?'") ∧
      ∀ t ∈ (Score.build literalNameSpec "users" usersTokens [(.startOfString, 50.0)] .pgsql).terms,
        t.fragment.placeholderCount = t.fragment.params.length := by
  have hvalid : literalNameSpec.validate = .ok () := validate_eq_ok_iff.2 (by decide)
  obtain ⟨_, hpassed, _, _, hterms⟩ :=
    passedOver_of_binds hvalid "users" .pgsql usersTokens [(.startOfString, 50.0)]
  exact ⟨hvalid, (hpassed "o'?'").2 (by decide), hterms (by decide)⟩

/-- A name with a question mark, a character like any other to a specification. -/
def markedNameSpec : SearchSpec := { columns := .ofList [("first?name", 10.0)] }

/-- The specification is valid, and yet its column counts as a value and is numbered. -/
theorem scanned_inside_name :
    markedNameSpec.validate = .ok () ∧
      Placeholder.count (Dialect.pgsql.quoteIdentifier (qualify "users" "first?name")) = 1 ∧
      (∃ t ∈ (Score.build markedNameSpec "users" usersTokens [(.startOfString, 50.0)] .pgsql).terms,
        t.fragment.placeholderCount ≠ t.fragment.params.length) ∧
      (((Query.table "users").select ["first?name"]).toSql .pgsql).sql =
        "SELECT \"first$1name\" FROM \"users\"" := by
  refine ⟨validate_eq_ok_iff.2 (by decide), by decide, ?_, by decide⟩
  decide +kernel

end RelevanceSql
