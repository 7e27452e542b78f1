import RelevanceSql.Config.Fault
import RelevanceSql.OrderedMap
import RelevanceSql.Sql.Identifier
import RelevanceSql.Sql.Join

/-!
# What is searched

The specification that belongs to a table: its columns with their weights, its full-text columns, the
tables to join, the grouping of joined rows, functions to apply to columns, and a cap on tokens of
its own. `fault?` finds the first thing wrong with the names and weights; the joins are looked at when
they are turned into clauses.
-/

namespace RelevanceSql

open RelevanceSql.Sql RelevanceSql.Text

/-- How a table is joined: its key columns, and conditions with one value and with several. -/
structure JoinSpec where
  keys : List String := []
  equals : Option (String × Param) := none
  member : Option (String × List Param) := none

/-- A join on two key columns. -/
def JoinSpec.on (first second : String) : JoinSpec := { keys := [first, second] }

/-- Gives a join a condition with one value. -/
def JoinSpec.whereEq (spec : JoinSpec) (column : String) (value : Param) : JoinSpec :=
  { spec with equals := some (column, value) }

/-- Gives a join a condition with several values. -/
def JoinSpec.whereIn (spec : JoinSpec) (column : String) (values : List Param) : JoinSpec :=
  { spec with member := some (column, values) }

/-- Whether a condition is there but names no column. -/
def lacksColumn {α : Type} (condition : Option (String × α)) : Bool :=
  condition.any fun c => isBlankText c.1

/-- What is wrong with the join of a table, in the order in which it is looked at. -/
def JoinSpec.flaw? (spec : JoinSpec) (table : String) : Option JoinFlaw :=
  if isBlankText table then some .blankTable
  else if spec.keys.length ≠ 2 then some .keyCount
  else if spec.keys.any isBlankText then some .blankKey
  else if lacksColumn spec.equals then some .blankEqualsColumn
  else if lacksColumn spec.member then some .blankMemberColumn
  else none

/-- The conditions of a join, that with one value first. -/
def JoinSpec.filters (spec : JoinSpec) : List JoinFilter :=
  (spec.equals.map fun c => JoinFilter.equals c.1 c.2).toList ++
    (spec.member.map fun c => JoinFilter.member c.1 c.2).toList

/-- The clause that joins a table. -/
def JoinSpec.toJoin (spec : JoinSpec) (table : String) : Except ConfigFault Join :=
  match spec.flaw? table, spec.keys with
  | none, [first, second] => .ok ⟨table, first, second, spec.filters⟩
  | some flaw, _ => .error (.invalidJoin table flaw)
  | none, _ => .error (.invalidJoin table .keyCount)

/-- The grouping of a search, given as one column or as a list of columns. -/
inductive GroupBy where
  | column (name : String)
  | columns (names : List String)
  deriving DecidableEq, Repr

/-- The columns of a grouping. -/
def GroupBy.names : GroupBy → List String
  | .column name => [name]
  | .columns names => names

/-- What of a table is searched, and how. -/
structure SearchSpec where
  columns : OrderedMap Float := .empty
  fulltextColumns : OrderedMap Float := .empty
  joins : OrderedMap JoinSpec := .empty
  groupBy : Option GroupBy := none
  mutations : OrderedMap String := .empty
  maxWords : Option UInt64 := none

/-- What is wrong with a weighted column. -/
def columnFault? (entry : String × Float) : Option ConfigFault :=
  if !isIdentifierPath entry.1 then some (.invalidColumn entry.1)
  else if isBadWeight entry.2 then some (.negativeWeight entry.1 entry.2)
  else none

/-- What is wrong with the function for a column. -/
def mutationFault? (entry : String × String) : Option ConfigFault :=
  if isIdentifier entry.2 then none else some (.invalidMutation entry.1 entry.2)

namespace SearchSpec

/-- Gives a column a weight. -/
def withColumn (spec : SearchSpec) (name : String) (weight : Float) : SearchSpec :=
  { spec with columns := spec.columns.insert name weight }

/-- Gives a full-text column a weight. -/
def withFulltextColumn (spec : SearchSpec) (name : String) (weight : Float) : SearchSpec :=
  { spec with fulltextColumns := spec.fulltextColumns.insert name weight }

/-- Joins a table. -/
def withJoin (spec : SearchSpec) (table : String) (join : JoinSpec) : SearchSpec :=
  { spec with joins := spec.joins.insert table join }

/-- Groups joined rows. -/
def withGroupBy (spec : SearchSpec) (groupBy : GroupBy) : SearchSpec :=
  { spec with groupBy := some groupBy }

/-- Applies a function to a column. -/
def withMutation (spec : SearchSpec) (column function : String) : SearchSpec :=
  { spec with mutations := spec.mutations.insert column function }

/-- Caps the tokens. -/
def withMaxWords (spec : SearchSpec) (maxWords : UInt64) : SearchSpec :=
  { spec with maxWords := some maxWords }

/-- All weighted columns, the full-text columns last. -/
def weightedColumns (spec : SearchSpec) : List (String × Float) :=
  spec.columns.entries ++ spec.fulltextColumns.entries

/-- The first fault: of a column, of a function, or of the cap on tokens. -/
def fault? (spec : SearchSpec) : Option ConfigFault :=
  (spec.weightedColumns.findSome? columnFault?).or
    ((spec.mutations.entries.findSome? mutationFault?).or
      (if spec.maxWords = some 0 then some .invalidMaxWords else none))

/-- Refuses a specification with a fault. -/
def validate (spec : SearchSpec) : Except ConfigFault Unit :=
  match spec.fault? with
  | some fault => .error fault
  | none => .ok ()

/-- The joins of a specification as clauses, in order; the first flaw decides about the fault. -/
def joinClauses (spec : SearchSpec) : Except ConfigFault (List Join) :=
  spec.joins.entries.mapM fun entry => entry.2.toJoin entry.1

end SearchSpec

theorem JoinSpec.toJoin_of_flaw {spec : JoinSpec} {table : String} {flaw : JoinFlaw}
    (h : spec.flaw? table = some flaw) : spec.toJoin table = .error (.invalidJoin table flaw) := by
  simp [toJoin, h]

end RelevanceSql
