import RelevanceSql.Config.Basic
import RelevanceSql.Document.Parser
import RelevanceSql.Document.Printer
import RelevanceSql.Search.Model

/-!
# Configuration documents

How configurations, models, specifications and bound values are read from documents and written into
them. A record is an object whose members are looked up by name, or a list that gives them in their
order; members that are not there take their defaults, unknown members are passed over whatever they
hold, and a known member must not stand there twice. A map is an object; of a name that comes twice
the last value counts, in the place of the first.
-/

namespace RelevanceSql

open RelevanceSql.Sql RelevanceSql.Document

namespace Document

/-- The known members of a record by name. -/
abbrev Record := List (String × Value)

/-- A value as a record with the given names. -/
def Value.record? (names : List String) (v : Value) : Option Record :=
  match v with
  | .list items => if items.length ≤ names.length then some (names.zip items) else none
  | _ =>
    match v.members? with
    | none => none
    | some members =>
      let known := members.filter fun m => names.contains m.1
      if (known.map Prod.fst).Nodup then some known else none

/-- A member of a record, or its default if it is not there. -/
def Record.member? {α : Type} (r : Record) (name : String) (default : α) (read : Value → Option α) :
    Option α :=
  match r.lookup name with
  | none => some default
  | some v => read v

/-- A value that may be null. -/
def Value.nullable? {α : Type} (read : Value → Option α) : Value → Option (Option α)
  | .null => some none
  | v => (read v).map some

/-- A list whose items are all read the same way. -/
def Value.list? {α : Type} (read : Value → Option α) (v : Value) : Option (List α) :=
  match v.items? with
  | none => none
  | some items => items.mapM read

/-- A list of exactly two items. -/
def Value.pair? {α β : Type} (readFirst : Value → Option α) (readSecond : Value → Option β) :
    Value → Option (α × β)
  | .list [a, b] =>
    match readFirst a, readSecond b with
    | some a, some b => some (a, b)
    | _, _ => none
  | _ => none

/-- A map from names to values that are all read the same way. -/
def Value.map? {α : Type} (read : Value → Option α) (v : Value) : Option (OrderedMap α) :=
  match v.members? with
  | none => none
  | some members =>
    (members.mapM fun entry => (read entry.2).map fun a => (entry.1, a)).map OrderedMap.ofList

/-- A map as an object. -/
def Value.ofMap {α : Type} (write : α → Value) (m : OrderedMap α) : Value :=
  .ofMembers (m.entries.map fun entry => (entry.1, write entry.2))

/-- A member that is written only if it is there. -/
def optionalMember {α : Type} (name : String) (write : α → Value) : Option α → List (String × Value)
  | some a => [(name, write a)]
  | none => []

/-- A count as a value. -/
def Value.ofCount (n : UInt64) : Value := .ofNat n.toNat

end Document

/-- Reads a bound value: a number is an integer if it is written as one of at most 64 bits with sign. -/
def Sql.Param.ofValue? (v : Value) : Option Param :=
  match v with
  | .text _ => v.string?.map .text
  | .null => some .null
  | .number _ =>
    match v.int? with
    | some i => if i < Nat.pow 2 63 then some (.integer (Int64.ofInt i)) else v.float?.map .float
    | none => v.float?.map .float
  | _ => none

/-- Writes a bound value; numbers that are not finite are written as null. -/
def Sql.Param.toValue : Param → Value
  | .text s => .ofString s
  | .integer n => .ofInt n.toInt
  | .float x => .ofFloat x
  | .null => .null

/-- Reads a list of bound values. -/
def Sql.Param.listOfValue? (v : Value) : Option (List Param) := v.list? Param.ofValue?

/-- Reads a grouping: one text, or a list of texts. -/
def GroupBy.ofValue? (v : Value) : Option GroupBy :=
  match v with
  | .text _ => v.string?.map .column
  | .list _ => (v.list? Value.string?).map .columns
  | _ => none

/-- Writes a grouping. -/
def GroupBy.toValue : GroupBy → Value
  | .column name => .ofString name
  | .columns names => .ofStrings names

/-- Reads the description of a join. -/
def JoinSpec.ofValue? (v : Value) : Option JoinSpec := do
  let r ← v.record? ["keys", "where", "whereIn"]
  let keys ← r.member? "keys" [] (·.list? Value.string?)
  let equals ← r.member? "where" none (·.nullable? (·.pair? Value.string? Param.ofValue?))
  let member ← r.member? "whereIn" none (·.nullable? (·.pair? Value.string? Param.listOfValue?))
  return ⟨keys, equals, member⟩

/-- Writes the description of a join. -/
def JoinSpec.toValue (j : JoinSpec) : Value :=
  .ofMembers
    ([("keys", .ofStrings j.keys)] ++
      optionalMember "where" (fun c => .list [.ofString c.1, c.2.toValue]) j.equals ++
      optionalMember "whereIn" (fun c => .list [.ofString c.1, .list (c.2.map Param.toValue)]) j.member)

/-- Reads a specification. -/
def SearchSpec.ofValue? (v : Value) : Option SearchSpec := do
  let r ← v.record? ["columns", "fulltextColumns", "joins", "groupBy", "mutations", "maxWords"]
  let columns ← r.member? "columns" .empty (·.map? Value.float?)
  let fulltextColumns ← r.member? "fulltextColumns" .empty (·.map? Value.float?)
  let joins ← r.member? "joins" .empty (·.map? JoinSpec.ofValue?)
  let groupBy ← r.member? "groupBy" none (·.nullable? GroupBy.ofValue?)
  let mutations ← r.member? "mutations" .empty (·.map? Value.string?)
  let maxWords ← r.member? "maxWords" none (·.nullable? Value.count?)
  return ⟨columns, fulltextColumns, joins, groupBy, mutations, maxWords⟩

/-- Writes a specification. -/
def SearchSpec.toValue (s : SearchSpec) : Value :=
  .ofMembers
    ([("columns", .ofMap .ofFloat s.columns), ("fulltextColumns", .ofMap .ofFloat s.fulltextColumns),
        ("joins", .ofMap JoinSpec.toValue s.joins)] ++
      optionalMember "groupBy" GroupBy.toValue s.groupBy ++
      [("mutations", .ofMap .ofString s.mutations)] ++
      optionalMember "maxWords" .ofCount s.maxWords)

/-- Reads a model; its table must be there. -/
def Model.ofValue? (v : Value) : Option Model := do
  let r ← v.record? ["table", "key", "search"]
  let table ← (r.lookup "table").bind Value.string?
  let key ← r.member? "key" defaultKey Value.string?
  let search ← r.member? "search" {} SearchSpec.ofValue?
  return ⟨table, key, search⟩

/-- Writes a model. -/
def Model.toValue (m : Model) : Value :=
  .ofMembers [("table", .ofString m.table), ("key", .ofString m.key), ("search", m.search.toValue)]

/-- Reads a configuration. -/
def Config.ofValue? (v : Value) : Option Config := do
  let r ← v.record? ["matchers", "maxWords"]
  let matchers ← r.member? "matchers" defaultMatchers (·.map? Value.float?)
  let maxWords ← r.member? "maxWords" defaultMaxWords Value.count?
  return ⟨matchers, maxWords⟩

/-- Writes a configuration. -/
def Config.toValue (c : Config) : Value :=
  .ofMembers [("matchers", .ofMap .ofFloat c.matchers), ("maxWords", .ofCount c.maxWords)]

/-- Reads the text of a document; all that can be wrong with it is one fault. -/
def readDocument {α : Type} (read : Value → Option α) (text : String) : Except ConfigFault α :=
  match (Value.parse? text).bind read with
  | some a => .ok a
  | none => .error .malformedDocument

end RelevanceSql
