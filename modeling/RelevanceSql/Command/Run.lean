import RelevanceSql.Command.Line
import RelevanceSql.Config.Surroundings
import RelevanceSql.Search.Searcher

/-!
# The command

Compiles one search on a whole table and shows the SQL with its values, either line by line or as a
document. The configuration is read first, then the model; then the search is compiled.
-/

namespace RelevanceSql.Command

open RelevanceSql.Sql RelevanceSql.Document

/-- Why the command fails. -/
inductive Fault where
  | search (fault : SearchFault)
  | modelUnreadable (path : String)
  | modelMalformed (path : String)
  deriving BEq, Repr

/-- The text for a failure. -/
def Fault.message : Fault → String
  | .search fault => fault.message
  | .modelUnreadable path => "Failed to read model from " ++ path
  | .modelMalformed path => "Failed to parse model from " ++ path

/-- How the command ends: it shows a text, it fails, its arguments make no sense, or it explains itself. -/
inductive Outcome where
  | shown (output : String)
  | failed (fault : Fault)
  | misused
  | explained
  deriving BEq, Repr

/-- A result of a search as one of the command. -/
def searchResult {α : Type} : Except SearchFault α → Except Fault α
  | .ok a => .ok a
  | .error fault => .error (.search fault)

/-- The configuration that is asked for: a file of its own, or what the variables say. -/
def loadConfig (w : Surroundings) (r : Request) : Except Fault Config := do
  let config ← searchResult (configResult (match r.config with
    | some path => w.configAt path
    | none => w.config))
  return match r.maxWords with
    | some maxWords => config.withMaxWords maxWords.toUInt64
    | none => config

/-- The model in a file. -/
def loadModel (w : Surroundings) (path : String) : Except Fault Model :=
  match w.readText path with
  | .error _ => .error (.modelUnreadable path)
  | .ok text =>
    match readDocument Model.ofValue? text with
    | .error _ => .error (.modelMalformed path)
    | .ok model => .ok model

/-- The SQL and values of a search. -/
def compile (w : Surroundings) (r : Request) : Except Fault Fragment := do
  let config ← loadConfig w r
  let model ← loadModel w r.model
  let searcher ← searchResult (Searcher.ofConfig config (Dialect.ofDriver r.driver))
  let query ← searchResult
    (searcher.searchWith model (.table model.table) r.search
      { limit := r.limit, threshold := r.threshold })
  return query.toSql searcher.dialect

/-- A number with blanks in front up to a width of three. -/
def alignedIndex (n : Nat) : String :=
  String.ofList (List.replicate (3 - (toString n).length) ' ') ++ toString n

/-- The SQL on one line and each value on a line of its own. -/
def renderLines (f : Fragment) : String :=
  f.sql ++ "\n" ++
    String.join (f.params.zipIdx.map fun (p, i) =>
      "  " ++ alignedIndex (i + 1) ++ ": " ++ p.display ++ "\n")

/-- The driver, the SQL and the values as a document. -/
def renderDocument (driver : String) (f : Fragment) : String :=
  (Value.ofMembers [("driver", .ofString driver), ("sql", .ofString f.sql),
    ("params", .list (f.params.map Param.toValue))]).indented ++ "\n"

/-- The output for a compiled search. -/
def Request.render (r : Request) (f : Fragment) : String :=
  if r.json then renderDocument r.driver f else renderLines f

/-- Carries out a request. -/
def Request.run (r : Request) (w : Surroundings) : Outcome :=
  match compile w r with
  | .ok f => .shown (r.render f)
  | .error fault => .failed fault

/-- What the arguments ask for, or how the command ends without it. -/
def request (w : Surroundings) (args : List String) : Except Outcome Request :=
  match collect? none {} args with
  | none => .error .misused
  | some c =>
    if (c.value? .help).isSome then .error .explained
    else
      match c.request? (w.lookupVariable "SEARCHABLE_DRIVER") defaultLimit with
      | none => .error .misused
      | some r => .ok r

/-- Runs the command with its arguments. -/
def run (w : Surroundings) (args : List String) : Outcome :=
  match request w args with
  | .error outcome => outcome
  | .ok r => r.run w

/-- How the command is used. -/
def usage : String :=
  "Compile a relevance-scored search into SQL\n\n" ++
  "Usage: searchable [OPTIONS] --model <MODEL> <SEARCH>\n"

end RelevanceSql.Command
