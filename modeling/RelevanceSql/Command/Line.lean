import RelevanceSql.Number.Reading

/-!
# The command line

The command takes a search text and options in any order. An option with a value takes it from the
same argument, after an equals sign or, for the short form, right behind the letter, or else from the
next argument, which must not look like an option then. After two dashes every argument is a text. An
option may be given once.
-/

namespace RelevanceSql.Command

open RelevanceSql.Number

/-- The options of the command. -/
inductive OptionName where
  | model
  | config
  | driver
  | limit
  | threshold
  | maxWords
  | json
  | logLevel
  | help
  deriving DecidableEq, Repr

/-- The option of a long name. -/
def OptionName.ofLong? : String → Option OptionName
  | "model" => some .model
  | "config" => some .config
  | "driver" => some .driver
  | "limit" => some .limit
  | "threshold" => some .threshold
  | "max-words" => some .maxWords
  | "json" => some .json
  | "log-level" => some .logLevel
  | "help" => some .help
  | _ => none

/-- The option of a letter. -/
def OptionName.ofShort? : Char → Option OptionName
  | 'm' => some .model
  | 'c' => some .config
  | 'd' => some .driver
  | 'l' => some .limit
  | 't' => some .threshold
  | 'h' => some .help
  | _ => none

/-- Whether an option takes a value. -/
def OptionName.takesValue : OptionName → Bool
  | .json | .help => false
  | _ => true

/-- What an argument is when no value is awaited. -/
inductive Argument where
  | text (s : String)
  | endOfOptions
  | option (name : OptionName) (value : Option String)
  | unknown
  deriving DecidableEq, Repr

/-- Reads an argument that begins with two dashes, without them. -/
def Argument.ofLong (cs : List Char) : Argument :=
  match OptionName.ofLong? (String.ofList (cs.takeWhile (· != '='))) with
  | none => .unknown
  | some name =>
    match cs.dropWhile (· != '=') with
    | [] => .option name none
    | _ :: value => if name.takesValue then .option name (some (String.ofList value)) else .unknown

/-- Reads an argument that begins with one dash, without it. -/
def Argument.ofShort (letter : Char) (cs : List Char) : Argument :=
  match OptionName.ofShort? letter with
  | none => .unknown
  | some name =>
    if name.takesValue then
      match cs with
      | [] => .option name none
      | '=' :: value => .option name (some (String.ofList value))
      | value => .option name (some (String.ofList value))
    else .option name none

/-- Reads an argument; a single dash is a text. -/
def Argument.ofString (s : String) : Argument :=
  match s.toList with
  | ['-', '-'] => .endOfOptions
  | '-' :: '-' :: cs => .ofLong cs
  | ['-'] => .text s
  | '-' :: letter :: cs => .ofShort letter cs
  | _ => .text s

/-- What the arguments of a command say, option by option and text by text. -/
structure Collected where
  options : List (OptionName × String) := []
  texts : List String := []
  deriving DecidableEq, Repr

/-- Adds an option; a second one of the same name is refused. -/
def Collected.addOption? (c : Collected) (name : OptionName) (value : String) : Option Collected :=
  if c.options.any fun o => decide (o.1 = name) then none
  else some { c with options := c.options ++ [(name, value)] }

/--
Collects options and texts. An option that awaits its value takes the next argument if that is a
text, and there must be one.
-/
def collect? (awaiting : Option OptionName) (c : Collected) : List String → Option Collected
  | [] => if awaiting.isSome then none else some c
  | arg :: rest =>
    match awaiting, Argument.ofString arg with
    | some name, .text value =>
      match c.addOption? name value with
      | some c => collect? none c rest
      | none => none
    | some _, _ => none
    | none, .text s => collect? none { c with texts := c.texts ++ [s] } rest
    | none, .endOfOptions => some { c with texts := c.texts ++ rest }
    | none, .option name (some value) =>
      match c.addOption? name value with
      | some c => collect? none c rest
      | none => none
    | none, .option name none =>
      if name.takesValue then collect? (some name) c rest
      else
        match c.addOption? name "" with
        | some c => collect? none c rest
        | none => none
    | none, .unknown => none

/-- The value of an option, if it is given. -/
def Collected.value? (c : Collected) (name : OptionName) : Option String := c.options.lookup name

/-- What the command is to do. -/
structure Request where
  search : String
  model : String
  config : Option String
  driver : String
  limit : Nat
  threshold : Option Float
  maxWords : Option Nat
  json : Bool

/-- The value of an option that is read, or its default. -/
def Collected.read? {α : Type} (c : Collected) (name : OptionName) (default : α)
    (read : String → Option α) : Option α :=
  match c.value? name with
  | none => some default
  | some value => read value

/-- A path is any text but the empty one. -/
def readPath? (s : String) : Option String := if s = "" then none else some s

/-- The request that collected options and texts make; the driver may come from a variable. -/
def Collected.request? (c : Collected) (driverVariable : Option String) (defaultLimit : Nat) :
    Option Request := do
  let search ← match c.texts with
    | [search] => some search
    | _ => none
  let model ← (c.value? .model).bind readPath?
  let config ← c.read? .config none fun s => (readPath? s).map some
  let limit ← c.read? .limit defaultLimit fun s => readCount? s.toList
  let threshold ← c.read? .threshold none fun s => (readFloat? s.toList).map some
  let maxWords ← c.read? .maxWords none fun s => (readCount? s.toList).map some
  return {
    search := search
    model := model
    config := config
    driver := (c.value? .driver).getD (driverVariable.getD "mysql")
    limit := limit
    threshold := threshold
    maxWords := maxWords
    json := (c.value? .json).isSome }

end RelevanceSql.Command
