import RelevanceSql.Config.Document

/-!
# The surroundings of a program

A program is started with variables and can read files. The configuration comes from the file that
the variable `SEARCHABLE_CONFIG` names, or is the default one, and `SEARCHABLE_MAX_WORDS` replaces its
cap on tokens. A `Directory` is the simplest place for files: it holds files by name and nothing else.
-/

namespace RelevanceSql

open RelevanceSql.Text

/-- The variables of a program, and the files it can read. -/
structure Surroundings where
  lookupVariable : String → Option String
  readBytes : String → Except ReadFailure ByteArray

namespace Surroundings

/-- The text of a file. -/
def readText (w : Surroundings) (path : String) : Except ReadFailure String :=
  match w.readBytes path with
  | .error failure => .error failure
  | .ok bytes =>
    match String.fromUTF8? bytes with
    | some text => .ok text
    | none => .error .notText

/-- The configuration in a file. -/
def configAt (w : Surroundings) (path : String) : Except ConfigFault Config :=
  match w.readText path with
  | .error failure => .error (.unreadable path failure)
  | .ok text => readDocument Config.ofValue? text

/-- The configuration in the file that is named, if one is, before the cap is looked at. -/
def namedConfig (w : Surroundings) : Except ConfigFault Config :=
  match w.lookupVariable "SEARCHABLE_CONFIG" with
  | some path => if isBlankText path then .ok {} else w.configAt path
  | none => .ok {}

/-- The configuration that the variables ask for. -/
def config (w : Surroundings) : Except ConfigFault Config := do
  let config ← w.namedConfig
  match w.lookupVariable "SEARCHABLE_MAX_WORDS" with
  | none => return config
  | some text =>
    match Number.readCount? (strip isBlank text.toList) with
    | some count => return config.withMaxWords count.toUInt64
    | none => throw (.maxWordsNotANumber text)

end Surroundings

/-- Files by name, with nothing else beside or below them. -/
abbrev Directory := List (String × ByteArray)

namespace Directory

/--
Follows the parts of a path from a place outside the directory. Nothing is known there but that
places above are directories too.
-/
def followOutside : List String → Except ReadFailure ByteArray
  | [] => .error .isDirectory
  | part :: rest =>
    if part = "" ∨ part = "." ∨ part = ".." then followOutside rest else .error .missing

/--
Follows the parts of a path from the directory on. A part that is empty or a single dot stays where
it is, two dots lead outside, and a file is found if nothing comes after its name.
-/
def follow (dir : Directory) : List String → Except ReadFailure ByteArray
  | [] => .error .isDirectory
  | part :: rest =>
    if part = "" ∨ part = "." then follow dir rest
    else if part = ".." then followOutside rest
    else
      match dir.lookup part, rest with
      | some bytes, [] => .ok bytes
      | some _, _ :: _ => .error .notADirectory
      | none, _ => .error .missing

/-- Reads the file at a path; the empty path names nothing, and one with a slash in front lies outside. -/
def read (dir : Directory) (path : String) : Except ReadFailure ByteArray :=
  let parts := (fields (· == '/') path.toList).map String.ofList
  if path = "" then .error .missing
  else if parts.head? = some "" then followOutside parts
  else follow dir parts

/-- The surroundings with given variables and the files of a directory. -/
def surroundings (dir : Directory) (settings : List (String × String)) : Surroundings :=
  ⟨fun name => settings.lookup name, dir.read⟩

end Directory

end RelevanceSql
