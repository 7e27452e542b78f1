import RelevanceSql.Number.Layout

/-!
# Faults

What can be wrong with a configuration or with a search, each with the text that tells of it.
-/

namespace RelevanceSql

/-- What is wrong with the description of a joined table. -/
inductive JoinFlaw where
  | blankTable
  | keyCount
  | blankKey
  | blankEqualsColumn
  | blankMemberColumn
  deriving DecidableEq, Repr

/-- The text for a flaw. -/
def JoinFlaw.message : JoinFlaw → String
  | .blankTable => "joined table name is empty"
  | .keyCount => "expected exactly two key columns"
  | .blankKey => "key columns must not be empty"
  | .blankEqualsColumn => "where refinement has no column"
  | .blankMemberColumn => "whereIn refinement has no column"

/-- Why a file cannot be read as text; a cause of no kind of its own comes with its text. -/
inductive ReadFailure where
  | missing
  | isDirectory
  | notADirectory
  | notText
  | other (text : String)
  deriving DecidableEq, Repr

/-- The text for a cause, as the system words it. -/
def ReadFailure.message : ReadFailure → String
  | .missing => "No such file or directory (os error 2)"
  | .isDirectory => "Is a directory (os error 21)"
  | .notADirectory => "Not a directory (os error 20)"
  | .notText => "stream did not contain valid UTF-8"
  | .other text => text

/-- What is wrong with a configuration. -/
inductive ConfigFault where
  | unknownMatcher (name : String)
  | negativeWeight (name : String) (weight : Float)
  | invalidJoin (table : String) (flaw : JoinFlaw)
  | invalidColumn (column : String)
  | invalidMutation (column function : String)
  | invalidMaxWords
  | malformedDocument
  | maxWordsNotANumber (text : String)
  | unreadable (path : String) (failure : ReadFailure)
  deriving BEq, Repr

/-- The text for a fault of a configuration. -/
def ConfigFault.message : ConfigFault → String
  | .unknownMatcher name => "unknown matcher: " ++ name
  | .negativeWeight name weight =>
    "negative weight " ++ Number.plain weight ++ " for '" ++ name ++ "'"
  | .invalidJoin table flaw =>
    "invalid join spec for table '" ++ table ++ "': " ++ flaw.message
  | .invalidColumn column => "invalid column: '" ++ column ++ "'"
  | .invalidMutation column function =>
    "invalid mutation '" ++ function ++ "' for column '" ++ column ++ "'"
  | .invalidMaxWords => "maxWords must be greater than zero"
  | .malformedDocument => "failed to parse configuration"
  | .maxWordsNotANumber text =>
    "failed to parse configuration: SEARCHABLE_MAX_WORDS is not a number: '" ++ text ++ "'"
  | .unreadable path failure =>
    "failed to read configuration from " ++ path ++ ": " ++ failure.message

/-- What can be wrong with a search. -/
inductive SearchFault where
  | config (fault : ConfigFault)
  | invalidLimit
  | invalidThreshold (threshold : Float)
  deriving BEq, Repr

/-- The text for a fault of a search. -/
def SearchFault.message : SearchFault → String
  | .config fault => fault.message
  | .invalidLimit => "search limit must be greater than zero"
  | .invalidThreshold threshold =>
    "search threshold must be a finite number, got " ++ Number.plain threshold

/-- Whether a weight is below zero or no number; negative zero is neither. -/
def isBadWeight (weight : Float) : Bool := weight < 0.0 || weight.isNaN

end RelevanceSql
