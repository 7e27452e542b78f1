import RelevanceSql.Config.Fault
import RelevanceSql.Sql.Dialect

/-!
# Weighted matchers

A configuration lists matchers by name with their weights. Resolving the list finds the matchers and
refuses the first entry with an unknown name or a negative weight. For one search, the matchers that
the dialect lacks are left out, and so are those for a whole phrase when there is only one token.
-/

namespace RelevanceSql

open RelevanceSql.Sql

/-- Matchers with their weights, in the order of the configuration. -/
abbrev MatcherSet := List (Matcher × Float)

/-- The matcher and weight of one entry. -/
def resolveEntry (entry : String × Float) : Except ConfigFault (Matcher × Float) :=
  match Matcher.ofName? entry.1 with
  | none => .error (.unknownMatcher entry.1)
  | some m => if isBadWeight entry.2 then .error (.negativeWeight entry.1 entry.2) else .ok (m, entry.2)

namespace MatcherSet

/-- The matchers and weights of a list of entries; the first bad entry decides about the fault. -/
def resolve (entries : List (String × Float)) : Except ConfigFault MatcherSet :=
  entries.mapM resolveEntry

/-- The sum of all weights. -/
def totalWeight (s : MatcherSet) : Float := s.foldl (fun sum e => sum + e.2) 0.0

/-- Whether a matcher takes part in a search with so many tokens. -/
def applies (tokenCount : Nat) (d : Dialect) (m : Matcher) : Bool :=
  !(m.usesWholePhrase && decide (tokenCount < 2)) && d.supports m

/-- The matchers that take part in a search. -/
def applicable (s : MatcherSet) (tokenCount : Nat) (d : Dialect) : MatcherSet :=
  s.filter fun e => applies tokenCount d e.1

/-- Entries are resolved one after the other. -/
theorem resolve_cons (entry : String × Float) (entries : List (String × Float)) :
    resolve (entry :: entries) =
      match resolveEntry entry with
      | .error fault => .error fault
      | .ok e => match resolve entries with
        | .error fault => .error fault
        | .ok s => .ok (e :: s) := by
  simp only [resolve, List.mapM_cons]
  cases resolveEntry entry with
  | error fault => rfl
  | ok e => cases List.mapM resolveEntry entries <;> rfl

end MatcherSet

end RelevanceSql
