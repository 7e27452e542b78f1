import RelevanceSql.Matcher.Set
import RelevanceSql.OrderedMap

/-!
# The configuration of a searcher

Which matchers run with which weights, and how many tokens of a search text count. Without a
configuration all matchers run with their default weights on up to five tokens.
-/

namespace RelevanceSql

/-- All matchers with their default weights, in library order. -/
def defaultMatchers : OrderedMap Float :=
  OrderedMap.ofList (Matcher.all.map fun m => (m.name, m.defaultWeight))

/-- The cap on tokens without a configuration. -/
def defaultMaxWords : UInt64 := 5

/-- Matchers by name with their weights, and a cap on tokens. -/
structure Config where
  matchers : OrderedMap Float := defaultMatchers
  maxWords : UInt64 := defaultMaxWords

namespace Config

/-- Gives a matcher a weight. -/
def withMatcher (c : Config) (name : String) (weight : Float) : Config :=
  { c with matchers := c.matchers.insert name weight }

/-- Changes the cap on tokens. -/
def withMaxWords (c : Config) (maxWords : UInt64) : Config := { c with maxWords := maxWords }

/-- The matchers of a configuration, unless the cap is zero or an entry is bad. -/
def validate (c : Config) : Except ConfigFault MatcherSet :=
  if c.maxWords = 0 then .error .invalidMaxWords else MatcherSet.resolve c.matchers.entries

end Config

end RelevanceSql
