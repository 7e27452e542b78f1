import RelevanceSql.Number.Binary

/-!
# Thresholds

How much relevance a row needs. Without a threshold of its own, a search takes the sum of all weights
times a sixth for each column and a sixth for each matcher, rounded to hundredths.
-/

namespace RelevanceSql

/-- The threshold for a sum of weights, a number of columns and a number of matchers. -/
def computeThreshold (relevanceCount : Float) (columns matchers : Nat) : Float :=
  Number.roundHundredths
    (relevanceCount * (Float.ofNat columns / 6.0) * (Float.ofNat matchers / 6.0))

end RelevanceSql
