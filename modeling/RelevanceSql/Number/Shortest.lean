import RelevanceSql.Number.Binary

/-!
# Shortest decimals

The decimal with the fewest digits among those that are read back as a given binary64 number, and of
these the nearest. The numbers that are read back as `m · 2 ^ q` form an interval around it: half the
way to each neighbour, its ends belonging to it exactly when `m` is even. On the grid of multiples of
`10 ^ k` only the two neighbours of the number can be the nearest point, so `shortest` tries them on
one grid after the other, from a grid coarser than the number down to one seventeen digits finer,
where a hit is certain. Where both neighbours are in the interval and equally near, a rule says which
of them is taken.
-/

namespace RelevanceSql.Number

/-- The decimal `coefficient · 10 ^ exponent`. -/
structure Decimal where
  coefficient : Nat
  exponent : Int
  deriving DecidableEq, Repr

/-- Which of two equally near decimals is taken: the larger, or the one with the even last digit. -/
inductive TieRule where
  | up
  | even
  deriving DecidableEq, Repr

/-- The larger of two neighbours is taken from a tie. -/
def TieRule.takesUpper (rule : TieRule) (lower : Nat) : Bool :=
  match rule with
  | .up => true
  | .even => decide (lower % 2 = 1)

/-- The numbers read back as one binary64 number: `low / unit` to `high / unit` around `mid / unit`. -/
structure ReadingInterval where
  low : Nat
  mid : Nat
  high : Nat
  unit : Nat
  closed : Bool
  deriving Repr

/-- Half the way to the neighbours of a magnitude; the lower one may be nearer than the upper one. -/
def Magnitude.interval (x : Magnitude) : ReadingInterval :=
  let m := x.significand
  let below := if x.atPowerOfTwo then 1 else 2
  let closed := decide (m % 2 = 0)
  match x.exponent - 2 with
  | .ofNat e =>
    ⟨(4 * m - below) * Nat.pow 2 e, 4 * m * Nat.pow 2 e, (4 * m + 2) * Nat.pow 2 e, 1, closed⟩
  | .negSucc e => ⟨4 * m - below, 4 * m, 4 * m + 2, Nat.pow 2 (e + 1), closed⟩

/-- The interval in units of `10 ^ k`. -/
def ReadingInterval.onGrid (i : ReadingInterval) (k : Int) : ReadingInterval :=
  match k with
  | .ofNat k => { i with unit := i.unit * Nat.pow 10 k }
  | .negSucc k =>
    { i with
      low := i.low * Nat.pow 10 (k + 1)
      mid := i.mid * Nat.pow 10 (k + 1)
      high := i.high * Nat.pow 10 (k + 1) }

/-- Whether the integer `n` lies in the interval. -/
def ReadingInterval.holds (i : ReadingInterval) (n : Nat) : Bool :=
  if i.closed then decide (i.low ≤ n * i.unit) && decide (n * i.unit ≤ i.high)
  else decide (i.low < n * i.unit) && decide (n * i.unit < i.high)

/-- The nearest integer of the interval, if it has one. -/
def ReadingInterval.nearest? (i : ReadingInterval) (rule : TieRule) : Option Nat :=
  let lower := i.mid / i.unit
  let upper := lower + 1
  match i.holds lower, i.holds upper with
  | true, false => some lower
  | false, true => some upper
  | false, false => none
  | true, true =>
    if 2 * i.mid < (lower + upper) * i.unit then some lower
    else if (lower + upper) * i.unit < 2 * i.mid then some upper
    else if rule.takesUpper lower then some upper else some lower

/-- A power of ten that exceeds the magnitude, or is at most one tenth of such a power. -/
def Magnitude.topGrid (x : Magnitude) : Int :=
  (((x.significand.log2 : Int) + x.exponent + 1) * 30103) / 100000 + 1

/-- Tries the grid `10 ^ k` and then finer ones, as many as `tries` says. -/
def ReadingInterval.search (i : ReadingInterval) (rule : TieRule) : Nat → Int → Decimal
  | 0, k => ⟨(i.onGrid k).mid / (i.onGrid k).unit, k⟩
  | tries + 1, k =>
    match (i.onGrid k).nearest? rule with
    | some n => ⟨n, k⟩
    | none => i.search rule tries (k - 1)

/-- The shortest decimal of a magnitude; zero is `0 · 10 ^ 0`. -/
def Magnitude.shortest (x : Magnitude) (rule : TieRule) : Decimal :=
  if x.significand = 0 then ⟨0, 0⟩ else x.interval.search rule 20 x.topGrid

end RelevanceSql.Number
