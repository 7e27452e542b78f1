import RelevanceSql.Config.Spec
import RelevanceSql.Matcher.Set
import RelevanceSql.Matcher.Term

/-!
# Scores

The relevance of a row is a sum of terms: one for each searched column and each matcher that takes
part, then one for each full-text column if the database can search it. The terms of one column stand
together in parentheses. The sum of all weights, whether or not their terms take part, is what the
threshold is computed from.
-/

namespace RelevanceSql

open RelevanceSql.Sql RelevanceSql.Search

/-- The name of the computed relevance. -/
def relevanceName : String := "relevance"

/-- Where a term comes from. -/
inductive TermSource where
  | matcher (m : Matcher)
  | fullText
  deriving DecidableEq, Repr

/-- One summand of a score: its column with the table in front, its source, weight and SQL. -/
structure ScoreTerm where
  column : String
  source : TermSource
  weight : Float
  fragment : Fragment
  deriving BEq, Repr

/-- Whether a term comes from a matcher. -/
def ScoreTerm.isMatcher (t : ScoreTerm) : Bool := decide (t.source ≠ .fullText)

/-- The terms of a score, the sum of all weights, and how many columns and matchers there are. -/
structure Score where
  terms : List ScoreTerm
  relevanceCount : Float
  columnCount : Nat
  matcherCount : Nat
  deriving BEq, Repr

/-- The function for a column, given for its name as written or with the table in front. -/
def SearchSpec.mutation? (spec : SearchSpec) (name qualified : String) : Option String :=
  (spec.mutations.get? name).or (spec.mutations.get? qualified)

/-- The quoted column, inside its function if it has one. -/
def SearchSpec.reference (spec : SearchSpec) (d : Dialect) (name qualified : String) : String :=
  match spec.mutation? name qualified with
  | some function => function ++ "(" ++ d.quoteIdentifier qualified ++ ")"
  | none => d.quoteIdentifier qualified

/-- The terms of one searched column, one for each matcher. -/
def columnTerms (spec : SearchSpec) (table : String) (d : Dialect) (tokens : Tokens)
    (matchers : MatcherSet) (entry : String × Float) : List ScoreTerm :=
  let qualified := qualify table entry.1
  let reference := spec.reference d entry.1 qualified
  matchers.map fun (m, matcherWeight) =>
    let weight := entry.2 * matcherWeight
    ⟨qualified, .matcher m, weight, m.score d reference weight tokens⟩

/-- The term of a full-text column. -/
def fullTextTerm (table : String) (d : Dialect) (tokens : Tokens) (entry : String × Float) : ScoreTerm :=
  let qualified := qualify table entry.1
  ⟨qualified, .fullText, entry.2,
    ⟨"(" ++ d.fullText (d.quoteIdentifier qualified) ++ ") * " ++ Number.literal entry.2 ++ " * 2 * 100",
      [.text tokens.fulltextPhrase]⟩⟩

namespace Score

/-- The score of a specification for the tokens of a search. -/
def build (spec : SearchSpec) (table : String) (tokens : Tokens) (matchers : MatcherSet) (d : Dialect) :
    Score where
  terms :=
    spec.columns.entries.flatMap
        (columnTerms spec table d tokens (matchers.applicable tokens.count d)) ++
      (if d.supportsFullText then spec.fulltextColumns.entries.map (fullTextTerm table d tokens) else [])
  relevanceCount := spec.weightedColumns.foldl (fun sum e => sum + e.2) matchers.totalWeight
  columnCount := spec.columns.size
  matcherCount := matchers.length

/-- Whether two neighbouring terms stand in one pair of parentheses. -/
def together (a b : ScoreTerm) : Bool :=
  a.isMatcher && b.isMatcher && decide (a.column = b.column)

/-- The sum of terms that stand together, in parentheses unless they come from full-text search. -/
def chunkFragment (chunk : List ScoreTerm) : Fragment :=
  let total := Fragment.total (chunk.map (·.fragment))
  if chunk.any (·.isMatcher) then total.parenthesized else total

/-- The sum of all terms, zero if there are none. -/
def toFragment (s : Score) : Fragment :=
  Fragment.total ((s.terms.splitBy together).map chunkFragment)

/-- The sum of all terms as an entry of a select list, under the name of the relevance. -/
def selectExpression (s : Score) (d : Dialect) : Fragment :=
  let sum := s.toFragment
  ⟨"(" ++ sum.sql ++ ") AS " ++ d.quoteIdentifier relevanceName, sum.params⟩

/-- The values of all terms. -/
def params (s : Score) : List Param := s.terms.flatMap fun t => t.fragment.params

end Score

end RelevanceSql
