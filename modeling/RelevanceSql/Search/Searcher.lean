import RelevanceSql.Config.Basic
import RelevanceSql.Search.Compiled
import RelevanceSql.Search.Threshold

/-!
# Searching

A searcher has resolved matchers and a dialect. It turns a caller's query and a search text into a
query for the relevant rows, best first. A search text without tokens leaves the query as it is. The
limit, the threshold and the specification are checked before the text is looked at, the joins after
that, and the threshold once more when a restriction may have changed it.
-/

namespace RelevanceSql

open RelevanceSql.Sql RelevanceSql.Search

/-- The number of rows of a search that does not say otherwise. -/
def defaultLimit : Nat := 25

/-- Resolved matchers, the cap on tokens, and the dialect. -/
structure Searcher where
  matchers : MatcherSet
  maxWords : UInt64
  dialect : Dialect

/-- What a search may say: how many rows, from what relevance on, and a change to the scored query. -/
structure SearchOptions where
  limit : Nat := defaultLimit
  threshold : Option Float := none
  restriction : CompiledQuery → CompiledQuery := id

/-- Refuses a limit of no rows. -/
def checkLimit (limit : Nat) : Except SearchFault Unit :=
  if limit = 0 then .error .invalidLimit else .ok ()

/-- Refuses a threshold that is infinite or NaN. -/
def checkThreshold (threshold : Float) : Except SearchFault Unit :=
  if Number.isFinite threshold then .ok () else .error (.invalidThreshold threshold)

/-- A result about a configuration as one about a search. -/
def configResult {α : Type} : Except ConfigFault α → Except SearchFault α
  | .ok a => .ok a
  | .error fault => .error (.config fault)

namespace Searcher

/-- The searcher of a configuration. -/
def ofConfig (config : Config) (d : Dialect) : Except SearchFault Searcher := do
  let matchers ← configResult config.validate
  return ⟨matchers, config.maxWords, d⟩

/-- The matchers that take part in a search with so many tokens. -/
def applicableMatchers (s : Searcher) (tokenCount : Nat) : List Matcher :=
  (s.matchers.applicable tokenCount s.dialect).map Prod.fst

/-- The cap on tokens for a model: its own, or that of the configuration. -/
def cap (s : Searcher) (model : Model) : Nat := (model.search.maxWords.getD s.maxWords).toNat

/-- The score of a model for the tokens of a search. -/
def score (s : Searcher) (model : Model) (tokens : Tokens) : Score :=
  Score.build model.search model.table tokens s.matchers s.dialect

/-- The threshold of a score. -/
def thresholdOf (score : Score) : Float :=
  computeThreshold score.relevanceCount score.columnCount score.matcherCount

/-- The scored query of a search; `none` if the search text has no tokens. -/
def compile (s : Searcher) (model : Model) (query : Query) (text : String) (limit : Nat)
    (threshold : Option Float) : Except SearchFault (Option CompiledQuery) := do
  checkLimit limit
  threshold.forM checkThreshold
  configResult model.search.validate
  match Tokens.parse text (s.cap model) with
  | none => return none
  | some tokens =>
    let score := s.score model tokens
    let compiled ← configResult
      (prepare query model score (threshold.getD (thresholdOf score)) limit s.dialect)
    return some compiled

/-- The caller's query narrowed to the rows that are relevant to a search text. -/
def searchWith (s : Searcher) (model : Model) (query : Query) (text : String)
    (options : SearchOptions) : Except SearchFault Query := do
  match ← s.compile model query text options.limit options.threshold with
  | none => return query
  | some compiled =>
    let restricted := options.restriction compiled
    checkThreshold restricted.threshold
    return restricted.finalize query s.dialect

/-- A search with the default limit, a computed threshold and no restriction. -/
def search (s : Searcher) (model : Model) (query : Query) (text : String) : Except SearchFault Query :=
  s.searchWith model query text {}

end Searcher

end RelevanceSql
