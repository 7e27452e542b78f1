import RelevanceSql.Command.Line
import RelevanceSql.Command.Run
import RelevanceSql.Config.Basic
import RelevanceSql.Config.Document
import RelevanceSql.Config.Fault
import RelevanceSql.Config.Spec
import RelevanceSql.Config.Surroundings
import RelevanceSql.Document.Numeral
import RelevanceSql.Document.Parser
import RelevanceSql.Document.Printer
import RelevanceSql.Document.Value
import RelevanceSql.Main
import RelevanceSql.Matcher.Kind
import RelevanceSql.Matcher.Pattern
import RelevanceSql.Matcher.Set
import RelevanceSql.Matcher.Term
import RelevanceSql.Number.Binary
import RelevanceSql.Number.Layout
import RelevanceSql.Number.Reading
import RelevanceSql.Number.Shortest
import RelevanceSql.OrderedMap
import RelevanceSql.Proofs.Alignment
import RelevanceSql.Proofs.BooleanSql
import RelevanceSql.Proofs.BoundValues
import RelevanceSql.Proofs.Changes
import RelevanceSql.Proofs.Filters
import RelevanceSql.Proofs.Lexemes
import RelevanceSql.Proofs.Nesting
import RelevanceSql.Proofs.Noninterference
import RelevanceSql.Proofs.Numerals
import RelevanceSql.Proofs.OpaqueNames
import RelevanceSql.Proofs.Outcome
import RelevanceSql.Proofs.Paging
import RelevanceSql.Proofs.Placeholders
import RelevanceSql.Proofs.RowLimits
import RelevanceSql.Proofs.Searching
import RelevanceSql.Proofs.Sessions
import RelevanceSql.Proofs.Spellings
import RelevanceSql.Proofs.Templates
import RelevanceSql.Proofs.Terms
import RelevanceSql.Proofs.Thresholds
import RelevanceSql.Proofs.Tokenizing
import RelevanceSql.Proofs.WeightLiterals
import RelevanceSql.Query.Basic
import RelevanceSql.Query.Render
import RelevanceSql.Search.Compiled
import RelevanceSql.Search.Model
import RelevanceSql.Search.Score
import RelevanceSql.Search.Searcher
import RelevanceSql.Search.Threshold
import RelevanceSql.Search.Tokens
import RelevanceSql.Sql.Bindings
import RelevanceSql.Sql.Dialect
import RelevanceSql.Sql.Fragment
import RelevanceSql.Sql.Identifier
import RelevanceSql.Sql.Join
import RelevanceSql.Sql.Param
import RelevanceSql.Sql.Placeholder
import RelevanceSql.Sql.Quoted
import RelevanceSql.Text.Alphanumeric
import RelevanceSql.Text.Blank
import RelevanceSql.Text.CaseTables
import RelevanceSql.Text.Fields
import RelevanceSql.Text.Lowercase
import RelevanceSql.Text.Ranges
import RelevanceSql.Proofs.Trimming
import RelevanceSql.Proofs.SearchGrammar
import RelevanceSql.Proofs.Summands
import RelevanceSql.Proofs.TermOrder
import RelevanceSql.Proofs.TokenContent
import RelevanceSql.Proofs.TokenCaps
import RelevanceSql.Proofs.LikePatterns
import RelevanceSql.Proofs.Subsequences
import RelevanceSql.Proofs.WordStarts
import RelevanceSql.Proofs.Expressions
import RelevanceSql.Proofs.Sums
import RelevanceSql.Proofs.Points
import RelevanceSql.Proofs.Phrases
import RelevanceSql.Proofs.MatchStrength
import RelevanceSql.Proofs.Occurrences
import RelevanceSql.Proofs.BlankColumns
import RelevanceSql.Proofs.RelevanceExpression
import RelevanceSql.Proofs.NullColumns
import RelevanceSql.Proofs.QuotedNames
import RelevanceSql.Proofs.Numbering
import RelevanceSql.Proofs.Grouping
import RelevanceSql.Proofs.LimitClauses
import RelevanceSql.Proofs.DerivedNames
import RelevanceSql.Proofs.ColumnReferences
import RelevanceSql.Proofs.LetterCase
import RelevanceSql.Proofs.DocumentNumerals
import RelevanceSql.Proofs.DocumentText
import RelevanceSql.Proofs.RoundTrip
import RelevanceSql.Proofs.NumberSigns
import RelevanceSql.Proofs.MatcherResolution
import RelevanceSql.Proofs.InsertionHistory
import RelevanceSql.Proofs.FragmentAlgebra
import RelevanceSql.Proofs.ClauseValues
