import ScopeSearch.Application
import ScopeSearch.Authorization
import ScopeSearch.Bind
import ScopeSearch.Calendar
import ScopeSearch.Candidate
import ScopeSearch.Classification
import ScopeSearch.Configuration
import ScopeSearch.Dashboard
import ScopeSearch.Dialect
import ScopeSearch.Directive
import ScopeSearch.Event
import ScopeSearch.Files
import ScopeSearch.Http.Address
import ScopeSearch.Http.Request
import ScopeSearch.Http.Response
import ScopeSearch.Json
import ScopeSearch.KeyedList
import ScopeSearch.KeywordFilter
import ScopeSearch.Log.Level
import ScopeSearch.Log.Record
import ScopeSearch.Log.Session
import ScopeSearch.Log.Template
import ScopeSearch.Number.Decimal
import ScopeSearch.Number.Double
import ScopeSearch.Number.Integer
import ScopeSearch.Number.Literal
import ScopeSearch.Number.Numeral
import ScopeSearch.Number.Shortest
import ScopeSearch.Policy
import ScopeSearch.Proofs.AllowList
import ScopeSearch.Proofs.Candidate
import ScopeSearch.Proofs.Classification
import ScopeSearch.Proofs.Configuration
import ScopeSearch.Proofs.DeclarationTexts
import ScopeSearch.Proofs.Denylist
import ScopeSearch.Proofs.Interpretation
import ScopeSearch.Proofs.KeyedList
import ScopeSearch.Proofs.List
import ScopeSearch.Proofs.LowerCase
import ScopeSearch.Proofs.Outcome
import ScopeSearch.Proofs.Placeholder
import ScopeSearch.Proofs.Renaming
import ScopeSearch.Proofs.StatementText
import ScopeSearch.Redaction
import ScopeSearch.Registry
import ScopeSearch.Resource
import ScopeSearch.Scope
import ScopeSearch.Search
import ScopeSearch.SearchResult
import ScopeSearch.Settings
import ScopeSearch.Text.Alphanumeric
import ScopeSearch.Text.Base64
import ScopeSearch.Text.Blank
import ScopeSearch.Text.Identifier
import ScopeSearch.Text.LowerCase
import ScopeSearch.Text.Printable
import ScopeSearch.Text.Quoted
import ScopeSearch.Text.Ranges
import ScopeSearch.Text.Replacement
import ScopeSearch.Text.Utf8
import ScopeSearch.Uuid
import ScopeSearch.Value
import ScopeSearch.Value.Serialized
import ScopeSearch.Value.Written
import ScopeSearch.Yaml.Cursor
import ScopeSearch.Yaml.Document
import ScopeSearch.Yaml.Node
import ScopeSearch.Yaml.Scalar
import ScopeSearch.Yaml.ScalarValue
import ScopeSearch.Yaml.Tag
import ScopeSearch.Yaml.Token
import ScopeSearch.Yaml.Token.Lexer
import ScopeSearch.Proofs.Resolution
import ScopeSearch.Proofs.BindCapture
import ScopeSearch.Proofs.Declaration
import ScopeSearch.Proofs.Partition
import ScopeSearch.Proofs.ParseAnswer
import ScopeSearch.Proofs.Masking
import ScopeSearch.Proofs.AddressRedaction
import ScopeSearch.Proofs.Reference
import ScopeSearch.Proofs.Registry
import ScopeSearch.Proofs.RegistryRun
import ScopeSearch.Proofs.RowsAnswer
import ScopeSearch.Proofs.RequestAnswer
import ScopeSearch.Proofs.SearchAnswer
import ScopeSearch.Proofs.ConfiguredScope
import ScopeSearch.Proofs.Character
import ScopeSearch.Proofs.NumberRedaction
import ScopeSearch.Proofs.DeclaredScope
import ScopeSearch.Proofs.TokenBoundary
import ScopeSearch.Proofs.Token
import ScopeSearch.Proofs.Widening
import ScopeSearch.Proofs.Constraint
import ScopeSearch.Proofs.Notation
import ScopeSearch.Proofs.Rendering
import ScopeSearch.Proofs.JsonReading
import ScopeSearch.Proofs.JsonNumeral
import ScopeSearch.Proofs.JsonWriting
import ScopeSearch.Proofs.ValueRedaction
import ScopeSearch.Proofs.LogLine
import ScopeSearch.Proofs.NameCapture
import ScopeSearch.Proofs.KeywordPattern
import ScopeSearch.Proofs.FirstOccurrence
import ScopeSearch.Proofs.PolicyNormalForm
import ScopeSearch.Proofs.ScopeGroup
import ScopeSearch.Proofs.KeywordCase
import ScopeSearch.Proofs.PredicateReading
import ScopeSearch.Proofs.ResponseForm
import ScopeSearch.Proofs.RunSteps
import ScopeSearch.Proofs.ConditionNames
import ScopeSearch.Proofs.AllOrNothing
