import SemanticLayer.Fault
import SemanticLayer.Text.Address
import SemanticLayer.Text.Alphabetic
import SemanticLayer.Text.Blank
import SemanticLayer.Text.Cased
import SemanticLayer.Text.Duration
import SemanticLayer.Text.Lowercase
import SemanticLayer.Text.MachineNumber
import SemanticLayer.Text.Mention
import SemanticLayer.Text.Quoted
import SemanticLayer.Text.Ranges
import SemanticLayer.Text.Utf8
import SemanticLayer.Number.Decimal
import SemanticLayer.Number.Nearest
import SemanticLayer.Number.Shortest
import SemanticLayer.Calendar.Date
import SemanticLayer.Calendar.DateText
import SemanticLayer.Calendar.Grain
import SemanticLayer.Calendar.Spine
import SemanticLayer.Json.Decoder
import SemanticLayer.Json.Flaw
import SemanticLayer.Json.Scan
import SemanticLayer.Json.Value
import SemanticLayer.Json.Writer
import SemanticLayer.Catalog.Catalog
import SemanticLayer.Catalog.Document
import SemanticLayer.Catalog.Model
import SemanticLayer.Catalog.ObjectStore
import SemanticLayer.Catalog.Storage
import SemanticLayer.Catalog.TollModel
import SemanticLayer.Query.Compiler
import SemanticLayer.Query.Document
import SemanticLayer.Query.Filters
import SemanticLayer.Query.MetricQuery
import SemanticLayer.Query.Validation
import SemanticLayer.Sql.Alteration
import SemanticLayer.Sql.Command
import SemanticLayer.Sql.Copy
import SemanticLayer.Sql.Definition
import SemanticLayer.Sql.Expression
import SemanticLayer.Sql.Keyword
import SemanticLayer.Sql.Listing
import SemanticLayer.Sql.Literal
import SemanticLayer.Sql.ReadOnly
import SemanticLayer.Sql.Reader
import SemanticLayer.Sql.Routine
import SemanticLayer.Sql.Rows
import SemanticLayer.Sql.Select
import SemanticLayer.Sql.Session
import SemanticLayer.Sql.Source
import SemanticLayer.Sql.Statement
import SemanticLayer.Sql.Syntax
import SemanticLayer.Sql.TableDefinition
import SemanticLayer.Sql.Token
import SemanticLayer.Sql.TypeName
import SemanticLayer.Question.Candidate
import SemanticLayer.Question.Chat
import SemanticLayer.Question.DatePhrase
import SemanticLayer.Question.Hint
import SemanticLayer.Question.Keywords
import SemanticLayer.Question.Reply
import SemanticLayer.Question.Translator
import SemanticLayer.Store.ColumnType
import SemanticLayer.Store.Login
import SemanticLayer.Store.Row
import SemanticLayer.Store.Wire
import SemanticLayer.Service.Connection
import SemanticLayer.Service.Dialogue
import SemanticLayer.Service.Request
import SemanticLayer.Service.Response
import SemanticLayer.Service.Service
import SemanticLayer.Service.Setup
import SemanticLayer.Settings.Deployment
import SemanticLayer.Settings.Environment
import SemanticLayer.Settings.Horizon
import SemanticLayer.Settings.Language
import SemanticLayer.Proofs.Calendar.Periods
import SemanticLayer.Proofs.Query.Acceptance
import SemanticLayer.Proofs.Query.Containment
import SemanticLayer.Proofs.Query.Range
import SemanticLayer.Proofs.Service.Gatekeeping
import SemanticLayer.Proofs.Service.Session
import SemanticLayer.Proofs.Service.Convergence
import SemanticLayer.Proofs.Catalog.Identifiers
import SemanticLayer.Proofs.Requirement
import SemanticLayer.Proofs.Query.FirstFailure
import SemanticLayer.Proofs.Question.Order
import SemanticLayer.Proofs.Json.Lines
import SemanticLayer.Proofs.Text.Utf8
import SemanticLayer.Proofs.Service.Framing
import SemanticLayer.Proofs.Query.Columns
import SemanticLayer.Proofs.Question.Translation
import SemanticLayer.Proofs.Catalog.Resolution
import SemanticLayer.Proofs.Question.ExactNames
import SemanticLayer.Proofs.Question.ExplicitDates
import SemanticLayer.Proofs.Question.Separation
import SemanticLayer.Proofs.Calendar.DayRows
import SemanticLayer.Proofs.Query.Computation
import SemanticLayer.Proofs.Calendar.Months
import SemanticLayer.Proofs.Question.NamedPeriods
import SemanticLayer.Proofs.Question.DatedTexts
import SemanticLayer.Proofs.Question.DayCounts
import SemanticLayer.Proofs.Question.Grounding
import SemanticLayer.Proofs.Question.Longest
import SemanticLayer.Proofs.Question.Replies
import SemanticLayer.Proofs.Query.Lookups
import SemanticLayer.Proofs.Query.Joins
import SemanticLayer.Proofs.Query.SpineSources
import SemanticLayer.Proofs.Query.Repetitions
import SemanticLayer.Proofs.Catalog.WellFormed
import SemanticLayer.Proofs.Catalog.Definitions
import SemanticLayer.Proofs.Json.Pretty
import SemanticLayer.Proofs.Catalog.Documents
import SemanticLayer.Proofs.Sql.Faithful
import SemanticLayer.Proofs.Calendar.Truncations
import SemanticLayer.Proofs.Calendar.Slices
import SemanticLayer.Proofs.Catalog.Ambiguity
import SemanticLayer.Proofs.Query.FilterMaps
import SemanticLayer.Proofs.Question.Merging
import SemanticLayer.Proofs.Text.Lowercase
import SemanticLayer.Proofs.Question.Occurrences
import SemanticLayer.Proofs.Question.Overlaps
