import SemanticLayer.Text.Interval
import SemanticLayer.Text.Blank
import SemanticLayer.Text.DecimalDigit
import SemanticLayer.Text.Alphanumeric
import SemanticLayer.Text.Casing
import SemanticLayer.Number.Rounding
import SemanticLayer.Number.Binary64
import SemanticLayer.Number.Scaling
import SemanticLayer.Number.Shortest
import SemanticLayer.Calendar.Date
import SemanticLayer.Calendar.Timestamp
import SemanticLayer.Calendar.Reader
import SemanticLayer.Calendar.Granularity
import SemanticLayer.Json.Number
import SemanticLayer.Json.Quoted
import SemanticLayer.Json.Tree
import SemanticLayer.Json.Value
import SemanticLayer.Json.Decode
import SemanticLayer.OrderedMap
import SemanticLayer.Query.Member
import SemanticLayer.Query.Annotations
import SemanticLayer.Query.Operator
import SemanticLayer.Query.Basic
import SemanticLayer.Query.Codec
import SemanticLayer.Sql.Error
import SemanticLayer.Sql.Quoting
import SemanticLayer.Sql.Timezone
import SemanticLayer.Sql.DateSeries
import SemanticLayer.Sql.Dialect
import SemanticLayer.Sql.Parameter
import SemanticLayer.Sql.Predicate
import SemanticLayer.Sql.Codec
import SemanticLayer.Response.Error
import SemanticLayer.Response.Value
import SemanticLayer.Response.Derived
import SemanticLayer.Response.Members
import SemanticLayer.Response.Rows
import SemanticLayer.Response.Basic
import SemanticLayer.Response.Request
import SemanticLayer.Response.Journal
import SemanticLayer.Toml.Lexeme
import SemanticLayer.Toml.Scalar
import SemanticLayer.Toml.Document
import SemanticLayer.Setup.Error
import SemanticLayer.Setup.Environment
import SemanticLayer.Setup.Pattern
import SemanticLayer.Setup.LogFilter
import SemanticLayer.Setup.Basic
import SemanticLayer.Failure
import SemanticLayer.Command.Arguments
import SemanticLayer.Command.Run
import SemanticLayer.Command.FileTable
import SemanticLayer.Main
import SemanticLayer.Proofs.Sequence
import SemanticLayer.Proofs.Sql.Template
import SemanticLayer.Proofs.Sql.Compilation
import SemanticLayer.Proofs.Sql.Layout
import SemanticLayer.Proofs.Sql.Marked
import SemanticLayer.Proofs.Sql.Session
import SemanticLayer.Proofs.Sql.Assembly
import SemanticLayer.Proofs.OrderedMap
import SemanticLayer.Proofs.Response.Columns
import SemanticLayer.Proofs.Response.Shaping
import SemanticLayer.Proofs.Response.Fault
import SemanticLayer.Proofs.Response.Outcome
import SemanticLayer.Proofs.Response.Visibility
import SemanticLayer.Proofs.Response.Rekeying
import SemanticLayer.Proofs.Response.Independence
import SemanticLayer.Proofs.Response.Listing
import SemanticLayer.Proofs.Calendar.Civil
import SemanticLayer.Proofs.Calendar.Instant
import SemanticLayer.Proofs.Calendar.Epoch
import SemanticLayer.Proofs.Calendar.Bucket
import SemanticLayer.Proofs.Calendar.Alignment
import SemanticLayer.Proofs.Calendar.Clock
import SemanticLayer.Proofs.Calendar.DateForm
import SemanticLayer.Proofs.Calendar.WireForm
import SemanticLayer.Proofs.Calendar.Offset
import SemanticLayer.Proofs.Sql.Series
import SemanticLayer.Proofs.Sql.BareDate
import SemanticLayer.Proofs.Sql.Opacity
import SemanticLayer.Proofs.Json.Grammar
import SemanticLayer.Proofs.Json.Depth
import SemanticLayer.Proofs.Query.Codec
import SemanticLayer.Proofs.Json.Written
import SemanticLayer.Proofs.Json.FreeForm
import SemanticLayer.Proofs.Json.Recovery
import SemanticLayer.Proofs.Query.RoundTrip
import SemanticLayer.Proofs.Response.Batch
import SemanticLayer.Proofs.Response.Hiding
import SemanticLayer.Proofs.Sql.Interchange
import SemanticLayer.Proofs.Sql.Identifier
import SemanticLayer.Proofs.Sql.Resolution
import SemanticLayer.Proofs.Sql.Arity
import SemanticLayer.Proofs.Sql.Placeholder
import SemanticLayer.Proofs.Sql.Outline
import SemanticLayer.Proofs.Sql.Conjunction
import SemanticLayer.Proofs.Sql.Truth
import SemanticLayer.Proofs.Query.Member
import SemanticLayer.Proofs.Response.Entries
import SemanticLayer.Proofs.Response.ShortName
import SemanticLayer.Proofs.Response.DerivedMember
import SemanticLayer.Proofs.Response.Coercion
import SemanticLayer.Proofs.Sql.Timezone
import SemanticLayer.Proofs.Sql.Lexical
import SemanticLayer.Proofs.Sql.Wildcard
import SemanticLayer.Proofs.Sql.Match
import SemanticLayer.Proofs.Sql.SeriesRows
import SemanticLayer.Proofs.Setup.Expansion
import SemanticLayer.Proofs.Json.Objects
import SemanticLayer.Proofs.Response.RowText
import SemanticLayer.Proofs.Response.NamedShape
import SemanticLayer.Proofs.Command.Transform
