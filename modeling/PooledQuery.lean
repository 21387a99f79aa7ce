import PooledQuery.Failure
import PooledQuery.Fingerprint.Basic
import PooledQuery.Fingerprint.Blake2b
import PooledQuery.Number.Basic
import PooledQuery.Number.Binary64
import PooledQuery.Number.Decimal
import PooledQuery.Number.DecimalArithmetic
import PooledQuery.Number.Reading
import PooledQuery.Number.Shortest
import PooledQuery.Number.Writing
import PooledQuery.Outline.Column
import PooledQuery.Outline.Keyword
import PooledQuery.Outline.Nesting
import PooledQuery.Outline.Select
import PooledQuery.Outline.Source
import PooledQuery.Paging
import PooledQuery.Rehearsal.LeaseScript
import PooledQuery.Rehearsal.Rule
import PooledQuery.Rehearsal.Script
import PooledQuery.Rehearsal.SlowLogScript
import PooledQuery.Rehearsal.Stage
import PooledQuery.Rows.Base64
import PooledQuery.Rows.Coercion
import PooledQuery.Rows.Fields
import PooledQuery.Rows.Json
import PooledQuery.Rows.Outcome
import PooledQuery.Session.Action
import PooledQuery.Session.Driver
import PooledQuery.Session.Event
import PooledQuery.Session.Lease
import PooledQuery.Session.Query
import PooledQuery.Session.Run
import PooledQuery.Session.Select
import PooledQuery.Session.World
import PooledQuery.Settings.Basic
import PooledQuery.Settings.Environment
import PooledQuery.Settings.Marker
import PooledQuery.Settings.Pattern
import PooledQuery.Settings.PatternText
import PooledQuery.SlowLog
import PooledQuery.Statement.Dialect
import PooledQuery.Statement.Fragment
import PooledQuery.Statement.Literal
import PooledQuery.Statement.Quoting
import PooledQuery.Statement.Template
import PooledQuery.Text.CaseRanges
import PooledQuery.Text.Classes
import PooledQuery.Text.CodePoint
import PooledQuery.Text.DigitZeros
import PooledQuery.Text.HiddenRanges
import PooledQuery.Text.LetterRanges
import PooledQuery.Text.Quoted
import PooledQuery.Text.Utf8
import PooledQuery.Text.Words
import PooledQuery.Value.Arithmetic
import PooledQuery.Value.Basic
import PooledQuery.Value.Calendar
import PooledQuery.Value.Display
import PooledQuery.Value.Identifier
import PooledQuery.Value.Integer
import PooledQuery.Proofs.Session.Execution
import PooledQuery.Proofs.Session.Lease
import PooledQuery.Proofs.Session.CursorCourse
import PooledQuery.Proofs.Session.Statement
import PooledQuery.Proofs.Session.Course
import PooledQuery.Proofs.Session.Stages
import PooledQuery.Proofs.Session.Discipline
import PooledQuery.Proofs.Session.Reporting
import PooledQuery.Proofs.Session.Asked
import PooledQuery.Proofs.Session.PageText
import PooledQuery.Proofs.Session.Survival
import PooledQuery.Proofs.Failure
import PooledQuery.Proofs.Number.Rounding
import PooledQuery.Proofs.Number.Quotient
import PooledQuery.Proofs.Paging
import PooledQuery.Proofs.LastPage
import PooledQuery.Proofs.Rows.Visits
import PooledQuery.Proofs.Rows.Plain
import PooledQuery.Proofs.Rows.Parts
import PooledQuery.Proofs.Rows.Redaction
import PooledQuery.Proofs.Rows.Calls
import PooledQuery.Proofs.Rows.Ending
import PooledQuery.Proofs.Text.Pairs
import PooledQuery.Proofs.Rows.Projection
import PooledQuery.Proofs.Rows.Lasting
import PooledQuery.Proofs.Rows.Settling
import PooledQuery.Proofs.Rows.Leaves
import PooledQuery.Proofs.Session.Success
import PooledQuery.Proofs.Session.Serving
import PooledQuery.Proofs.Session.Tiling
import PooledQuery.Proofs.Statement.Literal
import PooledQuery.Proofs.Statement.Enclosure
import PooledQuery.Proofs.Statement.Reading
import PooledQuery.Proofs.Statement.Staging
import PooledQuery.Proofs.Session.Lifecycle
import PooledQuery.Proofs.Text.Letters
import PooledQuery.Proofs.Text.Spacing
import PooledQuery.Proofs.Outline.Nesting
import PooledQuery.Proofs.Statement.Places
import PooledQuery.Proofs.Statement.Embedding
import PooledQuery.Proofs.Outline.Keyword
import PooledQuery.Proofs.Outline.Passing
import PooledQuery.Proofs.Outline.Skipping
import PooledQuery.Proofs.Outline.Writing
import PooledQuery.Proofs.Outline.Items
import PooledQuery.Proofs.Outline.Splitting
import PooledQuery.Proofs.Outline.TableExpressions
import PooledQuery.Proofs.Outline.Emptied
import PooledQuery.Proofs.Outline.Opacity
import PooledQuery.Proofs.Outline.Requoting
import PooledQuery.Proofs.Outline.Alias
import PooledQuery.Proofs.Outline.TableClause
import PooledQuery.Proofs.Outline.NamedColumns
import PooledQuery.Proofs.Outline.NamedSelect
import PooledQuery.Proofs.Session.Conversation
import PooledQuery.Proofs.Session.Holding
import PooledQuery.Proofs.Session.Conclusion
import PooledQuery.Proofs.Session.Indifference
import PooledQuery.Proofs.Session.Watch
import PooledQuery.Proofs.Settings.Threshold
import PooledQuery.Proofs.Rows.Summary
import PooledQuery.Proofs.Session.Noting
import PooledQuery.Proofs.Session.Alike
import PooledQuery.Proofs.Session.Observability
import PooledQuery.Proofs.Fingerprint
import PooledQuery.Proofs.SlowLog
import PooledQuery.Proofs.Session.SlowCapture
import PooledQuery.Proofs.Session.SlowHistory
import PooledQuery.Proofs.Settings.Bounds
import PooledQuery.Proofs.Session.Standing
import PooledQuery.Proofs.Session.Adjusting
import PooledQuery.Proofs.Session.Askings
import PooledQuery.Proofs.Session.Protocol
import PooledQuery.Proofs.Session.Recording
import PooledQuery.Proofs.Statement.Splicing
import PooledQuery.Proofs.Outline.Capitals
import PooledQuery.Proofs.Outline.Calls
import PooledQuery.Proofs.Outline.Appended
import PooledQuery.Proofs.Outline.RangeClause
import PooledQuery.Proofs.Outline.ListedSelect
import PooledQuery.Proofs.Outline.QuotedName
import PooledQuery.Proofs.Outline.QuotedAlias
import PooledQuery.Proofs.Outline.QualifiedName
import PooledQuery.Proofs.Outline.QuotedTable
import PooledQuery.Proofs.Outline.Terminators
import PooledQuery.Proofs.Rows.Total
import PooledQuery.Proofs.Rows.Masking
import PooledQuery.Proofs.Session.Abreast
import PooledQuery.Proofs.Session.Metadata
import PooledQuery.Proofs.Settings.Precedence
import PooledQuery.Proofs.Rows.Columns
import PooledQuery.Proofs.Session.CursorAnswer
import PooledQuery.Proofs.Text.WordLetters
import PooledQuery.Proofs.Settings.Marker
import PooledQuery.Proofs.Session.Sparing
import PooledQuery.Proofs.Value.Written
import PooledQuery.Proofs.Rehearsal
