import RecordSearch.Text.Basic
import RecordSearch.Text.Blank
import RecordSearch.Text.CaseTable
import RecordSearch.Text.CaseContext
import RecordSearch.Text.Case
import RecordSearch.Text.Digit
import RecordSearch.Text.Similarity
import RecordSearch.Number.Integer
import RecordSearch.Number.Binary
import RecordSearch.Number.Decimal
import RecordSearch.Number.Shortest
import RecordSearch.Calendar.Date
import RecordSearch.Calendar.DateTime
import RecordSearch.Calendar.Layout
import RecordSearch.Calendar.Timestamp
import RecordSearch.Calendar.Period
import RecordSearch.Dictionary
import RecordSearch.Document.Basic
import RecordSearch.Document.Json.Writer
import RecordSearch.Document.Json.Number
import RecordSearch.Document.Json.Reader
import RecordSearch.Document.Toml.Tree
import RecordSearch.Document.Toml.Scalar
import RecordSearch.Document.Toml.Reader
import RecordSearch.Document.Fields
import RecordSearch.Document.Toml.Writer
import RecordSearch.Settings.Operator
import RecordSearch.Settings.Basic
import RecordSearch.Settings.Validation
import RecordSearch.Settings.Codec
import RecordSearch.Text.Hidden
import RecordSearch.Text.Quoted
import RecordSearch.Text.Grammar
import RecordSearch.Schema.Basic
import RecordSearch.Schema.Codec
import RecordSearch.Literal.Pattern
import RecordSearch.Literal.Engine
import RecordSearch.Literal.Number
import RecordSearch.Literal.Basic
import RecordSearch.Literal.Classify
import RecordSearch.Expression.Basic
import RecordSearch.Expression.Parse
import RecordSearch.Expression.Predicate
import RecordSearch.Expression.Codec
import RecordSearch.Record.Value
import RecordSearch.Record.Document
import RecordSearch.Condition.Basic
import RecordSearch.Condition.Equality
import RecordSearch.Condition.Compile
import RecordSearch.Condition.Holds
import RecordSearch.Request.Fault
import RecordSearch.Request.Sort
import RecordSearch.Request.Page
import RecordSearch.Request.Basic
import RecordSearch.Text.Utf8
import RecordSearch.Request.Form
import RecordSearch.Request.Codec
import RecordSearch.Search.Basic
import RecordSearch.Search.Order
import RecordSearch.Search.Results
import RecordSearch.Search.Statistics
import RecordSearch.Search.Terms
import RecordSearch.Report.Ansi
import RecordSearch.Report.Table
import RecordSearch.Report.Listing
import RecordSearch.Report.Explanation
import RecordSearch.Report.Statistics
import RecordSearch.Report.Codec
import RecordSearch.Files.Path
import RecordSearch.Files.Basic
import RecordSearch.Files.Tree
import RecordSearch.Command.Options
import RecordSearch.Command.Invocation
import RecordSearch.Command.Fault
import RecordSearch.Command.Completions
import RecordSearch.Command.SettingsFile
import RecordSearch.Command.Input
import RecordSearch.Command.Run
import RecordSearch.Command.Program
import RecordSearch.Main
import RecordSearch.Proofs.Number.Order
import RecordSearch.Proofs.Number.Rounding
import RecordSearch.Proofs.Calendar.Order
import RecordSearch.Proofs.Record.Order
import RecordSearch.Proofs.Search.Order
import RecordSearch.Proofs.Number.Reading
import RecordSearch.Proofs.Settings.Operator
import RecordSearch.Proofs.Text.Word
import RecordSearch.Proofs.Settings.Joined
import RecordSearch.Proofs.Condition.Compile
import RecordSearch.Proofs.Literal.Membership
import RecordSearch.Proofs.Condition.Membership
import RecordSearch.Proofs.Condition.OrLimit
import RecordSearch.Proofs.Text.Grammar
import RecordSearch.Proofs.Literal.IntegerFilter
import RecordSearch.Proofs.Search.IntegerFilter
import RecordSearch.Proofs.Search.Pages
import RecordSearch.Proofs.Search.Inputs
import RecordSearch.Proofs.Record.Kind
import RecordSearch.Proofs.Search.StableSort
import RecordSearch.Proofs.Search.Sorted
import RecordSearch.Proofs.Number.Spelling
import RecordSearch.Proofs.Expression.Written
import RecordSearch.Proofs.Condition.Conjunction
import RecordSearch.Proofs.Condition.Names
import RecordSearch.Proofs.Condition.SearchTerm
import RecordSearch.Proofs.Literal.Typed
import RecordSearch.Proofs.Condition.WellTyped
import RecordSearch.Proofs.Condition.UnknownNames
import RecordSearch.Proofs.Text.Case
import RecordSearch.Proofs.Text.Parts
import RecordSearch.Proofs.Literal.Pattern
import RecordSearch.Proofs.Literal.Wildcards
import RecordSearch.Proofs.Calendar.Span
import RecordSearch.Proofs.Text.Language
import RecordSearch.Proofs.Literal.NumberRange
import RecordSearch.Proofs.Text.Margin
import RecordSearch.Proofs.Expression.Margin
import RecordSearch.Proofs.Calendar.Form
import RecordSearch.Proofs.Calendar.Reading
import RecordSearch.Proofs.Calendar.Naming
import RecordSearch.Proofs.Calendar.Legible
import RecordSearch.Proofs.Literal.DatePeriod
import RecordSearch.Proofs.Condition.Disjunction
import RecordSearch.Proofs.Text.Folding
import RecordSearch.Proofs.Literal.Contained
import RecordSearch.Proofs.Search.ContainsFilter
import RecordSearch.Proofs.Calendar.Real
import RecordSearch.Proofs.Calendar.Joined
import RecordSearch.Proofs.Literal.WrittenDate
import RecordSearch.Proofs.Literal.DateRange
import RecordSearch.Proofs.Literal.BeforeAfter
import RecordSearch.Proofs.Dictionary
import RecordSearch.Proofs.Condition.SearchedNames
import RecordSearch.Proofs.Calendar.Rendering
import RecordSearch.Proofs.Record.Key
import RecordSearch.Proofs.Search.Terms
import RecordSearch.Proofs.Expression.Width
import RecordSearch.Proofs.Literal.NumberText
import RecordSearch.Proofs.Text.Around
import RecordSearch.Proofs.Settings.Validation
import RecordSearch.Proofs.Settings.Foreign
import RecordSearch.Proofs.Expression.Connectives
import RecordSearch.Proofs.Request.SortToken
import RecordSearch.Proofs.Request.WrittenSort
import RecordSearch.Proofs.Request.SortReading
import RecordSearch.Proofs.Expression.Values
import RecordSearch.Proofs.Request.Binding
import RecordSearch.Proofs.Request.Switch
import RecordSearch.Proofs.Report.Table
import RecordSearch.Proofs.Report.Listing
import RecordSearch.Proofs.Literal.WholeValue
