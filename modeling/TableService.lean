import TableService.Calendar.Clock
import TableService.Calendar.Date
import TableService.Calendar.Reading
import TableService.Database
import TableService.Dialect
import TableService.Error
import TableService.Files
import TableService.Http.Media
import TableService.Http.Response
import TableService.Http.Route
import TableService.Identifier
import TableService.Json.Basic
import TableService.Json.Shape
import TableService.Json.Source
import TableService.Json.Writer
import TableService.KeyAction
import TableService.Launch
import TableService.Named
import TableService.Number.BigEndian
import TableService.Number.Binary
import TableService.Number.Decimal
import TableService.Number.Digits
import TableService.Number.Double
import TableService.Number.Reading
import TableService.Number.Shortest
import TableService.Query.Command
import TableService.Query.Error
import TableService.Query.Filter
import TableService.Query.Options
import TableService.Query.Order
import TableService.Query.Test
import TableService.Record
import TableService.Schema.Creation
import TableService.Schema.Description
import TableService.Schema.Document
import TableService.Schema.FieldKind
import TableService.Schema.Localization
import TableService.Schema.Plan
import TableService.Server.Endpoint
import TableService.Server.MySql
import TableService.Server.MySqlAddress
import TableService.Server.MySqlValue
import TableService.Server.Postgres
import TableService.Server.PostgresAddress
import TableService.Server.PostgresNumeric
import TableService.Server.PostgresType
import TableService.Server.PostgresValue
import TableService.Server.Remote
import TableService.Service
import TableService.Settings.Basic
import TableService.Settings.Environment
import TableService.Settings.Json
import TableService.Settings.Load
import TableService.Settings.Toml
import TableService.Settings.Tree
import TableService.Settings.Yaml
import TableService.Store.Affinity
import TableService.Store.Cell
import TableService.Store.Change
import TableService.Store.Connection
import TableService.Store.Definition
import TableService.Store.Entries
import TableService.Store.Fault
import TableService.Store.Like
import TableService.Store.Opening
import TableService.Store.Reference
import TableService.Store.Selection
import TableService.Store.Statement
import TableService.Store.Table
import TableService.Store.Token
import TableService.Text.Alphanumeric
import TableService.Text.Blank
import TableService.Text.Case
import TableService.Text.Percent
import TableService.Text.Pieces
import TableService.Text.Quoted
import TableService.Text.Utf8
import TableService.Text.Visible
import TableService.Toml.Document
import TableService.Toml.Item
import TableService.Toml.Scalar
import TableService.Url.Basic
import TableService.Url.Host
import TableService.Uuid
import TableService.Yaml.Cursor
import TableService.Yaml.Node
import TableService.Yaml.Scalar
import TableService.Yaml.Token
import TableService.Yaml.Value
import TableService.Proofs.Calls
import TableService.Proofs.Results
import TableService.Proofs.Catalogue
import TableService.Proofs.Schema.Plans
import TableService.Proofs.Schema.Cycles
import TableService.Proofs.Schema.Order
import TableService.Proofs.Schema.Existence
import TableService.Proofs.Schema.Faults
import TableService.Proofs.Schema.Agreement
import TableService.Proofs.Schema.Exempt
import TableService.Proofs.Schema.Failure
import TableService.Proofs.Schema.Dialects
import TableService.Proofs.Sql.Token
import TableService.Proofs.Sql.Condition
import TableService.Proofs.Sql.Keyword
import TableService.Proofs.Sql.Sentence
import TableService.Proofs.Sql.Renumber
import TableService.Proofs.Sql.ForeignKey
import TableService.Proofs.Query.Request
import TableService.Proofs.Query.Clause
import TableService.Proofs.Query.Statement
import TableService.Proofs.Query.Addressing
import TableService.Proofs.Query.Restriction
import TableService.Proofs.Query.Values
import TableService.Proofs.Query.Acceptance
import TableService.Proofs.Service.Command
import TableService.Proofs.Schema.Registration
import TableService.Proofs.Schema.Actual
import TableService.Proofs.Schema.Again
import TableService.Proofs.Sql.Names
import TableService.Proofs.Http.Task
import TableService.Proofs.Http.Vocabulary
import TableService.Proofs.Http.Effect
import TableService.Proofs.Http.Listing
import TableService.Proofs.Http.ByKey
import TableService.Proofs.Store.Change
import TableService.Proofs.Store.Definition
import TableService.Proofs.Store.Columns
import TableService.Proofs.Store.Creation
import TableService.Proofs.Store.Token
import TableService.Proofs.Store.Declared
import TableService.Proofs.Store.Actions
import TableService.Proofs.Store.RowByKey
import TableService.Proofs.Schema.Naming
import TableService.Proofs.Schema.Targets
import TableService.Proofs.Number.Digits
import TableService.Proofs.Text.Bytes
import TableService.Proofs.Text.Percent
import TableService.Proofs.Http.Reach
import TableService.Proofs.Number.Decimal
import TableService.Proofs.Server.Numeric
import TableService.Proofs.Server.Kept
import TableService.Proofs.Json.Literal
import TableService.Proofs.Schema.Least
import TableService.Proofs.Json.RoundTrip
import TableService.Proofs.Number.Whole
import TableService.Proofs.Query.Building
import TableService.Proofs.Server.Parameters
import TableService.Proofs.Store.Affinity
import TableService.Proofs.Store.OwnValues
import TableService.Proofs.Store.WriteBack
import TableService.Proofs.Query.Tail
import TableService.Proofs.Store.Paging
import TableService.Proofs.Store.Leads
import TableService.Proofs.Store.Matched
import TableService.Proofs.Schema.Locales
import TableService.Proofs.Number.BigEndian
import TableService.Proofs.Server.Integers
import TableService.Proofs.Number.Zero
import TableService.Proofs.Server.Truth
import TableService.Proofs.Calendar.Reader
import TableService.Proofs.Calendar.Days
import TableService.Proofs.Calendar.Moment
import TableService.Proofs.Calendar.Printed
import TableService.Proofs.Server.Moments
import TableService.Proofs.Server.Temporal
import TableService.Proofs.Schema.Latest
import TableService.Proofs.Server.WholeSeconds
import TableService.Proofs.Schema.Fields
import TableService.Proofs.Number.Single
import TableService.Proofs.Server.Overflow
import TableService.Proofs.Server.Lost
import TableService.Proofs.Sql.Quoting
import TableService.Proofs.Schema.Kinds
