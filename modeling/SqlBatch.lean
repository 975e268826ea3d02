import SqlBatch.Acceptance.Check
import SqlBatch.Acceptance.Counters
import SqlBatch.Acceptance.Ledger
import SqlBatch.Acceptance.Locking
import SqlBatch.Acceptance.Suite
import SqlBatch.Argument
import SqlBatch.Clause.Assignment
import SqlBatch.Clause.Filter
import SqlBatch.Clause.Join
import SqlBatch.Clause.Select
import SqlBatch.Config.Basic
import SqlBatch.Config.Reading
import SqlBatch.Decimal.Binary64
import SqlBatch.Decimal.Layout
import SqlBatch.Decimal.Reading
import SqlBatch.Decimal.Shortest
import SqlBatch.Domain.Basic
import SqlBatch.Domain.Direction
import SqlBatch.Domain.Joining
import SqlBatch.Domain.Mapping
import SqlBatch.Domain.Punycode
import SqlBatch.Failure
import SqlBatch.Json.Basic
import SqlBatch.Json.Printer
import SqlBatch.Json.Reader
import SqlBatch.MySql.Connection
import SqlBatch.MySql.Options
import SqlBatch.MySql.Value
import SqlBatch.Proofs.Session.Answers
import SqlBatch.Proofs.Session.Arguments
import SqlBatch.Proofs.Session.Blackout
import SqlBatch.Proofs.Session.Channel
import SqlBatch.Proofs.Session.Client
import SqlBatch.Proofs.Session.Counters
import SqlBatch.Proofs.Session.Course
import SqlBatch.Proofs.Session.Delivery
import SqlBatch.Proofs.Session.Flattening
import SqlBatch.Proofs.Session.Independence
import SqlBatch.Proofs.Session.Lifecycle
import SqlBatch.Proofs.Session.Linear
import SqlBatch.Proofs.Session.Locks
import SqlBatch.Proofs.Session.Moment
import SqlBatch.Proofs.Session.Selection
import SqlBatch.Proofs.Session.Step
import SqlBatch.Proofs.Session.Switching
import SqlBatch.Proofs.Session.Tracking
import SqlBatch.Proofs.Sql.Condition
import SqlBatch.Proofs.Sql.Content
import SqlBatch.Proofs.Sql.Framing
import SqlBatch.Proofs.Sql.Lists
import SqlBatch.Proofs.Sql.Mutation
import SqlBatch.Proofs.Sql.Query
import SqlBatch.Proofs.Sql.Reader
import SqlBatch.Proofs.Sql.Resolution
import SqlBatch.Proofs.Sql.Splitting
import SqlBatch.Proofs.Sql.Target
import SqlBatch.Result.Affected
import SqlBatch.Result.Row
import SqlBatch.Schema.Attributes
import SqlBatch.Schema.Column
import SqlBatch.Schema.Table
import SqlBatch.Session.Basic
import SqlBatch.Session.Calls
import SqlBatch.Session.Program
import SqlBatch.Session.Run
import SqlBatch.Session.Scope
import SqlBatch.Session.Scripted
import SqlBatch.Sql.Clause
import SqlBatch.Sql.Identifier
import SqlBatch.Sql.Literal
import SqlBatch.Sql.Statement
import SqlBatch.Text.Blank
import SqlBatch.Text.Composition
import SqlBatch.Text.Excerpt
import SqlBatch.Text.Hex
import SqlBatch.Text.Mark
import SqlBatch.Text.Separated
import SqlBatch.Text.Shown
import SqlBatch.Text.Split
import SqlBatch.Text.Table
import SqlBatch.Text.Utf8
import SqlBatch.Url.Basic
import SqlBatch.Url.Host
import SqlBatch.Url.Path
import SqlBatch.Url.Percent
import SqlBatch.Value.Accessors
import SqlBatch.Value.Basic
import SqlBatch.Value.Inspect
import SqlBatch.Proofs.Value.Doubles
import SqlBatch.Proofs.Text.Utf8
import SqlBatch.Proofs.Value.Texts
import SqlBatch.Proofs.Sql.Definition
import SqlBatch.Proofs.Sql.Lexemes
import SqlBatch.Proofs.Sql.Union
import SqlBatch.Proofs.Result.Shaping
import SqlBatch.Proofs.Schema.Declaration
import SqlBatch.Proofs.Session.Refusal
import SqlBatch.Proofs.Session.Addressed
import SqlBatch.Proofs.MySql.Replies
import SqlBatch.Proofs.MySql.Times
import SqlBatch.Proofs.Sql.Dialects
import SqlBatch.Proofs.Text.Joined
import SqlBatch.Sql.Quoting
import SqlBatch.Text.Slice
import SqlBatch.Proofs.Sql.Naming
import SqlBatch.Proofs.Text.Cut
