import SqlGateway.Config.Json
import SqlGateway.Exchange.Config
import SqlGateway.Exchange.Request
import SqlGateway.Exchange.Result
import SqlGateway.Exchange.Script
import SqlGateway.Exchange.Server
import SqlGateway.Entity.Field
import SqlGateway.Main
import SqlGateway.Server.Postgres.Connection
import SqlGateway.Workspace
import SqlGateway.Proofs.Sql.Number
import SqlGateway.Proofs.Sql.Phrase
import SqlGateway.Proofs.Sql.Literal
import SqlGateway.Proofs.Sql.Insertion
import SqlGateway.Proofs.Sql.Comparison
import SqlGateway.Proofs.Sql.Formula
import SqlGateway.Proofs.Session.Recorded
import SqlGateway.Proofs.Category
import SqlGateway.Proofs.Steps
import SqlGateway.Proofs.Dialect.Causes
import SqlGateway.Proofs.Dialect.Extent
import SqlGateway.Proofs.Dialect.Place
import SqlGateway.Proofs.Dialect.Wrapped
import SqlGateway.Proofs.Session.Sent
import SqlGateway.Proofs.Session.Verdict
import SqlGateway.Proofs.Cursor.Event
import SqlGateway.Proofs.Cursor.Step
import SqlGateway.Proofs.Cursor.Run
import SqlGateway.Proofs.Session.Lifecycle
import SqlGateway.Proofs.Sql.Paging
import SqlGateway.Proofs.Sql.Window
import SqlGateway.Proofs.Sql.Restriction
import SqlGateway.Proofs.Request.Preview
import SqlGateway.Proofs.Request.Draft
import SqlGateway.Proofs.Request.Count
import SqlGateway.Proofs.Condition.Form
import SqlGateway.Proofs.Instances.History
import SqlGateway.Proofs.Session.Transaction
import SqlGateway.Proofs.Cursor.Objects
import SqlGateway.Proofs.Entity.Views
import SqlGateway.Proofs.Repository.Keys
import SqlGateway.Proofs.Dialect.Source
import SqlGateway.Proofs.Request.SmartJoin
import SqlGateway.Proofs.Request.Joining
import SqlGateway.Proofs.Request.Accumulation
import SqlGateway.Proofs.Statement.History
import SqlGateway.Proofs.Config.Folding
import SqlGateway.Proofs.Config.Cache
import SqlGateway.Proofs.Postgres.Connection
import SqlGateway.Proofs.Query.Layering
import SqlGateway.Proofs.Session.Reported
import SqlGateway.Proofs.MySql.Temporal
import SqlGateway.Proofs.Request.EmptyList
import SqlGateway.Proofs.Sql.Quoting
import SqlGateway.Proofs.Value.Json
