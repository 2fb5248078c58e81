import RecordMap.Numeral.Binary
import RecordMap.Numeral.Shortest
import RecordMap.Numeral.Round
import RecordMap.Numeral.Width
import RecordMap.Numeral.Integral
import RecordMap.Numeral.Parse
import RecordMap.Numeral.Text
import RecordMap.Numeral.Extended
import RecordMap.Text.Utf8
import RecordMap.Sql.Bytes
import RecordMap.Sql.RealRead
import RecordMap.Sql.RealText
import RecordMap.Sql.Datum
import RecordMap.Text.Blank
import RecordMap.Time.Calendar
import RecordMap.Time.Clock
import RecordMap.Time.Parse
import RecordMap.Uuid
import RecordMap.Value.Decimal
import RecordMap.Value.Kind
import RecordMap.Value.Basic
import RecordMap.Error
import RecordMap.Value.Coerce
import RecordMap.Database.Codec
import RecordMap.Schema.Field
import RecordMap.Schema.Table
import RecordMap.Text.Quoted
import RecordMap.Schema.Mapping
import RecordMap.Schema.Catalog
import RecordMap.Sql.Token
import RecordMap.Sql.Fault
import RecordMap.Sql.Syntax
import RecordMap.Sql.Parse.Cursor
import RecordMap.Sql.Parse.Expr
import RecordMap.Sql.Parse.Statement
import RecordMap.Sql.Affinity
import RecordMap.Sql.Compare
import RecordMap.Sql.Operators
import RecordMap.Sql.Functions
import RecordMap.Sql.Printf
import RecordMap.Sql.DateTime
import RecordMap.Sql.Json.Node
import RecordMap.Sql.Json.Path
import RecordMap.Sql.Json.Read
import RecordMap.Sql.JsonFunctions
import RecordMap.Sql.Pattern
import RecordMap.Sql.Scalar
import RecordMap.Sql.Aggregate
import RecordMap.Sql.Store
import RecordMap.Sql.Plan
import RecordMap.Sql.Walk
import RecordMap.Sql.Planner.Basic
import RecordMap.Sql.Planner.Estimate
import RecordMap.Sql.Planner.Access
import RecordMap.Sql.Planner.Constraint
import RecordMap.Sql.Planner.Loop
import RecordMap.Sql.Planner.Order
import RecordMap.Sql.Planner.Path
import RecordMap.Sql.Planner
import RecordMap.Sql.Eval
import RecordMap.Sql.Scope
import RecordMap.Sql.Resolve
import RecordMap.Sql.Write
import RecordMap.Sql.ForeignKey
import RecordMap.Sql.Trigger
import RecordMap.Sql.Apply
import RecordMap.Sql.Define
import RecordMap.Sql.Pragma
import RecordMap.Sql.Engine
import RecordMap.Database.Connection
import RecordMap.Value.Debug
import RecordMap.Database.Row
import RecordMap.Query.Host
import RecordMap.Database.Command
import RecordMap.Database.Transaction
import RecordMap.Database.Open
import RecordMap.Database.Records
import RecordMap.Query.Expr
import RecordMap.Text.CaseTable
import RecordMap.Text.Case
import RecordMap.Query.Compile
import RecordMap.Database.TableQuery
import RecordMap.Database.Tables
import RecordMap.Json.Basic
import RecordMap.Json.Number
import RecordMap.Json.Read
import RecordMap.Numeral.Significant
import RecordMap.Schema.Text
import RecordMap.Wire.Value
import RecordMap.Wire.Spec
import RecordMap.Wire.Expr
import RecordMap.Wire.Pure
import RecordMap.Wire.Steps
import RecordMap.Wire.Session
import RecordMap.Wire.Request
import RecordMap.Proofs.Query.CompileCases
import RecordMap.Proofs.Query.FillIn
import RecordMap.Proofs.Query.Render
import RecordMap.Proofs.Query.Placeholders
import RecordMap.Proofs.Query.Shapes
import RecordMap.Proofs.Schema.Build
import RecordMap.Proofs.Time.Civil
import RecordMap.Proofs.Time.Fields
import RecordMap.Proofs.Time.Exchange
import RecordMap.Proofs.Text.Utf8
import RecordMap.Proofs.Uuid
import RecordMap.Proofs.Database.Codec
import RecordMap.Proofs.Database.Materialize
import RecordMap.Proofs.Schema.IndexPlans
import RecordMap.Proofs.Sql.NoColumns
import RecordMap.Proofs.Database.TableCreation
import RecordMap.Proofs.Database.Migration
import RecordMap.Proofs.Database.TickRange
import RecordMap.Proofs.Numeral.FloatBits
import RecordMap.Proofs.Value.WholeNumbers
import RecordMap.Proofs.Value.DecimalText
import RecordMap.Proofs.Query.Builder
import RecordMap.Proofs.Database.Streaming
import RecordMap.Proofs.Query.Terminals
import RecordMap.Proofs.Sql.QuotedNames
import RecordMap.Proofs.Database.SavepointNames
import RecordMap.Proofs.Database.MappingMemo
import RecordMap.Proofs.Database.Bindings
import RecordMap.Proofs.Sql.TransactionControl
import RecordMap.Proofs.Sql.DataStatements
import RecordMap.Proofs.Sql.TransactionLaws
import RecordMap.Proofs.Database.TransactionDepth
import RecordMap.Proofs.Database.SavepointRestore
import RecordMap.Proofs.Database.FailedWrites
import RecordMap.Proofs.Database.AllOrNothing
