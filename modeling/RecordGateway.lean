import RecordGateway.Backend.Trial
import RecordGateway.Main
import RecordGateway.Proofs.Record.Basic
import RecordGateway.Proofs.NameMap
import RecordGateway.Proofs.Sql.Rebind
import RecordGateway.Proofs.Text.Slices
import RecordGateway.Proofs.Sql.Insert
import RecordGateway.Proofs.Http.Calls
import RecordGateway.Proofs.Http.Pipeline
import RecordGateway.Proofs.Database.Reading
import RecordGateway.Proofs.Database.Tables
import RecordGateway.Proofs.Database.Statements
import RecordGateway.Proofs.Backend.Registering
import RecordGateway.Proofs.Json.Grammar
import RecordGateway.Proofs.Json.Scanning
import RecordGateway.Proofs.Json.Spelling
import RecordGateway.Proofs.Record.Reading
import RecordGateway.Proofs.Record.Decoding
import RecordGateway.Proofs.Latch
import RecordGateway.Proofs.Listener.Shutdown
import RecordGateway.Proofs.Json.Scanned
import RecordGateway.Proofs.Json.Spelled
import RecordGateway.Proofs.Record.Accepting
import RecordGateway.Proofs.Backend.History
import RecordGateway.Proofs.Sql.Pieces
import RecordGateway.Proofs.Backend.Log
import RecordGateway.Proofs.Http.Gate
import RecordGateway.Proofs.Http.Traffic
import RecordGateway.Proofs.Digest.Password
import RecordGateway.Proofs.Text.Blank
import RecordGateway.Proofs.Http.Credentials
import RecordGateway.Proofs.Sql.Columns
import RecordGateway.Proofs.Sql.Shape
import RecordGateway.Proofs.Sql.Distinct
import RecordGateway.Proofs.Json.Numbers
import RecordGateway.Proofs.Number.Decimal
import RecordGateway.Proofs.Number.Exact
import RecordGateway.Proofs.Number.Rounding
import RecordGateway.Proofs.Field.Cutting
import RecordGateway.Proofs.Field.Literal
import RecordGateway.Proofs.Field.Types
import RecordGateway.Proofs.Json.Rendering
import RecordGateway.Proofs.Record.Rewriting
import RecordGateway.Proofs.Record.Truncated
import RecordGateway.Proofs.Sql.Refusals
import RecordGateway.Proofs.Backend.Refusals
import RecordGateway.Proofs.Number.Digits
import RecordGateway.Proofs.Http.ContentLength
import RecordGateway.Proofs.Record.Shape
import RecordGateway.Proofs.Sql.Rebound
import RecordGateway.Proofs.Http.Disclosure
import RecordGateway.Proofs.Settings.Groups
import RecordGateway.Proofs.Record.Pattern
import RecordGateway.Proofs.Sql.Names
import RecordGateway.Proofs.Settings.Accepted
