import Accord.Access.Format
import Accord.Access.Privilege
import Accord.Catalog.Format
import Accord.Catalog.Query
import Accord.Catalog.Reading
import Accord.Catalog.Result
import Accord.Document.Basic
import Accord.Document.Outline
import Accord.Error
import Accord.Extension.Basic
import Accord.Extension.Change
import Accord.Extension.Format
import Accord.Files.Path
import Accord.Files.Tree
import Accord.Json.Basic
import Accord.Json.Decoder
import Accord.Json.Draft
import Accord.Json.Flattened
import Accord.Json.Literal
import Accord.Json.Problem
import Accord.Json.Writer
import Accord.Lifecycle.Basic
import Accord.Lifecycle.Document
import Accord.Lifecycle.Extension
import Accord.Lifecycle.Role
import Accord.Lifecycle.Rule
import Accord.Lifecycle.Schema
import Accord.Main
import Accord.Name
import Accord.Number.Binary64
import Accord.Ordered.Difference
import Accord.Ordered.Map
import Accord.Ordered.Set
import Accord.Profile.Basic
import Accord.Profile.Format
import Accord.Profile.Store
import Accord.Program.Arguments
import Accord.Program.Envelope
import Accord.Program.Request
import Accord.Program.Run
import Accord.Proofs.Access.Privilege
import Accord.Proofs.Catalog.Answer
import Accord.Proofs.Catalog.Effect
import Accord.Proofs.Catalog.Escalation
import Accord.Proofs.Catalog.Faithful
import Accord.Proofs.Catalog.Memory
import Accord.Proofs.Catalog.State
import Accord.Proofs.Document.Idempotence
import Accord.Proofs.Document.RoundTrip
import Accord.Proofs.Document.Secrecy
import Accord.Proofs.Document.Transactions
import Accord.Proofs.Extension.Convergence
import Accord.Proofs.Extension.Plan
import Accord.Proofs.Files.Path
import Accord.Proofs.Files.Tree
import Accord.Proofs.Json.Decoder
import Accord.Proofs.Json.Flattened
import Accord.Proofs.Json.Literal
import Accord.Proofs.Json.Reading
import Accord.Proofs.Json.Writing
import Accord.Proofs.Lifecycle.Attempt
import Accord.Proofs.Lifecycle.Call
import Accord.Proofs.Lifecycle.Course
import Accord.Proofs.Lifecycle.Dialect
import Accord.Proofs.Lifecycle.Extension
import Accord.Proofs.Lifecycle.Failure
import Accord.Proofs.Lifecycle.Faithful
import Accord.Proofs.Lifecycle.Feature
import Accord.Proofs.Lifecycle.Idempotent
import Accord.Proofs.Lifecycle.Identity
import Accord.Proofs.Lifecycle.Interleaving
import Accord.Proofs.Lifecycle.Lookup
import Accord.Proofs.Lifecycle.Preview
import Accord.Proofs.Lifecycle.Rejection
import Accord.Proofs.Lifecycle.Report
import Accord.Proofs.Lifecycle.Role
import Accord.Proofs.Lifecycle.Rule
import Accord.Proofs.Lifecycle.Schema
import Accord.Proofs.Lifecycle.Secrecy
import Accord.Proofs.Lifecycle.Section
import Accord.Proofs.Name
import Accord.Proofs.Ordered.Difference
import Accord.Proofs.Profile.Format
import Accord.Proofs.Profile.Layers
import Accord.Proofs.Profile.Store
import Accord.Proofs.Role.Aspect
import Accord.Proofs.Role.Convergence
import Accord.Proofs.Role.Dialect
import Accord.Proofs.Role.Execution
import Accord.Proofs.Role.Part
import Accord.Proofs.Role.Plan
import Accord.Proofs.Role.Secrecy
import Accord.Proofs.Role.Wording
import Accord.Proofs.Rule.Adjustment
import Accord.Proofs.Rule.Convergence
import Accord.Proofs.Rule.Move
import Accord.Proofs.Rule.Plan
import Accord.Proofs.Schema.Aspect
import Accord.Proofs.Schema.Convergence
import Accord.Proofs.Schema.Execution
import Accord.Proofs.Schema.Plan
import Accord.Proofs.Schema.Policies
import Accord.Proofs.Schema.Shares
import Accord.Proofs.Server.Version
import Accord.Proofs.Session.Asking
import Accord.Proofs.Session.Atomicity
import Accord.Proofs.Session.Commands
import Accord.Proofs.Session.Interleaving
import Accord.Proofs.Session.Reading
import Accord.Proofs.Session.Rejection
import Accord.Proofs.Session.Related
import Accord.Proofs.Session.Run
import Accord.Proofs.Session.Secrecy
import Accord.Proofs.Session.Store
import Accord.Proofs.Session.Trace
import Accord.Proofs.Session.Transaction
import Accord.Proofs.Sql.Lexer
import Accord.Proofs.Statement.Dialect
import Accord.Proofs.Statement.Order
import Accord.Proofs.Statement.Secrecy
import Accord.Proofs.Statement.Tokens
import Accord.Proofs.Text.Blank
import Accord.Proofs.Text.Pieces
import Accord.Proofs.Text.Word
import Accord.Proofs.Time.Calendar
import Accord.Proofs.Time.Expiry
import Accord.Proofs.Time.Reading
import Accord.Proofs.Time.Writing
import Accord.Role.Basic
import Accord.Role.Change
import Accord.Role.Format
import Accord.Rule.Basic
import Accord.Rule.Change
import Accord.Rule.Format
import Accord.Schema.Basic
import Accord.Schema.Change
import Accord.Schema.Format
import Accord.Script.Server
import Accord.Server.Facts
import Accord.Server.Feature
import Accord.Server.Format
import Accord.Server.Version
import Accord.Session.Catalog
import Accord.Session.Context
import Accord.Session.Lock
import Accord.Session.Server
import Accord.Session.Transaction
import Accord.Sql.Quote
import Accord.Statement.Basic
import Accord.Statement.Format
import Accord.Statement.Plan
import Accord.Text.Blank
import Accord.Text.Quoted
import Accord.Text.Unprintable
import Accord.Time.Calendar
import Accord.Time.Expiry
