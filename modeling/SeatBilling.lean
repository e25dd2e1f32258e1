import SeatBilling.Arith.Checked
import SeatBilling.Time.Calendar
import SeatBilling.Time.Moment
import SeatBilling.Time.Rfc3339
import SeatBilling.Json.Value
import SeatBilling.Json.Cursor
import SeatBilling.Json.Read
import SeatBilling.Ident.Uuid
import SeatBilling.Ledger.Status
import SeatBilling.Failure
import SeatBilling.Catalog.Plan
import SeatBilling.Ledger.Subscription
import SeatBilling.Ledger.Invoice
import SeatBilling.Ledger.Event
import SeatBilling.Ledger.PaidEffect
import SeatBilling.Store.Basic
import SeatBilling.Text.Blank
import SeatBilling.Text.Decimal
import SeatBilling.ErrorChain
import SeatBilling.Number.Binary64
import SeatBilling.Number.Shortest
import SeatBilling.Database.Script
import SeatBilling.Database.Value
import SeatBilling.Database.Row
import SeatBilling.Database.Session
import SeatBilling.Crypto.Sha384
import SeatBilling.Database.Schema
import SeatBilling.Database.Migrator
import SeatBilling.Store.Sql
import SeatBilling.Config
import SeatBilling.Time.Display
import SeatBilling.Log.Record
import SeatBilling.Log.Filter
import SeatBilling.World
import SeatBilling.Calls
import SeatBilling.Catalog.Queries
import SeatBilling.EventLog
import SeatBilling.Invoicing
import SeatBilling.Ledger.Operations
import SeatBilling.Json.Decode
import SeatBilling.Webhook
import SeatBilling.Sweep
import SeatBilling.Access.Snapshot
import SeatBilling.Access.Guard
import SeatBilling.Invariants
import SeatBilling.Console.Fields
import SeatBilling.Console.Labels
import SeatBilling.Console.State
import SeatBilling.Documents
import SeatBilling.Console.Records
import SeatBilling.Crypto.Sha256
import SeatBilling.Crypto.Hmac
import SeatBilling.Encoding.Base64Url
import SeatBilling.Auth.Header
import SeatBilling.Auth.Claims
import SeatBilling.Auth.Token
import SeatBilling.Environment
import SeatBilling.Api.Response
import SeatBilling.Api.Error
import SeatBilling.Api.Request
import SeatBilling.Api.Target
import SeatBilling.Api.Extract
import SeatBilling.Api.Handlers
import SeatBilling.Api.Router
import SeatBilling.Console.Setup
import SeatBilling.Console.Step
import SeatBilling.Console.Commands.Billing
import SeatBilling.Console.Commands.Direct
import SeatBilling.Console.Commands.Api
import SeatBilling.Console.Commands.Http
import SeatBilling.Console.Commands.Environment
import SeatBilling.Console.Commands.Database
import SeatBilling.Cron.Schedule
import SeatBilling.Net.SocketAddress
import SeatBilling.Programs.Host
import SeatBilling.Programs.Worker
import SeatBilling.Programs.Server
import SeatBilling.Console.Commands.Programs
import SeatBilling.Console.Script
import SeatBilling.Main
import SeatBilling.Proofs.Store.Writes
import SeatBilling.Proofs.Store.PendingInvoices
import SeatBilling.Proofs.Store.Versions
import SeatBilling.Proofs.Store.ClosedInvoices
import SeatBilling.Proofs.Calls
import SeatBilling.Proofs.Invoicing.Creation
import SeatBilling.Proofs.Ledger.Validation
import SeatBilling.Proofs.Ledger.CheckoutStages
import SeatBilling.Proofs.Ledger.RacingCheckouts
import SeatBilling.Proofs.Webhook.DeliveryStages
import SeatBilling.Proofs.Webhook.DeliverySteps
import SeatBilling.Proofs.Webhook.SettlesOnce
import SeatBilling.Proofs.Services.Specs
import SeatBilling.Proofs.Services.Steps
import SeatBilling.Proofs.Services.FailedOperations
import SeatBilling.Proofs.Services.Runs
import SeatBilling.Proofs.Ledger.Changes
import SeatBilling.Proofs.Services.Reading
import SeatBilling.Proofs.Ledger.OperationWrites
import SeatBilling.Proofs.Ledger.Payments
import SeatBilling.Proofs.Ledger.RecordSteps
import SeatBilling.Proofs.Ledger.SettlingRuns
import SeatBilling.Proofs.Ledger.PaidTime
import SeatBilling.Proofs.Ledger.StatusMachine
import SeatBilling.Proofs.Ledger.Capacity
import SeatBilling.Proofs.Ledger.WellFormed
import SeatBilling.Proofs.Ledger.Interleavings
import SeatBilling.Proofs.Access.FastPath
import SeatBilling.Proofs.Store.Ownership
import SeatBilling.Proofs.Services.TenantIsolation
import SeatBilling.Proofs.Ledger.UnloggedChanges
import SeatBilling.Proofs.Services.Behaves
import SeatBilling.Proofs.Sweep.Fates
import SeatBilling.Proofs.Sweep.Steps
import SeatBilling.Proofs.Sweep.Isolation
import SeatBilling.Proofs.Ledger.ExpiryRule
import SeatBilling.Proofs.Ledger.CommitDecision
import SeatBilling.Proofs.Ledger.PaidWrites
import SeatBilling.Proofs.Sweep.CalmSteps
import SeatBilling.Proofs.Sweep.CalmSweep
import SeatBilling.Proofs.Catalog.TierOrder
import SeatBilling.Proofs.Catalog.SeatPricing
import SeatBilling.Proofs.Services.CollaboratorFailures
import SeatBilling.Proofs.Access.Queries
import SeatBilling.Proofs.Webhook.Handling
import SeatBilling.Proofs.Invariants.Reports
import SeatBilling.Proofs.Store.Settlement
import SeatBilling.Proofs.Provider.Retries
import SeatBilling.Proofs.Ledger.CalendarEdge
import SeatBilling.Proofs.Store.PlanFeatures
