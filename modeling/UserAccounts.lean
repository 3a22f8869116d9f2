import UserAccounts.Http.Server
import UserAccounts.Main
import UserAccounts.Postgres.Pool
import UserAccounts.Proofs.Account.Creation
import UserAccounts.Proofs.Store.Transparency
import UserAccounts.Scenario
import UserAccounts.Proofs.Store.Serving
import UserAccounts.Proofs.Store.Ledger
import UserAccounts.Proofs.Account.Concurrency
import UserAccounts.Proofs.Text.Utf8
import UserAccounts.Proofs.Url.Form
import UserAccounts.Proofs.Url.Marks
import UserAccounts.Proofs.Url.Clean
import UserAccounts.Proofs.Url.Rooted
import UserAccounts.Proofs.Page.Links
import UserAccounts.Proofs.Page.Neighbours
import UserAccounts.Proofs.Account.Listing
import UserAccounts.Proofs.Http.Walk
import UserAccounts.Proofs.Store.Visits
import UserAccounts.Proofs.Store.Metering
import UserAccounts.Proofs.Store.Reports
import UserAccounts.Proofs.Account.Stacked
import UserAccounts.Proofs.Account.Outcome
import UserAccounts.Proofs.Store.Surroundings
import UserAccounts.Proofs.Http.Effect
import UserAccounts.Proofs.Store.Alike
import UserAccounts.Proofs.Account.Discretion
import UserAccounts.Proofs.Http.Secrecy
import UserAccounts.Proofs.Metrics.Exposition
import UserAccounts.Proofs.Metrics.Instruments
import UserAccounts.Proofs.Metrics.Tally
import UserAccounts.Proofs.Store.LifeCycle
import UserAccounts.Proofs.Postgres.Failure
import UserAccounts.Proofs.Postgres.LifeCycle
import UserAccounts.Proofs.Store.Roster
import UserAccounts.Proofs.Postgres.Agreement
import UserAccounts.Proofs.Json.Reading
import UserAccounts.Proofs.Http.Written
import UserAccounts.Proofs.Account.Columns
import UserAccounts.Proofs.Account.Decision
import UserAccounts.Proofs.Account.Readback
import UserAccounts.Proofs.Account.Reporting
import UserAccounts.Proofs.Http.Tracking
import UserAccounts.Proofs.Metrics.Refusal
import UserAccounts.Proofs.Account.Discipline
import UserAccounts.Proofs.Store.Persistence
import UserAccounts.Proofs.Store.Timekeeping
import UserAccounts.Proofs.Store.Latency
import UserAccounts.Proofs.Account.Punctuality
import UserAccounts.Proofs.Json.Values
import UserAccounts.Proofs.Account.Positions
import UserAccounts.Proofs.Http.Backwards
import UserAccounts.Proofs.Account.FailureText
import UserAccounts.Proofs.Url.Hierarchy
import UserAccounts.Proofs.Config.BaseUrl
import UserAccounts.Proofs.Config.Layers
import UserAccounts.Proofs.Text.Decoding
import UserAccounts.Proofs.Sequence
import UserAccounts.Proofs.Postgres.Reading
import UserAccounts.Proofs.Json.Fractions
import UserAccounts.Proofs.Decimal.Doubles
import UserAccounts.Proofs.Decimal.Magnitude
import UserAccounts.Proofs.Json.Numbers
import UserAccounts.Proofs.Json.Transcripts
import UserAccounts.Proofs.OpenApi.Conformance
import UserAccounts.Proofs.Http.Documented
import UserAccounts.Proofs.Time.Rounding
import UserAccounts.Proofs.Http.Relay
import UserAccounts.Proofs.Http.Shutdown
import UserAccounts.Proofs.Http.FailureBodies
