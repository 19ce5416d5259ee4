import LiveFlags.Client.Build
import LiveFlags.Client.Evaluate
import LiveFlags.Client.Simulation
import LiveFlags.Config.Load
import LiveFlags.Http.Build
import LiveFlags.Http.Polling
import LiveFlags.Proofs.Client.Simulation
import LiveFlags.Proofs.Client.Transition
import LiveFlags.Proofs.Client.Run
import LiveFlags.Proofs.Client.Accounting
import LiveFlags.Proofs.Client.Source
import LiveFlags.Proofs.Client.Serving
import LiveFlags.Proofs.Client.Calls
import LiveFlags.Proofs.Client.Draining
import LiveFlags.Proofs.Text.Utf8
import LiveFlags.Proofs.Http.Server
import LiveFlags.Proofs.Http.Revalidation
import LiveFlags.Proofs.Client.Status
import LiveFlags.Proofs.Client.Faults
import LiveFlags.Proofs.Client.Abandoning
import LiveFlags.Proofs.Http.HeaderText
import LiveFlags.Proofs.Http.Requests
import LiveFlags.Proofs.Decimal.Binary
import LiveFlags.Proofs.Client.Waits
import LiveFlags.Proofs.Client.Schedule
import LiveFlags.Proofs.Store.Audience
import LiveFlags.Proofs.Client.Publishers
import LiveFlags.Http.Stages
import LiveFlags.Proofs.Http.Cache
import LiveFlags.Proofs.Http.Sharing
import LiveFlags.Proofs.Config.Sources
import LiveFlags.Proofs.Client.Deadlines
import LiveFlags.Proofs.Table
import LiveFlags.Proofs.Json.Tokens
import LiveFlags.Proofs.Json.Written
import LiveFlags.Proofs.Json.Typed
import LiveFlags.Proofs.Flag.Codec
import LiveFlags.Proofs.Client.Spread
import LiveFlags.Proofs.Client.Waiting
import LiveFlags.Proofs.Client.Readiness
import LiveFlags.Proofs.Stats
import LiveFlags.Proofs.Config.Loading
import LiveFlags.Proofs.Flag.Payload
import LiveFlags.Proofs.Client.Admission
import LiveFlags.Proofs.Http.Verdict
import LiveFlags.Proofs.Client.Chronicle
import LiveFlags.Proofs.Client.Reading
import LiveFlags.Proofs.Http.Quoting
import LiveFlags.Proofs.Config.Written
import LiveFlags.Proofs.Client.Exhaustion
import LiveFlags.Proofs.Http.Deadline
