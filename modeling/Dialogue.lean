import Dialogue.Unicode.Case
import Dialogue.Decimal.Layout
import Dialogue.Decimal.Numeral
import Dialogue.Json.Reader
import Dialogue.Json.Writer
import Dialogue.Text.Template
import Dialogue.Text.Span
import Dialogue.Flow.Encoding
import Dialogue.Flow.Graph
import Dialogue.Time.Instant
import Dialogue.Digest
import Dialogue.Script.Encoding
import Dialogue.Script.Run
import Dialogue.Unicode.Lookup
import Dialogue.Unicode.Fold
import Dialogue.Flow.Condition
import Dialogue.Flow.Validation
import Dialogue.Session.Answer
import Dialogue.Session.Encoding
import Dialogue.Session.Walk
import Dialogue.Session.Conversation
import Dialogue.Settings
import Dialogue.Store
import Dialogue.Service.Encoding
import Dialogue.Web.Routes
import Dialogue.Proofs.Flow.Index
import Dialogue.Proofs.Session.Course
import Dialogue.Proofs.Session.Path
import Dialogue.Proofs.Session.Suspension
import Dialogue.Proofs.Session.Transcript
import Dialogue.Proofs.Session.Route
import Dialogue.Proofs.Flow.Publishable
import Dialogue.Proofs.Session.Safety
import Dialogue.Proofs.Decimal.Digits
import Dialogue.Proofs.Json.Tokens
import Dialogue.Proofs.Json.RoundTrip
import Dialogue.Proofs.Json.Limits
import Dialogue.Proofs.Time.Calendar
import Dialogue.Proofs.Time.Written
import Dialogue.Proofs.Session.Stored
import Dialogue.Proofs.Session.Acts
import Dialogue.Proofs.Service.Calls
import Dialogue.Proofs.Service.Chain
import Dialogue.Proofs.Service.Atomicity
import Dialogue.Proofs.Service.Isolation
import Dialogue.Proofs.Flow.Stored
import Dialogue.Proofs.Store.History
import Dialogue.Proofs.Session.Agreement
import Dialogue.Proofs.Session.Idle
import Dialogue.Proofs.Session.Reconnect
import Dialogue.Proofs.Script.Overlay
import Dialogue.Proofs.Script.Simulation
import Dialogue.Proofs.Script.Slots
import Dialogue.Proofs.Script.Watch
import Dialogue.Proofs.Script.Server
import Dialogue.Proofs.Script.Direct
import Dialogue.Proofs.Flow.Handles
import Dialogue.Proofs.Session.Typed
import Dialogue.Proofs.Script.Printed
import Dialogue.Proofs.Script.Reaching
import Dialogue.Proofs.Script.Reading
import Dialogue.Proofs.Script.Readback
import Dialogue.Proofs.Script.Depth
import Dialogue.Proofs.Script.Accepted
import Dialogue.Proofs.Script.Chains
import Dialogue.Proofs.Script.Budget
import Dialogue.Proofs.Flow.WellFormed
import Dialogue.Proofs.Store.Canonical
import Dialogue.Proofs.Session.Kept
import Dialogue.Proofs.Script.Account
import Dialogue.Proofs.Script.Steps
import Dialogue.Proofs.Session.Stops
import Dialogue.Proofs.Session.Cycle
import Dialogue.Proofs.Session.Hops
import Dialogue.Proofs.Flow.Reordered
import Dialogue.Proofs.Session.Reordered
import Dialogue.Proofs.Session.Writes
import Dialogue.Proofs.Text.Interpolation
import Dialogue.Proofs.Text.Links
import Dialogue.Proofs.Flow.Negation
import Dialogue.Proofs.Decimal.Finite
import Dialogue.Proofs.Script.Numbers
import Dialogue.Proofs.Session.Numeric
import Dialogue.Proofs.Script.Embedded
import Dialogue.Proofs.Script.Followed
import Dialogue.Proofs.Script.Placed
import Dialogue.Proofs.Script.Scoping
import Dialogue.Proofs.Script.Assigning
import Dialogue.Proofs.Session.Assigned
import Dialogue.Proofs.Flow.Patterns
import Dialogue.Proofs.Script.Lines
import Dialogue.Proofs.Script.Descent
import Dialogue.Proofs.Script.Total
