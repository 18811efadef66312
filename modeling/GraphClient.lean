import GraphClient.Call.Program
import GraphClient.Call.Race
import GraphClient.Client.Builder
import GraphClient.Client.History
import GraphClient.Client.Minimal
import GraphClient.Codec.Erased
import GraphClient.Http.Settings
import GraphClient.Reader.Reading
import GraphClient.Reader.Selection
import GraphClient.Registry.Calls
import GraphClient.Session
import GraphClient.Session.Command
import GraphClient.Session.Passage
import GraphClient.Variables.Draft
import GraphClient.Proofs.Call.Rules
import GraphClient.Proofs.Call.Advance
import GraphClient.Proofs.Call.Sender
import GraphClient.Proofs.Call.Cancellation
import GraphClient.Proofs.Call.Phases
import GraphClient.Proofs.Call.Delivery
import GraphClient.Proofs.Call.Independence
import GraphClient.Proofs.Call.Sending
import GraphClient.Proofs.Client.Settings
import GraphClient.Proofs.Client.History
import GraphClient.Proofs.Client.Building
import GraphClient.Proofs.Client.Rebuilding
import GraphClient.Proofs.Client.ScalarService
import GraphClient.Proofs.Client.HeaderSetters
import GraphClient.Proofs.Codec.TypeSafety
import GraphClient.Proofs.Exchange.Accounting
import GraphClient.Proofs.Exchange.Envelopes
import GraphClient.Proofs.Exchange.NullMembers
import GraphClient.Proofs.Exchange.Outcomes
import GraphClient.Proofs.Exchange.Requests
import GraphClient.Proofs.Json.Integers
import GraphClient.Proofs.Json.Strings
import GraphClient.Proofs.Json.Values
import GraphClient.Proofs.Json.Canonical
import GraphClient.Proofs.Json.Records
import GraphClient.Proofs.Json.Rearranging
import GraphClient.Proofs.Json.Texts
import GraphClient.Proofs.Reader.Simulation
import GraphClient.Proofs.Reader.NullFields
import GraphClient.Proofs.Reader.Places
import GraphClient.Proofs.Reader.Paths
import GraphClient.Proofs.Reader.Styles
import GraphClient.Proofs.Codec.Installing
import GraphClient.Proofs.Registry.Invariants
import GraphClient.Proofs.Request.RoundTrip
import GraphClient.Proofs.Response.Meaning
import GraphClient.Proofs.Response.RoundTrip
import GraphClient.Proofs.Session.Passage
import GraphClient.Proofs.Session.Slots
import GraphClient.Proofs.Session.Changes
import GraphClient.Proofs.Session.OnPassage
import GraphClient.Proofs.Session.Attending
import GraphClient.Proofs.Session.Workload
import GraphClient.Proofs.Session.Progress
import GraphClient.Proofs.Session.Upheld
import GraphClient.Proofs.Session.Deliveries
import GraphClient.Proofs.Variables.ReadBack
import GraphClient.Proofs.Variables.Bindings
import GraphClient.Proofs.Variables.Encoding
import GraphClient.Proofs.Variables.LastWins
import GraphClient.Proofs.Variables.Order
