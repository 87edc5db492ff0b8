import EventBroker.Client.Loops
import EventBroker.Config
import EventBroker.Frame.Decoder
import EventBroker.Http.Wire
import EventBroker.Main
import EventBroker.Net.Address
import EventBroker.Program
import EventBroker.Proofs.Base64
import EventBroker.Proofs.Client.Attempt
import EventBroker.Proofs.Client.Bookkeeping
import EventBroker.Proofs.Client.Cancellation
import EventBroker.Proofs.Client.Hooks
import EventBroker.Proofs.Client.Omission
import EventBroker.Proofs.Client.Position
import EventBroker.Proofs.Client.Reading
import EventBroker.Proofs.Client.Reconnection
import EventBroker.Proofs.Client.Refusal
import EventBroker.Proofs.Client.Relay
import EventBroker.Proofs.Client.Rounds
import EventBroker.Proofs.Client.Sharing
import EventBroker.Proofs.Client.Yield
import EventBroker.Proofs.Decimal
import EventBroker.Proofs.EventStream.Assigned
import EventBroker.Proofs.EventStream.FanOut
import EventBroker.Proofs.EventStream.History
import EventBroker.Proofs.EventStream.Lifecycle
import EventBroker.Proofs.EventStream.Log
import EventBroker.Proofs.EventStream.Lookup
import EventBroker.Proofs.EventStream.Mailbox
import EventBroker.Proofs.EventStream.Numbered
import EventBroker.Proofs.EventStream.Registered
import EventBroker.Proofs.EventStream.Sequence
import EventBroker.Proofs.Frame.Body
import EventBroker.Proofs.Frame.Calls
import EventBroker.Proofs.Frame.Chunking
import EventBroker.Proofs.Frame.Drain
import EventBroker.Proofs.Frame.Fields
import EventBroker.Proofs.Frame.Grammar
import EventBroker.Proofs.Frame.Limit
import EventBroker.Proofs.Frame.LineBreaks
import EventBroker.Proofs.Frame.Omission
import EventBroker.Proofs.Frame.Payload
import EventBroker.Proofs.Frame.Reencoding
import EventBroker.Proofs.Frame.Resynchronisation
import EventBroker.Proofs.Frame.RoundTrip
import EventBroker.Proofs.Frame.Scan
import EventBroker.Proofs.Frame.Splitting
import EventBroker.Proofs.Registry
import EventBroker.Proofs.Registry.Feed
import EventBroker.Proofs.Registry.History
import EventBroker.Proofs.Registry.Holds
import EventBroker.Proofs.Registry.Lookup
import EventBroker.Proofs.Registry.Reaches
import EventBroker.Proofs.Replay
import EventBroker.Proofs.Replay.Retention
import EventBroker.Proofs.Replay.Window
import EventBroker.Proofs.Resumption
import EventBroker.Proofs.Run
import EventBroker.Proofs.Server.Backlog
import EventBroker.Proofs.Server.Delivery
import EventBroker.Proofs.Server.Feed
import EventBroker.Proofs.Server.History
import EventBroker.Proofs.Server.Holding
import EventBroker.Proofs.Server.Hooks
import EventBroker.Proofs.Server.Interleaving
import EventBroker.Proofs.Server.Isolation
import EventBroker.Proofs.Server.KeepAlive
import EventBroker.Proofs.Server.Ledger
import EventBroker.Proofs.Server.Persistence
import EventBroker.Proofs.Server.Readback
import EventBroker.Proofs.Server.Record
import EventBroker.Proofs.Server.Sound
import EventBroker.Proofs.Server.Step
import EventBroker.Proofs.Server.Streams
import EventBroker.Registry
import EventBroker.Server.Endpoint
import EventBroker.Settings
import EventBroker.Url
