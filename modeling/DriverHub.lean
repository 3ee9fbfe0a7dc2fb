import DriverHub.Text.Bytes
import DriverHub.Name
import DriverHub.Defect
import DriverHub.Config.Basic
import DriverHub.Config.Reader
import DriverHub.Config.Document
import DriverHub.Endpoint
import DriverHub.Grant
import DriverHub.Request.Kind
import DriverHub.Wire.Format
import DriverHub.Wire.Message
import DriverHub.Wire.Layout
import DriverHub.Wire.Frame
import DriverHub.Request.Pool
import DriverHub.Request.Queue
import DriverHub.Discovery
import DriverHub.Transport
import DriverHub.Interface
import DriverHub.Journal
import DriverHub.Session
import DriverHub.Request.Bank
import DriverHub.Hub.Driver
import DriverHub.Hub.Basic
import DriverHub.Hub.Lifecycle
import DriverHub.Hub.Handshake
import DriverHub.Hub.Replies
import DriverHub.Hub.Requests
import DriverHub.InMemory.Outbox
import DriverHub.InMemory.GrantLedger
import DriverHub.InMemory.Roster
import DriverHub.InMemory.CallbackLog
import DriverHub.Proofs.Request.Chain
import DriverHub.Proofs.Request.Layout
import DriverHub.Proofs.Request.Operations
import DriverHub.Proofs.Hub.Lanes
import DriverHub.Proofs.Session.Outcome
import DriverHub.Proofs.Session.Callbacks
import DriverHub.Proofs.Hub.Sound
import DriverHub.Proofs.Hub.Moves
import DriverHub.Proofs.Hub.Simulation
import DriverHub.Proofs.Hub.InitReply
import DriverHub.Proofs.Hub.Reaction
import DriverHub.Proofs.Hub.Issuing
import DriverHub.Proofs.Hub.Run
import DriverHub.Proofs.Hub.Account
import DriverHub.Proofs.Hub.Agreement
import DriverHub.Proofs.Hub.Order
import DriverHub.Proofs.Hub.Grants
import DriverHub.Proofs.Hub.Numbers
import DriverHub.Proofs.Hub.Spares
import DriverHub.Proofs.Hub.Table
import DriverHub.Proofs.Hub.Admission
import DriverHub.Proofs.Hub.Standing
import DriverHub.Proofs.Hub.Callbacks
import DriverHub.Proofs.Hub.Reconcile
import DriverHub.Proofs.Hub.Effects
import DriverHub.Proofs.Hub.Handshake
import DriverHub.Proofs.Hub.Holding
import DriverHub.Proofs.Hub.Guarded
import DriverHub.Proofs.InMemory.Hosted
import DriverHub.Proofs.InMemory.Counts
import DriverHub.Proofs.InMemory.Steady
import DriverHub.Proofs.Hub.Isolation
import DriverHub.Proofs.InMemory.Ledger
import DriverHub.Proofs.InMemory.Twins
import DriverHub.Proofs.InMemory.Isolation
import DriverHub.Proofs.Wire.Format
import DriverHub.Proofs.Wire.RoundTrip
import DriverHub.Proofs.Wire.Canonical
import DriverHub.Proofs.Hub.Incoming
import DriverHub.Proofs.Session.InStep
import DriverHub.Proofs.Request.Shelf
import DriverHub.Proofs.Request.Bank
import DriverHub.Proofs.Hub.Distinct
import DriverHub.Proofs.Hub.Outgoing
import DriverHub.Proofs.Name
import DriverHub.Proofs.Hub.Answering
import DriverHub.Proofs.Session.Blind
import DriverHub.Proofs.Request.Residue
import DriverHub.Proofs.Hub.Residue
import DriverHub.Proofs.Hub.Unison
import DriverHub.Proofs.Hub.Traceless
import DriverHub.Proofs.Hub.Configuring
import DriverHub.Proofs.Session.Posting
import DriverHub.Proofs.Hub.Posting
import DriverHub.Proofs.InMemory.Delivery
import DriverHub.Proofs.Hub.Cancelling
import DriverHub.Proofs.Config.Reader
import DriverHub.Proofs.Config.Document
import DriverHub.Proofs.Config.Rendering
import DriverHub.Proofs.Config.Capacity
import DriverHub.Proofs.InMemory.Bookkeeping
