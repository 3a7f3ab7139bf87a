import TextRelay.Client
import TextRelay.Faulty
import TextRelay.History
import TextRelay.Host.LocalListener
import TextRelay.Host.PortListener
import TextRelay.Inbound
import TextRelay.Input.Pump
import TextRelay.Main
import TextRelay.Outbound
import TextRelay.Proofs.Pipe.EndOfStream
import TextRelay.Scenario.Duplex
import TextRelay.Program
import TextRelay.Scenario.Pipe
import TextRelay.Scenario.Program
import TextRelay.Scenario.Server
import TextRelay.Scenario.Session
import TextRelay.Scenario.Signal
import TextRelay.Scenario.Socket
import TextRelay.Server
import TextRelay.Settings
import TextRelay.Text.Control
import TextRelay.Text.Property
import TextRelay.Proofs.Pipe.Ledger
import TextRelay.Proofs.Dialogue.Basic
import TextRelay.Proofs.Session.Relays
import TextRelay.Proofs.Session.Steps
import TextRelay.Proofs.Dialogue.Conservation
import TextRelay.Proofs.Pipe.Pieces
import TextRelay.Proofs.Session.Coordination
import TextRelay.Proofs.Session.Sending
import TextRelay.Proofs.Session.Receiving
import TextRelay.Proofs.Dialogue.OneWay
import TextRelay.Proofs.Session.Quiescence
import TextRelay.Proofs.Dialogue.Outcome
import TextRelay.Proofs.Signal.Reporters
import TextRelay.Proofs.Session.System
import TextRelay.Proofs.Session.Exits
import TextRelay.Proofs.Session.Reports
import TextRelay.Proofs.Session.Shutdown
import TextRelay.Proofs.Pipe.Draining
import TextRelay.Proofs.Session.Termination
import TextRelay.Proofs.History
import TextRelay.Proofs.Server.Calls
import TextRelay.Proofs.CommandLine.Layers
import TextRelay.Proofs.Host.OtherFiles
import TextRelay.Proofs.Host.Ownership
import TextRelay.Proofs.Server.Serving
import TextRelay.Proofs.Text.Utf8
import TextRelay.Proofs.Inbound.Account
import TextRelay.Proofs.Inbound.Boundaries
import TextRelay.Proofs.Outbound.Account
import TextRelay.Proofs.Outbound.System
import TextRelay.Proofs.Outbound.Trip
import TextRelay.Proofs.Text.Decoding
import TextRelay.Proofs.Text.Lossy
import TextRelay.Proofs.Input.Segments
import TextRelay.Proofs.Delivery
import TextRelay.Proofs.Input.Intake
import TextRelay.Proofs.Outbound.Pumped
import TextRelay.Proofs.Input.Endings
import TextRelay.Proofs.Pipe.Bisimulation
import TextRelay.Proofs.Pipe.Clones
import TextRelay.Proofs.Pipe.Erasure
import TextRelay.Proofs.Pipe.Unread
import TextRelay.Proofs.Session.PartlyRead
import TextRelay.Proofs.Session.Trace
import TextRelay.Proofs.Session.Outcome
import TextRelay.Proofs.Text.Decimal
import TextRelay.Proofs.Settings
import TextRelay.Proofs.Endpoint
import TextRelay.Proofs.Session.Buffer
