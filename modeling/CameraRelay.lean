import CameraRelay.Admission
import CameraRelay.Admission.Operation
import CameraRelay.Base64
import CameraRelay.Broker
import CameraRelay.Command
import CameraRelay.CommandLine
import CameraRelay.Connection
import CameraRelay.Connection.Lines
import CameraRelay.Decoder.Diagnostics
import CameraRelay.Decoder.ExitStatus
import CameraRelay.Decoder.Handle
import CameraRelay.Decoder.Supervisor
import CameraRelay.Device
import CameraRelay.Event
import CameraRelay.Failure
import CameraRelay.Json.Fault
import CameraRelay.Json.Number
import CameraRelay.Json.Reader
import CameraRelay.Json.Text
import CameraRelay.Json.Value
import CameraRelay.Lobby
import CameraRelay.Lobby.Turns
import CameraRelay.Lobby.Turns.Runs
import CameraRelay.Locator
import CameraRelay.Mailbox
import CameraRelay.Main
import CameraRelay.Net.Address
import CameraRelay.Net.Listening
import CameraRelay.Number.Binary64
import CameraRelay.Number.Shortest
import CameraRelay.Phase
import CameraRelay.Proofs.Admission.Advance
import CameraRelay.Proofs.Admission.Arrival
import CameraRelay.Proofs.Admission.Chronicle
import CameraRelay.Proofs.Admission.Faithful
import CameraRelay.Proofs.Admission.Grants
import CameraRelay.Proofs.Admission.Outcomes
import CameraRelay.Proofs.Admission.Owners
import CameraRelay.Proofs.Admission.Slots
import CameraRelay.Proofs.Admission.Standing
import CameraRelay.Proofs.Base64
import CameraRelay.Proofs.Broker.Answers
import CameraRelay.Proofs.Broker.Balance
import CameraRelay.Proofs.Broker.Changes
import CameraRelay.Proofs.Broker.Counts
import CameraRelay.Proofs.Broker.Deaf
import CameraRelay.Proofs.Broker.Evolution
import CameraRelay.Proofs.Broker.Handover
import CameraRelay.Proofs.Broker.Offers
import CameraRelay.Proofs.Broker.Parting
import CameraRelay.Proofs.Broker.Shape
import CameraRelay.Proofs.Broker.Watchers
import CameraRelay.Proofs.Commands
import CameraRelay.Proofs.Decoder.Intake
import CameraRelay.Proofs.Json.Numbers
import CameraRelay.Proofs.Json.Strings
import CameraRelay.Proofs.Json.Values
import CameraRelay.Proofs.Lobby.Commands
import CameraRelay.Proofs.Lobby.Endings
import CameraRelay.Proofs.Locator.Redaction
import CameraRelay.Proofs.Mailbox.Reserve
import CameraRelay.Proofs.Mailboxes
import CameraRelay.Proofs.Number.Reach
import CameraRelay.Proofs.Relay.Deadline
import CameraRelay.Proofs.Relay.Delivery
import CameraRelay.Proofs.Relay.Farewell
import CameraRelay.Proofs.Relay.Moves
import CameraRelay.Proofs.Relay.Output
import CameraRelay.Proofs.Relay.Parting
import CameraRelay.Proofs.Relay.Quiet
import CameraRelay.Proofs.Relay.Requests
import CameraRelay.Proofs.Relay.Sessions
import CameraRelay.Proofs.Relay.Shutdown
import CameraRelay.Proofs.Relay.Slots
import CameraRelay.Proofs.Relay.Tally
import CameraRelay.Proofs.Relay.Viewing
import CameraRelay.Proofs.Relay.Waiting
import CameraRelay.Proofs.Session.Isolation
import CameraRelay.Proofs.Splitter.Images
import CameraRelay.Proofs.Wire
import CameraRelay.Relay
import CameraRelay.Relay.Turns
import CameraRelay.Relay.Turns.Runs
import CameraRelay.Roster
import CameraRelay.Session
import CameraRelay.Settings
import CameraRelay.Source
import CameraRelay.Splitter
import CameraRelay.Stats
import CameraRelay.SystemFault
import CameraRelay.Text.Blank
import CameraRelay.Text.Quoted
import CameraRelay.Text.Search
import CameraRelay.Text.Shown
import CameraRelay.Text.Utf8
import CameraRelay.Wire
import CameraRelay.Proofs.Relay.Silence
import CameraRelay.Proofs.Decoder.Reports
import CameraRelay.Proofs.Connection.Due
import CameraRelay.Proofs.Connection.Lines
import CameraRelay.Proofs.Connection.Reading
import CameraRelay.Proofs.Lobby.Reading
import CameraRelay.Proofs.Admission.Counters
import CameraRelay.Proofs.Relay.Order
import CameraRelay.Proofs.Relay.Stopping
import CameraRelay.Proofs.Lobby.Writing
import CameraRelay.Proofs.Admission.Positions
import CameraRelay.Proofs.Decoder.Arguments
import CameraRelay.Proofs.Locator.Exactness
import CameraRelay.Proofs.Relay.Frames
import CameraRelay.Proofs.Directory
import CameraRelay.Proofs.Locator.Embedding
import CameraRelay.Proofs.Relay.Cameras
import CameraRelay.Proofs.Text.Blank
import CameraRelay.Proofs.Text.Utf8
