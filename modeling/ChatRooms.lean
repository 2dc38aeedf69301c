import ChatRooms.Actor.Recorder
import ChatRooms.Mailbox.Probe
import ChatRooms.Main
import ChatRooms.Proofs.Actor.Advance
import ChatRooms.Proofs.Actor.Contract
import ChatRooms.Proofs.Actor.Traffic
import ChatRooms.Proofs.Calendar
import ChatRooms.Proofs.Demo.Course
import ChatRooms.Proofs.Demo.Outcome
import ChatRooms.Proofs.Demo.Plot
import ChatRooms.Proofs.Demo.Schedule
import ChatRooms.Proofs.Demo.Sketch
import ChatRooms.Proofs.History
import ChatRooms.Proofs.Hub.Addresses
import ChatRooms.Proofs.Hub.Aftermath
import ChatRooms.Proofs.Hub.Chronicle
import ChatRooms.Proofs.Hub.Comparison
import ChatRooms.Proofs.Hub.Confinement
import ChatRooms.Proofs.Hub.Delivery
import ChatRooms.Proofs.Hub.Effect
import ChatRooms.Proofs.Hub.KnownAddresses
import ChatRooms.Proofs.Hub.Presence
import ChatRooms.Proofs.Hub.Provision
import ChatRooms.Proofs.Hub.Reaping
import ChatRooms.Proofs.Hub.Refusals
import ChatRooms.Proofs.Hub.Registration
import ChatRooms.Proofs.Hub.Registry
import ChatRooms.Proofs.Hub.Removal
import ChatRooms.Proofs.Hub.Routing
import ChatRooms.Proofs.Hub.Run
import ChatRooms.Proofs.Hub.Separation
import ChatRooms.Proofs.Hub.Service
import ChatRooms.Proofs.Hub.Stream
import ChatRooms.Proofs.Hub.Sweep
import ChatRooms.Proofs.Hub.Told
import ChatRooms.Proofs.Hub.VisitingOrder
import ChatRooms.Proofs.Json.ReadBack
import ChatRooms.Proofs.Mailbox.Matching
import ChatRooms.Proofs.Server.Admission
import ChatRooms.Proofs.Server.Agreement
import ChatRooms.Proofs.Server.ClientSide
import ChatRooms.Proofs.Server.Deed
import ChatRooms.Proofs.Server.Departure
import ChatRooms.Proofs.Server.Effect
import ChatRooms.Proofs.Server.Forecast
import ChatRooms.Proofs.Server.Inbox
import ChatRooms.Proofs.Server.Ledger
import ChatRooms.Proofs.Server.ListRequests
import ChatRooms.Proofs.Server.Listing
import ChatRooms.Proofs.Server.Recovery
import ChatRooms.Proofs.Server.Replay
import ChatRooms.Proofs.Server.Schedule
import ChatRooms.Proofs.Server.Shutdown
import ChatRooms.Proofs.Server.Switching
import ChatRooms.Proofs.Server.TextOutput
import ChatRooms.Proofs.Server.Welcome
import ChatRooms.Proofs.Terminal.Announcement
import ChatRooms.Proofs.Terminal.Clockface
import ChatRooms.Proofs.Terminal.Grammar
import ChatRooms.Proofs.Text.Digits
import ChatRooms.Proofs.Text.Letters
import ChatRooms.Proofs.Text.Trimming
import ChatRooms.Proofs.Timestamp.RoundTrip
import ChatRooms.Proofs.Wire.Layout
import ChatRooms.Wire.Command
import ChatRooms.Wire.Config
