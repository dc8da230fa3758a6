import StartupGate.Json.Writer
import StartupGate.Log.Logger
import StartupGate.Main
import StartupGate.Offer
import StartupGate.Proofs.Gate.Timeliness
import StartupGate.Proofs.Probe.Timeline
import StartupGate.Settings.Cache
import StartupGate.Signal
import StartupGate.Proofs.Check.Transience
import StartupGate.Proofs.Json.Shape
import StartupGate.Proofs.Registry.Health
import StartupGate.Proofs.Registry.Confirmation
import StartupGate.Proofs.Check.Ping
import StartupGate.Proofs.Gate.Recovery
import StartupGate.Proofs.Gate.Requests
import StartupGate.Proofs.Gate.Settings
import StartupGate.Proofs.Gate.Provenance
import StartupGate.Proofs.Gate.Failure
import StartupGate.Proofs.Gate.Deadline
import StartupGate.Proofs.Probe.Bounds
import StartupGate.Proofs.Config.Pace
import StartupGate.Proofs.Client.Rows
import StartupGate.Proofs.Settings.Layers
import StartupGate.Proofs.CommandLine.Status
import StartupGate.Proofs.Settings.History
import StartupGate.Proofs.Log.Repeated
import StartupGate.Proofs.Config.Document
import StartupGate.Proofs.Check.Messages
import StartupGate.Proofs.Check.Epoch
import StartupGate.Proofs.Timer.Countdown
import StartupGate.Proofs.Probe.FirstAttempt
import StartupGate.Proofs.Client.History
import StartupGate.Proofs.Registry.Leader
import StartupGate.Proofs.Http.Address
