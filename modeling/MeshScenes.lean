import MeshScenes.Channel.Faulty
import MeshScenes.Config
import MeshScenes.Hub.Demo
import MeshScenes.Hub.Storage
import MeshScenes.Proofs.Act
import MeshScenes.Proofs.Controller
import MeshScenes.Manager.Call
import MeshScenes.Proofs.Manager.Index
import MeshScenes.Proofs.Manager.Traffic
import MeshScenes.Proofs.Manager.Coherence
import MeshScenes.Proofs.Manager.Reachable
import MeshScenes.Proofs.Switching
import MeshScenes.Proofs.Manager.Mirror
import MeshScenes.Proofs.Manager.Report
import MeshScenes.Simulation.ClosedHub
import MeshScenes.Proofs.Manager.Calls
import MeshScenes.Proofs.Network
import MeshScenes.Proofs.ClosedHub.Quiet
import MeshScenes.Proofs.ClosedHub.Dispute
import MeshScenes.Proofs.ClosedHub.History
import MeshScenes.Proofs.ClosedHub.Calm
import MeshScenes.Proofs.ClosedHub.Silence
import MeshScenes.Proofs.ClosedHub.Writing
import MeshScenes.Proofs.ClosedHub.Bystanders
import MeshScenes.Proofs.ClosedHub.Settling
import MeshScenes.Proofs.ClosedHub.OnePress
import MeshScenes.Proofs.Programming
import MeshScenes.Proofs.Manager.Devices
import MeshScenes.Proofs.Manager.Programmed
import MeshScenes.Proofs.Manager.Restoring
import MeshScenes.Proofs.Manager.Isolation
import MeshScenes.Proofs.Manager.Inbound
import MeshScenes.Proofs.Failures
import MeshScenes.Proofs.Manager.Failures
import MeshScenes.Proofs.Manager.Commuting
import MeshScenes.Proofs.Manager.Levels
import MeshScenes.Proofs.Retrying
import MeshScenes.Proofs.Store
import MeshScenes.Controller.Operation
import MeshScenes.Proofs.Controller.History
import MeshScenes.Proofs.Controller.Confirmation
import MeshScenes.Proofs.Manager.Unreachable
import MeshScenes.Proofs.Planning
import MeshScenes.Proofs.Phases
import MeshScenes.Proofs.Controller.Attaching
import MeshScenes.Proofs.Counting
import MeshScenes.Proofs.Activation
import MeshScenes.Proofs.Manager.Overlaying
import MeshScenes.Proofs.Manager.Allocation
import MeshScenes.Proofs.Membership
import MeshScenes.Proofs.Wire.Decoding
import MeshScenes.Proofs.Wire.Storing
import MeshScenes.Proofs.Wire.Naming
import MeshScenes.Proofs.Json.Versions
import MeshScenes.Proofs.Saving
import MeshScenes.Proofs.ClosedHub.Leftovers
import MeshScenes.Proofs.EventLoop
