import DiscoveryGraph.Codec.Discovery
import DiscoveryGraph.Graph.Guarded
import DiscoveryGraph.Json.Writer
import DiscoveryGraph.Monitor.Handles
import DiscoveryGraph.Monitor.Inspection
import DiscoveryGraph.Proofs.Outcome
import DiscoveryGraph.Proofs.Graph.View
import DiscoveryGraph.Proofs.Graph.WellFormed
import DiscoveryGraph.Proofs.Graph.Action
import DiscoveryGraph.Proofs.Graph.Primitive
import DiscoveryGraph.Proofs.Lifecycle.Flags
import DiscoveryGraph.Proofs.Lifecycle.Arrangement
import DiscoveryGraph.Proofs.Lifecycle.Activation
import DiscoveryGraph.Proofs.Lifecycle.Deactivation
import DiscoveryGraph.Proofs.Query.Path
import DiscoveryGraph.Proofs.Lifecycle.Basic
import DiscoveryGraph.Proofs.Lifecycle.Cascade
import DiscoveryGraph.Proofs.Lifecycle.Clearing
import DiscoveryGraph.Proofs.Graph.Ownership
import DiscoveryGraph.Proofs.Graph.Key
import DiscoveryGraph.Proofs.Discovery.Lookup
import DiscoveryGraph.Proofs.Discovery.Resolution
import DiscoveryGraph.Proofs.Discovery.Validation
import DiscoveryGraph.Proofs.Discovery.Ingestion
import DiscoveryGraph.Proofs.Discovery.Parity
import DiscoveryGraph.Proofs.Discovery.Growth
import DiscoveryGraph.Proofs.Monitor.Call
import DiscoveryGraph.Proofs.Monitor.Request
import DiscoveryGraph.Proofs.Monitor.FailClosed
import DiscoveryGraph.Proofs.Monitor.Inquiry
import DiscoveryGraph.Proofs.Monitor.Accounting
import DiscoveryGraph.Proofs.Monitor.Isolation
import DiscoveryGraph.Proofs.Discovery.Exposure
import DiscoveryGraph.Proofs.Discovery.Shelter
import DiscoveryGraph.Proofs.Monitor.Shelter
import DiscoveryGraph.Proofs.Lifecycle.Backing
import DiscoveryGraph.Proofs.Lifecycle.CallTree
import DiscoveryGraph.Proofs.Lifecycle.Worklist
import DiscoveryGraph.Proofs.Discovery.Support
import DiscoveryGraph.Proofs.Discovery.Survival
import DiscoveryGraph.Proofs.Discovery.Demand
import DiscoveryGraph.Proofs.Monitor.Demand
import DiscoveryGraph.Proofs.Monitor.Support
import DiscoveryGraph.Proofs.Monitor.Ancestry
import DiscoveryGraph.Proofs.Monitor.Identity
import DiscoveryGraph.Proofs.Discovery.Repetition
import DiscoveryGraph.Proofs.Monitor.Repetition
import DiscoveryGraph.Proofs.Discovery.Attribution
import DiscoveryGraph.Proofs.Monitor.Stream
import DiscoveryGraph.Proofs.Graph.Portrait
import DiscoveryGraph.Proofs.Discovery.Portrait
import DiscoveryGraph.Proofs.Discovery.Mention
import DiscoveryGraph.Proofs.Discovery.Consistency
import DiscoveryGraph.Proofs.Discovery.Acceptance
import DiscoveryGraph.Proofs.Monitor.Acceptance
import DiscoveryGraph.Proofs.Monitor.Order
import DiscoveryGraph.Proofs.Discovery.Shortage
import DiscoveryGraph.Proofs.Query.Symmetry
import DiscoveryGraph.Proofs.Query.Trail
import DiscoveryGraph.Proofs.Query.Composition
import DiscoveryGraph.Proofs.Discovery.Census
import DiscoveryGraph.Proofs.Discovery.Clearance
import DiscoveryGraph.Proofs.Discovery.Revival
import DiscoveryGraph.Proofs.Discovery.Collapse
import DiscoveryGraph.Proofs.Discovery.Standstill
import DiscoveryGraph.Proofs.Discovery.Difference
import DiscoveryGraph.Proofs.Discovery.Replay
import DiscoveryGraph.Proofs.Discovery.Inheritance
import DiscoveryGraph.Proofs.Monitor.Effect
import DiscoveryGraph.Proofs.Monitor.Register
import DiscoveryGraph.Proofs.Discovery.Residue
import DiscoveryGraph.Proofs.Monitor.Residue
import DiscoveryGraph.Proofs.Monitor.Stage
import DiscoveryGraph.Proofs.Monitor.Advance
import DiscoveryGraph.Proofs.Monitor.Interleaving
import DiscoveryGraph.Proofs.Monitor.Handover
import DiscoveryGraph.Proofs.Monitor.Simulation
import DiscoveryGraph.Proofs.Monitor.Ledger
import DiscoveryGraph.Proofs.Monitor.Refinement
import DiscoveryGraph.Proofs.Monitor.Schedule
import DiscoveryGraph.Proofs.Json.Quoting
import DiscoveryGraph.Proofs.Json.Numeral
import DiscoveryGraph.Proofs.Json.RoundTrip
import DiscoveryGraph.Proofs.Codec.Text
import DiscoveryGraph.Proofs.Codec.Rearrangement
import DiscoveryGraph.Proofs.Codec.Lossless
import DiscoveryGraph.Proofs.Discovery.Binding
import DiscoveryGraph.Proofs.Discovery.Rederivation
import DiscoveryGraph.Proofs.Discovery.Rediscovery
import DiscoveryGraph.Proofs.Discovery.Removal
import DiscoveryGraph.Proofs.Monitor.Removal
import DiscoveryGraph.Proofs.Monitor.Rediscovery
import DiscoveryGraph.Proofs.Discovery.Accretion
import DiscoveryGraph.Proofs.Discovery.Following
import DiscoveryGraph.Proofs.Monitor.Following
import DiscoveryGraph.Proofs.Discovery.Termination
