import CloudLifecycle.Backend.Builtin
import CloudLifecycle.Config.Discovery
import CloudLifecycle.Config.Validation
import CloudLifecycle.FileTree
import CloudLifecycle.Gateway.Traffic
import CloudLifecycle.Main
import CloudLifecycle.Proofs.Backend.Attributes
import CloudLifecycle.Proofs.Backend.Capabilities
import CloudLifecycle.Proofs.Backend.Corners
import CloudLifecycle.Proofs.Backend.Identity
import CloudLifecycle.Proofs.Backend.Mounted
import CloudLifecycle.Proofs.Backend.Placed
import CloudLifecycle.Proofs.Backend.Planned
import CloudLifecycle.Proofs.Backend.Spared
import CloudLifecycle.Proofs.Backend.Stored
import CloudLifecycle.Proofs.Cli.Reports
import CloudLifecycle.Proofs.Config.Choices
import CloudLifecycle.Proofs.Config.Deployments
import CloudLifecycle.Proofs.Config.Faults
import CloudLifecycle.Proofs.Config.Parts
import CloudLifecycle.Proofs.Config.Reload
import CloudLifecycle.Proofs.Config.Simulations
import CloudLifecycle.Proofs.Config.Validity
import CloudLifecycle.Proofs.Gateway.Arrivals
import CloudLifecycle.Proofs.Gateway.Destroyed
import CloudLifecycle.Proofs.Gateway.Discretion
import CloudLifecycle.Proofs.Gateway.Effects
import CloudLifecycle.Proofs.Gateway.Endings
import CloudLifecycle.Proofs.Gateway.Failures
import CloudLifecycle.Proofs.Gateway.Foreground
import CloudLifecycle.Proofs.Gateway.Gates
import CloudLifecycle.Proofs.Gateway.Interleavings
import CloudLifecycle.Proofs.Gateway.Jobs
import CloudLifecycle.Proofs.Gateway.Lives
import CloudLifecycle.Proofs.Gateway.Lockstep
import CloudLifecycle.Proofs.Gateway.Moves
import CloudLifecycle.Proofs.Gateway.Offers
import CloudLifecycle.Proofs.Gateway.Owners
import CloudLifecycle.Proofs.Gateway.Parks
import CloudLifecycle.Proofs.Gateway.Pauses
import CloudLifecycle.Proofs.Gateway.Payloads
import CloudLifecycle.Proofs.Gateway.Phases
import CloudLifecycle.Proofs.Gateway.Recorded
import CloudLifecycle.Proofs.Gateway.Resting
import CloudLifecycle.Proofs.Gateway.Revoked
import CloudLifecycle.Proofs.Gateway.Sessions
import CloudLifecycle.Proofs.Gateway.Solitude
import CloudLifecycle.Proofs.Gateway.Standing
import CloudLifecycle.Proofs.Gateway.Tours
import CloudLifecycle.Proofs.Gateway.Turns
import CloudLifecycle.Proofs.Guard.Handles
import CloudLifecycle.Proofs.Lifecycle.Answers
import CloudLifecycle.Proofs.Lifecycle.Drafts
import CloudLifecycle.Proofs.Lifecycle.Walks
import CloudLifecycle.Proofs.Resource.Names
import CloudLifecycle.Proofs.Status.Canonical
import CloudLifecycle.Proofs.Status.Written
import CloudLifecycle.Proofs.Text.Folded
import CloudLifecycle.Proofs.Wire.RoundTrips
import CloudLifecycle.Proofs.Yaml.Composed
import CloudLifecycle.Proofs.Yaml.Digits
import CloudLifecycle.Proofs.Yaml.Documents
import CloudLifecycle.Proofs.Yaml.Lines
import CloudLifecycle.Proofs.Yaml.Scalars
import CloudLifecycle.Proofs.Yaml.Scanned
import CloudLifecycle.Proofs.Yaml.Shown
import CloudLifecycle.Proofs.Yaml.Steps
import CloudLifecycle.Proofs.Yaml.Styles
import CloudLifecycle.Simulation
import CloudLifecycle.Wire.Records
