import Confinement.Text.Utf8
import Confinement.Text.Blank
import Confinement.Text.Number
import Confinement.Host.Failure
import Confinement.Host.Stream
import Confinement.Host.Path
import Confinement.Host.FileTree
import Confinement.Wire.Encoder
import Confinement.Wire.Decoder
import Confinement.Text.Set
import Confinement.Command
import Confinement.Staging.Context
import Confinement.Wire.Relay
import Confinement.Wire.Connection
import Confinement.Policy.Memory
import Confinement.Policy.Simulated
import Confinement.Policy.Smack
import Confinement.Policy.Selinux
import Confinement.Policy.Cynagora
import Confinement.Policy.Transaction
import Confinement.Policy.Machine
import Confinement.Session.Basic
import Confinement.Settings.Selector
import Confinement.Host.Attribute
import Confinement.Host.Program
import Confinement.Settings.Value
import Confinement.CommandLine
import Confinement.Settings.Document
import Confinement.Settings.Basic
import Confinement.Client.Batch
import Confinement.Server.Listener
import Confinement.Server.Guests
import Confinement.Daemon.Backends
import Confinement.Daemon.Launch
import Confinement.Main
import Confinement.Proofs.Wire.RingContents
import Confinement.Proofs.Wire.Queues
import Confinement.Proofs.Loops
import Confinement.Proofs.Wire.Looking
import Confinement.Proofs.Wire.Writers
import Confinement.Proofs.Wire.Scanning
import Confinement.Proofs.Wire.Sealing
import Confinement.Proofs.Wire.Reading
import Confinement.Proofs.Wire.Reception
import Confinement.Proofs.Wire.RoundTrip
import Confinement.Proofs.Policy.Exchanges
import Confinement.Proofs.Session.Discipline
import Confinement.Proofs.Session.Chunks
import Confinement.Proofs.Session.Responses
import Confinement.Proofs.Wire.Ledger
import Confinement.Proofs.Policy.InMemory
import Confinement.Proofs.Server.Interleaving
import Confinement.Proofs.Client.Agreement
import Confinement.Proofs.Client.Waiting
import Confinement.Proofs.Server.Isolation
import Confinement.Proofs.Server.Standing
import Confinement.Proofs.Session.Latch
import Confinement.Proofs.Policy.Identity
import Confinement.Proofs.Policy.Refinement
import Confinement.Proofs.Policy.Partners
import Confinement.Proofs.Policy.Revocation
import Confinement.Proofs.Policy.Attribution
import Confinement.Proofs.Policy.Reuse
import Confinement.Proofs.Server.Rounds
import Confinement.Proofs.Staging.WellFormed
import Confinement.Proofs.Wire.Acceptance
import Confinement.Proofs.Wire.NormalForm
import Confinement.Proofs.Wire.Returning
import Confinement.Proofs.Policy.Locations
import Confinement.Proofs.Policy.Types
import Confinement.Proofs.Policy.Relabelling
import Confinement.Proofs.Policy.RuleFile
import Confinement.Proofs.Session.Display
import Confinement.Proofs.Session.Settling
import Confinement.Proofs.Session.Progress
import Confinement.Proofs.Text.Splitting
import Confinement.Proofs.Text.Percent
import Confinement.Proofs.Endpoint.References
import Confinement.Proofs.Endpoint.Paths
import Confinement.Proofs.Endpoint.Hosts
import Confinement.Proofs.Endpoint.RoundTrip
import Confinement.Proofs.Endpoint.Preparation
import Confinement.Proofs.Client.Printing
import Confinement.Proofs.Client.Batches
import Confinement.Proofs.Settings.Addresses
import Confinement.Proofs.Settings.Precedence
import Confinement.Proofs.Policy.Serials
import Confinement.Proofs.Daemon.Life
