import BoundedStream.Main
import BoundedStream.Session.Call
import BoundedStream.Workload.Pair
import BoundedStream.Proofs.Ring.Circular
import BoundedStream.Proofs.Ring.Queue
import BoundedStream.Proofs.Ring.Step
import BoundedStream.Proofs.Ring.Attended
import BoundedStream.Proofs.Host.Rings
import BoundedStream.Proofs.Region.Handles
import BoundedStream.Proofs.Ring.Solo
import BoundedStream.Proofs.Ring.Traffic
import BoundedStream.Proofs.Region.Occupancy
import BoundedStream.Proofs.Region.Lifecycle
import BoundedStream.Proofs.Party.Pursuit
import BoundedStream.Proofs.Host.Holding
import BoundedStream.Proofs.Stream.Lookout
import BoundedStream.Proofs.Stream.Carrier
import BoundedStream.Proofs.Stream.Producer
import BoundedStream.Proofs.Stream.Consumer
import BoundedStream.Proofs.Stream.Relay
import BoundedStream.Proofs.Stream.ExactlyOnce
import BoundedStream.Proofs.Ring.Progress
import BoundedStream.Proofs.Stream.Progress
import BoundedStream.Proofs.Stream.Completion
import BoundedStream.Proofs.Ring.Crowd
import BoundedStream.Proofs.Region.Turnstile
import BoundedStream.Proofs.Region.Admission
import BoundedStream.Proofs.Program.Chunks
import BoundedStream.Proofs.Ring.Standstill
import BoundedStream.Proofs.Ring.Orphaned
import BoundedStream.Proofs.Party.Replies
import BoundedStream.Proofs.Stream.Intake
import BoundedStream.Proofs.Stream.Outlet
import BoundedStream.Proofs.Stream.Admissible
import BoundedStream.Proofs.Pipe.Transfer
import BoundedStream.Proofs.Pipe.Supply
import BoundedStream.Proofs.Pipe.Reception
import BoundedStream.Proofs.Pipe.Conveyance
import BoundedStream.Proofs.Ring.Refusals
import BoundedStream.Proofs.FileSystem.Walks
import BoundedStream.Proofs.FileSystem.Paths
import BoundedStream.Proofs.Host.Opening
import BoundedStream.Proofs.Region.Tally
import BoundedStream.Proofs.Program.Stages
import BoundedStream.Proofs.Party.Agency
import BoundedStream.Proofs.Pipe.Pages
import BoundedStream.Proofs.Pipe.Venue
import BoundedStream.Proofs.Pipe.Gathering
import BoundedStream.Proofs.Pipe.Catching
import BoundedStream.Proofs.Pipe.Pouring
import BoundedStream.Proofs.Party.Turns
import BoundedStream.Proofs.Pipe.Encounter
import BoundedStream.Proofs.Pipe.Progress
import BoundedStream.Proofs.Pipe.Stranding
import BoundedStream.Proofs.Program.Dialogue
import BoundedStream.Proofs.Program.Deliveries
import BoundedStream.Proofs.Program.Limits
import BoundedStream.Proofs.Host.Retries
import BoundedStream.Proofs.Workload.Round
import BoundedStream.Proofs.Workload.Copies
import BoundedStream.Proofs.Workload.Tolls
import BoundedStream.Proofs.Workload.Progress
import BoundedStream.Proofs.Workload.Schedule
import BoundedStream.Proofs.Workload.Streaming
import BoundedStream.Proofs.Config.Flags
import BoundedStream.Proofs.Config.Validation
import BoundedStream.Proofs.Command.Merging
import BoundedStream.Proofs.FileSystem.Entries
import BoundedStream.Proofs.Pipe.Preparation
import BoundedStream.Proofs.Pipe.Crossing
import BoundedStream.Proofs.Pipe.Threshold
import BoundedStream.Proofs.Config.Modes
import BoundedStream.Proofs.Config.Conversions
import BoundedStream.Proofs.Config.Documents
import BoundedStream.Proofs.Summary.Chunking
import BoundedStream.Proofs.CommandLine.RoundTrip
import BoundedStream.Proofs.Ring.Slices
import BoundedStream.Proofs.Ring.Headroom
