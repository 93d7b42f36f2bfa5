import Playout.Number.Seconds
import Playout.Text.Decimal
import Playout.Text.Hex
import Playout.Severity
import Playout.Error
import Playout.Track
import Playout.Sample.Bytes
import Playout.Sample.Volume
import Playout.Simple.Header
import Playout.Flow.Frame
import Playout.Net.Endpoint
import Playout.Params
import Playout.Simple.MinLength
import Playout.Flow.Server
import Playout.Simple.Server
import Playout.Toml.Document
import Playout.Settings.File
import Playout.Log
import Playout.Signal
import Playout.Poll.Wakeup
import Playout.Live.Output
import Playout.Paced.Output
import Playout.Poll.Output
import Playout.Simple.Output
import Playout.Flow.Output
import Playout.Device
import Playout.Registry
import Playout.Rehearsal.Stage
import Playout.Rehearsal.Simulated
import Playout.Rehearsal.Opening
import Playout.Proofs.Interleaving
import Playout.Proofs.Flow.Framing
import Playout.Proofs.Flow.Serial
import Playout.Proofs.Flow.StopProtocol
import Playout.Proofs.Flow.Stopping
import Playout.Proofs.Flow.Pending
import Playout.Proofs.Flow.Bookkeeping
import Playout.Proofs.Flow.HandoverProtocol
import Playout.Proofs.Flow.HandoverInvariant
import Playout.Proofs.Flow.HandoverSteps
import Playout.Proofs.Flow.Handover
import Playout.Proofs.Flow.Fitting
import Playout.Proofs.Flow.Grammar
import Playout.Proofs.Flow.Cuts
import Playout.Proofs.Traces
import Playout.Proofs.Transport.World
import Playout.Proofs.Transport.Protocol
import Playout.Proofs.Live.Keeper
import Playout.Proofs.Simple.Keeper
import Playout.Proofs.Transport.Books
import Playout.Proofs.Simple.Listening
import Playout.Proofs.Simple.Connection
import Playout.Proofs.Simple.Pacing
import Playout.Proofs.Simple.Announcing
import Playout.Proofs.Transport.Alignment
import Playout.Proofs.Transport.Custody
import Playout.Proofs.Poll.Custodian
import Playout.Proofs.Device.Overlap
import Playout.Proofs.Device.Slot
import Playout.Proofs.Signalling
import Playout.Proofs.Transport.Halting
import Playout.Proofs.Paced.Rounds
import Playout.Proofs.Paced.Halting
import Playout.Proofs.Stopping
import Playout.Proofs.Poll.Protocol
import Playout.Proofs.Poll.Mark
import Playout.Proofs.Poll.Windows
import Playout.Proofs.Poll.Heeding
import Playout.Proofs.Sequence.Life
import Playout.Proofs.Sequence.Memories
import Playout.Proofs.Paced.Lodging
import Playout.Proofs.Poll.Alone
import Playout.Proofs.Sequence.Handles
import Playout.Proofs.Sequence.Balance
import Playout.Proofs.Sequence.Lockers
import Playout.Proofs.Balance
import Playout.Proofs.Sequence.Undisturbed
import Playout.Proofs.Undisturbed
import Playout.Proofs.Device.Announcing
import Playout.Proofs.Device.Uses
import Playout.Proofs.Device.Life
import Playout.Proofs.Device.Lifecycle
import Playout.Proofs.Reporting
import Playout.Proofs.Paced.Parts
import Playout.Proofs.Paced.Reporting
import Playout.Proofs.Failures
import Playout.Proofs.Paced.Delivery
import Playout.Proofs.Paced.Gapless
import Playout.Proofs.Paced.Course
import Playout.Proofs.Paced.Counting
import Playout.Proofs.Paced.Calls
import Playout.Proofs.Paced.Excusing
import Playout.Proofs.Paced.Flushing
import Playout.Proofs.Paced.Timing
import Playout.Proofs.Lockstep
import Playout.Proofs.Paced.Positions
import Playout.Proofs.Paced.Bounds
import Playout.Proofs.Paced.Tails
import Playout.Proofs.Paced.Starving
import Playout.Proofs.Poll.Delivery
import Playout.Proofs.Live.Handing
import Playout.Proofs.Device.Relaying
import Playout.Proofs.Live.Reproducing
import Playout.Proofs.Simple.Heading
import Playout.Proofs.Number.Rounding
import Playout.Proofs.Sample.Scaling
import Playout.Proofs.Sample.Loudness
import Playout.Proofs.Log.Histories
import Playout.Proofs.Registry.Selecting
import Playout.Proofs.Settings.Applying
import Playout.Proofs.Flow.Drawing
import Playout.Proofs.Flow.Unsolicited
import Playout.Proofs.Poll.Level
