import DualCollection.Thread.Prog
import DualCollection.Thread.Outline
import DualCollection.Thread.History
import DualCollection.Thread.Run
import DualCollection.Episode.Models
import DualCollection.Episode.Runtime
import DualCollection.Control.Contract
import DualCollection.Control.Locked
import DualCollection.Rtc.Observed
import DualCollection.Rtc.Sections
import DualCollection.Rtc.Lease
import DualCollection.Rtc.Threads
import DualCollection.Thread.Play
import DualCollection.Rtc.Alignment
import DualCollection.Rtc.Arithmetic
import DualCollection.Expo.Scheduler
import DualCollection.Expo.Threads
import DualCollection.Expo.Continuity
import DualCollection.Thread.Both
import DualCollection.Expo.Windows
import DualCollection.Expo.Execution
import DualCollection.Authority.Takeover
import DualCollection.Authority.Safety
import DualCollection.Sequential.Gateway
import DualCollection.Sequential.Sections
import DualCollection.Sequential.Threads
import DualCollection.Sequential.Sticky
import DualCollection.Control.FaultLatch
import DualCollection.Rtc.Faults
import DualCollection.Sequential.Faults
import DualCollection.Authority.Faults
import DualCollection.Numpy.NdArray
import DualCollection.Policy.Wire
import DualCollection.Policy.Envelope
import DualCollection.Policy.Prefix
import DualCollection.Policy.Pairing
import DualCollection.Policy.Client
import DualCollection.Episode.Discipline
import DualCollection.Files.Tree
import DualCollection.Files.Calls
import DualCollection.Episode.Store
import DualCollection.Episode.Archive
import DualCollection.Thread.Serve
import DualCollection.Episode.CollectionMetadata
import DualCollection.Episode.Metadata
import DualCollection.Episode.Finalization
import DualCollection.Episode.Artifacts
import DualCollection.Thread.Seqlock
import DualCollection.Snapshot.Messages
import DualCollection.Snapshot.Arena
import DualCollection.Snapshot.Untorn
import DualCollection.Snapshot.Nearest
import DualCollection.Snapshot.Buffer
import DualCollection.Snapshot.Selection
import DualCollection.Thread.Among
import DualCollection.Authority.Trigger
import DualCollection.Authority.Operations
import DualCollection.Authority.Held
import DualCollection.Authority.Outcome
import DualCollection.Authority.Law
import DualCollection.Authority.Session
import DualCollection.Control.Acceptance
import DualCollection.Control.Feedback
import DualCollection.Thread.Failing
import DualCollection.Calibration.Quintic
import DualCollection.Calibration.Motion
import DualCollection.Calibration.Replay
import DualCollection.Calibration.Bound
import DualCollection.Calibration.Controller
import DualCollection.Episode.Phases
import DualCollection.Authority.Stamps
import DualCollection.Authority.Chronicle
import DualCollection.Thread.Ledger
import DualCollection.Production.Session
import DualCollection.Production.Released
import DualCollection.Thread.Recorded
import DualCollection.Timing.Pacing
import DualCollection.Rtc.Timed
import DualCollection.Rtc.Pace
import DualCollection.Expo.Pace
import DualCollection.Sequential.Timed
import DualCollection.Sequential.Pace
import DualCollection.Control.Settings
import DualCollection.Rtc.Configured
import DualCollection.Expo.Settings
import DualCollection.Rtc.Deadline
import DualCollection.Numpy.Linspace
import DualCollection.Calibration.Split
import DualCollection.Episode.Pedal
import DualCollection.Monitoring.Trackers
import DualCollection.Bytes.Endian
import DualCollection.Policy.Checkpoint
import DualCollection.Calibration.Segment
import DualCollection.Bytes.Layout
import DualCollection.Snapshot.Layout
import DualCollection.Snapshot.Decoded
import DualCollection.Snapshot.Client
import DualCollection.Thread.Component
import DualCollection.Net.Stream
import DualCollection.Snapshot.Protocol
import DualCollection.Snapshot.Exchange
import DualCollection.Snapshot.Answered
import DualCollection.Snapshot.Served
import DualCollection.Thread.Within
import DualCollection.Infer.Recording
import DualCollection.Infer.Controller
import DualCollection.Infer.Sink
import DualCollection.Infer.Law
import DualCollection.Infer.Authority
import DualCollection.Toml.Grammar
import DualCollection.Toml.Json
import DualCollection.Toml.Document
import DualCollection.Policy.PolicyToml
import DualCollection.Json.Value
import DualCollection.Station.Config
import DualCollection.Station.Migration
import DualCollection.Thread.Given
import DualCollection.Files.Replace
import DualCollection.Station.Store
