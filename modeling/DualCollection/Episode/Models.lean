import DualCollection.Control.Exception

/-!
# Episodes

The data of `episode/models.py`, `episode/ports.py` and `episode/store.py`, with what their
constructors check.
-/

namespace DualCollection

/-- The states of the runtime. -/
inductive EpisodeState
  | ready
  | recording
  | finalizing
  deriving DecidableEq, Repr

/-- How an Episode ends. -/
inductive EpisodeOutcome
  | success
  | fail
  | aborted
  deriving DecidableEq, Repr

/-- What the operator does. -/
inductive TriggerEvent
  | activate
  | abort
  | fail
  | taskFail
  | conflict
  deriving DecidableEq, Repr

/-- An event of the trigger. -/
structure TriggerSignal where
  /-- What the operator did. -/
  event : TriggerEvent
  /-- When. -/
  monotonicTimeNs : ℤ
  /-- What failed. -/
  detail : Option String
  /-- `monotonic_time_ns must not be negative` -/
  monotonicTimeNs_nonneg : 0 ≤ monotonicTimeNs
  /-- `fail trigger requires detail` -/
  detail_fail : event = .fail → ∃ text, detail = some text ∧ text ≠ ""
  /-- `only fail trigger may include detail` -/
  detail_other : event ≠ .fail → detail = none
  deriving DecidableEq

/-- A stream that is recorded. -/
@[ext] structure StreamSpec where
  /-- The name of the stream. -/
  id : String
  /-- Where it is published. -/
  topic : String
  /-- Its failure ends the Episode. -/
  required : Bool
  /-- How often it is published. -/
  expectedHz : ℚ
  /-- `stream id must not be empty` -/
  id_ne : id ≠ ""
  /-- `stream topic must not be empty` -/
  topic_ne : topic ≠ ""
  /-- `expected_hz must be greater than zero` -/
  expectedHz_pos : 0 < expectedHz

instance : DecidableEq StreamSpec := fun _ _ => decidable_of_iff _ StreamSpec.ext_iff.symm

/-- What was seen of a stream. -/
structure StreamMetrics where
  /-- The name of the stream. -/
  id : String
  /-- The number of messages. -/
  count : ℕ
  /-- For how long. -/
  durationS : ℚ
  /-- How often. -/
  observedHz : ℚ
  /-- The longest gap. -/
  maxGapMs : ℚ
  /-- What was wrong with it. -/
  warnings : List String
  /-- `stream metric id must not be empty` -/
  id_ne : id ≠ ""
  deriving DecidableEq

/-- What is to be recorded. -/
structure EpisodeRequest where
  /-- The task. -/
  taskId : String
  /-- What the task is. -/
  taskDescription : String
  /-- Where the station is described. -/
  stationConfig : String
  /-- The streams. -/
  streams : List StreamSpec
  /-- `task_id must not be empty` -/
  taskId_ne : taskId ≠ ""
  /-- `task_description must not be empty` -/
  taskDescription_ne : taskDescription ≠ ""
  /-- `stream ids must be unique` -/
  ids_nodup : (streams.map StreamSpec.id).Nodup
  /-- `stream topics must be unique` -/
  topics_nodup : (streams.map StreamSpec.topic).Nodup

/-- Where the artifacts of an Episode are, before and after it is committed. -/
structure PendingEpisode where
  /-- The number of the Episode. -/
  episodeId : String
  /-- `partial_dir` -/
  partialDir : String
  /-- `final_dir` -/
  finalDir : String
  /-- The recording. -/
  mcapPath : String
  /-- The metadata document. -/
  metadataPath : String
  deriving DecidableEq

/-- Where the artifacts of a committed Episode are. -/
structure StoredEpisode where
  /-- The number of the Episode. -/
  episodeId : String
  /-- Where. -/
  directory : String
  /-- The recording. -/
  mcapPath : String
  /-- The metadata document. -/
  metadataPath : String
  deriving DecidableEq

/-- The recording has started. -/
structure RecordingStarted where
  /-- The number of the Episode. -/
  episodeId : String
  /-- When. -/
  monotonicTimeNs : ℤ
  /-- `episode_id must not be empty` -/
  episodeId_ne : episodeId ≠ ""
  /-- `monotonic_time_ns must not be negative` -/
  monotonicTimeNs_nonneg : 0 ≤ monotonicTimeNs

/-- The recording is about to stop. -/
structure RecordingStopping where
  /-- How the Episode ends. -/
  outcome : EpisodeOutcome
  /-- When. -/
  monotonicTimeNs : ℤ
  /-- `monotonic_time_ns must not be negative` -/
  monotonicTimeNs_nonneg : 0 ≤ monotonicTimeNs

/-- What `run_once` returns. -/
structure EpisodeResult where
  /-- The number of the Episode. -/
  episodeId : String
  /-- How it ended. -/
  outcome : EpisodeOutcome
  /-- When it started. -/
  startedAt : ℤ
  /-- When it ended. -/
  endedAt : ℤ
  /-- How long it was. -/
  durationS : ℚ
  /-- The artifacts are where they belong. -/
  committed : Bool
  /-- The recording. -/
  mcapPath : String
  /-- The metadata document. -/
  metadataPath : String
  /-- What was seen of the streams. -/
  streamMetrics : List StreamMetrics
  /-- What went wrong. -/
  errors : List String
  /-- No further Episode is to be started. -/
  sessionBlocked : Bool
  /-- `episode_id must not be empty` -/
  episodeId_ne : episodeId ≠ ""

/-- The constructor of `TriggerSignal`. -/
def TriggerSignal.make (event : TriggerEvent) (monotonicTimeNs : ℤ) (detail : Option String) :
    Except PyError TriggerSignal :=
  if hns : 0 ≤ monotonicTimeNs then
    if hfail : event = .fail → ∃ text ∈ detail, text ≠ "" then
      if hother : event ≠ .fail → detail = none then
        .ok ⟨event, monotonicTimeNs, detail, hns, hfail, hother⟩
      else .error ⟨.valueError, "only fail trigger may include detail"⟩
    else .error ⟨.valueError, "fail trigger requires detail"⟩
  else .error ⟨.valueError, "monotonic_time_ns must not be negative"⟩

/-- The constructor of `RecordingStarted`. -/
def RecordingStarted.make (episodeId : String) (monotonicTimeNs : ℤ) :
    Except PyError RecordingStarted :=
  if hid : episodeId ≠ "" then
    if hns : 0 ≤ monotonicTimeNs then .ok ⟨episodeId, monotonicTimeNs, hid, hns⟩
    else .error ⟨.valueError, "monotonic_time_ns must not be negative"⟩
  else .error ⟨.valueError, "episode_id must not be empty"⟩

/-- The constructor of `RecordingStopping`. -/
def RecordingStopping.make (outcome : EpisodeOutcome) (monotonicTimeNs : ℤ) :
    Except PyError RecordingStopping :=
  if hns : 0 ≤ monotonicTimeNs then .ok ⟨outcome, monotonicTimeNs, hns⟩
  else .error ⟨.valueError, "monotonic_time_ns must not be negative"⟩

end DualCollection
