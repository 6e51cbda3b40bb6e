import DualCollection.Control.Contract
import DualCollection.Episode.CollectionMetadata
import DualCollection.Episode.Models
import DualCollection.Thread.History

/-!
# The command record of an inference Episode

`RecordedControl` of `infer/recording.py` is the sink of the scheduler while an inference Episode
runs: it hands each command on to the arms and a record of it to the recorder.

An observer sees the events `InferEvent`; `Orderly` says what each of them comes after.  From that
`sends_numbered` and `records_complete` follow by induction over what was observed: the commands of
an Episode are numbered without a gap, and at most the last one lacks its record.
-/

namespace DualCollection

open Thread

/-- What is recorded of a command. -/
structure CommandRecord where
  /-- `episode_id` -/
  episodeId : String
  /-- `step_index` -/
  stepIndex : ℕ
  /-- `monotonic_time_ns` -/
  monotonicTimeNs : ℤ
  /-- `ros_time_ns` -/
  rosTimeNs : ℤ
  /-- `action` -/
  action : List ℚ
  deriving DecidableEq

/-- What the environment answers during a section of an inference Episode. -/
structure InferEnv where
  /-- What it answers the scheduler and the controller; `monotonic_clock()` is `clockNs`. -/
  base : Env := {}
  /-- `ros_clock()` -/
  rosClock : Except PyError ℤ := .ok 0
  /-- The exception that the sink of the records raises. -/
  sink : Option PyError := none
  /-- The exception that the sleeper raises. -/
  sleep : Option PyError := none
  /-- The exception that the trigger raises. -/
  trigger : Option PyError := none
  /-- What the trigger's `wait` returns. -/
  signal : Option TriggerSignal := none

/-- What an observer sees of an inference Episode. -/
inductive InferEvent
  /-- The recording of commands was started. -/
  | started (episodeId : String)
  /-- A command was handed to the arms. -/
  | sent (record : CommandRecord)
  /-- A record was handed to the recorder. -/
  | recorded (record : CommandRecord)
  /-- Gravity compensation was asked for. -/
  | gravity (raised : Option PyError)
  /-- The recording of commands was finished. -/
  | finished
  /-- A label was passed on. -/
  | labelled (event : TriggerEvent)
  /-- The Episode was stopped, with these facts. -/
  | stopped (facts : InferFacts)
  deriving DecidableEq

/-- The attributes of `RecordedControl`. -/
structure RecordedControl where
  /-- `episode_id` -/
  episodeId : Option String := none
  /-- `command_count` -/
  commandCount : ℕ := 0
  /-- `failure` -/
  failure : Option PyError := none
  /-- `last_command_monotonic_ns` -/
  lastCommandMonotonicNs : Option ℤ := none
  deriving DecidableEq

/-- What a call of `publish` did: the exception that it raised, the attributes that it left, and
what was observed, newest first. -/
structure Published where
  /-- The exception. -/
  raised : Option PyError
  /-- The attributes. -/
  control : RecordedControl
  /-- The events. -/
  events : List InferEvent

namespace RecordedControl

variable (c : RecordedControl)

/-- The assignments of `start`. -/
@[simps] def begun (episodeId : String) : RecordedControl := { episodeId := some episodeId }

/-- `finish` -/
@[simps] def finish : RecordedControl := { c with episodeId := none }

/-- Count a command that was sent. -/
@[simps] def counted (record : CommandRecord) : RecordedControl :=
  { c with
    commandCount := c.commandCount + 1
    lastCommandMonotonicNs := some record.monotonicTimeNs }

/-- Keep an exception. -/
@[simps] def failed (err : PyError) : RecordedControl := { c with failure := some err }

/-- The exception of a command without an Episode. -/
def outside : PyError := ⟨.runtimeError, "command issued outside an infer episode"⟩

/-- The record of a command. -/
def record (episodeId : String) (monotonicTimeNs rosTimeNs : ℤ) (command : DualArmJointCommand) :
    CommandRecord where
  episodeId := episodeId
  stepIndex := c.commandCount
  monotonicTimeNs := monotonicTimeNs
  rosTimeNs := rosTimeNs
  action := command.left ++ command.right

/-- `publish` -/
def publish (command : DualArmJointCommand) (e : InferEnv) : Published :=
  match c.episodeId with
  | none => ⟨some outside, c, []⟩
  | some episodeId =>
    match e.rosClock with
    | .error err => ⟨some err, c, []⟩
    | .ok rosTimeNs =>
      let record := c.record episodeId e.base.clockNs rosTimeNs command
      match e.base.raises .publish with
      | some err => ⟨some err, c.failed err, []⟩
      -- a command counts as soon as it was sent, whether or not it is recorded
      | none => match e.sink with
        | some err => ⟨some err, (c.counted record).failed err, [.sent record]⟩
        | none => ⟨none, c.counted record, [.recorded record, .sent record]⟩

end RecordedControl

/-! ### Reading what was observed -/

namespace InferEvent

/-- The Episode whose commands are recorded. -/
def recording : List InferEvent → Option String
  | [] | .finished :: _ => none
  | .started episodeId :: _ => some episodeId
  | _ :: log => recording log

/-- The commands sent since the recording was started last, newest first. -/
def sends : List InferEvent → List CommandRecord
  | [] | .started _ :: _ => []
  | .sent record :: log => record :: sends log
  | _ :: log => sends log

/-- The commands recorded since then, newest first. -/
def records : List InferEvent → List CommandRecord
  | [] | .started _ :: _ => []
  | .recorded record :: log => record :: records log
  | _ :: log => records log

/-- The Episode that was started last. -/
def episode : List InferEvent → Option String
  | [] => none
  | .started episodeId :: _ => some episodeId
  | _ :: log => episode log

/-- What gravity compensation raised when it was asked for last. -/
def gravityRaised : List InferEvent → Option (Option PyError)
  | [] | .started _ :: _ => none
  | .gravity raised :: _ => some raised
  | _ :: log => gravityRaised log

/-- What an event comes after. -/
def Orderly : InferEvent → List InferEvent → Prop
  | .started _, log => recording log = none
  | .sent record, log => recording log = some record.episodeId ∧
      record.stepIndex = (sends log).length ∧ records log = sends log
  | .recorded record, log => ∃ earlier, log = .sent record :: earlier
  | .gravity _, _ => True
  | .finished, log => ∃ raised earlier, log = .gravity raised :: earlier
  | .labelled _, log => recording log = none ∧ records log = sends log
  | .stopped facts, log => recording log = none ∧ gravityRaised log = some none ∧
      facts.commandCount = some (sends log).length ∧
        facts.lastCommandMonotonicNs = (sends log).head?.map (·.monotonicTimeNs)

/-! ### What follows of an Episode -/

section Orderly

variable {log : List InferEvent}

theorem episode_of_recording {episodeId : String} (h : recording log = some episodeId) :
    episode log = some episodeId := by
  induction log with
  | nil => cases h
  | cons x log ih =>
    cases x with
    | started e => exact h
    | finished => cases h
    | sent r | recorded r | gravity r | labelled e | stopped f => exact ih h

/-- The commands of an Episode belong to it, and are numbered from `0` without a gap. -/
theorem sends_numbered (h : Throughout Orderly log) :
    (sends log).map (·.stepIndex) = (List.range (sends log).length).reverse ∧
      ∀ record ∈ sends log, episode log = some record.episodeId := by
  induction log with
  | nil => exact ⟨rfl, nofun⟩
  | cons x log ih =>
    cases x with
    | started e => exact ⟨rfl, nofun⟩
    | sent r =>
      obtain ⟨⟨hrecording, hindex, -⟩, hlog⟩ := h
      obtain ⟨hnumbers, hepisode⟩ := ih hlog
      refine ⟨?_, fun record hr => ?_⟩
      · rw [sends, List.map_cons, List.length_cons, List.range_succ, List.reverse_append, hnumbers,
          hindex]
        rfl
      · rcases List.mem_cons.1 hr with rfl | hr
        · exact episode_of_recording hrecording
        · exact hepisode record hr
    | recorded r | gravity r | finished | labelled e | stopped f => exact ih h.2

/-- At most the last command of an Episode lacks its record. -/
theorem records_complete (h : Throughout Orderly log) :
    records log = sends log ∨ ∃ record, sends log = record :: records log := by
  induction log with
  | nil => exact .inl rfl
  | cons x log ih =>
    cases x with
    | started e => exact .inl rfl
    | sent r => exact .inr ⟨r, congrArg (r :: ·) h.1.2.2.symm⟩
    | recorded r =>
      obtain ⟨⟨earlier, rfl⟩, hsent, -⟩ := h
      exact .inl (congrArg (r :: ·) hsent.2.2)
    | gravity r | finished | labelled e | stopped f => exact ih h.2

end Orderly

end InferEvent

end DualCollection
