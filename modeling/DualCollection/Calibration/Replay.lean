import DualCollection.Calibration.Motion
import DualCollection.Thread.Outline

/-!
# The replay of a route

`ReplayControl` of `calibration/replay.py`: a caller installs segments, and a thread samples the
segment that is installed and publishes commands to both arms at a fixed rate.  The two share the
attributes of the object; a section of either of them is what it does under the lock, one access of
an attribute, or one call of the arms.

The trace that the thread appends to is left out, since no motion reads it.
-/

namespace DualCollection

open Thread

namespace Calibration

/-- A call of `arms.publish`. -/
structure Publication (K : Type) where
  /-- The clock reading of the tick. -/
  now : K
  /-- The joints of both arms. -/
  command : Side → Joints K

/-- What the environment answers to a section. -/
structure ReplayEnv (K : Type) where
  /-- `self.clock()`, the first time it is read. -/
  clock : K
  /-- `self.clock()`, the second time it is read. -/
  clockAgain : K
  /-- What `arms.read()` returns, unless it raises. -/
  sample : Option (Side → ArmSample K) := none
  /-- Another method of the arms raises. -/
  raises : Bool := false
  /-- The thread is still alive after `join`. -/
  alive : Bool := false

variable {K : Type} [Field K] [LinearOrder K] [IsStrictOrderedRing K]

/-- The attributes of a `ReplayControl`. -/
structure Replay (limits : MotionLimits K) where
  /-- `active_arm` -/
  activeArm : Side
  /-- `stop_event` is set. -/
  stopEvent : Bool := false
  /-- `error` -/
  error : Option MotionError := none
  /-- `segment` -/
  segment : Option (Segment limits) := none
  /-- `segment_side` -/
  segmentSide : Side
  /-- `targets` -/
  targets : Side → Joints K
  /-- `goal` -/
  goal : Side → Joints K
  /-- `segment_started` -/
  segmentStarted : K
  /-- `expected_end` -/
  expectedEnd : K
  /-- There is a `thread`. -/
  thread : Bool := false
  /-- The thread has begun. -/
  begun : Bool := false
  /-- The last reading of the clock. -/
  time : K
  /-- The calls of `arms.publish`, newest first; a call that raises may have reached an arm. -/
  published : List (Publication K) := []

/-- The sections of the caller and of the thread. -/
inductive ReplaySection
  /-- `arms.call("enable_policy_control")` -/
  | enable
  /-- `thread.start()` -/
  | started
  /-- `require_ok` -/
  | requireOk
  /-- `move` installs a segment. -/
  | install
  /-- `target` -/
  | target
  /-- `stop_event.set()` -/
  | stop
  /-- `thread.join(4)` -/
  | join
  /-- `arms.call("calibration_hold")` -/
  | hold
  /-- `_run` begins. -/
  | begin
  /-- `stop_event.is_set()` -/
  | stopped
  /-- The clock is read for a tick. -/
  | now
  /-- `arms.read()` -/
  | read
  /-- The segment is sampled. -/
  | sample
  /-- The feedback is compared with the command. -/
  | check
  /-- `arms.publish(command)` -/
  | publish
  /-- `stop_event.wait(...)` -/
  | wait
  /-- The error is kept. -/
  | fault
  deriving DecidableEq

namespace Replay

variable {limits : MotionLimits K} {α : Type}

/-- A section. -/
abbrev Section (limits : MotionLimits K) (α : Type) :=
  ReplayEnv K → Replay limits → Except MotionError α × Replay limits

/-- A program of the caller or of the thread. -/
abbrev Program (limits : MotionLimits K) (α : Type) :=
  Prog ReplaySection (ReplayEnv K) (Replay limits) MotionError α

/-- The constructor; `sample` is what `arms.read()` returns. -/
def create (limits : MotionLimits K) (activeArm : Side) (sample : Side → ArmSample K)
    (clock clockAgain : K) : Except MotionError (Replay limits) := do
  let left ← vector (sample .left).q
  let right ← vector (sample .right).q
  let targets := fun
    | .left => left
    | .right => right
  .ok
    { activeArm := activeArm
      segmentSide := activeArm
      targets := targets
      goal := targets
      segmentStarted := clock
      expectedEnd := clockAgain
      time := clockAgain }

/-- Call a method of the arms, which may raise. -/
def call : Section limits Unit := fun e s => (if e.raises then .error .arms else .ok (), s)

/-! ### The caller -/

/-- `start` -/
def start : Program limits Unit := do
  .atomic .enable call
  .atomic .started fun _ s => (.ok (), { s with thread := true })

/-- What `move` does under the lock. -/
def install (sqrt : K → K) (side : Side) (q : Option (Joints K)) : Section limits K := fun e s =>
  let s := { s with time := e.clock }
  if e.clock < s.expectedEnd then (.error .stillRunning, s)
  else match Segment.make sqrt limits (s.targets side) q with
    | .error err => (.error err, s)
    | .ok segment =>
      let expectedEnd := e.clockAgain + segment.duration
      (.ok expectedEnd,
        { s with
          segment := some segment
          segmentSide := side
          segmentStarted := e.clockAgain
          expectedEnd := expectedEnd
          goal := Function.update s.goal side segment.stop
          time := e.clockAgain })

/-- `move`; without a side it is the active arm that moves. -/
def move (sqrt : K → K) (side : Option Side) (q : Option (Joints K)) : Program limits K := do
  let activeArm ← .atomic .requireOk fun _ s =>
    (if s.error.isSome then .error .stopped else .ok s.activeArm, s)
  .atomic .install (install sqrt (side.getD activeArm) q)

/-- `target` -/
def target : Program limits (Side → Joints K) := .atomic .target fun _ s => (.ok s.goal, s)

/-- `stop` -/
def stop : Program limits Unit := do
  .atomic .stop fun _ s => (.ok (), { s with stopEvent := true })
  .atomic .join fun e s => (if s.thread && e.alive then .error .alive else .ok (), s)
  .atomic .hold call

/-! ### The thread -/

/-- Read the clock for a tick. -/
def readClock (previousTick : K) : Section limits K := fun e s =>
  (if 0.10 < e.clock - previousTick then .error .overrun else .ok e.clock,
    { s with time := e.clock })

/-- Read the arms and validate what they say. -/
def readArms : Section limits (Side → ArmSample K) := fun e s =>
  (match e.sample with
    | none => .error .arms
    | some sample => (validateSample sample e.clock limits).map fun _ => sample,
    { s with time := e.clock })

/-- What a tick does under the lock: sample the segment. -/
def sampleSegment (now : K) : Section limits (Side → Joints K) := fun _ s =>
  let targets := match s.segment with
    | none => s.targets
    | some segment =>
      Function.update s.targets s.segmentSide (segment.at (now - s.segmentStarted))
  (.ok targets, { s with targets := targets })

/-- The arms follow the command, and are not too fast. -/
def checkTracking (limits : MotionLimits K) (sample : Side → ArmSample K)
    (command : Side → Joints K) : Except MotionError Unit := do
  for side in [Side.left, .right] do
    let q ← vector (sample side).q
    if limits.followingErrorRad < maxAbs (fun j => q j - command side j) then
      throw (.tracking side)
    let velocity ← vector (sample side).velocity
    if limits.velocityRadS * 1.2 + 0.01 < maxAbs velocity then throw (.velocity side)

/-- `arms.publish(command)` -/
def publish (now : K) (command : Side → Joints K) : Section limits Unit := fun e s =>
  (if e.raises then .error .arms else .ok (),
    { s with published := ⟨now, command⟩ :: s.published })

/-- One round of the loop; it returns the clock reading. -/
def tick (previousTick : K) : Program limits K := do
  let now ← .atomic .now (readClock previousTick)
  let sample ← .atomic .read readArms
  let command ← .atomic .sample (sampleSegment now)
  .atomic .check fun _ s => (checkTracking limits sample command, s)
  .atomic .publish (publish now command)
  .atomic .wait fun e s => (.ok (), { s with time := e.clock })
  pure now

/-- The loop, for at most a number of rounds. -/
def loop : ℕ → K → Program limits Unit
  | 0, _ => .halt
  | n + 1, previousTick => do
    let stopped ← .atomic .stopped fun _ s => (.ok s.stopEvent, s)
    if stopped then pure ()
    else do
      let now ← tick previousTick
      loop n now

/-- `except BaseException` -/
def handler (err : MotionError) : Program limits Unit := do
  .atomic .fault fun _ s => (.ok (), { s with error := some err })
  (Prog.atomic .hold call : Program limits Unit).tryCatch fun _ => pure ()

/-- `_run` -/
def run (n : ℕ) : Program limits Unit := do
  let previousTick ← .atomic .begin fun e s => (.ok e.clock, { s with begun := true, time := e.clock })
  (loop n previousTick).tryCatch handler

/-! ### The system -/

/-- The threads. -/
inductive Role
  | caller
  | motion
  deriving DecidableEq

variable (K) in
/-- What the threads do. -/
inductive Op
  | start
  | move (side : Option Side) (q : Option (Joints K))
  | target
  | stop
  | run (n : ℕ)

/-- A caller of the public methods, and the thread that `start` starts. -/
def system (sqrt : K → K) (limits : MotionLimits K) :
    System Role (Op K) ReplaySection (ReplayEnv K) (Replay limits) MotionError where
  op
    | .caller, .start => start
    | .caller, .move side q => do
      let _ ← move sqrt side q
    | .caller, .target => do
      let _ ← target
    | .caller, .stop => stop
    | .motion, .run n => run n
    | _, _ => pure ()
  allowed
    | .motion, .run _, s => s.thread = true ∧ s.begun = false
    | _, _, _ => True

/-- The clock does not run backwards. -/
def Clocked : Role → ReplaySection → ReplayEnv K → Replay limits → Prop := fun _ _ e s =>
  s.time ≤ e.clock ∧ e.clock ≤ e.clockAgain

end Replay

end Calibration

end DualCollection
