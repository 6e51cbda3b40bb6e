import DualCollection.Authority.Safety
import DualCollection.Infer.Recording
import DualCollection.Thread.Within

/-!
# The inference controller

`InferController` and `InferRecordTrigger` of `infer/controller.py` over any implementation of the
protocol `CommandGateway` by an RTC scheduler, with `RecordedControl` as the sink of that scheduler.

The gateway is shared with the scheduler's thread and is reached through its own atomic sections.
The recording of commands is not locked by itself: `publish` runs within a section of the scheduler,
and `start` and `finish` are sections of the controller's thread.  Status messages and the
configuration that is copied into the facts are left out; that the sink of the former is called, and
may raise, is kept.
-/

namespace DualCollection

open Thread

/-- What `take_fault() or commands.failure` finds. -/
inductive InferFault
  | gateway (f : Failure)
  | command (err : PyError)
  deriving DecidableEq, Repr

/-- The exceptions of an inference Episode. -/
inductive InferError
  /-- Raised by the gateway. -/
  | gateway (f : Failure)
  /-- Raised by another injected object. -/
  | port (err : PyError)
  /-- `infer episode is already active` -/
  | alreadyActive
  /-- `command recording is already active` -/
  | recordingActive
  /-- `infer policy fault: ...` -/
  | policyFault (fault : InferFault)
  /-- `infer policy fault at label: ...` -/
  | policyFaultAtLabel (fault : InferFault)
  /-- A `KeyError`: a label of another kind, or facts that were never begun. -/
  | keyError
  deriving DecidableEq, Repr

/-- The attributes of `InferController`. -/
structure InferController where
  /-- `control_epoch` -/
  controlEpoch : ℕ := 0
  /-- `active` -/
  active : Bool := false
  /-- `ready` -/
  ready : Bool := false
  /-- `episode_id` -/
  episodeId : String := ""
  /-- `facts`, which are empty before the first Episode. -/
  facts : Option InferFacts := none
  /-- `_stop_error` -/
  stopError : Option InferError := none

namespace InferController

variable (c : InferController)

/-- The assignments with which `start_episode` begins. -/
@[simps] def begun (started : RecordingStarted) : InferController where
  controlEpoch := c.controlEpoch
  active := true
  ready := false
  episodeId := started.episodeId
  facts := some { startedMonotonicNs := started.monotonicTimeNs }
  stopError := none

/-- `self.control_epoch += 1` -/
@[simps] def advanced : InferController := { c with controlEpoch := c.controlEpoch + 1 }

/-- Assign `ready`. -/
@[simps] def readied (ready : Bool) : InferController := { c with ready := ready }

/-- Assign `_stop_error`. -/
@[simps] def stopFailed (err : InferError) : InferController := { c with stopError := some err }

/-- Assign `facts`. -/
@[simps] def told (facts : Option InferFacts) : InferController := { c with facts := facts }

/-- The assignments with which `close` ends. -/
@[simps] def closed (actionsStoppedNs : ℤ) : InferController :=
  { c with
    active := false
    ready := false
    facts := c.facts.map fun facts =>
      { facts with actionsStoppedMonotonicNs := some actionsStoppedNs } }

end InferController

/-- A controller with its trigger and its recording of commands, the gateway, and what was observed,
newest first. -/
structure InferWorld where
  /-- The controller. -/
  controller : InferController := {}
  /-- `_running_armed` of the trigger. -/
  runningArmed : Bool := false
  /-- The recording of commands. -/
  control : RecordedControl := {}
  /-- The gateway. -/
  gateway : Rtc
  /-- What was observed.  No program reads it. -/
  log : List InferEvent := []

/-- The sections of the threads around a controller. -/
inductive InferSection
  /-- A section of the gateway. -/
  | gateway (l : RtcSection)
  /-- The controller works on its own attributes. -/
  | own
  /-- `commands.start(...)` -/
  | start
  /-- `human_mode.enable_gravity_compensation()` -/
  | gravity
  /-- The `finally` clause of `close`. -/
  | finish
  /-- A call of another injected object. -/
  | port

/-! ### Commands on their way to the arms -/

/-- The same answers, but `publish` raises `raised`. -/
def Env.publishing (e : Env) (raised : Option PyError) : Env :=
  { e with raises := Function.update e.raises .publish raised }

namespace InferWorld

variable {β : Type}

/-- The command that a section of a scheduler hands to its sink: a publishing section takes the
first command from the queue, and hands it over next. -/
def handed (l : RtcSection) (act : Env → Rtc → Except Failure β × Rtc) (e : Env) (s : Rtc) :
    Option DualArmJointCommand :=
  match l, s.queue with
  | .publish, queued :: rest =>
    if (act e s).2.queue = queued :: rest then none else some queued.command
  | _, _ => none

/-- A section of the gateway, with `RecordedControl` as its sink. -/
def via (l : RtcSection) (act : Env → Rtc → Except Failure β × Rtc) (e : InferEnv)
    (w : InferWorld) : Except Failure β × InferWorld :=
  match handed l act e.base w.gateway with
  | none => ((act e.base w.gateway).1, { w with gateway := (act e.base w.gateway).2 })
  | some command =>
    let published := w.control.publish command e
    let outcome := act (e.base.publishing published.raised) w.gateway
    (outcome.1,
      { w with
        control := published.control
        gateway := outcome.2
        log := published.events ++ w.log })

end InferWorld

namespace Infer

variable {α : Type}

/-- A program of a thread around a controller. -/
abbrev Program (α : Type) := Prog InferSection InferEnv InferWorld InferError α

/-- A call of the gateway. -/
def call (p : Rtc.Program α) : Program α :=
  p.within .gateway InferWorld.via >>= fun
    | .ok a => pure a
    | .error f => .raise (.gateway f)

/-! ### The sections of the controller -/

/-- The controller's attributes. -/
def attributes : Program InferController := .atomic .own fun _ w => (.ok w.controller, w)

/-- The controller changes its attributes. -/
def own (f : InferController → InferController) : Program Unit := .atomic .own fun _ w =>
  (.ok (), { w with controller := f w.controller })

/-- An injected object may raise. -/
def port (raises : InferEnv → Option PyError) : Program Unit := .atomic .port fun e w =>
  match raises e with
  | none => (.ok (), w)
  | some err => (.error (.port err), w)

/-- `self.commands.start(episode_id)` -/
def startRecording (episodeId : String) : Program Unit := .atomic .start fun _ w =>
  if w.control.episodeId ≠ none then (.error .recordingActive, w)
  else (.ok (),
    { w with control := .begun episodeId, log := .started episodeId :: w.log })

/-- `self.human_mode.enable_gravity_compensation()` -/
def gravity : Program Unit := .atomic .gravity fun e w =>
  (match e.base.raises .enableGravityCompensation with
    | none => .ok ()
    | some err => .error (.port err),
    { w with log := .gravity (e.base.raises .enableGravityCompensation) :: w.log })

/-- The `finally` clause of `close`. -/
def finishRecording : Program Unit := .atomic .finish fun e w => (.ok (),
  { w with
    control := w.control.finish
    controller := w.controller.closed e.base.clockNs
    log := .finished :: w.log })

/-- `self.commands.failure` -/
def commandFailure : Program (Option PyError) := .atomic .own fun _ w => (.ok w.control.failure, w)

/-- `label` returns. -/
def passLabel (event : TriggerEvent) : Program Unit := .atomic .own fun _ w =>
  (.ok (), { w with log := .labelled event :: w.log })

variable (gw : CommandGateway RtcSection Rtc)

/-! ### The controller -/

/-- `close` -/
def close : Program Unit := do
  let c ← attributes
  if c.active then
    Prog.tryFinally
      (Prog.tryCatch
        -- gravity compensation is asked for even if the gateway raises
        (Prog.tryFinally (call (gw.closeGate c.controlEpoch))
          (Prog.tryFinally
            (do
              own (·.advanced)
              call (gw.clearPending (c.controlEpoch + 1)))
            gravity))
        fun err => do
          own (·.stopFailed err)
          .raise err)
      finishRecording
  else pure ()

/-- `start_episode` -/
def startEpisode (started : RecordingStarted) : Program Unit := do
  let c ← attributes
  if c.active then .raise .alreadyActive
  else do
    own (·.begun started)
    Prog.tryCatch
      (do
        call (gw.clearPending c.controlEpoch)
        startRecording started.episodeId
        call (gw.preparePolicy started.episodeId c.controlEpoch))
      fun err => do
        close gw
        .raise err

/-- `self.gateway.take_fault() or self.commands.failure` -/
def takeFault : Program (Option InferFault) := do
  match ← call gw.takeFault with
  | some f => pure (some (.gateway f))
  | none => do
    let failure ← commandFailure
    pure (failure.map .command)

/-- `poll` -/
def poll : Program Bool := do
  match ← takeFault gw with
  | some fault => .raise (.policyFault fault)
  | none => do
    let c ← attributes
    if c.ready then pure true
    else do
      let ready ← call (gw.policyReady c.episodeId c.controlEpoch)
      own (·.readied ready)
      pure ready

/-- `label_source`, which also tells which labels there are. -/
def labelSource : TriggerEvent → Option LabelSource
  | .activate => some .rightPedal
  | .abort => some .leftPedal
  | .conflict => some .bothPedals
  | _ => none

/-- `termination_reason` -/
def terminationReason (event : TriggerEvent) : TerminationReason :=
  if event = .conflict then .labelConflict else .humanLabel

/-- The event that `label` returns. -/
def labelEvent : TriggerEvent → TriggerEvent
  | .activate => .activate
  | .abort => .taskFail
  | _ => .abort

theorem labelEvent_ne {event : TriggerEvent} : labelEvent event ≠ .fail := by
  cases event <;> decide

/-- The signal that `label` returns. -/
def labelSignal (signal : TriggerSignal) : TriggerSignal where
  event := labelEvent signal.event
  monotonicTimeNs := signal.monotonicTimeNs
  detail := none
  monotonicTimeNs_nonneg := signal.monotonicTimeNs_nonneg
  detail_fail := fun h => absurd h labelEvent_ne
  detail_other := fun _ => rfl

/-- `label` -/
def label (signal : TriggerSignal) : Program TriggerSignal :=
  match labelSource signal.event with
  | none => .raise .keyError
  | some source => do
    own fun c => c.told (c.facts.map fun facts =>
      { facts with
        terminationReason := some (terminationReason signal.event)
        labelSource := some source
        labelMonotonicNs := some signal.monotonicTimeNs })
    -- the gate is closed before the result is returned
    close gw
    match ← takeFault gw with
    | some fault => .raise (.policyFaultAtLabel fault)
    | none => do
      passLabel (labelEvent signal.event)
      pure (labelSignal signal)

/-- The facts of an Episode that is stopped. -/
def stoppedFacts (stopping : RecordingStopping) (control : RecordedControl) (facts : InferFacts) :
    InferFacts :=
  { facts with
    terminationReason := facts.terminationReason.or
      (some (if stopping.outcome = .aborted then .operatorAbort else .runtimeFault))
    endedMonotonicNs := some stopping.monotonicTimeNs
    commandCount := some control.commandCount
    lastCommandMonotonicNs := control.lastCommandMonotonicNs }

/-- The assignments of `stop_episode` before it sleeps. -/
def tellStopped (stopping : RecordingStopping) : Program Unit := .atomic .own fun _ w =>
  match w.controller.facts with
  | none => (.error .keyError, w)
  | some facts => (.ok (),
    { w with controller := w.controller.told (some (stoppedFacts stopping w.control facts)) })

/-- The assignment of `stop_episode` after it has slept. -/
def tellRequested : Program Unit := .atomic .own fun e w =>
  match w.controller.facts with
  | none => (.ok (), w)
  | some facts =>
    let facts := { facts with recordingStopRequestedMonotonicNs := some e.base.clockNs }
    (.ok (),
      { w with
        controller := w.controller.told (some facts)
        log := .stopped facts :: w.log })

/-- `stop_episode` -/
def stopEpisode (stopping : RecordingStopping) : Program Unit := do
  close gw
  let c ← attributes
  match c.stopError with
  | some err => .raise err
  | none => do
    tellStopped stopping
    port (·.sleep)
    tellRequested

/-! ### The trigger -/

/-- `arm` -/
def arm : Program Unit := do
  .atomic .own fun _ w => (.ok (), { w with runningArmed := false })
  port (·.trigger)

/-- `self.trigger.wait(timeout_s)` -/
def triggerWait : Program (Option TriggerSignal) := .atomic .port fun e w =>
  match e.trigger with
  | none => (.ok e.signal, w)
  | some err => (.error (.port err), w)

/-- Discard what was buffered before the Episode ran, once. -/
def armRunning : Program Unit := do
  let armed ← (.atomic .own fun _ w => (.ok w.runningArmed, w) : Program Bool)
  if armed then pure ()
  else do
    port (·.trigger)
    .atomic .own fun _ w => (.ok (), { w with runningArmed := true })
    port (·.base.raises .statusSink)

/-- `wait` -/
def wait : Program (Option TriggerSignal) := do
  let c ← attributes
  if c.active then do
    let ready ← poll gw
    if ready then do
      armRunning
      let signal ← triggerWait
      -- a fault of the policy is preferred to a label
      let _ ← poll gw
      match signal with
      | none => pure none
      | some signal => do
        let labelled ← label gw signal
        pure (some labelled)
    else do
      let _ ← triggerWait
      pure none
  else do
    let signal ← triggerWait
    pure (signal.filter (·.event = .activate))

/-! ### The system -/

/-- What the threads do. -/
inductive Op
  | startEpisode (started : RecordingStarted)
  | arm
  | wait
  | disarm
  | close
  | stopEpisode (stopping : RecordingStopping)
  | step
  | complete (future : ℕ) (result : Except PyError PolicyResult)

/-- The controller's thread, the scheduler's thread, and the policy. -/
def system (step : Rtc.Program Unit) :
    System Rtc.Role Op InferSection InferEnv InferWorld InferError where
  op
    | .controller, .startEpisode started => startEpisode gw started
    | .controller, .arm => arm
    | .controller, .wait => do
      let _ ← wait gw
    | .controller, .disarm => port (·.trigger)
    | .controller, .close => close gw
    | .controller, .stopEpisode stopping => stopEpisode gw stopping
    | .scheduler, .step => call step
    | .policy, .complete future result => call (Rtc.complete future result)
    | _, _ => pure ()

/-- A controller and a scheduler as constructed. -/
def init (p : RtcParameters) : InferWorld := { gateway := Rtc.init p }

end Infer

end DualCollection
