import DualCollection.Authority.Timeline
import DualCollection.Episode.Models

/-!
# The takeover controller

`TakeoverController` of `dagger/takeover.py` over any implementation of the protocol
`CommandGateway`.  The gateway is shared with another thread and is reached through its own atomic
sections; what the controller does to its own attributes between two of them is one section of its
thread.

Status messages are left out, since nothing reads them; that the sink is called, and may raise, is
kept.
-/

namespace DualCollection

open Thread

/-- `CommandGateway`: the calls that a controller makes, as programs over the gateway's state. -/
structure CommandGateway (L G : Type) where
  /-- `action_output_enabled` -/
  actionOutputEnabled : Bool
  /-- `close_gate` -/
  closeGate : ℕ → Prog L Env G Failure Unit
  /-- `clear_pending` -/
  clearPending : ℕ → Prog L Env G Failure Unit
  /-- `prepare_policy` -/
  preparePolicy : String → ℕ → Prog L Env G Failure Unit
  /-- `policy_ready` -/
  policyReady : String → ℕ → Prog L Env G Failure Bool
  /-- `take_fault` -/
  takeFault : Prog L Env G Failure (Option Failure)

/-- The states of the controller. -/
inductive TakeoverState
  | idle
  | modelControl
  | handoverPending
  | humanActive
  | resumePending
  | faultHold
  deriving DecidableEq, Repr

/-- The attributes of the controller, with its timeline. -/
structure Takeover where
  /-- `state` -/
  state : TakeoverState := .idle
  /-- `control_epoch` -/
  controlEpoch : ℕ := 0
  /-- `episode_id` -/
  episodeId : Option String := none
  /-- `intervention_id` -/
  interventionId : ℕ := 0
  /-- `_safety_failure` -/
  safetyFailure : Option Exc := none
  /-- `_fault_detail` -/
  faultDetail : Option AuthorityReason := none
  /-- `_fault_time_ns` -/
  faultTimeNs : Option ℤ := none
  /-- `timeline` -/
  timeline : AuthorityTimeline := {}

/-- A controller and its gateway. -/
structure World (G : Type) where
  /-- The controller. -/
  takeover : Takeover
  /-- The gateway. -/
  gateway : G

/-- The sections of the threads around a controller. -/
inductive WorldSection (L : Type)
  /-- A section of the gateway. -/
  | gateway (l : L)
  /-- The controller works on its own attributes. -/
  | own
  /-- `human_mode.enable_gravity_compensation()` -/
  | gravity
  /-- `status_sink(...)` -/
  | status

namespace Takeover

/-! ### The assignments of the controller -/

section Assignments

variable (t : Takeover)

/-- The timeline has changed. -/
@[simps] def timed (timeline : AuthorityTimeline) : Takeover := { t with timeline := timeline }

/-- Assign `state`. -/
@[simps] def entered (state : TakeoverState) : Takeover := { t with state := state }

/-- `self.control_epoch += 1` -/
@[simps] def advanced : Takeover := { t with controlEpoch := t.controlEpoch + 1 }

/-- Assign `intervention_id`. -/
@[simps] def intervened (interventionId : ℕ) : Takeover :=
  { t with interventionId := interventionId }

/-- The assignments with which `start_episode` begins. -/
@[simps] def identified (episodeId : String) : Takeover :=
  { t with
    episodeId := some episodeId
    interventionId := 0
    safetyFailure := none
    faultDetail := none
    faultTimeNs := none }

/-- Record that the arms could not be brought to a safe mode. -/
@[simps] def unrecovered (recovery : Option PyError) : Takeover :=
  { t with safetyFailure := (recovery.map .recoveryFailed).or t.safetyFailure }

/-- The assignments with which `_fault` ends. -/
@[simps] def held (reason : AuthorityReason) (faultTimeNs : ℤ) : Takeover :=
  { t with
    faultDetail := some reason
    faultTimeNs := some faultTimeNs
    state := .faultHold }

/-- The assignments with which `stop_episode` ends. -/
@[simps] def stopped : Takeover :=
  { t with
    state := .idle
    episodeId := none
    interventionId := 0
    faultDetail := none
    faultTimeNs := none
    safetyFailure := none }

end Assignments

variable {L G α : Type} (gw : CommandGateway L G)

/-- A program of a thread around a controller. -/
abbrev Program (L G α : Type) := Prog (WorldSection L) Env (World G) Failure α

/-- A call of the gateway. -/
def call (p : Prog L Env G Failure α) : Program L G α :=
  p.embed .gateway id World.gateway fun w g => { w with gateway := g }

/-- A section of the controller. -/
def perform (l : WorldSection L) (body : Locked Takeover α) : Program L G α :=
  locked (fun w => w.takeover.controlEpoch) l
    (body.zoom World.takeover fun w t => { w with takeover := t })

/-- The controller's attributes. -/
def attributes : Program L G Takeover := perform .own .get

/-- An operation of the timeline. -/
def onTimeline (body : Locked AuthorityTimeline α) : Locked Takeover α :=
  body.zoom Takeover.timeline timed

/-- Whatever the timeline does, the other attributes stay. -/
theorem post_onTimeline {body : Locked AuthorityTimeline α} {e : Env} {t : Takeover}
    {Q : Except Exc α → Takeover → Prop} (h : ∀ r timeline, Q r (t.timed timeline)) :
    (onTimeline body).Post e t Q := h _ _

/-- Report to the operator. -/
def report : Program L G Unit := perform .status (.call .statusSink)

/-- `except Exception as error: handler(error)`. -/
def exceptException (p : Program L G α) (handler : Failure → Program L G α) : Program L G α :=
  p.tryCatch fun f => if f.error.isException then handler f else .raise f

/-- `try: ... except BaseException as cleanup_error`: what went wrong, if anything did. -/
def cleanup (p : Program L G Unit) (note : Exc → FailureNote) : Program L G (List FailureNote) :=
  p.andThen fun
    | .ok () => pure []
    | .error f => pure [note f.error]

/-- `_fault` -/
def fault (f : Failure) : Program L G Unit := do
  let t ← attributes
  if t.state = .faultHold then pure ()
  else do
    let closeNotes ← cleanup (call (gw.closeGate t.controlEpoch)) .closeGate
    perform .own (.modify advanced)
    let clearNotes ← cleanup (call (gw.clearPending (t.controlEpoch + 1))) .clearPending
    let recovery ← perform .gravity (.attempt .enableGravityCompensation)
    let gravityNotes := (recovery.map FailureNote.gravityCompensation).toList
    let reason := .failures (.error f.error :: closeNotes ++ clearNotes ++ gravityNotes)
    perform .own do
      .modify (·.unrecovered recovery)
      let t ← .get
      let faultTimeNs ←
        onTimeline (AuthorityTimeline.faultHold t.interventionId t.controlEpoch reason)
      .modify (·.held reason faultTimeNs)
    report

/-- `poll_policy` -/
def pollPolicy : Program L G TakeoverState := do
  let t ← attributes
  if t.state ≠ .resumePending then pure t.state
  else match t.episodeId with
    | none => .raise ⟨.authority .noEpisode, t.controlEpoch⟩
    | some episodeId => do
      exceptException (do
        let ready ← call (gw.policyReady episodeId t.controlEpoch)
        if ready then do
          perform .own do
            let t ← .get
            onTimeline (AuthorityTimeline.policyActive t.interventionId t.controlEpoch
              (if gw.actionOutputEnabled then .actionGatewayReady else .noActionGatewayReady))
            .modify (·.entered .modelControl)
          report) (fault gw)
      let t ← attributes
      pure t.state

/-- `start_episode` -/
def startEpisode (started : RecordingStarted) : Program L G Unit := do
  perform .own do
    let t ← .get
    if t.state ≠ .idle then .raise (.authority .cannotStart)
    .modify (·.identified started.episodeId)
    onTimeline (AuthorityTimeline.startEpisode started.monotonicTimeNs)
    .modify (·.entered .resumePending)
  let t ← attributes
  exceptException (do
    call (gw.preparePolicy started.episodeId t.controlEpoch)
    let _ ← pollPolicy gw) (fault gw)

/-- `poll_runtime` -/
def pollRuntime : Program L G TakeoverState := do
  let t ← attributes
  match t.safetyFailure with
  | some failure => .raise ⟨failure, t.controlEpoch⟩
  | none =>
    if t.state = .idle ∨ t.state = .faultHold then pure t.state
    else do
      let error ← call gw.takeFault
      match error with
      | some f => do
        fault gw f
        let t ← attributes
        pure t.state
      | none => pollPolicy gw

/-- What `_takeover` and `stop_episode` do to the gateway and the arms. -/
def release : Program L G Unit := do
  let t ← attributes
  call (gw.closeGate t.controlEpoch)
  perform .own (.modify advanced)
  call (gw.clearPending (t.controlEpoch + 1))
  perform .gravity (.call .enableGravityCompensation)

/-- `_takeover` -/
def takeover (monotonicTimeNs : ℤ) : Program L G Unit := do
  perform .own do
    .modify (·.entered .handoverPending)
    let t ← .get
    let interventionId ← onTimeline
      (AuthorityTimeline.takeoverRequested t.controlEpoch .operatorOwnershipToggle monotonicTimeNs)
    .modify (·.intervened interventionId)
  exceptException (do
    release gw
    perform .own do
      let t ← .get
      onTimeline (AuthorityTimeline.humanActive t.interventionId t.controlEpoch)
      .modify (·.entered .humanActive)
    report) (fault gw)

/-- `_resume` -/
def resume (monotonicTimeNs : ℤ) : Program L G Unit := do
  let t ← attributes
  match t.episodeId with
  | none => .raise ⟨.authority .noEpisode, t.controlEpoch⟩
  | some episodeId => do
    perform .own do
      .modify (·.entered .resumePending)
      let t ← .get
      onTimeline (AuthorityTimeline.resumeRequested t.interventionId t.controlEpoch monotonicTimeNs)
    exceptException (do
      call (gw.preparePolicy episodeId t.controlEpoch)
      let _ ← pollPolicy gw) (fault gw)

/-- `toggle_ownership` -/
def toggleOwnership (monotonicTimeNs : ℤ) : Program L G Unit := do
  let t ← attributes
  match t.state with
  | .modelControl => takeover gw monotonicTimeNs
  | .humanActive => resume gw monotonicTimeNs
  | _ => report

/-- `stop_episode` -/
def stopEpisode (stopping : RecordingStopping) : Program L G Unit := do
  let t ← attributes
  if t.state = .idle then pure ()
  else do
    if t.state ≠ .faultHold then exceptException (release gw) (fault gw)
    let failure ← perform .own do
      onTimeline (AuthorityTimeline.finishEpisode stopping.monotonicTimeNs)
      let t ← .get
      .modify stopped
      pure t.safetyFailure
    match failure with
    | some failure => .raise ⟨failure, t.controlEpoch⟩
    | none => pure ()

end Takeover

end DualCollection
