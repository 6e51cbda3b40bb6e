import DualCollection.Control.Contract
import DualCollection.Control.Locked

/-!
# The RTC action scheduler

`RtcActionScheduler` of `dagger/rtc_scheduler.py`, with every `with self._lock` section one atomic
section.  The controller thread calls `closeGate`, `clearPending`, `preparePolicy`, `policyReady`
and `takeFault`; the scheduler's own thread calls `step` over and over; the policy completes the
futures it handed out at any time.

Ports answer through `Env`.  The identity of a pending request is its inference number, which is
fresh for every request as `uuid4().hex` is; a future is the position at which it was handed out,
and `futures` has the result of every future that is done.  The payloads of diagnostic events are
left out, since nothing reads them; that the sink is called, and may raise, is kept.

`Rtc.log` records what an observer sees of the scheduler, newest first.  No program reads it.
-/

namespace DualCollection

open Thread

/-- The arguments of the scheduler's constructor, after its checks. -/
structure RtcParameters where
  /-- The action contract. -/
  contract : Pi05JointActionContract
  /-- The checkpoint profile. -/
  checkpoint : Pi05CheckpointProfile
  /-- The rollout profile. -/
  rollout : RtcRolloutProfile
  /-- How long a request may take. -/
  policyWaitTimeoutS : ℚ
  /-- How late a command may be. -/
  commandWatchdogS : ℚ
  /-- How long the first request of a lease may take. -/
  bootstrapTimeoutS : ℚ
  /-- `rollout.validate_for(checkpoint)` returned. -/
  valid : rollout.ValidFor checkpoint
  /-- `RTC scheduler timeouts must be positive` -/
  timeouts_pos : 0 < policyWaitTimeoutS ∧ 0 < commandWatchdogS
  /-- `RTC bootstrap timeout must be positive and finite` -/
  bootstrapTimeoutS_pos : 0 < bootstrapTimeoutS

namespace RtcParameters

variable (p : RtcParameters)

/-- `self.period_s`. -/
def periodS : ℚ := 1 / p.checkpoint.execution.controlRateHz

/-- `self.safe_window_steps`. -/
def safeWindowSteps : ℕ := p.rollout.safeWindowSteps p.checkpoint

/-- When the next request is submitted, the window still covers every delay of the trained range. -/
theorem window_lt :
    p.safeWindowSteps < p.rollout.prefetchAfterSteps + p.checkpoint.maxDelaySteps := by
  have := p.rollout.prefetchAfterSteps_pos
  rw [safeWindowSteps, RtcRolloutProfile.safeWindowSteps]
  omega

/-- `self.delay` as constructed. -/
def delay : RollingMaxDelayEstimator where
  initial := p.rollout.initialDelaySteps
  capacity := p.rollout.delayHistorySize
  maximumExclusive := p.checkpoint.maxDelaySteps
  history := []
  initial_lt := p.valid.initialDelay
  capacity_pos := p.rollout.delayHistorySize_pos
  history_lt := by simp

end RtcParameters

/-- A validated action that waits to be issued. -/
structure QueuedRtcAction where
  /-- The row of the chunk. -/
  modelAction : ActionRow
  /-- The command it is mapped to. -/
  command : DualArmJointCommand
  deriving DecidableEq

/-- A request whose response has not been accepted yet. -/
structure PendingRtcInference where
  /-- The number of the request. -/
  inferenceId : ℕ
  /-- The future of its response. -/
  future : ℕ
  /-- Commands issued before it was submitted. -/
  issuedAtSubmit : ℕ
  /-- When it was submitted. -/
  submittedAtS : ℚ
  /-- The delay it was told to expect. -/
  estimatedDelaySteps : Option ℕ
  /-- The rows it was told will be executed in the meantime. -/
  actionPrefix : List ActionRow
  /-- It opens a lease. -/
  bootstrap : Bool
  deriving DecidableEq

/-- A response that was spliced into the queue. -/
structure Acceptance where
  /-- The request it answers. -/
  pending : PendingRtcInference
  /-- The response. -/
  ticket : InferenceTicket
  /-- The row of the chunk with which the window starts. -/
  start : ℕ
  /-- The window. -/
  window : List QueuedRtcAction
  /-- The joint feedback it was validated against. -/
  measured : DualArmJointState

/-- What an observer sees of a scheduler. -/
inductive RtcEvent
  /-- The gate was closed by `close_gate`. -/
  | closed
  /-- The lease was reset by `clear_pending`. -/
  | reset
  /-- The gate was opened. -/
  | opened
  /-- A request was submitted. -/
  | submitted (pending : PendingRtcInference)
  /-- The second stage of an EXPO request was submitted. -/
  | finishing (pending : PendingRtcInference)
  /-- A response was accepted. -/
  | accepted (a : Acceptance)
  /-- A command was published, as number `tick` of the epoch. -/
  | published (tick : ℕ) (action : QueuedRtcAction)
  /-- A latched fault was handed to the controller. -/
  | faultTaken (f : Failure)

/-- The scheduler, the futures of its policy, and what was observed so far. -/
structure Rtc where
  /-- `_control_epoch` -/
  controlEpoch : ℕ := 0
  /-- `_episode_id` -/
  episodeId : Option String := none
  /-- `_gate_open` -/
  gateOpen : Bool := false
  /-- `_pending` -/
  pending : Option PendingRtcInference := none
  /-- `_queue` -/
  queue : List QueuedRtcAction := []
  /-- `_last_published_command` -/
  lastPublishedCommand : Option DualArmJointCommand := none
  /-- `_issued_total` -/
  issuedTotal : ℕ := 0
  /-- `_issued_since_splice` -/
  issuedSinceSplice : ℕ := 0
  /-- `_next_command_s` -/
  nextCommandS : Option ℚ := none
  /-- `_fault` -/
  fault : Option Failure := none
  /-- `delay` -/
  delay : RollingMaxDelayEstimator
  /-- `_finishing` of the EXPO scheduler, with the control epoch of the request it finishes. -/
  finishing : Option ℕ := none
  /-- The results of the futures that are done. -/
  futures : ℕ → Option (Except PyError PolicyResult) := fun _ => none
  /-- The number of futures handed out. -/
  nextFuture : ℕ := 0
  /-- What was observed, newest first. -/
  log : List RtcEvent := []

/-! ### What the lock sections exchange -/

/-- What `_accept_pending` reads while it first holds the lock, with the result of the future: a
future that is done keeps its result. -/
structure Snapshot where
  /-- `pending` -/
  pending : PendingRtcInference
  /-- `epoch` -/
  epoch : ℕ
  /-- `episode_id` -/
  episodeId : Option String
  /-- `issued_total` -/
  issuedTotal : ℕ
  /-- `last_published` -/
  lastPublished : Option DualArmJointCommand
  /-- `pending.future.result()` -/
  result : Except PyError PolicyResult

/-- A response that passed the checks up to the joint feedback. -/
structure CheckedResponse where
  /-- `ticket` -/
  ticket : InferenceTicket
  /-- `actual_delay` -/
  actualDelay : ℤ
  /-- `start` -/
  start : ℕ
  /-- `actions` -/
  actions : List ActionRow

/-- A validated window on its way to the queue. -/
structure Candidate where
  /-- What was read before. -/
  snapshot : Snapshot
  /-- The response. -/
  response : CheckedResponse
  /-- The joint feedback. -/
  measured : DualArmJointState
  /-- `replacement` -/
  replacement : List QueuedRtcAction

/-- The observable acceptance of a candidate. -/
def Candidate.acceptance (c : Candidate) : Acceptance :=
  ⟨c.snapshot.pending, c.response.ticket, c.response.start, c.replacement, c.measured⟩

/-- The sections of the schedulers. -/
inductive RtcSection
  | closeGate
  | clearPending (controlEpoch : ℕ)
  | beginEpoch
  | emitReset
  | clearFinishing
  | prepare
  | poll
  | takeFault
  | clock
  | gateCheck
  | finishCheck
  | acceptRead
  | checkResponse (window : ℕ) (snap : Snapshot)
  | stateRead
  | reject (f : Failure)
  | splice (c : Candidate)
  | finished
  | publish
  | fail (f : Failure)
  | complete

namespace Rtc

/-- The scheduler as constructed. -/
def init (p : RtcParameters) : Rtc := { delay := p.delay }

/-- A program of a thread that uses the scheduler. -/
abbrev Program (α : Type) := Prog RtcSection Env Rtc Failure α

/-- A section of the scheduler. -/
def perform {α : Type} (l : RtcSection) (body : Locked Rtc α) : Program α :=
  locked Rtc.controlEpoch l body

/-- A section whose work was begun under the control epoch `epoch`. -/
def performFor {α : Type} (epoch : ℕ) (l : RtcSection) (body : Locked Rtc α) : Program α :=
  locked (fun _ => epoch) l body

/-! ### The assignments of the lock sections -/

section Assignments

variable (s : Rtc)

/-- Assign `_next_command_s`. -/
@[simps] def scheduled (nextCommandS : Option ℚ) : Rtc := { s with nextCommandS := nextCommandS }

/-- Assign `_episode_id`. -/
@[simps] def identified (episodeId : String) : Rtc := { s with episodeId := some episodeId }

/-- What `popleft` leaves. -/
@[simps] def dequeued (rest : List QueuedRtcAction) : Rtc := { s with queue := rest }

/-- Assign the observations of `delay`. -/
@[simps] def delayed (delay : RollingMaxDelayEstimator) : Rtc := { s with delay := delay }

/-- The assignment of `close_gate`. -/
@[simps] def closed : Rtc := { s with gateOpen := false, log := .closed :: s.log }

/-- The assignments of `clear_pending`. -/
@[simps] def resetTo (controlEpoch : ℕ) : Rtc :=
  { s with
    controlEpoch := controlEpoch
    gateOpen := false
    pending := none
    queue := []
    episodeId := none
    lastPublishedCommand := none
    issuedTotal := 0
    issuedSinceSplice := 0
    nextCommandS := none
    delay := s.delay.reset
    log := .reset :: s.log }

/-- The assignment of `_submit_locked`. -/
@[simps] def submitted (pending : PendingRtcInference) : Rtc :=
  { s with
    nextFuture := s.nextFuture + 1
    pending := some pending
    log := .submitted pending :: s.log }

/-- The assignment of `take_fault`. -/
@[simps] def faultTaken : Rtc :=
  { s with
    fault := none
    log := match s.fault with
      | none => s.log
      | some f => .faultTaken f :: s.log }

/-- The assignments of `_fail` and of `_reject_window_locked`. -/
@[simps] def stopped (f : Failure) : Rtc :=
  { s with
    gateOpen := false
    queue := []
    pending := none
    fault := some (s.fault.getD f) }

/-- The assignments that open the gate. -/
@[simps] def opened (nowS : ℚ) : Rtc :=
  { s with gateOpen := true, nextCommandS := some nowS, log := .opened :: s.log }

/-- The assignments that splice a window into the queue. -/
@[simps] def spliced (c : Candidate) : Rtc :=
  { s with
    queue := c.replacement
    issuedSinceSplice := 0
    pending := none
    log := .accepted c.acceptance :: s.log }

/-- The assignments that count a published command. -/
@[simps] def issued (queued : QueuedRtcAction) (nextS : ℚ) : Rtc :=
  { s with
    lastPublishedCommand := some queued.command
    issuedTotal := s.issuedTotal + 1
    issuedSinceSplice := s.issuedSinceSplice + 1
    nextCommandS := some nextS
    log := .published s.issuedTotal queued :: s.log }

/-- The assignments that replace the future of a request by the one of its second stage. -/
@[simps] def finishingStage (pending : PendingRtcInference) : Rtc :=
  { s with
    nextFuture := s.nextFuture + 1
    pending := some { pending with future := s.nextFuture }
    finishing := some s.controlEpoch
    log := .finishing { pending with future := s.nextFuture } :: s.log }

/-- The policy sets the result of a future that it handed out. -/
def completed (future : ℕ) (result : Except PyError PolicyResult) : Rtc :=
  if future < s.nextFuture ∧ s.futures future = none then
    { s with futures := Function.update s.futures future (some result) }
  else s

end Assignments

/-! ### The command gateway of the controllers -/

/-- The lock section of `close_gate`. -/
def closeGateLocked (controlEpoch : ℕ) : Locked Rtc Unit := do
  let s ← .get
  if controlEpoch ≠ s.controlEpoch then .raise (.scheduler .closeStale)
  .modify closed

/-- `close_gate`. -/
def closeGate (controlEpoch : ℕ) : Program Unit := perform .closeGate (closeGateLocked controlEpoch)

/-- The lock section of `clear_pending`. -/
def clearPendingLocked (controlEpoch : ℕ) : Locked Rtc Unit := do
  let s ← .get
  if controlEpoch < s.controlEpoch then .raise (.scheduler .epochBackwards)
  .modify (·.resetTo controlEpoch)

/-- `clear_pending`. -/
def clearPending (controlEpoch : ℕ) : Program Unit := do
  perform (.clearPending controlEpoch) (clearPendingLocked controlEpoch)
  perform .beginEpoch (.call .policyBeginEpoch)
  perform .emitReset (.emit "epoch_reset")

/-- `_submit_locked`. -/
def submitLocked (bootstrap : Bool) (context : Option RtcPolicyContext) : Locked Rtc Unit := do
  let s ← .get
  if s.episodeId = none then .raise (.scheduler .noEpisode)
  .call .policySubmit
  let env ← .ask
  .modify (·.submitted
    { inferenceId := s.nextFuture
      future := s.nextFuture
      issuedAtSubmit := s.issuedTotal
      submittedAtS := env.clockAgain
      estimatedDelaySteps := context.map (·.estimatedDelaySteps)
      actionPrefix := (context.map (·.actionPrefix)).getD []
      bootstrap := bootstrap })
  .emit "inference_submitted"

/-- The lock section of `prepare_policy`. -/
def preparePolicyLocked (episodeId : String) (controlEpoch : ℕ) : Locked Rtc Unit := do
  let s ← .get
  if controlEpoch ≠ s.controlEpoch then .raise (.scheduler .bootstrapStale)
  if s.pending ≠ none ∨ s.queue ≠ [] ∨ s.gateOpen then .raise (.scheduler .alreadyActive)
  .modify (·.identified episodeId)
  submitLocked true none

/-- `prepare_policy`. -/
def preparePolicy (episodeId : String) (controlEpoch : ℕ) : Program Unit :=
  perform .prepare (preparePolicyLocked episodeId controlEpoch)

/-- The lock section of `take_fault`. -/
def takeFaultLocked : Locked Rtc (Option Failure) := do
  let s ← .get
  .modify faultTaken
  pure s.fault

/-- `take_fault`. -/
def takeFault : Program (Option Failure) := perform .takeFault takeFaultLocked

/-! ### Accepting a response -/

/-- The first lock section of `_accept_pending`. -/
def acceptRead (bootstrapRequired : Bool) : Locked Rtc Snapshot := do
  let s ← .get
  match s.pending with
  | none => .raise (.scheduler .responseNotReady)
  | some pending =>
    match s.futures pending.future with
    | none => .raise (.scheduler .responseNotReady)
    | some result =>
      if pending.bootstrap ≠ bootstrapRequired then .raise (.scheduler .phaseMismatch)
      pure
        { pending := pending
          epoch := s.controlEpoch
          episodeId := s.episodeId
          issuedTotal := s.issuedTotal
          lastPublished := s.lastPublishedCommand
          result := result }

/-- `prefix_error`: the largest deviation of the returned prefix from the one that was sent. -/
def prefixError (returned sent : List ActionRow) : Option ℚ :=
  (firstMax (List.zipWith (List.zipWith fun actual expected => |actual - expected|)
    returned sent).flatten).map Prod.snd

/-- The hard-prefix check. -/
def checkPrefix (tolerance : ℚ) (ticket : InferenceTicket) (sent : List ActionRow) :
    Except SchedulerError Unit :=
  if sent = [] then .ok ()
  else match prefixError (ticket.actionChunk.take sent.length) sent with
    | none => .error .maxOfNothing
    | some error => if tolerance < error then .error (.hardPrefixChanged error) else .ok ()

/-- The checks between the two lock sections of `_accept_pending` that come before the joint
feedback is read; `window` is `self.safe_window_steps`. -/
def checkResponse (p : RtcParameters) (window : ℕ) (snap : Snapshot) :
    Except Exc CheckedResponse :=
  match snap.result with
  | .error err => .error (.port .policyResult err)
  | .ok .prepared => .error (.scheduler .notATicket)
  | .ok (.ticket ticket) =>
    match p.contract.validateTicketIdentity ticket snap.epoch with
    | .error err => .error (.action err)
    | .ok () =>
      match checkPrefix p.checkpoint.hardPrefixTolerance ticket snap.pending.actionPrefix with
      | .error err => .error (.scheduler err)
      | .ok () =>
        let actualDelay : ℤ := snap.issuedTotal - snap.pending.issuedAtSubmit
        if snap.pending.bootstrap ∧ actualDelay ≠ 0 then .error (.scheduler .bootstrapIssued)
        else if ¬ snap.pending.bootstrap ∧
            ¬ (0 ≤ actualDelay ∧ actualDelay < p.checkpoint.maxDelaySteps) then
          .error (.scheduler (.delayOutsideRange actualDelay))
        else
          let start := if snap.pending.bootstrap then 0 else actualDelay.toNat
          let actions := (ticket.actionChunk.drop start).take window
          if actions.length ≠ window then .error (.scheduler .safeWindowUnavailable)
          else .ok ⟨ticket, actualDelay, start, actions⟩

/-- `_reject_window_locked`.  Its diagnostics may raise, but the `finally` clause replaces what
they raise by the safety error. -/
def rejectWindow (f : Failure) : Locked Rtc Unit := do
  .modify (·.stopped f)
  .raise f.error

/-- The last lock section of `_accept_pending`.  The identity of a published command is compared
by its value: the other comparisons leave no room for a different command of the same value. -/
def splice (c : Candidate) (saturated : Bool) : Locked Rtc Unit := do
  let s ← .get
  if c.snapshot.epoch ≠ s.controlEpoch ∨ c.snapshot.episodeId ≠ s.episodeId ∨
      some c.snapshot.pending ≠ s.pending ∨ c.snapshot.issuedTotal ≠ s.issuedTotal ∨
      c.snapshot.lastPublished ≠ s.lastPublishedCommand then
    .raise (.scheduler .spliceStale)
  if c.snapshot.pending.bootstrap then do
    .call .enablePolicyControl
    let env ← .ask
    .modify (·.opened env.clock)
  else
    match s.delay.observe c.response.actualDelay with
    | .error err => .raise (.scheduler err)
    | .ok delay => .modify (·.delayed delay)
  .modify (·.spliced c)
  .emit "inference_accepted"
  if saturated then .emit "gripper_saturated"

/-- `_accept_pending`; `begun` is the control epoch under which the caller began. -/
def acceptPending (p : RtcParameters) (window : ℕ) (begun : ℕ) (bootstrapRequired : Bool) :
    Program Unit := do
  let snap ← performFor begun .acceptRead (acceptRead bootstrapRequired)
  let response ← performFor snap.epoch (.checkResponse window snap) fun _ s =>
    (checkResponse p window snap, s)
  let measured ← performFor snap.epoch .stateRead do
    .call .stateRead
    let env ← .ask
    pure env.jointState
  match p.contract.validateActions (response.actions.map (·.map .finite)) measured
      snap.lastPublished with
  | .error err =>
    performFor snap.epoch (.reject ⟨.action err, snap.epoch⟩)
      (rejectWindow ⟨.action err, snap.epoch⟩)
  | .ok (commands, saturations) =>
    let c : Candidate :=
      ⟨snap, response, measured, List.zipWith QueuedRtcAction.mk response.actions commands⟩
    performFor snap.epoch (.splice c) (splice c (saturations ≠ []))

/-- The lock section of `policy_ready`. -/
def poll (p : RtcParameters) (episodeId : String) (controlEpoch : ℕ) : Locked Rtc Bool := do
  let s ← .get
  if controlEpoch ≠ s.controlEpoch ∨ some episodeId ≠ s.episodeId then
    .raise (.scheduler .identityStale)
  match s.pending with
  | none => .raise (.scheduler .bootstrapNotStarted)
  | some pending =>
    if (s.futures pending.future).isNone then do
      let env ← .ask
      if p.bootstrapTimeoutS < env.clock - pending.submittedAtS then do
        .emit "bootstrap_timeout"
        .raise (.scheduler .bootstrapTimeout)
      pure false
    else pure true

/-- `policy_ready`. -/
def policyReady (p : RtcParameters) (window : ℕ) (episodeId : String) (controlEpoch : ℕ) :
    Program Bool := do
  let ready ← perform .poll (poll p episodeId controlEpoch)
  if ready then do
    acceptPending p window controlEpoch true
    pure true
  else pure false

/-! ### The scheduler thread -/

/-- The lock section of `_fail`. -/
def failLocked (f : Failure) : Locked Rtc Unit := do
  let s ← .get
  if ¬ s.gateOpen ∧ s.pending = none then pure ()
  else do
    .modify (·.stopped f)
    .emit "fault"

/-- `_fail`. -/
def fail (f : Failure) : Program Unit := performFor f.epoch (.fail f) (failLocked f)

/-- Take the head of the queue, publish it and count it; `empty` is what an empty queue raises. -/
def issue (empty : SchedulerError) (periodS due : ℚ) : Locked Rtc Unit := do
  let s ← .get
  match s.queue with
  | [] => .raise (.scheduler empty)
  | queued :: rest =>
    .modify (·.dequeued rest)
    .call .publish
    .modify (·.issued queued (due + periodS))

/-- Submit the next request when its time has come. -/
def prefetch (p : RtcParameters) : Locked Rtc Unit := do
  let s ← .get
  if s.issuedSinceSplice = p.rollout.prefetchAfterSteps ∧ s.pending = none then
    let estimate := s.delay.estimate
    let rows := (s.queue.take estimate).map (·.modelAction)
    if s.queue.length < estimate then .raise (.scheduler .prefixUnavailable)
    else match RtcPolicyContext.make estimate rows with
      | .error err => .raise (.scheduler err)
      | .ok context => submitLocked false (some context)

/-- The last lock section of `_step`. -/
def publishDue (p : RtcParameters) (now : ℚ) : Locked Rtc Unit := do
  let s ← .get
  if ¬ s.gateOpen then pure ()
  else do
    let due := s.nextCommandS.getD now
    .modify (·.scheduled (some due))
    if now < due then pure ()
    else if p.commandWatchdogS < now - due then .raise (.scheduler .watchdogExpired)
    else do
      issue .queueUnderrun p.periodS due
      .emit "command_issued"
      prefetch p

/-- The first lock section of `_step`: `none` when the gate is closed, else the control epoch and
`pending_done`. -/
def gateCheck : Locked Rtc (Option (ℕ × Bool)) := do
  let s ← .get
  if ¬ s.gateOpen then do
    .modify (·.scheduled none)
    pure none
  else pure (some (s.controlEpoch, s.pending.any fun pending =>
    (s.futures pending.future).isSome))

/-- `_step`. -/
def stepBody (p : RtcParameters) : Program Unit := do
  let now ← perform .clock do
    let env ← .ask
    pure env.clock
  let check ← perform .gateCheck gateCheck
  match check with
  | none => pure ()
  | some (begun, pendingDone) => do
    if pendingDone then acceptPending p p.safeWindowSteps begun false
    perform .publish (publishDue p now)

/-- `step`. -/
def step (p : RtcParameters) : Program Unit := (stepBody p).tryCatch fail

/-- The policy completes a future. -/
def complete (future : ℕ) (result : Except PyError PolicyResult) : Program Unit :=
  perform .complete (.modify (·.completed future result))

end Rtc

end DualCollection
