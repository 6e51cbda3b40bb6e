import DualCollection.Control.Contract
import DualCollection.Control.Locked

/-!
# The sequential command gateway and its executor

`PolicyActionGateway` and `FixedRateCommandExecutor` of `dagger/action_gateway.py`.  The gateway is
shared by the controller's thread and by the executor's thread, which both call `prepare_policy`,
`policy_ready` and `close_gate`; every `with self._lock` section is one atomic section, and so is
every property that the executor reads.  The executor's own attributes are its thread's.

`Sequential.log` records what an observer sees, newest first, with the thread that acted.  No
program reads it.
-/

namespace DualCollection

open Thread

/-- The arguments of the two constructors. -/
structure SequentialParameters where
  /-- The action contract. -/
  contract : Pi05JointActionContract
  /-- Commands per second. -/
  controlRateHz : ℚ
  /-- How long a request may take. -/
  policyWaitTimeoutS : ℚ
  /-- How late a command may be. -/
  commandWatchdogS : ℚ
  /-- `executor rate and timeouts must be positive` -/
  positive : 0 < controlRateHz ∧ 0 < policyWaitTimeoutS ∧ 0 < commandWatchdogS

/-- `self.period_s` -/
def SequentialParameters.periodS (p : SequentialParameters) : ℚ := 1 / p.controlRateHz

namespace Sequential

/-- The threads. -/
inductive Role
  | controller
  | executor
  | policy
  deriving DecidableEq

/-- What an observer sees of a gateway. -/
inductive Event
  /-- The gate was closed by `close_gate`. -/
  | closed (caller : Role) (controlEpoch : ℕ)
  /-- The lease was reset by `clear_pending`. -/
  | cleared (controlEpoch : ℕ)
  /-- A request was submitted by `prepare_policy`. -/
  | prepared (caller : Role) (controlEpoch : ℕ)
  /-- The gate was opened by `policy_ready`. -/
  | opened (caller : Role) (controlEpoch : ℕ)
  /-- A command was handed to the sink. -/
  | published (command : DualArmJointCommand)
  /-- A latched fault was handed to the controller. -/
  | faultTaken (f : Failure)
  deriving DecidableEq

end Sequential

/-- The gateway and its executor, the futures of the policy, and what was observed so far. -/
structure Sequential where
  /-- `_control_epoch` -/
  controlEpoch : ℕ := 0
  /-- `_gate_open` -/
  gateOpen : Bool := false
  /-- `_pending` -/
  pending : Option ℕ := none
  /-- `_queue` -/
  queue : List DualArmJointCommand := []
  /-- `_episode_id` -/
  episodeId : Option String := none
  /-- `_fault` -/
  fault : Option Failure := none
  /-- `_active_epoch` of the executor. -/
  activeEpoch : Option ℕ := none
  /-- `_next_command_s` of the executor. -/
  nextCommandS : Option ℚ := none
  /-- `_policy_wait_started_s` of the executor. -/
  policyWaitStartedS : Option ℚ := none
  /-- The results of the futures that are done. -/
  futures : ℕ → Option (Except PyError PolicyResult) := fun _ => none
  /-- The number of futures handed out. -/
  nextFuture : ℕ := 0
  /-- What was observed, newest first. -/
  log : List Sequential.Event := []

namespace Sequential

/-- What `policy_ready` takes with it from its first lock section. -/
structure Taken where
  /-- `pending.result()` -/
  result : Except PyError PolicyResult
  /-- `needs_policy_enable` -/
  needsPolicyEnable : Bool

/-- A validated chunk on its way to the queue. -/
structure Lease where
  /-- The Episode it was asked for. -/
  episodeId : String
  /-- The control epoch it was asked for. -/
  controlEpoch : ℕ
  /-- `needs_policy_enable` -/
  needsPolicyEnable : Bool
  /-- `commands` -/
  commands : List DualArmJointCommand

/-- The sections of the gateway and of the executor. -/
inductive Section
  | closeGate (caller : Role) (controlEpoch : ℕ)
  | clearPending (controlEpoch : ℕ)
  | beginEpoch
  | prepare (caller : Role)
  | poll (caller : Role) (controlEpoch : ℕ)
  | stateRead
  | activate (caller : Role) (lease : Lease)
  | publishNext
  | latchFault (f : Failure)
  | takeFault
  | read
  | clock
  | schedule
  | complete

/-- A program of a thread that uses the gateway. -/
abbrev Program (α : Type) := Prog Section Env Sequential Failure α

/-- A section whose work was begun under the control epoch `epoch`. -/
def performFor {α : Type} (epoch : ℕ) (l : Section) (body : Locked Sequential α) : Program α :=
  locked (fun _ => epoch) l body

/-! ### The assignments of the sections -/

section Assignments

variable (s : Sequential)

/-- The assignment of `close_gate`. -/
@[simps] def closed (caller : Role) : Sequential :=
  { s with gateOpen := false, log := .closed caller s.controlEpoch :: s.log }

/-- The assignments of `clear_pending`. -/
@[simps] def clearedTo (controlEpoch : ℕ) : Sequential :=
  { s with
    controlEpoch := controlEpoch
    pending := none
    queue := []
    gateOpen := false
    log := .cleared controlEpoch :: s.log }

/-- Assign `_episode_id`. -/
@[simps] def identified (episodeId : String) : Sequential := { s with episodeId := some episodeId }

/-- Assign `_pending`. -/
@[simps] def submitted (caller : Role) : Sequential :=
  { s with
    pending := some s.nextFuture
    nextFuture := s.nextFuture + 1
    log := .prepared caller s.controlEpoch :: s.log }

/-- `self._pending = None` -/
@[simps] def taken : Sequential := { s with pending := none }

/-- The assignments that open the gate. -/
@[simps] def activated (caller : Role) (commands : List DualArmJointCommand) : Sequential :=
  { s with
    queue := s.queue ++ commands
    gateOpen := true
    log := .opened caller s.controlEpoch :: s.log }

/-- The call of the sink, after `popleft`. -/
@[simps] def published (command : DualArmJointCommand) (rest : List DualArmJointCommand) :
    Sequential :=
  { s with queue := rest, log := .published command :: s.log }

/-- The assignments of `latch_fault`. -/
@[simps] def latched (f : Failure) : Sequential :=
  { s with gateOpen := false, queue := [], fault := some (s.fault.getD f) }

/-- The assignment of `take_fault`. -/
@[simps] def faultTaken : Sequential :=
  { s with
    fault := none
    log := match s.fault with
      | none => s.log
      | some f => .faultTaken f :: s.log }

/-- Assign the attributes of the executor. -/
@[simps] def scheduled (activeEpoch : Option ℕ) (nextCommandS policyWaitStartedS : Option ℚ) :
    Sequential :=
  { s with
    activeEpoch := activeEpoch
    nextCommandS := nextCommandS
    policyWaitStartedS := policyWaitStartedS }

/-- The policy sets the result of a future that it handed out. -/
def completed (future : ℕ) (result : Except PyError PolicyResult) : Sequential :=
  if future < s.nextFuture ∧ s.futures future = none then
    { s with futures := Function.update s.futures future (some result) }
  else s

end Assignments

/-! ### The gateway -/

/-- The lock section of `close_gate`. -/
def closeGateLocked (caller : Role) (controlEpoch : ℕ) : Locked Sequential Unit := do
  let s ← .get
  if controlEpoch ≠ s.controlEpoch then .raise (.gateway .closeStale)
  .modify (·.closed caller)

/-- `close_gate` -/
def closeGate (caller : Role) (controlEpoch : ℕ) : Program Unit :=
  performFor controlEpoch (.closeGate caller controlEpoch) (closeGateLocked caller controlEpoch)

/-- The lock section of `clear_pending`. -/
def clearPendingLocked (controlEpoch : ℕ) : Locked Sequential Unit := do
  let s ← .get
  if controlEpoch < s.controlEpoch then .raise (.gateway .epochBackwards)
  .modify (·.clearedTo controlEpoch)

/-- `clear_pending` -/
def clearPending (controlEpoch : ℕ) : Program Unit := do
  performFor controlEpoch (.clearPending controlEpoch) (clearPendingLocked controlEpoch)
  performFor controlEpoch .beginEpoch (.call .policyBeginEpoch)

/-- The lock section of `prepare_policy`. -/
def preparePolicyLocked (caller : Role) (episodeId : String) (controlEpoch : ℕ) :
    Locked Sequential Unit := do
  let s ← .get
  if controlEpoch ≠ s.controlEpoch then .raise (.gateway .prepareStale)
  if s.pending ≠ none ∨ s.queue ≠ [] then .raise (.gateway .alreadyActive)
  .modify (·.identified episodeId)
  .call .policySubmit
  .modify (·.submitted caller)

/-- `prepare_policy` -/
def preparePolicy (caller : Role) (episodeId : String) (controlEpoch : ℕ) : Program Unit :=
  performFor controlEpoch (.prepare caller) (preparePolicyLocked caller episodeId controlEpoch)

/-- The first lock section of `policy_ready`, with the result of the future: a future that is done
keeps its result. -/
def pollLocked (episodeId : String) (controlEpoch : ℕ) : Locked Sequential (Option Taken) := do
  let s ← .get
  if controlEpoch ≠ s.controlEpoch then .raise (.gateway .pollStale)
  if some episodeId ≠ s.episodeId then .raise (.gateway .pollOtherEpisode)
  match s.pending with
  | none => .raise (.gateway .notStarted)
  | some pending =>
    match s.futures pending with
    | none => pure none
    | some result => do
      .modify taken
      pure (some ⟨result, !s.gateOpen⟩)

/-- The second lock section of `policy_ready`. -/
def activateLocked (caller : Role) (lease : Lease) : Locked Sequential Unit := do
  let s ← .get
  if lease.controlEpoch ≠ s.controlEpoch ∨ some lease.episodeId ≠ s.episodeId then
    .raise (.gateway .activationStale)
  if lease.needsPolicyEnable then .call .enablePolicyControl
  .modify (·.activated caller lease.commands)

/-- What `policy_ready` does with a response. -/
def accept (p : SequentialParameters) (caller : Role) (episodeId : String) (controlEpoch : ℕ)
    (taken : Taken) : Program Unit :=
  match taken.result with
  | .error err => .raise ⟨.port .policyResult err, controlEpoch⟩
  | .ok result => do
    let measured ← performFor controlEpoch .stateRead do
      .call .stateRead
      let env ← .ask
      pure env.jointState
    match result with
    | .prepared => .raise ⟨.gateway .notATicket, controlEpoch⟩
    | .ticket ticket =>
      match p.contract.validate ticket measured controlEpoch with
      | .error err => .raise ⟨.action err, controlEpoch⟩
      | .ok commands =>
        let lease : Lease := ⟨episodeId, controlEpoch, taken.needsPolicyEnable, commands⟩
        performFor controlEpoch (.activate caller lease) (activateLocked caller lease)

/-- `policy_ready` -/
def policyReady (p : SequentialParameters) (caller : Role) (episodeId : String)
    (controlEpoch : ℕ) : Program Bool := do
  let taken ← performFor controlEpoch (.poll caller controlEpoch)
    (pollLocked episodeId controlEpoch)
  match taken with
  | none => pure false
  | some taken => do
    accept p caller episodeId controlEpoch taken
    pure true

/-- The lock section of `publish_next`. -/
def publishNextLocked (controlEpoch : ℕ) : Locked Sequential Unit := do
  let s ← .get
  if controlEpoch ≠ s.controlEpoch ∨ ¬ s.gateOpen then .raise (.gateway .leaseClosed)
  match s.queue with
  | [] => .raise (.gateway .queueEmpty)
  | command :: rest => do
    .modify (·.published command rest)
    .call .publish

/-- `publish_next` -/
def publishNext (controlEpoch : ℕ) : Program Unit :=
  performFor controlEpoch .publishNext (publishNextLocked controlEpoch)

/-- `latch_fault` -/
def latchFault (f : Failure) : Program Unit :=
  performFor f.epoch (.latchFault f) (.modify (·.latched f))

/-- `take_fault` -/
def takeFault : Program (Option Failure) :=
  locked controlEpoch .takeFault do
    let s ← .get
    .modify faultTaken
    pure s.fault

/-- Read a property of the gateway, or attributes of the executor. -/
def read {α : Type} (property : Sequential → α) : Program α :=
  locked controlEpoch .read do
    let s ← .get
    pure (property s)

/-! ### The executor -/

/-- What a step did. -/
inductive ExecutorStep
  | idle
  | published
  | policyWait
  | policyReady
  | fault
  deriving DecidableEq, Repr

/-- Assign the attributes of the executor. -/
def schedule (f : Sequential → Sequential) : Program Unit :=
  locked controlEpoch .schedule (.modify f)

/-- `_reset_schedule` -/
def resetSchedule : Program Unit := schedule fun s => s.scheduled none none none

/-- `_fail`; the control epoch of the failure is `expected_epoch`. -/
def fail (f : Failure) : Program ExecutorStep := do
  let epoch ← read controlEpoch
  if epoch ≠ f.epoch then do
    resetSchedule
    pure .idle
  else do
    let isOpen ← read gateOpen
    if ¬ isOpen then do
      resetSchedule
      pure .idle
    else (closeGate .executor f.epoch).andThen fun r => do
      latchFault
        { f with
          error := match r with
            | .ok _ => f.error
            | .error _ => .closeFailed f.error }
      resetSchedule
      pure .fault

/-- The part of `step` that waits for a response. -/
def waitForPolicy (p : SequentialParameters) (episodeId : String) (epoch : ℕ) (now : ℚ) :
    Program ExecutorStep := do
  let startedS ← read policyWaitStartedS
  match startedS with
  | none => fail ⟨.gateway .waitWithoutDeadline, epoch⟩
  | some startedS =>
    if p.policyWaitTimeoutS < now - startedS then fail ⟨.gateway .policyWaitTimeout, epoch⟩
    else (policyReady p .executor episodeId epoch).andThen fun
      | .error f => fail ⟨f.error, epoch⟩
      | .ok false => pure .policyWait
      | .ok true => do
        schedule fun s => s.scheduled s.activeEpoch (some now) none
        pure .policyReady

/-- The part of `step` that asks for the next chunk. -/
def requestChunk (episodeId : String) (epoch : ℕ) (now : ℚ) : Program ExecutorStep := do
  let nextCommandS ← read nextCommandS
  if nextCommandS.any fun nextS => now < nextS then pure .idle
  else (preparePolicy .executor episodeId epoch).andThen fun
    | .error f => fail ⟨f.error, epoch⟩
    | .ok () => do
      schedule fun s => s.scheduled s.activeEpoch s.nextCommandS (some now)
      pure .policyWait

/-- The part of `step` that publishes a command. -/
def publishDue (p : SequentialParameters) (epoch : ℕ) (now : ℚ) : Program ExecutorStep := do
  let nextCommandS ← read nextCommandS
  match nextCommandS with
  | none => .raise ⟨.gateway .noSchedule, epoch⟩
  | some nextS =>
    if now < nextS then pure .idle
    else if p.commandWatchdogS < now - nextS then fail ⟨.gateway .watchdogExpired, epoch⟩
    else (publishNext epoch).andThen fun
      | .error f => fail ⟨f.error, epoch⟩
      | .ok () => do
        schedule fun s => s.scheduled s.activeEpoch (some (nextS + p.periodS)) s.policyWaitStartedS
        pure .published

/-- The assignments with which a step enters a control epoch. -/
def enter (s : Sequential) (epoch : ℕ) (now : ℚ) : Sequential :=
  if s.activeEpoch ≠ some epoch then s.scheduled (some epoch) (some now) none else s

/-- `step` -/
def step (p : SequentialParameters) : Program ExecutorStep := do
  let now ← locked controlEpoch .clock do
    let env ← .ask
    pure env.clock
  let isOpen ← read gateOpen
  if ¬ isOpen then do
    resetSchedule
    pure .idle
  else do
    let epoch ← read controlEpoch
    let episodeId ← read episodeId
    let episodeId := episodeId.getD ""
    if episodeId = "" then fail ⟨.gateway .leaseWithoutEpisode, epoch⟩
    else do
      schedule fun s => s.enter epoch now
      let hasPending ← read fun s => s.pending.isSome
      if hasPending then waitForPolicy p episodeId epoch now
      else do
        let count ← read fun s => s.queue.length
        if count = 0 then requestChunk episodeId epoch now
        else publishDue p epoch now

/-- The policy completes a future. -/
def complete (future : ℕ) (result : Except PyError PolicyResult) : Program Unit :=
  locked controlEpoch .complete (.modify (·.completed future result))

end Sequential

end DualCollection
