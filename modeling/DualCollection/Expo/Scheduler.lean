import DualCollection.Rtc.Scheduler

/-!
# The EXPO action scheduler

`ExpoActionScheduler` of `dagger/expo.py` derives from the RTC scheduler.  Its windows have a fixed
length `C` and its delay is fixed to `d`: the request for the next window is submitted after
`C - d` commands, its second stage when the window is exhausted, and the response is accepted
before the next command.

The gateway, `_accept_pending`, `step` and `_fail` are those of the base class, with `C` for
`safe_window_steps`.
-/

namespace DualCollection

open Thread

/-- The arguments of the scheduler's constructor, after its checks. -/
structure ExpoParameters extends RtcParameters where
  /-- `EXPO requires 0<d<C and prefetch_after_steps=C-d` -/
  delay_range : 0 < rollout.initialDelaySteps ∧
    rollout.initialDelaySteps < checkpoint.execution.executionSteps
  /-- `EXPO requires 0<d<C and prefetch_after_steps=C-d` -/
  prefetch : rollout.prefetchAfterSteps =
    checkpoint.execution.executionSteps - rollout.initialDelaySteps
  /-- `EXPO selected window exceeds horizon` -/
  horizon : rollout.initialDelaySteps + checkpoint.execution.executionSteps ≤
    checkpoint.execution.actionChunkSize

namespace ExpoParameters

variable (p : ExpoParameters)

/-- `self.c`, which is also `self.safe_window_steps`. -/
def c : ℕ := p.checkpoint.execution.executionSteps

/-- `self.d`. -/
def d : ℕ := p.rollout.initialDelaySteps

/-- When the next request is submitted, the window still covers every delay of the trained range. -/
theorem c_lt : p.c < p.rollout.prefetchAfterSteps + p.checkpoint.maxDelaySteps := by
  have hprefetch := p.prefetch
  have hrange := p.delay_range
  have hdelay := p.valid.initialDelay
  rw [c]
  omega

end ExpoParameters

namespace Expo

open Rtc (Program perform performFor acceptPending submitLocked)

variable (p : ExpoParameters)

/-- `clear_pending`. -/
def clearPending (controlEpoch : ℕ) : Program Unit := do
  Rtc.clearPending controlEpoch
  perform .clearFinishing (.modify fun s => { s with finishing := none })

/-- `policy_ready`. -/
def policyReady (episodeId : String) (controlEpoch : ℕ) : Program Bool :=
  Rtc.policyReady p.toRtcParameters p.c episodeId controlEpoch

/-- What the first lock section of `_step` reads. -/
structure StepStart where
  /-- The control epoch. -/
  begun : ℕ
  /-- `finishing`, with the control epoch of the request that is finished. -/
  finishing : Option ℕ
  /-- `pending` -/
  pending : Option PendingRtcInference
  /-- `deadline` -/
  deadline : Option ℚ

/-- `deadline is not None and now > deadline`. -/
def StepStart.missed (start : StepStart) (now : ℚ) : Bool :=
  start.deadline.any fun deadline => deadline < now

/-- The first lock section of `_step`: `none` when the gate is closed. -/
def gateCheck : Locked Rtc (Option StepStart) := do
  let s ← .get
  if ¬ s.gateOpen then pure none
  else pure (some
    { begun := s.controlEpoch
      finishing := s.finishing
      pending := s.pending
      deadline := s.nextCommandS })

/-- `pending.future.done()`. -/
def finishCheck (pending : PendingRtcInference) : Locked Rtc Bool := do
  let s ← .get
  pure (s.futures pending.future).isSome

/-- Submit the request for the next window when its time has come. -/
def prefetch : Locked Rtc Unit := do
  let s ← .get
  if s.issuedSinceSplice = p.c - p.d then
    let rows := s.queue.map (·.modelAction)
    if rows.length ≠ p.d then .raise (.scheduler .prefixMismatch)
    else match RtcPolicyContext.make p.d rows with
      | .error err => .raise (.scheduler err)
      | .ok context => submitLocked false (some context)

/-- Submit the second stage of the request when the window is exhausted. -/
def finish : Locked Rtc Unit := do
  let s ← .get
  if s.issuedSinceSplice = p.c then
    match s.pending with
    | none => .raise (.scheduler .candidatesLate)
    | some pending =>
      match s.futures pending.future with
      | none => .raise (.scheduler .candidatesLate)
      | some (.error err) => .raise (.port .policyResult err)
      | some (.ok _) => do
        .call .policyFinish
        .modify (·.finishingStage pending)

/-- The last lock section of `_step`.  It returns whether the deadline of the second stage was
missed: that exception belongs to the request that was finished, and is raised by the caller. -/
def publishDue (start : StepStart) : Locked Rtc Bool := do
  let s ← .get
  if ¬ s.gateOpen then pure false
  else do
    -- acceptance and waiting for the lock consume the fast-stage budget
    let env ← .ask
    let now := env.clock
    if start.finishing.isSome ∧ start.missed now then pure true
    else match s.nextCommandS with
      | none => .raise (.scheduler .noDeadline)
      | some due =>
        if now < due then pure false
        else if p.commandWatchdogS < now - due then .raise (.scheduler .expoWatchdogExpired)
        else do
          Rtc.issue .windowExhausted p.periodS due
          prefetch p
          finish p
          pure false

/-- The publishing part of `_step`. -/
def publishStage (start : StepStart) : Program Unit := do
  let missed ← perform .publish (publishDue p start)
  match missed, start.finishing with
  | true, some begun => .raise ⟨.scheduler .acceptanceMissed, begun⟩
  | _, _ => pure ()

/-- The part of `_step` that waits for the second stage of a request; `false` when it is not done
yet. -/
def finishStage (start : StepStart) (now : ℚ) (begun : ℕ) : Program Bool :=
  if start.missed now then .raise ⟨.scheduler .deadlineMissed, begun⟩
  else match start.pending with
    | none => .raise ⟨.scheduler .finishMissing, begun⟩
    | some pending => do
      let done ← perform .finishCheck (finishCheck pending)
      if done then do
        acceptPending p.toRtcParameters p.c begun false
        perform .finished (.modify fun s => { s with finishing := none })
        pure true
      else pure false

/-- `_step`. -/
def stepBody : Program Unit := do
  let now ← perform .clock do
    let env ← .ask
    pure env.clock
  let check ← perform .gateCheck gateCheck
  match check with
  | none => pure ()
  | some start =>
    match start.finishing with
    | none => publishStage p start
    | some begun => do
      let done ← finishStage p start now begun
      if done then publishStage p start

/-- `step`. -/
def step : Program Unit := (stepBody p).tryCatch Rtc.fail

end Expo

end DualCollection
