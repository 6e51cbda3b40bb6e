import DualCollection.Control.Exception

/-!
# Execution, checkpoint and rollout profiles

The typed profiles of `dagger/models.py` as far as the schedulers read them, and the inference
ticket that carries an action chunk.  A constructor that validates its arguments is a structure
whose fields include the validated facts, so that an invalid value cannot be built.

`Pi05InputProfile` and the contract strings of a checkpoint are compared at load time only; no
scheduler reads them.
-/

namespace DualCollection

/-- 64 hexadecimal characters. -/
def IsSha256 (s : String) : Prop :=
  s.length = 64 ∧ ∀ c ∈ s.toList, ('0' ≤ c ∧ c ≤ '9') ∨ ('a' ≤ c ∧ c ≤ 'f')

/-- `IsSha256` can be evaluated. -/
instance : DecidablePred IsSha256 := fun s =>
  inferInstanceAs (Decidable (s.length = 64 ∧
    ∀ c ∈ s.toList, ('0' ≤ c ∧ c ≤ '9') ∨ ('a' ≤ c ∧ c ≤ 'f')))

theorem isSha256_ofList {cs : List Char} (hlen : cs.length = 64)
    (h : ∀ c ∈ cs, ('0' ≤ c ∧ c ≤ '9') ∨ ('a' ≤ c ∧ c ≤ 'f')) : IsSha256 (String.ofList cs) := by
  refine ⟨by rw [String.length_ofList, hlen], ?_⟩
  rwa [String.toList_ofList]

/-- Such a text is not changed by `lower()`. -/
theorem IsSha256.toLower {s : String} (h : IsSha256 s) : s.toLower = s := by
  have hchar : ∀ c ∈ s.toList, c.toLower = c := by
    intro c hc
    unfold Char.toLower
    rw [dif_neg]
    rintro ⟨hA, hZ⟩
    rcases h.2 c hc with ⟨-, h9⟩ | ⟨ha, -⟩
    · exact absurd (UInt32.le_trans hA h9) (by decide)
    · exact absurd (UInt32.le_trans ha hZ) (by decide)
  rw [← String.toList_inj, String.toLower, String.toList_map, List.map_congr_left hchar, List.map_id']

/-- A row of robot-space action values. -/
abbrev ActionRow := List ℚ

/-- How the collector executes an action chunk. -/
structure PolicyExecutionProfile where
  /-- Rows of a chunk. -/
  actionChunkSize : ℕ
  /-- Values of a row. -/
  actionDimension : ℕ
  /-- Rows that are executed before the next sequential request. -/
  executionSteps : ℕ
  /-- Commands per second. -/
  controlRateHz : ℚ
  /-- `action_chunk_size must be positive` -/
  actionChunkSize_pos : 0 < actionChunkSize
  /-- `action_dimension must be positive` -/
  actionDimension_pos : 0 < actionDimension
  /-- `execution_steps must be within the action chunk` -/
  executionSteps_range : 0 < executionSteps ∧ executionSteps ≤ actionChunkSize
  /-- `control_rate_hz must be positive and finite` -/
  controlRateHz_pos : 0 < controlRateHz
  deriving DecidableEq

/-- The policy types of a checkpoint. -/
inductive PolicyType
  | sequential
  | trainingTimeRtc
  deriving DecidableEq, Repr

/-- What a checkpoint was trained for. -/
structure Pi05CheckpointProfile where
  /-- The kind of policy. -/
  policyType : PolicyType
  /-- How its chunks are executed. -/
  execution : PolicyExecutionProfile
  /-- The delays it was trained for are those below. -/
  maxDelaySteps : ℕ
  /-- By how much a response may change the prefix it was given. -/
  hardPrefixTolerance : ℚ
  /-- `training-time RTC requires hard-prefix delay` -/
  maxDelaySteps_pos : policyType = .trainingTimeRtc → 0 < maxDelaySteps
  /-- `hard-prefix tolerance must be positive and finite` -/
  hardPrefixTolerance_pos : policyType = .trainingTimeRtc → 0 < hardPrefixTolerance

/-- How an RTC rollout overlaps inference with execution. -/
structure RtcRolloutProfile where
  /-- Commands issued from a window before the next request. -/
  prefetchAfterSteps : ℕ
  /-- The delay assumed before one was observed. -/
  initialDelaySteps : ℕ
  /-- How many observed delays the estimate looks back on. -/
  delayHistorySize : ℕ
  /-- `RTC rollout step counts must be positive` -/
  prefetchAfterSteps_pos : 0 < prefetchAfterSteps
  /-- `RTC rollout step counts must be positive` -/
  delayHistorySize_pos : 0 < delayHistorySize

namespace RtcRolloutProfile

/-- The `ValueError`s of `validate_for`. -/
inductive ValidationError
  /-- `RTC rollout requires a training-time RTC checkpoint` -/
  | notTrainingTimeRtc
  /-- `RTC initial delay is outside the trained delay range` -/
  | initialDelay
  /-- `RTC safe window exceeds the action horizon` -/
  | safeWindow
  deriving DecidableEq, Repr

/-- The checks that tie a rollout to a checkpoint. -/
def validateFor (rollout : RtcRolloutProfile) (checkpoint : Pi05CheckpointProfile) :
    Except ValidationError Unit :=
  if checkpoint.policyType ≠ .trainingTimeRtc then .error .notTrainingTimeRtc
  else if checkpoint.maxDelaySteps ≤ rollout.initialDelaySteps then .error .initialDelay
  else if checkpoint.execution.actionChunkSize <
      rollout.prefetchAfterSteps + checkpoint.maxDelaySteps - 1 then .error .safeWindow
  else .ok ()

/-- The condition under which `validateFor` returns. -/
structure ValidFor (rollout : RtcRolloutProfile) (checkpoint : Pi05CheckpointProfile) :
    Prop where
  /-- `RTC rollout requires a training-time RTC checkpoint` -/
  policyType : checkpoint.policyType = .trainingTimeRtc
  /-- `RTC initial delay is outside the trained delay range` -/
  initialDelay : rollout.initialDelaySteps < checkpoint.maxDelaySteps
  /-- `RTC safe window exceeds the action horizon` -/
  safeWindow : rollout.prefetchAfterSteps + checkpoint.maxDelaySteps - 1 ≤
    checkpoint.execution.actionChunkSize

theorem validateFor_ok_iff {rollout : RtcRolloutProfile} {checkpoint : Pi05CheckpointProfile} :
    rollout.validateFor checkpoint = .ok () ↔ rollout.ValidFor checkpoint := by
  unfold validateFor
  split_ifs with h₁ h₂ h₃
  · exact ⟨(by simp), fun h => absurd h.policyType h₁⟩
  · exact ⟨(by simp), fun h => absurd h.initialDelay (by omega)⟩
  · exact ⟨(by simp), fun h => absurd h.safeWindow (by omega)⟩
  · exact ⟨fun _ => ⟨not_not.1 h₁, by omega, by omega⟩, fun _ => rfl⟩

/-- The rows that are validated and queued at every acceptance. -/
def safeWindowSteps (rollout : RtcRolloutProfile) (checkpoint : Pi05CheckpointProfile) : ℕ :=
  rollout.prefetchAfterSteps + checkpoint.maxDelaySteps - 1

end RtcRolloutProfile

/-- The answer to one inference: an action chunk for a control epoch. -/
structure InferenceTicket where
  /-- The request it answers. -/
  inferenceId : String
  /-- The control epoch of the request. -/
  controlEpoch : ℕ
  /-- The checkpoint that produced it. -/
  checkpointSha256 : String
  /-- The rows, of finite values. -/
  actionChunk : List ActionRow
  /-- How the rows are meant to be executed. -/
  execution : PolicyExecutionProfile
  /-- `action chunk must contain ... steps` -/
  actionChunk_length : actionChunk.length = execution.actionChunkSize
  /-- `action must contain ... values` -/
  actionChunk_row : ∀ row ∈ actionChunk, row.length = execution.actionDimension
  deriving DecidableEq

/-- The rows that the sequential gateway executes. -/
def InferenceTicket.executionChunk (ticket : InferenceTicket) : List ActionRow :=
  ticket.actionChunk.take ticket.execution.executionSteps

/-- What a future of the policy yields: a ticket, or the candidates of the first EXPO stage. -/
inductive PolicyResult
  | ticket (t : InferenceTicket)
  | prepared
  deriving DecidableEq

/-- The context of a request that overlaps with execution. -/
structure RtcPolicyContext where
  /-- The delay the scheduler expects. -/
  estimatedDelaySteps : ℕ
  /-- The rows that will be executed in the meantime. -/
  actionPrefix : List ActionRow
  /-- `RTC action prefix must match the estimated delay` -/
  actionPrefix_length : actionPrefix.length = estimatedDelaySteps
  /-- `RTC action prefix rows must not be empty` -/
  actionPrefix_row : ∀ row ∈ actionPrefix, row ≠ []
  deriving DecidableEq

/-- The constructor of `RtcPolicyContext` with its checks. -/
def RtcPolicyContext.make (estimate : ℕ) (rows : List ActionRow) :
    Except SchedulerError RtcPolicyContext :=
  if h : rows.length = estimate then
    if hr : ∀ row ∈ rows, row ≠ [] then .ok ⟨estimate, rows, h, hr⟩
    else .error .prefixRowEmpty
  else .error .prefixLength

theorem RtcPolicyContext.make_ok {estimate : ℕ} {rows : List ActionRow}
    (hl : rows.length = estimate) (hr : ∀ row ∈ rows, row ≠ []) :
    ∃ context, RtcPolicyContext.make estimate rows = .ok context ∧
      context.estimatedDelaySteps = estimate ∧ context.actionPrefix = rows := by
  rw [RtcPolicyContext.make, dif_pos hl, dif_pos hr]
  exact ⟨_, rfl, rfl, rfl⟩

theorem RtcPolicyContext.make_eq {estimate : ℕ} {rows : List ActionRow} {context : RtcPolicyContext}
    (h : RtcPolicyContext.make estimate rows = .ok context) :
    context.estimatedDelaySteps = estimate ∧ context.actionPrefix = rows := by
  unfold RtcPolicyContext.make at h
  split_ifs at h
  cases h
  exact ⟨rfl, rfl⟩

theorem RtcPolicyContext.make_error {estimate : ℕ} {rows : List ActionRow} {err : SchedulerError}
    (h : RtcPolicyContext.make estimate rows = .error err) :
    err = .prefixRowEmpty ∨ err = .prefixLength := by
  unfold RtcPolicyContext.make at h
  split_ifs at h <;> cases h
  · exact .inl rfl
  · exact .inr rfl

/-! ### The delay estimate -/

/-- `RollingMaxDelayEstimator`: the largest of the last observed delays. -/
structure RollingMaxDelayEstimator where
  /-- The estimate before any observation. -/
  initial : ℕ
  /-- How many observations are kept. -/
  capacity : ℕ
  /-- The delays that can be observed are those below. -/
  maximumExclusive : ℕ
  /-- The last observations, oldest first. -/
  history : List ℕ
  /-- `initial delay is outside the trained range` -/
  initial_lt : initial < maximumExclusive
  /-- `delay history capacity must be positive` -/
  capacity_pos : 0 < capacity
  /-- Only delays in the range are observed. -/
  history_lt : ∀ d ∈ history, d < maximumExclusive
  deriving DecidableEq

namespace RollingMaxDelayEstimator

/-- `max(self._history, default=self._initial)`. -/
def estimate (d : RollingMaxDelayEstimator) : ℕ :=
  match d.history with
  | [] => d.initial
  | x :: xs => xs.foldl max x

/-- Record an observed delay; the oldest one falls out when the history is full. -/
def observe (d : RollingMaxDelayEstimator) (delaySteps : ℤ) :
    Except SchedulerError RollingMaxDelayEstimator :=
  if h : 0 ≤ delaySteps ∧ delaySteps < d.maximumExclusive then
    let kept := d.history.drop (d.history.length + 1 - d.capacity)
    .ok { d with
      history := kept ++ [delaySteps.toNat]
      history_lt := by
        intro x hx
        rcases List.mem_append.1 hx with hx | hx
        · exact d.history_lt x (List.mem_of_mem_drop hx)
        · rw [List.mem_singleton.1 hx]; omega }
  else .error .observeOutsideRange

/-- Forget all observations. -/
def reset (d : RollingMaxDelayEstimator) : RollingMaxDelayEstimator :=
  { d with history := [], history_lt := by simp }

@[simp] theorem reset_maximumExclusive (d : RollingMaxDelayEstimator) :
    d.reset.maximumExclusive = d.maximumExclusive := rfl

theorem foldl_max_lt {m : ℕ} : ∀ (xs : List ℕ) (x : ℕ), x < m → (∀ y ∈ xs, y < m) →
    xs.foldl max x < m := by
  intro xs
  induction xs with
  | nil => intro x hx _; exact hx
  | cons y ys ih =>
    intro x hx hys
    refine ih _ (max_lt hx (hys y List.mem_cons_self)) fun z hz => ?_
    exact hys z (List.mem_cons_of_mem _ hz)

/-- The estimate is always a delay of the trained range. -/
theorem estimate_lt (d : RollingMaxDelayEstimator) : d.estimate < d.maximumExclusive := by
  unfold estimate
  have h := d.history_lt
  cases hd : d.history with
  | nil => exact d.initial_lt
  | cons x xs =>
    rw [hd] at h
    exact foldl_max_lt xs x (h x List.mem_cons_self)
      fun y hy => h y (List.mem_cons_of_mem _ hy)

/-- A delay of the trained range can be observed. -/
theorem observe_ok (d : RollingMaxDelayEstimator) {n : ℤ}
    (h : 0 ≤ n ∧ n < d.maximumExclusive) :
    ∃ d', d.observe n = .ok d' ∧ d'.maximumExclusive = d.maximumExclusive := by
  simp only [observe, h, and_self, ↓reduceDIte]
  exact ⟨_, rfl, rfl⟩

end RollingMaxDelayEstimator

end DualCollection
