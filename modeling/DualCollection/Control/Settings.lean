import DualCollection.Control.Contract
import DualCollection.Control.Profile

/-!
# The settings of a collector

`DaggerCollectorSettings.load` of `dagger/config.py`, with the constructors of the profiles that it
goes through, and the checks of an EXPO configuration in `prepare_policy`.  A configuration has
passed `resolve_config`, which converts the numbers of the schedulers, and `write_toml`, which
refuses a number that is not finite, so that its numbers are integers and rationals.  A table that
lacks one of its required keys raises `KeyError`: here such a table cannot be built.
-/

namespace DualCollection

/-! ### The tables of a configuration -/

/-- `[policy]` -/
structure PolicyTable where
  /-- `checkpoint_sha256` -/
  checkpointSha256 : String
  /-- `prompt` -/
  prompt : String
  /-- `port` -/
  port : Option ℤ
  /-- `action_chunk_size` -/
  actionChunkSize : Option ℤ
  /-- `action_dimension` -/
  actionDimension : Option ℤ
  /-- `execution_steps` -/
  executionSteps : Option ℤ

/-- `[collector]` -/
structure CollectorTable where
  /-- `server_host` -/
  serverHost : Option String
  /-- `server_port` -/
  serverPort : Option ℤ
  /-- `inference_timeout_s` -/
  inferenceTimeoutS : Option ℚ

/-- `[gripper]` -/
structure GripperTable where
  /-- `contract` -/
  contract : String
  /-- `normalized_action_offset` -/
  normalizedActionOffset : Option ℚ
  /-- The keys besides these. -/
  otherKeys : List String

/-- `[observation]` -/
structure ObservationTable where
  /-- `max_camera_span_ms` -/
  maxCameraSpanMs : Option ℚ
  /-- `max_arm_age_ms` -/
  maxArmAgeMs : Option ℚ
  /-- `max_snapshot_age_ms` -/
  maxSnapshotAgeMs : Option ℚ
  /-- `request_timeout_ms` -/
  requestTimeoutMs : Option ℚ

/-- `[robot]` -/
structure RobotTable where
  /-- `profile` -/
  profile : Option String
  /-- `arm_state_profile` -/
  armStateProfile : Option String
  /-- `rate_hz` -/
  rateHz : Option ℚ

/-- `[safety]` -/
structure SafetyTable where
  /-- `max_joint_step_rad` -/
  maxJointStepRad : Option ℚ
  /-- `max_initial_joint_step_rad` -/
  maxInitialJointStepRad : Option ℚ
  /-- `max_joint_departure_rad` -/
  maxJointDepartureRad : Option ℚ
  /-- `min_normalized_gripper` -/
  minNormalizedGripper : Option ℚ
  /-- `max_normalized_gripper` -/
  maxNormalizedGripper : Option ℚ
  /-- `min_policy_gripper` -/
  minPolicyGripper : Option ℚ
  /-- `max_policy_gripper` -/
  maxPolicyGripper : Option ℚ

/-- `[gateway]` -/
structure GatewayTable where
  /-- `state_timeout_s` -/
  stateTimeoutS : Option ℚ
  /-- `policy_wait_timeout_s` -/
  policyWaitTimeoutS : Option ℚ
  /-- `command_watchdog_s` -/
  commandWatchdogS : Option ℚ
  /-- `rtc_deadline_margin_ms` -/
  rtcDeadlineMarginMs : Option ℚ
  /-- `expo_bootstrap_timeout_s` -/
  expoBootstrapTimeoutS : Option ℚ

/-- `[checkpoint_profile]`, with at least one key. -/
structure CheckpointTable where
  /-- `policy_type` -/
  policyType : String
  /-- `action_horizon` -/
  actionHorizon : Option ℤ
  /-- `action_dimension` -/
  actionDimension : Option ℤ
  /-- `sequential_execution_steps` -/
  sequentialExecutionSteps : Option ℤ
  /-- `control_rate_hz` -/
  controlRateHz : Option ℚ
  /-- `max_delay_steps` -/
  maxDelaySteps : ℤ
  /-- `flow_steps` -/
  flowSteps : ℤ
  /-- `action_semantics` -/
  actionSemantics : String
  /-- `prefix_mode` -/
  prefixMode : String
  /-- `hard_prefix_tolerance` -/
  hardPrefixTolerance : ℚ
  /-- `model_action_dimension` -/
  modelActionDimension : ℤ
  /-- `gripper_normalization` -/
  gripperNormalization : String
  /-- `gripper_contract` -/
  gripperContract : String

/-- `[model_input]` -/
structure ModelInputTable where
  /-- `width` -/
  width : ℤ
  /-- `height` -/
  height : ℤ
  /-- `channels` -/
  channels : ℤ
  /-- `layout` -/
  layout : String
  /-- `color` -/
  color : String
  /-- `dtype` -/
  dtype : String
  /-- `resize` -/
  resize : String
  /-- `crop` -/
  crop : String
  /-- `pad` -/
  pad : String
  /-- `model_width` -/
  modelWidth : ℤ
  /-- `model_height` -/
  modelHeight : ℤ
  /-- `model_resize` -/
  modelResize : String
  /-- `camera_high_source` -/
  cameraHighSource : String
  /-- `camera_left_wrist_source` -/
  cameraLeftWristSource : String
  /-- `camera_right_wrist_source` -/
  cameraRightWristSource : String

/-- `[rollout]`, with at least one key. -/
structure RolloutTable where
  /-- `prefetch_after_steps` -/
  prefetchAfterSteps : ℤ
  /-- `initial_delay_steps` -/
  initialDelaySteps : ℤ
  /-- `delay_history_size` -/
  delayHistorySize : ℤ
  /-- `delay_estimator` -/
  delayEstimator : String

/-- A policy configuration.  A table without a key is absent. -/
structure PolicyPayload where
  /-- `[policy]` -/
  policy : PolicyTable
  /-- `[collector]` -/
  collector : CollectorTable
  /-- `[gripper]` -/
  gripper : GripperTable
  /-- `[observation]` -/
  observation : ObservationTable
  /-- `[robot]` -/
  robot : RobotTable
  /-- `[safety]` -/
  safety : SafetyTable
  /-- `[gateway]` -/
  gateway : GatewayTable
  /-- `[checkpoint_profile]` -/
  checkpointProfile : Option CheckpointTable
  /-- `[model_input]` -/
  modelInput : Option ModelInputTable
  /-- `[rollout]` -/
  rollout : Option RolloutTable
  /-- There is an `[expo]`. -/
  expo : Bool

namespace PolicyPayload

variable (payload : PolicyPayload)

/-- The number of rows of a chunk. -/
def actionChunkSize : ℤ :=
  (payload.checkpointProfile.bind (·.actionHorizon)).getD (payload.policy.actionChunkSize.getD 50)

/-- The number of values of a row. -/
def actionDimension : ℤ :=
  (payload.checkpointProfile.bind (·.actionDimension)).getD
    (payload.policy.actionDimension.getD 14)

/-- The rows that are executed of a chunk. -/
def executionSteps : ℤ :=
  (payload.checkpointProfile.bind (·.sequentialExecutionSteps)).getD
    (payload.policy.executionSteps.getD 10)

/-- The commands per second. -/
def controlRateHz : ℚ :=
  (payload.checkpointProfile.bind (·.controlRateHz)).getD (payload.robot.rateHz.getD 25)

end PolicyPayload

/-! ### Constructors

Each checks its arguments in the source's order and hands the checked facts to the structure. -/

theorem toNat_pos_of_not_nonpos {n : ℤ} (h : ¬ n ≤ 0) : 0 < n.toNat := by omega

theorem toNat_range {steps size : ℤ} (h : ¬¬(0 < steps ∧ steps ≤ size)) :
    0 < steps.toNat ∧ steps.toNat ≤ size.toNat := by omega

/-- `PolicyExecutionProfile(...)` -/
def PolicyExecutionProfile.create (actionChunkSize actionDimension executionSteps : ℤ)
    (controlRateHz : ℚ) : Except String PolicyExecutionProfile :=
  if hsize : actionChunkSize ≤ 0 then .error "action_chunk_size must be positive"
  else if hdimension : actionDimension ≤ 0 then .error "action_dimension must be positive"
  else if hsteps : ¬(0 < executionSteps ∧ executionSteps ≤ actionChunkSize) then
    .error "execution_steps must be within the action chunk"
  else if hrate : controlRateHz ≤ 0 then .error "control_rate_hz must be positive and finite"
  else .ok {
    actionChunkSize := actionChunkSize.toNat
    actionDimension := actionDimension.toNat
    executionSteps := executionSteps.toNat
    controlRateHz := controlRateHz
    actionChunkSize_pos := toNat_pos_of_not_nonpos hsize
    actionDimension_pos := toNat_pos_of_not_nonpos hdimension
    executionSteps_range := toNat_range hsteps
    controlRateHz_pos := not_le.1 hrate }

/-- `Pi05InputProfile(...)`, of which the schedulers read nothing. -/
def ModelInputTable.check (image : ModelInputTable) : Except String Unit := do
  require (∀ n ∈ [image.width, image.height, image.channels, image.modelWidth, image.modelHeight],
    0 < n) "PI input dimensions must be positive"
  require (image.layout = "chw" ∧ image.color = "rgb" ∧ image.dtype = "uint8")
    "only the accepted RGB uint8 CHW PI input is supported"
  require (image.resize = "inter_area") "only the accepted INTER_AREA resize is supported"
  require (image.crop = "none" ∧ image.pad = "none")
    "collector-side crop and pad must be disabled"
  require (image.modelResize = "resize_with_pad") "unsupported PI model resize contract"
  require (let sources :=
      [image.cameraHighSource, image.cameraLeftWristSource, image.cameraRightWristSource]
    (∀ source ∈ sources, source ≠ "") ∧ sources.Nodup)
    "PI camera sources must be three distinct roles"

/-- `ARX5_GRIPPER_CONTRACT_ID` -/
def arx5GripperContractId : String := "arx5-gripper-v1"

/-- The policy type that a text names. -/
def PolicyType.ofText : String → Option PolicyType
  | "sequential" => some .sequential
  | "training_time_rtc" => some .trainingTimeRtc
  | _ => none

theorem maxDelaySteps_toNat_pos {policyType : PolicyType} {maxDelaySteps : ℤ} {prefixMode : String}
    (h : ¬(policyType = .trainingTimeRtc ∧ (maxDelaySteps ≤ 0 ∨ prefixMode ≠ "hard_prefix"))) :
    policyType = .trainingTimeRtc → 0 < maxDelaySteps.toNat := by
  intro htype
  have := not_and.1 h htype
  omega

theorem hardPrefixTolerance_pos_of {policyType : PolicyType} {tolerance : ℚ}
    (h : ¬(policyType = .trainingTimeRtc ∧ tolerance ≤ 0)) :
    policyType = .trainingTimeRtc → 0 < tolerance := by
  intro htype
  exact not_le.1 (not_and.1 h htype)

/-- `Pi05CheckpointProfile(...)`, from its table. -/
def Pi05CheckpointProfile.create (checkpoint : CheckpointTable)
    (execution : PolicyExecutionProfile) : Except String Pi05CheckpointProfile :=
  match PolicyType.ofText checkpoint.policyType with
  | none => .error "unsupported PI policy type"
  | some policyType =>
    if checkpoint.maxDelaySteps < 0 ∨ checkpoint.flowSteps ≤ 0 then
      .error "PI delay and flow-step contract is invalid"
    else if checkpoint.modelActionDimension < execution.actionDimension then
      .error "model action dimension cannot be smaller than robot action"
    else if checkpoint.actionSemantics ≠ "absolute_joint" then
      .error "only absolute joint actions are supported"
    else if checkpoint.gripperNormalization ≠ "linear_open_closed_0_1" then
      .error "unsupported gripper normalization contract"
    else if checkpoint.gripperContract ≠ arx5GripperContractId then
      .error "unsupported ARX5 gripper contract"
    else if hdelay : policyType = .trainingTimeRtc ∧
        (checkpoint.maxDelaySteps ≤ 0 ∨ checkpoint.prefixMode ≠ "hard_prefix") then
      .error "training-time RTC requires hard-prefix delay"
    else if htolerance : policyType = .trainingTimeRtc ∧ checkpoint.hardPrefixTolerance ≤ 0 then
      .error "hard-prefix tolerance must be positive and finite"
    else .ok {
      policyType := policyType
      execution := execution
      maxDelaySteps := checkpoint.maxDelaySteps.toNat
      hardPrefixTolerance := checkpoint.hardPrefixTolerance
      maxDelaySteps_pos := maxDelaySteps_toNat_pos hdelay
      hardPrefixTolerance_pos := hardPrefixTolerance_pos_of htolerance }

/-- The profile of a configuration without `[checkpoint_profile]`, with the defaults of
`Pi05CheckpointProfile`. -/
def CheckpointTable.sequential : CheckpointTable where
  policyType := "sequential"
  actionHorizon := none
  actionDimension := none
  sequentialExecutionSteps := none
  controlRateHz := none
  maxDelaySteps := 0
  flowSteps := 10
  actionSemantics := "absolute_joint"
  prefixMode := "none"
  hardPrefixTolerance := 1 / 100000
  modelActionDimension := 32
  gripperNormalization := "linear_open_closed_0_1"
  gripperContract := arx5GripperContractId

/-- `RtcRolloutProfile(...)` -/
def RtcRolloutProfile.create (rollout : RolloutTable) : Except String RtcRolloutProfile :=
  if hprefetch : rollout.prefetchAfterSteps ≤ 0 then
    .error "RTC rollout step counts must be positive"
  else if hhistory : rollout.delayHistorySize ≤ 0 then
    .error "RTC rollout step counts must be positive"
  else if rollout.initialDelaySteps < 0 then .error "RTC initial delay must not be negative"
  else if rollout.delayEstimator ≠ "rolling_max" then
    .error "only the accepted rolling-max delay estimator is supported"
  else .ok {
    prefetchAfterSteps := rollout.prefetchAfterSteps.toNat
    initialDelaySteps := rollout.initialDelaySteps.toNat
    delayHistorySize := rollout.delayHistorySize.toNat
    prefetchAfterSteps_pos := toNat_pos_of_not_nonpos hprefetch
    delayHistorySize_pos := toNat_pos_of_not_nonpos hhistory }

/-- The text of a `ValueError` of `validate_for`. -/
def RtcRolloutProfile.ValidationError.text : RtcRolloutProfile.ValidationError → String
  | .notTrainingTimeRtc => "RTC rollout requires a training-time RTC checkpoint"
  | .initialDelay => "RTC initial delay is outside the trained delay range"
  | .safeWindow => "RTC safe window exceeds the action horizon"

/-- `JointActionSafety(...)` -/
def JointActionSafety.create (maxJointStepRad maxInitialJointStepRad maxJointDepartureRad
    minNormalizedGripper maxNormalizedGripper minPolicyGripper maxPolicyGripper : ℚ) :
    Except String JointActionSafety :=
  if hlimits : ¬(0 < maxInitialJointStepRad ∧ 0 < maxJointStepRad ∧ 0 < maxJointDepartureRad) then
    .error "joint safety limits must be positive"
  else if hgripper : maxNormalizedGripper ≤ minNormalizedGripper then
    .error "normalized gripper limits are invalid"
  else if hrange : ¬(minPolicyGripper ≤ minNormalizedGripper ∧
      maxNormalizedGripper ≤ maxPolicyGripper) then
    .error "policy gripper range must contain the command range"
  else .ok {
    maxJointStepRad := maxJointStepRad
    maxJointDepartureRad := maxJointDepartureRad
    minNormalizedGripper := minNormalizedGripper
    maxNormalizedGripper := maxNormalizedGripper
    minPolicyGripper := minPolicyGripper
    maxPolicyGripper := maxPolicyGripper
    maxInitialJointStepRad := maxInitialJointStepRad
    limits_pos := not_not.1 hlimits
    gripper_lt := not_le.1 hgripper
    gripper_range := not_not.1 hrange }

/-- The limits on the age of an observation. -/
structure ObservationConstraints where
  /-- Between the frames of an observation. -/
  maxCameraSpanNs : ℤ
  /-- Of an arm sample. -/
  maxArmAgeNs : ℤ
  /-- Of an observation. -/
  maxSnapshotAgeNs : ℤ
  /-- `observation timing limits must be positive` -/
  limits_pos : 0 < maxCameraSpanNs ∧ 0 < maxArmAgeNs ∧ 0 < maxSnapshotAgeNs

/-- `ObservationConstraints(...)` -/
def ObservationConstraints.create (maxCameraSpanNs maxArmAgeNs maxSnapshotAgeNs : ℤ) :
    Except String ObservationConstraints :=
  if h : ¬(0 < maxCameraSpanNs ∧ 0 < maxArmAgeNs ∧ 0 < maxSnapshotAgeNs) then
    .error "observation timing limits must be positive"
  else .ok ⟨maxCameraSpanNs, maxArmAgeNs, maxSnapshotAgeNs, not_not.1 h⟩

/-- The limits and timeouts of the control plane. -/
structure DaggerControlSettings where
  /-- The limits of an action. -/
  safety : JointActionSafety
  /-- The age of the joint feedback. -/
  stateTimeoutS : ℚ
  /-- How long a request may take. -/
  policyWaitTimeoutS : ℚ
  /-- How late a command may be. -/
  commandWatchdogS : ℚ
  /-- What a request leaves of the deadline. -/
  rtcDeadlineMarginS : ℚ
  /-- How long the first EXPO request may take. -/
  expoBootstrapTimeoutS : ℚ
  /-- `EXPO bootstrap timeout must be positive and finite` -/
  expoBootstrapTimeoutS_pos : 0 < expoBootstrapTimeoutS
  /-- `DAgger control timeouts must be positive` -/
  timeouts_pos : 0 < stateTimeoutS ∧ 0 < policyWaitTimeoutS ∧ 0 < commandWatchdogS ∧
    0 < rtcDeadlineMarginS

/-- `DaggerControlSettings(...)` -/
def DaggerControlSettings.create (safety : JointActionSafety) (stateTimeoutS policyWaitTimeoutS
    commandWatchdogS rtcDeadlineMarginS expoBootstrapTimeoutS : ℚ) :
    Except String DaggerControlSettings :=
  if hbootstrap : expoBootstrapTimeoutS ≤ 0 then
    .error "EXPO bootstrap timeout must be positive and finite"
  else if htimeouts : ¬(0 < stateTimeoutS ∧ 0 < policyWaitTimeoutS ∧ 0 < commandWatchdogS ∧
      0 < rtcDeadlineMarginS) then
    .error "DAgger control timeouts must be positive"
  else .ok {
    safety := safety
    stateTimeoutS := stateTimeoutS
    policyWaitTimeoutS := policyWaitTimeoutS
    commandWatchdogS := commandWatchdogS
    rtcDeadlineMarginS := rtcDeadlineMarginS
    expoBootstrapTimeoutS := expoBootstrapTimeoutS
    expoBootstrapTimeoutS_pos := not_le.1 hbootstrap
    timeouts_pos := not_not.1 htimeouts }

/-! ### Loading -/

/-- `ARM_PROFILES`, whose launch files and topics the settings only carry. -/
inductive ArmRuntimeProfile
  | teaching
  | dagger
  deriving DecidableEq

/-- `resolve_arm_profile` -/
def resolveArmProfile : String → Except String ArmRuntimeProfile
  | "teaching" => .ok .teaching
  | "dagger" => .ok .dagger
  | name => .error s!"unknown arm profile '{name}'; supported profiles: dagger, teaching"

theorem arx5_values_ne : (-17 / 5 : ℚ) ≠ 0 := by norm_num

theorem arx5_tolerance_nonneg : (0 : ℚ) ≤ 1 / 20 ∧ (0 : ℚ) ≤ 1 / 10 := by norm_num

/-- `ARX5_GRIPPER_CALIBRATION` -/
def arx5GripperCalibration : GripperCalibration where
  openValue := -17 / 5
  closedValue := 0
  values_ne := arx5_values_ne
  tolerance_nonneg := arx5_tolerance_nonneg

/-- `int(float(value) * 1_000_000)`, which drops the fraction. -/
def millisecondsNs (value : ℚ) : ℤ :=
  let ns := value * 1000000
  if 0 ≤ ns then ⌊ns⌋ else ⌈ns⌉

/-- `load_policy_execution_profile` -/
def loadPolicyExecutionProfile (payload : PolicyPayload) : Except String PolicyExecutionProfile :=
  PolicyExecutionProfile.create payload.actionChunkSize payload.actionDimension
    payload.executionSteps payload.controlRateHz

/-- `load_checkpoint_profile` -/
def loadCheckpointProfile (payload : PolicyPayload) : Except String Pi05CheckpointProfile := do
  let execution ← loadPolicyExecutionProfile payload
  match payload.checkpointProfile with
  | none => Pi05CheckpointProfile.create .sequential execution
  | some checkpoint =>
    match payload.modelInput with
    | none => throw "DAgger policy config must contain a [model_input] table"
    | some image =>
      image.check
      Pi05CheckpointProfile.create checkpoint execution

/-- `load_rtc_rollout` -/
def loadRtcRollout (payload : PolicyPayload) (checkpoint : Pi05CheckpointProfile) :
    Except String (Option RtcRolloutProfile) :=
  match payload.rollout with
  | none =>
    if checkpoint.policyType ≠ .trainingTimeRtc then .ok none
    else .error "training-time RTC config must contain a [rollout] table"
  | some rollout =>
    if checkpoint.policyType ≠ .trainingTimeRtc then
      .error "[rollout] is only valid for training-time RTC"
    else do
      let profile ← RtcRolloutProfile.create rollout
      match profile.validateFor checkpoint with
      | .error error => throw error.text
      | .ok () => return some profile

/-- The settings of a collector. -/
structure DaggerCollectorSettings where
  /-- Where the policy server listens. -/
  serverHost : String
  /-- Where the policy server listens. -/
  serverPort : ℤ
  /-- How long the transport waits. -/
  inferenceTimeoutS : ℚ
  /-- The checkpoint. -/
  checkpointSha256 : String
  /-- The task. -/
  prompt : String
  /-- The gripper contract. -/
  gripperContract : String
  /-- Added to every gripper value. -/
  gripperActionOffset : ℚ
  /-- The gripper calibration of the station. -/
  grippers : GripperCalibration
  /-- The limits on the age of an observation. -/
  observation : ObservationConstraints
  /-- How long a snapshot may take. -/
  snapshotTimeoutS : ℚ
  /-- The profile of the checkpoint, which carries that of its execution. -/
  checkpointProfile : Pi05CheckpointProfile
  /-- The profile of the rollout. -/
  rtcRollout : Option RtcRolloutProfile
  /-- The arms. -/
  armProfile : ArmRuntimeProfile
  /-- The limits and timeouts of the control plane. -/
  control : DaggerControlSettings

namespace DaggerCollectorSettings

/-- `checkpoint.max_delay_steps / checkpoint.execution.control_rate_hz` -/
def hardDeadlineS (settings : DaggerCollectorSettings) : ℚ :=
  settings.checkpointProfile.maxDelaySteps / settings.checkpointProfile.execution.controlRateHz

/-- `_validate_rtc_deadline` -/
def validateRtcDeadline (settings : DaggerCollectorSettings) : Except String Unit :=
  if settings.checkpointProfile.policyType ≠ .trainingTimeRtc then .ok ()
  else if settings.control.policyWaitTimeoutS ≤ settings.snapshotTimeoutS then
    .error "snapshot timeout must be below the RTC request timeout"
  else if settings.hardDeadlineS + 1 / 1000000000 <
      settings.control.policyWaitTimeoutS + settings.control.rtcDeadlineMarginS then
    .error "RTC request timeout and margin exceed the action deadline"
  else .ok ()

/-- `JointActionSafety(...)`, with the defaults of `[safety]`. -/
def loadSafety (safety : SafetyTable) : Except String JointActionSafety :=
  JointActionSafety.create (safety.maxJointStepRad.getD (1 / 4))
    (safety.maxInitialJointStepRad.getD (safety.maxJointStepRad.getD (1 / 4)))
    (safety.maxJointDepartureRad.getD (3 / 2)) (safety.minNormalizedGripper.getD 0)
    (safety.maxNormalizedGripper.getD 1) (safety.minPolicyGripper.getD (-1))
    (safety.maxPolicyGripper.getD 2)

/-- `ObservationConstraints(...)`, with the defaults of `[observation]`. -/
def loadObservation (observation : ObservationTable) : Except String ObservationConstraints :=
  ObservationConstraints.create (millisecondsNs (observation.maxCameraSpanMs.getD 40))
    (millisecondsNs (observation.maxArmAgeMs.getD 2))
    (millisecondsNs (observation.maxSnapshotAgeMs.getD 100))

/-- `DaggerControlSettings(...)`, with the defaults of `[gateway]`. -/
def loadControl (gateway : GatewayTable) (safety : JointActionSafety) :
    Except String DaggerControlSettings :=
  DaggerControlSettings.create safety (gateway.stateTimeoutS.getD (1 / 10))
    (gateway.policyWaitTimeoutS.getD (1 / 2)) (gateway.commandWatchdogS.getD (3 / 25))
    (gateway.rtcDeadlineMarginMs.getD 50 / 1000) (gateway.expoBootstrapTimeoutS.getD 2)

/-- The settings of a configuration, before they are checked together. -/
def assemble (payload : PolicyPayload) : Except String DaggerCollectorSettings := do
  require (payload.gripper.otherKeys = []) ("DAgger policy config [gripper] keys must be exactly " ++
    "['contract'] plus optional ['normalized_action_offset']")
  require (payload.gripper.contract = arx5GripperContractId) "unsupported ARX5 gripper contract"
  let checkpointProfile ← loadCheckpointProfile payload
  let rtcRollout ← loadRtcRollout payload checkpointProfile
  let observation ← loadObservation payload.observation
  let armProfile ← resolveArmProfile
    (payload.robot.profile.getD (payload.robot.armStateProfile.getD "dagger"))
  let safety ← loadSafety payload.safety
  let control ← loadControl payload.gateway safety
  return {
    serverHost := payload.collector.serverHost.getD "127.0.0.1"
    serverPort := payload.collector.serverPort.getD (payload.policy.port.getD 8000)
    inferenceTimeoutS := payload.collector.inferenceTimeoutS.getD 30
    checkpointSha256 := payload.policy.checkpointSha256.toLower
    prompt := payload.policy.prompt
    gripperContract := payload.gripper.contract
    gripperActionOffset := payload.gripper.normalizedActionOffset.getD 0
    grippers := arx5GripperCalibration
    observation := observation
    snapshotTimeoutS := payload.observation.requestTimeoutMs.getD 250 / 1000
    checkpointProfile := checkpointProfile
    rtcRollout := rtcRollout
    armProfile := armProfile
    control := control }

/-- `DaggerCollectorSettings.load` -/
def load (payload : PolicyPayload) : Except String DaggerCollectorSettings := do
  let settings ← assemble payload
  require (settings.serverHost ≠ "" ∧ settings.prompt ≠ "")
    "policy server host and prompt must not be empty"
  require (0 < settings.serverPort ∧ settings.serverPort ≤ 65535) "policy server port is invalid"
  require (0 < settings.inferenceTimeoutS) "inference_timeout_s must be positive"
  require (¬(payload.expo ∧
      settings.inferenceTimeoutS < settings.control.expoBootstrapTimeoutS))
    "EXPO bootstrap timeout exceeds the transport timeout"
  require (0 < settings.snapshotTimeoutS) "snapshot request timeout must be positive"
  require (IsSha256 settings.checkpointSha256)
    "checkpoint_sha256 must contain 64 hexadecimal characters"
  -- the contract of the checkpoint profile is `arx5-gripper-v1`, as that of `[gripper]` is
  settings.validateRtcDeadline
  return settings

end DaggerCollectorSettings

/-! ### What is accepted -/

theorem PolicyExecutionProfile.create_ok {size dimension steps : ℤ} {rate : ℚ}
    {profile : PolicyExecutionProfile} (h : create size dimension steps rate = .ok profile) :
    (profile.actionChunkSize : ℤ) = size ∧ (profile.actionDimension : ℤ) = dimension ∧
      (profile.executionSteps : ℤ) = steps ∧ profile.controlRateHz = rate := by
  unfold create at h
  split_ifs at h with hsize hdimension hsteps hrate
  cases h
  have hpos := hsteps.1
  exact ⟨Int.toNat_of_nonneg (by omega), Int.toNat_of_nonneg (by omega),
    Int.toNat_of_nonneg (by omega), rfl⟩

theorem Pi05CheckpointProfile.create_ok {checkpoint : CheckpointTable}
    {execution : PolicyExecutionProfile} {profile : Pi05CheckpointProfile}
    (h : create checkpoint execution = .ok profile) :
    PolicyType.ofText checkpoint.policyType = some profile.policyType ∧
      profile.execution = execution ∧ (profile.maxDelaySteps : ℤ) = checkpoint.maxDelaySteps := by
  unfold create at h
  split at h
  · cases h
  · rename_i policyType htype
    split_ifs at h with hcontract
    cases h
    exact ⟨htype, rfl, Int.toNat_of_nonneg (by omega)⟩

theorem RtcRolloutProfile.create_ok {rollout : RolloutTable} {profile : RtcRolloutProfile}
    (h : create rollout = .ok profile) :
    (profile.prefetchAfterSteps : ℤ) = rollout.prefetchAfterSteps ∧
      (profile.initialDelaySteps : ℤ) = rollout.initialDelaySteps ∧
      (profile.delayHistorySize : ℤ) = rollout.delayHistorySize := by
  unfold create at h
  split_ifs at h with hprefetch hhistory hdelay hestimator
  cases h
  exact ⟨Int.toNat_of_nonneg (by omega), Int.toNat_of_nonneg (by omega),
    Int.toNat_of_nonneg (by omega)⟩

/-- The execution profile of a checkpoint is the one of the configuration. -/
theorem loadCheckpointProfile_ok {payload : PolicyPayload} {profile : Pi05CheckpointProfile}
    (h : loadCheckpointProfile payload = .ok profile) :
    loadPolicyExecutionProfile payload = .ok profile.execution := by
  unfold loadCheckpointProfile at h
  obtain ⟨execution, hexecution, h⟩ := bind_eq_ok h
  split at h
  · rw [(Pi05CheckpointProfile.create_ok h).2.1]
    exact hexecution
  · split at h
    · cases h
    · obtain ⟨-, -, h⟩ := bind_eq_ok h
      rw [(Pi05CheckpointProfile.create_ok h).2.1]
      exact hexecution

/-- A rollout is the one of the configuration, and fits the checkpoint. -/
theorem loadRtcRollout_ok {payload : PolicyPayload} {checkpoint : Pi05CheckpointProfile}
    {rollout : RolloutTable} {profile : Option RtcRolloutProfile}
    (hrollout : payload.rollout = some rollout)
    (h : loadRtcRollout payload checkpoint = .ok profile) :
    ∃ loaded, profile = some loaded ∧ RtcRolloutProfile.create rollout = .ok loaded ∧
      loaded.ValidFor checkpoint := by
  simp only [loadRtcRollout, hrollout] at h
  split_ifs at h
  obtain ⟨loaded, hcreate, h⟩ := bind_eq_ok h
  split at h
  · cases h
  · rename_i hvalid
    cases h
    exact ⟨loaded, rfl, hcreate, RtcRolloutProfile.validateFor_ok_iff.1 hvalid⟩

namespace DaggerCollectorSettings

/-- What `load` compares when the settings are assembled. -/
structure Checked (settings : DaggerCollectorSettings) (payload : PolicyPayload) : Prop where
  /-- `policy server host and prompt must not be empty` -/
  host_prompt : settings.serverHost ≠ "" ∧ settings.prompt ≠ ""
  /-- `policy server port is invalid` -/
  port : 0 < settings.serverPort ∧ settings.serverPort ≤ 65535
  /-- `inference_timeout_s must be positive` -/
  inferenceTimeout : 0 < settings.inferenceTimeoutS
  /-- `EXPO bootstrap timeout exceeds the transport timeout` -/
  bootstrapTimeout : ¬(payload.expo ∧
    settings.inferenceTimeoutS < settings.control.expoBootstrapTimeoutS)
  /-- `snapshot request timeout must be positive` -/
  snapshotTimeout : 0 < settings.snapshotTimeoutS
  /-- `checkpoint_sha256 must contain 64 hexadecimal characters` -/
  checkpointSha256 : IsSha256 settings.checkpointSha256
  /-- The deadline of a request. -/
  deadline : settings.validateRtcDeadline = .ok ()

theorem load_ok_iff {payload : PolicyPayload} {settings : DaggerCollectorSettings} :
    load payload = .ok settings ↔ assemble payload = .ok settings ∧ settings.Checked payload := by
  constructor
  · intro h
    obtain ⟨assembled, hassemble, h⟩ := bind_eq_ok h
    obtain ⟨_, hhost, h⟩ := bind_eq_ok h
    obtain ⟨_, hport, h⟩ := bind_eq_ok h
    obtain ⟨_, hinference, h⟩ := bind_eq_ok h
    obtain ⟨_, hbootstrap, h⟩ := bind_eq_ok h
    obtain ⟨_, hsnapshot, h⟩ := bind_eq_ok h
    obtain ⟨_, hsha, h⟩ := bind_eq_ok h
    obtain ⟨_, hdeadline, h⟩ := bind_eq_ok h
    cases h
    exact ⟨hassemble, require_ok.1 hhost, require_ok.1 hport, require_ok.1 hinference,
      require_ok.1 hbootstrap, require_ok.1 hsnapshot, require_ok.1 hsha, hdeadline⟩
  · rintro ⟨hassemble, h⟩
    simp only [load, hassemble, bind, Except.bind, require_ok.2 h.host_prompt, require_ok.2 h.port,
      require_ok.2 h.inferenceTimeout, require_ok.2 h.bootstrapTimeout,
      require_ok.2 h.snapshotTimeout, require_ok.2 h.checkpointSha256, h.deadline]
    rfl

/-- What the settings are assembled from. -/
structure Assembled (settings : DaggerCollectorSettings) (payload : PolicyPayload) : Prop where
  /-- The profile of the checkpoint. -/
  checkpointProfile : loadCheckpointProfile payload = .ok settings.checkpointProfile
  /-- The profile of the rollout. -/
  rtcRollout : loadRtcRollout payload settings.checkpointProfile = .ok settings.rtcRollout
  /-- The digest. -/
  checkpointSha256 : settings.checkpointSha256 = payload.policy.checkpointSha256.toLower

theorem assemble_ok {payload : PolicyPayload} {settings : DaggerCollectorSettings}
    (h : assemble payload = .ok settings) : settings.Assembled payload := by
  obtain ⟨-, -, h⟩ := bind_eq_ok h
  obtain ⟨-, -, h⟩ := bind_eq_ok h
  obtain ⟨checkpointProfile, hcheckpoint, h⟩ := bind_eq_ok h
  obtain ⟨rtcRollout, hrollout, h⟩ := bind_eq_ok h
  obtain ⟨observation, -, h⟩ := bind_eq_ok h
  obtain ⟨armProfile, -, h⟩ := bind_eq_ok h
  obtain ⟨safety, -, h⟩ := bind_eq_ok h
  obtain ⟨control, -, h⟩ := bind_eq_ok h
  cases h
  exact ⟨hcheckpoint, hrollout, rfl⟩

/-- A request that takes its timeout leaves the margin before the deadline. -/
theorem validateRtcDeadline_ok {settings : DaggerCollectorSettings}
    (htype : settings.checkpointProfile.policyType = .trainingTimeRtc)
    (h : settings.validateRtcDeadline = .ok ()) :
    settings.snapshotTimeoutS < settings.control.policyWaitTimeoutS ∧
      settings.control.policyWaitTimeoutS + settings.control.rtcDeadlineMarginS ≤
        settings.hardDeadlineS + 1 / 1000000000 := by
  unfold validateRtcDeadline at h
  rw [if_neg (not_not.2 htype)] at h
  split_ifs at h with hsnapshot hdeadline
  exact ⟨not_le.1 hsnapshot, not_lt.1 hdeadline⟩

end DaggerCollectorSettings

end DualCollection
