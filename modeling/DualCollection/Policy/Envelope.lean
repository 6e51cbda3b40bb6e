import DualCollection.Policy.Wire

/-!
# The policy server

`CorrelatedPolicyEnvelope` of `dagger/policy_envelope.py` and `prepare_model_prefix` of
`dagger/training_time_rtc_policy.py`.  The checkpoint's input transform and the sampling of the model
are not part of the source and are parameters of `TrainingTimeRtcPolicyAdapter`.
-/

namespace DualCollection

/-- The exceptions of the policy server. -/
inductive ServerError
  /-- `... must be a non-empty string` -/
  | emptyString (key : String)
  /-- `control_epoch must be a non-negative integer` -/
  | controlEpoch
  /-- `requested checkpoint SHA-256 does not match the loaded policy` -/
  | checkpointMismatch
  /-- `observation must be a mapping` -/
  | observationNotMapping
  /-- `rtc must be a mapping` -/
  | rtcNotMapping
  /-- `loaded policy does not support RTC requests` -/
  | rtcUnsupported
  /-- `openpi response does not contain actions` -/
  | noActions
  /-- `RTC request contains fields outside the minimal contract` -/
  | rtcFields
  /-- `estimated_delay_steps must be an integer` -/
  | delayNotInteger
  /-- `estimated delay is outside the trained range` -/
  | delayOutsideRange
  /-- Raised by `asarray`, for what is no array of floats. -/
  | notAnArray
  /-- `robot-space action prefix shape must be ..., got ...` -/
  | prefixShape (expected got : List ℕ)
  /-- Raised by the assignment of the prefix. -/
  | broadcast
  /-- `checkpoint input transform did not produce actions` -/
  | noModelActions
  /-- Raised by the policy. -/
  | policy (e : PyError)

/-- `_string` -/
def stringField (mapping : Mapping) (key : String) : Except ServerError String :=
  match mapping.item key with
  | some (.str s) => if s = "" then .error (.emptyString key) else .ok s
  | _ => .error (.emptyString key)

/-- A policy of the server. -/
structure OpenPiPolicy where
  /-- `infer` -/
  infer : Mapping → Except ServerError Mapping
  /-- `infer_rtc`, if there is one. -/
  inferRtc : Option (Mapping → Mapping → Except ServerError Mapping) := none

/-- What the server answers. -/
structure PolicyReply where
  /-- The Session of the request. -/
  sessionId : String
  /-- The Episode of the request. -/
  episodeId : String
  /-- The control epoch of the request. -/
  controlEpoch : ℕ
  /-- The number of the inference. -/
  inferenceId : String
  /-- The checkpoint of the server. -/
  checkpointSha256 : String
  /-- The actions. -/
  actions : Value
  /-- When the inference started. -/
  startedAtNs : ℤ
  /-- When it was completed. -/
  completedAtNs : ℤ

/-- The mapping that is answered. -/
def PolicyReply.toWire (reply : PolicyReply) : Mapping :=
  [("session_id", .str reply.sessionId),
    ("episode_id", .str reply.episodeId),
    ("control_epoch", .int reply.controlEpoch),
    ("inference_id", .str reply.inferenceId),
    ("checkpoint_sha256", .str reply.checkpointSha256),
    ("actions", reply.actions),
    ("started_at_ns", .int reply.startedAtNs),
    ("completed_at_ns", .int reply.completedAtNs)]

/-- An envelope around a policy. -/
structure CorrelatedPolicyEnvelope where
  /-- The checkpoint of the server. -/
  checkpointSha256 : String
  /-- `checkpoint_sha256 must contain 64 hexadecimal characters` -/
  checkpointSha256_valid : IsSha256 checkpointSha256

namespace CorrelatedPolicyEnvelope

/-- The control epoch of a request. -/
def epochField (request : Mapping) : Except ServerError ℕ :=
  match request.item "control_epoch" with
  | some (.int n) => if n < 0 then .error .controlEpoch else .ok n.toNat
  | _ => .error .controlEpoch

/-- The observation of a request. -/
def observationField (request : Mapping) : Except ServerError Mapping :=
  match request.item "observation" with
  | some (.map observation) => .ok observation
  | _ => .error .observationNotMapping

/-- The call of the policy. -/
def callPolicy (policy : OpenPiPolicy) (observation request : Mapping) :
    Except ServerError Mapping :=
  match request.item "rtc" with
  | none | some .none => policy.infer observation
  | some (.map rtc) => match policy.inferRtc with
    | none => .error .rtcUnsupported
    | some inferRtc => inferRtc observation rtc
  | some _ => .error .rtcNotMapping

/-- What is answered to a request once the policy has returned. -/
def answer (envelope : CorrelatedPolicyEnvelope) (sessionId episodeId inferenceId : String)
    (controlEpoch : ℕ) (startedAtNs completedAtNs : ℤ) (result : Mapping) :
    Except ServerError PolicyReply :=
  match result.item "actions" with
  | none => .error .noActions
  | some actions =>
    .ok
      { sessionId, episodeId, controlEpoch, inferenceId
        checkpointSha256 := envelope.checkpointSha256
        actions, startedAtNs, completedAtNs }

/-- `infer`; the two readings of the clock are arguments. -/
def infer (envelope : CorrelatedPolicyEnvelope) (policy : OpenPiPolicy)
    (startedAtNs completedAtNs : ℤ) (request : Mapping) : Except ServerError PolicyReply := do
  let sessionId ← stringField request "session_id"
  let episodeId ← stringField request "episode_id"
  let inferenceId ← stringField request "inference_id"
  let prompt ← stringField request "prompt"
  let controlEpoch ← epochField request
  let requestedSha ← stringField request "checkpoint_sha256"
  if requestedSha.toLower ≠ envelope.checkpointSha256 then .error .checkpointMismatch
  else do
    let observation ← observationField request
    let result ← callPolicy policy (observation.assign "prompt" (.str prompt)) request
    envelope.answer sessionId episodeId inferenceId controlEpoch startedAtNs completedAtNs result

end CorrelatedPolicyEnvelope

/-- The server handles a message; `request.get` fails for what is no mapping. -/
def serve {W : Type} (codec : Codec W) (envelope : CorrelatedPolicyEnvelope)
    (policy : OpenPiPolicy) (startedAtNs completedAtNs : ℤ) (wire : W) :
    Except ServerError PolicyReply :=
  match codec.unpackb wire with
  | .ok (.map request) => envelope.infer policy startedAtNs completedAtNs request
  | .ok _ => .error (.policy ⟨.attributeError, "get"⟩)
  | .error err => .error (.policy err)

/-! ### Requests of the client -/

theorem stringField_eq {mapping : Mapping} {key s : String} (h : mapping.item key = some (.str s))
    (hne : s ≠ "") : stringField mapping key = .ok s := by
  rw [stringField, h]
  exact if_neg hne

/-- The envelope accepts every request for its checkpoint, and calls the policy. -/
theorem infer_request {np : Numpy} {envelope : CorrelatedPolicyEnvelope}
    {request : Pi05PolicyRequest} {policy : OpenPiPolicy} {startedAtNs completedAtNs : ℤ}
    {payload : Mapping} (hsha : envelope.checkpointSha256 = request.checkpointSha256)
    (hpayload : policyRequestToWire np request = some payload) :
    envelope.infer policy startedAtNs completedAtNs payload =
      (do
        let result ← CorrelatedPolicyEnvelope.callPolicy policy
          ((observationToWire np request.observation).assign "prompt" (.str request.prompt)) payload
        envelope.answer request.sessionId request.episodeId request.inferenceId
          request.controlEpoch startedAtNs completedAtNs result) := by
  obtain ⟨hsessionId, hepisodeId, hcontrolEpoch, hinferenceId, hcheckpoint, hprompt, hobs, -⟩ :=
    policyRequestToWire_items hpayload
  obtain ⟨hsession, hepisode, hinference⟩ := request.identifiers
  have hsha' : request.checkpointSha256 ≠ "" := by
    intro h
    have := request.checkpointSha256_valid.1
    rw [h] at this
    cases this
  have hepoch : CorrelatedPolicyEnvelope.epochField payload = .ok request.controlEpoch := by
    have hnn : ¬ (request.controlEpoch : ℤ) < 0 := by omega
    rw [CorrelatedPolicyEnvelope.epochField, hcontrolEpoch]
    simp only [if_neg hnn, Int.toNat_natCast]
  have hobservation : CorrelatedPolicyEnvelope.observationField payload =
      .ok (observationToWire np request.observation) := by
    rw [CorrelatedPolicyEnvelope.observationField, hobs]
  rw [CorrelatedPolicyEnvelope.infer, stringField_eq hsessionId hsession,
    stringField_eq hepisodeId hepisode, stringField_eq hinferenceId hinference,
    stringField_eq hprompt request.prompt_ne, stringField_eq hcheckpoint hsha', hepoch]
  show (if request.checkpointSha256.toLower ≠ envelope.checkpointSha256 then _ else _) = _
  rw [request.checkpointSha256_valid.toLower, hsha, if_neg (not_not.2 rfl), hobservation]
  rfl

/-! ### The prefix -/

/-- The dimensions that the server knows of the model. -/
structure PrefixProfile where
  /-- `action_horizon` -/
  actionHorizon : ℕ
  /-- `action_dimension` -/
  actionDimension : ℕ
  /-- `max_delay_steps` -/
  maxDelaySteps : ℕ

/-- `estimated_delay_steps` -/
def delayField (profile : PrefixProfile) (rtc : Mapping) : Except ServerError ℕ :=
  match rtc.item "estimated_delay_steps" with
  | some (.int delay) =>
    if 0 ≤ delay ∧ delay < profile.maxDelaySteps then .ok delay.toNat else .error .delayOutsideRange
  | _ => .error .delayNotInteger

/-- `asarray(rtc["action_prefix"], dtype=float32)`.  A single value becomes an array without
dimensions; a text is refused here, and would be refused for its shape if it were a number. -/
def prefixField (np : Numpy) (rtc : Mapping) : Except ServerError (NdArray PyFloat) :=
  match rtc.item "action_prefix" with
  | some (.floats a) => .ok (np.asFloat32 a)
  | some (.bytes a) => .ok (np.asFloat32 (a.map fun b => .finite b.toNat))
  | some (.int n) => .ok (np.asFloat32 ⟨[], [.finite n], rfl⟩)
  | some (.bool b) => .ok (np.asFloat32 ⟨[], [.finite (if b then 1 else 0)], rfl⟩)
  | some .none => .ok ⟨[], [.nonfinite], rfl⟩
  | _ => .error .notAnArray

/-- What is handed to the input transform: the observation with the padded prefix, and the delay. -/
def transformInput (np : Numpy) (profile : PrefixProfile) (observation rtc : Mapping) :
    Except ServerError (Mapping × ℕ) := do
  if ¬ rtc.hasKeys ["estimated_delay_steps", "action_prefix"] then .error .rtcFields
  else do
    let delay ← delayField profile rtc
    let actionPrefix ← prefixField np rtc
    if actionPrefix.shape ≠ [delay, profile.actionDimension] then
      .error (.prefixShape [delay, profile.actionDimension] actionPrefix.shape)
    else
      let zeros := NdArray.full profile.actionHorizon profile.actionDimension (.finite 0)
      match zeros.assignRows actionPrefix delay with
      | none => .error .broadcast
      | some padded => .ok (observation.assign "actions" (.floats padded), delay)

/-- `prepare_model_prefix` -/
def prepareModelPrefix (np : Numpy) (profile : PrefixProfile)
    (inputTransform : Mapping → Except ServerError Mapping) (observation rtc : Mapping) :
    Except ServerError (Mapping × Value × ℕ) := do
  let (input, delay) ← transformInput np profile observation rtc
  let transformed ← inputTransform input
  match transformed.pop "actions" with
  | none => .error .noModelActions
  | some (modelPrefix, rest) => .ok (rest, modelPrefix, delay)

/-- What follows once the input transform has been handed its input. -/
def modelCall (inputTransform : Mapping → Except ServerError Mapping)
    (sample : Mapping → Option Value → ℕ → Except ServerError Mapping) (input : Mapping)
    (delay : ℕ) : Except ServerError Mapping := do
  let transformed ← inputTransform input
  match transformed.pop "actions" with
  | none => .error .noModelActions
  | some (modelPrefix, rest) => sample rest (some modelPrefix) delay

/-- `TrainingTimeRtcPolicyAdapter`: `inputTransform` is the checkpoint's, and `sample` is what the
model makes of the transformed observation, the prefix, if there is one, and the delay. -/
def TrainingTimeRtcPolicyAdapter (np : Numpy) (profile : PrefixProfile)
    (inputTransform : Mapping → Except ServerError Mapping)
    (sample : Mapping → Option Value → ℕ → Except ServerError Mapping) : OpenPiPolicy where
  infer := fun observation => do
    let transformed ← inputTransform observation
    sample transformed none 0
  inferRtc := some fun observation rtc => do
    let (transformed, modelPrefix, delay) ←
      prepareModelPrefix np profile inputTransform observation rtc
    sample transformed (some modelPrefix) delay

end DualCollection
