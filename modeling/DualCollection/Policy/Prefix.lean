import DualCollection.Policy.Envelope
import DualCollection.Rtc.Threads

/-!
# The action prefix on its way to the model

The collector encodes the prefix of a request with `policy_request_to_wire`, and the policy server
decodes it with `prepare_model_prefix`.  `Delivered` says what should come of it, and
`prefix_delivered_iff` that it does for every delay but `0`: an empty tuple becomes a vector of
length `0`, where the server expects a matrix without rows.
-/

namespace DualCollection

/-- The profile of the server: `validate_rtc_server_metadata` has compared it with the collector's
checkpoint profile. -/
def RtcParameters.prefixProfile (p : RtcParameters) : PrefixProfile where
  actionHorizon := p.checkpoint.execution.actionChunkSize
  actionDimension := p.checkpoint.execution.actionDimension
  maxDelaySteps := p.checkpoint.maxDelaySteps

section

variable {W : Type} (np : Numpy) (codec : Codec W) (envelope : CorrelatedPolicyEnvelope)
  (profile : PrefixProfile)

/-- The prefix of a request is delivered: whatever the input transform and the model do, the input
transform is called with a matrix of `action_horizon` rows, of which the first ones are the rows that
were sent and the others are zero, and the model is called with the delay. -/
def Delivered (request : Pi05PolicyRequest) (context : RtcPolicyContext) : Prop :=
  ∃ payload input padded, policyRequestToWire np request = some payload ∧
    input.item "actions" = some (.floats padded) ∧
    padded.shape = [profile.actionHorizon, profile.actionDimension] ∧
    padded.rows = some (context.actionPrefix.map (·.map .finite) ++
      List.replicate (profile.actionHorizon - context.estimatedDelaySteps)
        (List.replicate profile.actionDimension (.finite 0))) ∧
    ∀ inputTransform sample startedAtNs completedAtNs,
      serve codec envelope (TrainingTimeRtcPolicyAdapter np profile inputTransform sample)
        startedAtNs completedAtNs (codec.packb (.map payload)) = do
          let result ← modelCall inputTransform sample input context.estimatedDelaySteps
          envelope.answer request.sessionId request.episodeId request.inferenceId
            request.controlEpoch startedAtNs completedAtNs result

end

section Delivery

variable {W : Type} {np : Numpy} {codec : Codec W} {envelope : CorrelatedPolicyEnvelope}
  {profile : PrefixProfile} {request : Pi05PolicyRequest} {context : RtcPolicyContext}

/-! ### Numbers -/

/-- The values of a prefix are not changed by the conversion. -/
theorem Numpy.Exact.asFloat32 (hnp : np.Exact) {a : NdArray PyFloat} {rows : List (List ℚ)}
    (hdata : a.data = (rows.map (·.map .finite)).flatten)
    (h : ∀ row ∈ rows, ∀ q ∈ row, Representable q) : np.asFloat32 a = a := by
  have hsame : ∀ x ∈ a.data, np.convert x = id x := by
    intro x hx
    rw [hdata] at hx
    simp only [List.mem_flatten, List.mem_map] at hx
    obtain ⟨_, ⟨row, hrow, rfl⟩, hx⟩ := hx
    obtain ⟨q, hq, rfl⟩ := List.mem_map.1 hx
    exact hnp q (h row hrow q hq)
  refine NdArray.ext rfl ?_
  show a.data.map np.convert = a.data
  rw [List.map_congr_left hsame, List.map_id]

/-! ### The request -/

/-- The envelope hands the prefix to a policy that supports it. -/
theorem infer_rtcRequest {policy : OpenPiPolicy}
    {inferRtc : Mapping → Mapping → Except ServerError Mapping} {startedAtNs completedAtNs : ℤ}
    {payload rtc : Mapping} (hpolicy : policy.inferRtc = some inferRtc)
    (hsha : envelope.checkpointSha256 = request.checkpointSha256) (hctx : request.rtc = some context)
    (hpayload : policyRequestToWire np request = some payload)
    (hrtc : rtcToWire np context = some rtc) :
    envelope.infer policy startedAtNs completedAtNs payload =
      (do
        let result ← inferRtc ((observationToWire np request.observation).assign "prompt"
          (.str request.prompt)) rtc
        envelope.answer request.sessionId request.episodeId request.inferenceId
          request.controlEpoch startedAtNs completedAtNs result) := by
  obtain ⟨-, -, -, -, -, -, -, hitem⟩ := policyRequestToWire_items hpayload
  rw [hctx, Option.bind_some, hrtc, Option.map_some] at hitem
  rw [infer_request hsha hpayload, CorrelatedPolicyEnvelope.callPolicy, hitem, hpolicy]

/-- What `rtcToWire` sends, and what the server makes of it. -/
theorem transformInput_delivered (observation : Mapping) (hnp : np.Exact)
    (hpos : 0 < context.estimatedDelaySteps)
    (hdelay : context.estimatedDelaySteps < profile.maxDelaySteps)
    (hhorizon : profile.maxDelaySteps ≤ profile.actionHorizon)
    (hrow : ∀ row ∈ context.actionPrefix, row.length = profile.actionDimension ∧
      ∀ q ∈ row, Representable q) :
    ∃ rtc padded, rtcToWire np context = some rtc ∧
      transformInput np profile observation rtc =
        .ok (observation.assign "actions" (.floats padded), context.estimatedDelaySteps) ∧
      padded.shape = [profile.actionHorizon, profile.actionDimension] ∧
      padded.rows = some (context.actionPrefix.map (·.map .finite) ++
        List.replicate (profile.actionHorizon - context.estimatedDelaySteps)
          (List.replicate profile.actionDimension (.finite 0))) := by
  have hlen := context.actionPrefix_length
  obtain ⟨a, ha, hshape, hdata⟩ := NdArray.ofRows_eq (n := profile.actionDimension)
    (context.actionPrefix.map (·.map PyFloat.finite)) (by
      intro h
      rw [List.map_eq_nil_iff] at h
      rw [h] at hlen
      simp at hlen
      omega) (by
      intro row hr
      obtain ⟨row', hr', rfl⟩ := List.mem_map.1 hr
      rw [List.length_map]
      exact (hrow row' hr').1)
  rw [List.length_map, hlen] at hshape
  have hexact : np.asFloat32 a = a := hnp.asFloat32 hdata fun row hr => (hrow row hr).2
  obtain ⟨padded, hassign, hpshape, hrows⟩ := NdArray.assignRows_full (x := PyFloat.finite 0) hshape
    (show context.estimatedDelaySteps ≤ profile.actionHorizon by omega)
  refine ⟨[("estimated_delay_steps", .int context.estimatedDelaySteps),
    ("action_prefix", .floats (np.asFloat32 a))], padded, ?_, ?_, hpshape, ?_⟩
  · rw [rtcToWire, ha]
    rfl
  · have hkeys : Mapping.hasKeys [("estimated_delay_steps", .int context.estimatedDelaySteps),
        ("action_prefix", .floats (np.asFloat32 a))]
          ["estimated_delay_steps", "action_prefix"] = true := rfl
    have hdelay' : delayField profile [("estimated_delay_steps", .int context.estimatedDelaySteps),
        ("action_prefix", .floats (np.asFloat32 a))] = .ok context.estimatedDelaySteps := by
      show (if 0 ≤ (context.estimatedDelaySteps : ℤ) ∧
        (context.estimatedDelaySteps : ℤ) < profile.maxDelaySteps then _ else _) = _
      rw [if_pos (by omega)]
      rfl
    have hprefix : prefixField np [("estimated_delay_steps", .int context.estimatedDelaySteps),
        ("action_prefix", .floats (np.asFloat32 a))] = .ok a := by
      show Except.ok (np.asFloat32 (np.asFloat32 a)) = _
      rw [hexact, hexact]
    rw [transformInput, if_neg (not_not.2 hkeys), hdelay', hprefix]
    show (if a.shape ≠ [context.estimatedDelaySteps, profile.actionDimension] then _ else _) = _
    rw [if_neg (not_not.2 hshape), hassign]
  · have hchunks := chunks_flatten (n := profile.actionDimension)
      (context.actionPrefix.map (·.map PyFloat.finite)) (by
        intro row hr
        obtain ⟨row', hr', rfl⟩ := List.mem_map.1 hr
        rw [List.length_map]
        exact (hrow row' hr').1)
    rw [List.length_map, hlen] at hchunks
    rw [hrows, hdata, hchunks]

/-- A prefix without rows is refused, whatever follows. -/
theorem transformInput_empty (np : Numpy) (observation : Mapping)
    (hzero : context.estimatedDelaySteps = 0)
    (hmax : 0 < profile.maxDelaySteps) :
    ∃ rtc, rtcToWire np context = some rtc ∧
      transformInput np profile observation rtc =
        .error (.prefixShape [0, profile.actionDimension] [0]) := by
  have hnil : context.actionPrefix = [] := by
    rw [← List.length_eq_zero_iff, context.actionPrefix_length, hzero]
  refine ⟨[("estimated_delay_steps", .int 0),
    ("action_prefix", .floats (np.asFloat32 ⟨[0], [], rfl⟩))], ?_, ?_⟩
  · rw [rtcToWire, hnil, hzero]
    rfl
  · have hdelay : delayField profile [("estimated_delay_steps", .int 0),
        ("action_prefix", .floats (np.asFloat32 ⟨[0], [], rfl⟩))] = .ok 0 := by
      show (if 0 ≤ (0 : ℤ) ∧ (0 : ℤ) < profile.maxDelaySteps then _ else _) = _
      rw [if_pos ⟨le_rfl, by omega⟩]
      rfl
    have hkeys : Mapping.hasKeys [("estimated_delay_steps", .int 0),
        ("action_prefix", .floats (np.asFloat32 ⟨[0], [], rfl⟩))]
          ["estimated_delay_steps", "action_prefix"] = true := rfl
    rw [transformInput, if_neg (not_not.2 hkeys), hdelay]
    rfl

/-- The server calls the input transform with what `transformInput` makes of the request. -/
theorem serve_request {payload rtc : Mapping} {inputTransform : Mapping → Except ServerError Mapping}
    {sample : Mapping → Option Value → ℕ → Except ServerError Mapping} {startedAtNs completedAtNs : ℤ}
    (hcodec : codec.Faithful) (hsha : envelope.checkpointSha256 = request.checkpointSha256)
    (hctx : request.rtc = some context) (hpayload : policyRequestToWire np request = some payload)
    (hrtc : rtcToWire np context = some rtc) :
    serve codec envelope (TrainingTimeRtcPolicyAdapter np profile inputTransform sample)
        startedAtNs completedAtNs (codec.packb (.map payload)) =
      (do
        let (input, delay) ← transformInput np profile
          ((observationToWire np request.observation).assign "prompt" (.str request.prompt)) rtc
        let result ← modelCall inputTransform sample input delay
        envelope.answer request.sessionId request.episodeId request.inferenceId
          request.controlEpoch startedAtNs completedAtNs result) := by
  rw [serve, hcodec]
  dsimp only
  rw [infer_rtcRequest rfl hsha hctx hpayload hrtc]
  dsimp only
  rw [prepareModelPrefix]
  cases transformInput np profile _ rtc with
  | error err => rfl
  | ok inputs =>
    obtain ⟨input, delay⟩ := inputs
    simp only [modelCall, bind, Except.bind]
    cases inputTransform input with
    | error err => rfl
    | ok transformed =>
      dsimp only
      cases transformed.pop "actions" with
      | none => rfl
      | some popped => rfl

/-- A prefix without rows is not delivered: with an input transform that keeps the actions and a
model that answers, the request is refused nonetheless. -/
theorem not_delivered (hcodec : codec.Faithful)
    (hsha : envelope.checkpointSha256 = request.checkpointSha256) (hctx : request.rtc = some context)
    (hzero : context.estimatedDelaySteps = 0) (hmax : 0 < profile.maxDelaySteps) :
    ¬ Delivered np codec envelope profile request context := by
  rintro ⟨payload, input, padded, hpayload, hactions, -, -, hserve⟩
  obtain ⟨rtc, hrtc, hempty⟩ := transformInput_empty np
    ((observationToWire np request.observation).assign "prompt" (.str request.prompt)) hzero hmax
  have hrun := hserve .ok (fun _ _ _ => .ok [("actions", .none)]) 0 0
  rw [serve_request hcodec hsha hctx hpayload hrtc, hempty, modelCall] at hrun
  simp only [bind, Except.bind, Mapping.pop, show input.lookup "actions" = _ from hactions,
    Option.map_some] at hrun
  cases hrun

/-- A prefix with at least one row is delivered. -/
theorem delivered (hnp : np.Exact) (hcodec : codec.Faithful)
    (hsha : envelope.checkpointSha256 = request.checkpointSha256) (hctx : request.rtc = some context)
    (hpos : 0 < context.estimatedDelaySteps)
    (hdelay : context.estimatedDelaySteps < profile.maxDelaySteps)
    (hhorizon : profile.maxDelaySteps ≤ profile.actionHorizon)
    (hrow : ∀ row ∈ context.actionPrefix, row.length = profile.actionDimension ∧
      ∀ q ∈ row, Representable q) :
    Delivered np codec envelope profile request context := by
  obtain ⟨rtc, padded, hrtc, hinput, hshape, hrows⟩ := transformInput_delivered
    ((observationToWire np request.observation).assign "prompt" (.str request.prompt))
      hnp hpos hdelay hhorizon hrow
  obtain ⟨payload, hpayload⟩ : ∃ payload, policyRequestToWire np request = some payload :=
    ⟨_, by rw [policyRequestToWire, hctx]; simp only [hrtc, Option.map_some]; rfl⟩
  refine ⟨payload, ((observationToWire np request.observation).assign "prompt"
    (.str request.prompt)).assign "actions" (.floats padded), padded, hpayload,
      Mapping.item_assign, hshape, hrows, ?_⟩
  intro inputTransform sample startedAtNs completedAtNs
  rw [serve_request hcodec hsha hctx hpayload hrtc, hinput]
  rfl

/-- A prefix is delivered exactly if it is not empty. -/
theorem prefix_delivered_iff {p : RtcParameters} (hnp : np.Exact) (hcodec : codec.Faithful)
    (hsha : envelope.checkpointSha256 = request.checkpointSha256) (hctx : request.rtc = some context)
    (hdelay : context.estimatedDelaySteps < p.checkpoint.maxDelaySteps)
    (hrow : ∀ row ∈ context.actionPrefix, row.length = p.checkpoint.execution.actionDimension ∧
      ∀ q ∈ row, Representable q) :
    Delivered np codec envelope p.prefixProfile request context ↔
      0 < context.estimatedDelaySteps := by
  have hhorizon : p.checkpoint.maxDelaySteps ≤ p.checkpoint.execution.actionChunkSize := by
    have := p.valid.safeWindow
    have := p.rollout.prefetchAfterSteps_pos
    omega
  constructor
  · intro h
    by_contra hpos
    exact not_delivered hcodec hsha hctx (Nat.eq_zero_of_not_pos hpos)
      (Nat.lt_of_le_of_lt (Nat.zero_le _) hdelay) h
  · exact fun hpos => delivered hnp hcodec hsha hctx hpos hdelay hhorizon hrow

end Delivery

/-! ### A small request -/

namespace Policy.Station

/-- `numpy`, on values that a `float32` has room for. -/
def numpy : Numpy := ⟨.finite⟩

/-- A codec that sends values as they are. -/
def codec : Codec Value := ⟨id, .ok⟩

/-- A black image of one pixel. -/
def frame : RgbFrame := ⟨[0, 0, 0], 1, 1, by decide, rfl⟩

/-- An observation. -/
def observation : Pi05Observation := ⟨List.replicate 14 0, frame, frame, frame, rfl⟩

/-- A checkpoint. -/
def digits : List Char := List.replicate 64 '0'

/-- A checkpoint. -/
def sha : String := String.ofList digits

theorem sha_valid : IsSha256 sha := by
  refine isSha256_ofList List.length_replicate fun c hc => ?_
  rw [List.eq_of_mem_replicate hc]
  decide

/-- The envelope of the checkpoint. -/
def envelope : CorrelatedPolicyEnvelope := ⟨sha, sha_valid⟩

/-- A request with a context. -/
def request (context : RtcPolicyContext) : Pi05PolicyRequest where
  sessionId := "session"
  episodeId := "episode"
  controlEpoch := 0
  inferenceId := "id"
  checkpointSha256 := sha
  prompt := "prompt"
  observation := observation
  rtc := some context
  identifiers := by decide
  prompt_ne := by decide
  checkpointSha256_valid := sha_valid

/-- The delay `0`. -/
def noDelay : RtcPolicyContext := ⟨0, [], rfl, by simp⟩

/-- The row `k / 8, (k + 1) / 8, ...`. -/
def row (k : ℕ) : ActionRow := (List.range 14).map fun i => ((k + i : ℕ) : ℚ) / 8

theorem row_ne {k : ℕ} : row k ≠ [] := by simp [row]

theorem row_representable {k : ℕ} (hk : k ≤ 100) : ∀ q ∈ row k, Representable q := by
  intro q hq
  obtain ⟨i, hi, rfl⟩ := List.mem_map.1 hq
  have hi := List.mem_range.1 hi
  refine ⟨(k + i : ℕ), -3, ?_, by decide, by decide, ?_⟩
  · rw [Nat.abs_cast]
    omega
  · rw [Int.cast_natCast]
    norm_num
    ring

theorem rows_ne : ∀ r ∈ [row 1, row 21], r ≠ [] := by
  simp [row_ne]

/-- The delay `2`. -/
def twoSteps : RtcPolicyContext := ⟨2, [row 1, row 21], rfl, rows_ne⟩

theorem rows_pos : 0 < 5 := by decide

theorem delays_pos : PolicyType.trainingTimeRtc = .trainingTimeRtc → 0 < 3 := fun _ => by decide

/-- A checkpoint for chunks of five rows and the delays `0`, `1` and `2`. -/
def checkpoint : Pi05CheckpointProfile :=
  ⟨.trainingTimeRtc, Rtc.Station.execution 5 rows_pos, 3, 1, delays_pos, Rtc.Station.tolerance_pos⟩

theorem checkpoint_valid : Rtc.Station.rollout.ValidFor checkpoint := ⟨rfl, by decide, by decide⟩

/-- A scheduler with this checkpoint. -/
def parameters : RtcParameters where
  contract := Rtc.Station.contract
  checkpoint := checkpoint
  rollout := Rtc.Station.rollout
  policyWaitTimeoutS := 1
  commandWatchdogS := 1
  bootstrapTimeoutS := 1
  valid := checkpoint_valid
  timeouts_pos := Rtc.Station.timeouts_pos
  bootstrapTimeoutS_pos := Rtc.Station.rate_pos

end Policy.Station

/-- A prefix of two different rows is delivered: the first two of five rows are the rows that were
sent, and the others are zero. -/
theorem prefix_delivered_twoSteps :
    Delivered Policy.Station.numpy Policy.Station.codec Policy.Station.envelope
      Policy.Station.parameters.prefixProfile (Policy.Station.request Policy.Station.twoSteps)
        Policy.Station.twoSteps := by
  refine (prefix_delivered_iff (fun _ _ => rfl) (fun _ => rfl) rfl rfl (by decide) ?_).2 (by decide)
  intro row hrow
  rcases List.mem_pair.1 hrow with rfl | rfl
  · exact ⟨rfl, Policy.Station.row_representable (by decide)⟩
  · exact ⟨rfl, Policy.Station.row_representable (by decide)⟩

/-- A scheduler whose delay estimate is `0` asks with an empty prefix, and the server refuses the
request. -/
theorem prefix_noDelay :
    (∃ c, (Rtc.system Rtc.Station.three).Reachable (fun _ _ _ _ => True)
        (.init (Rtc.init Rtc.Station.three)) c ∧
      ∃ pending, c.shared.pending = some pending ∧ pending.estimatedDelaySteps = some 0 ∧
        pending.actionPrefix = Policy.Station.noDelay.actionPrefix) ∧
    ¬ Delivered Policy.Station.numpy Policy.Station.codec Policy.Station.envelope
      Rtc.Station.three.prefixProfile (Policy.Station.request Policy.Station.noDelay)
        Policy.Station.noDelay := by
  constructor
  · obtain ⟨c, hc, ht⟩ := Rtc.Station.shows Rtc.Station.three (fun _ _ => True)
      (Rtc.Station.openLease 0 0 (Rtc.Station.ticket 3 (by decide) 0 0) ++ Rtc.Station.publish 0)
      (fun c => c.shared.pending.any fun pending : PendingRtcInference =>
        decide (pending.estimatedDelaySteps = some 0 ∧ pending.actionPrefix = []))
      (by decide +kernel)
    obtain ⟨pending, hpending, hp⟩ := (Option.any_eq_true _ _).1 ht
    exact ⟨c, hc, pending, hpending, of_decide_eq_true hp⟩
  · exact not_delivered (fun _ => rfl) rfl rfl rfl (by decide)

end DualCollection
