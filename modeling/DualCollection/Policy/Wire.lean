import DualCollection.Control.Contract
import DualCollection.Numpy.NdArray

/-!
# Requests on the wire

`Pi05PolicyRequest` and `policy_request_to_wire` of `dagger/openpi_transport.py`.  What is sent is a
nested mapping of plain values and arrays (`Value`), which the codec packs.  `numpy` and the codec
are not part of the source: `Numpy.float32` is the conversion of a float, and `Codec.Faithful` says
that unpacking undoes packing.
-/

namespace DualCollection

/-! ### Values -/

/-- What the codec packs. -/
inductive Value
  | none
  | bool (b : Bool)
  | int (n : ℤ)
  | str (s : String)
  /-- An array of `float32`. -/
  | floats (a : NdArray PyFloat)
  /-- An array of `uint8`. -/
  | bytes (a : NdArray UInt8)
  | map (items : List (String × Value))

/-- A dictionary with string keys. -/
abbrev Mapping := List (String × Value)

namespace Mapping

/-- `mapping.get(key)` -/
def item (m : Mapping) (key : String) : Option Value := m.lookup key

/-- `mapping[key] = value` -/
def assign : Mapping → String → Value → Mapping
  | [], key, value => [(key, value)]
  | (k, v) :: m, key, value =>
    if k = key then (key, value) :: m else (k, v) :: assign m key value

/-- `set(mapping) == keys` -/
def hasKeys (m : Mapping) (keys : List String) : Bool :=
  (m.all fun entry => keys.contains entry.1) && keys.all fun key => (m.lookup key).isSome

/-- `mapping.pop(key)`: the value, and the rest. -/
def pop (m : Mapping) (key : String) : Option (Value × Mapping) :=
  (m.lookup key).map fun value => (value, m.filter fun entry => entry.1 ≠ key)

theorem item_assign {m : Mapping} {key : String} {value : Value} :
    (m.assign key value).item key = some value := by
  induction m with
  | nil => simp [assign, item]
  | cons entry m ih =>
    obtain ⟨k, v⟩ := entry
    unfold assign
    split_ifs with h
    · simp [item]
    · have hne : (key == k) = false := by simpa using Ne.symm h
      simp only [item, List.lookup_cons, hne] at ih ⊢
      exact ih

end Mapping

/-! ### What is not part of the source -/

/-- `numpy`, as far as it is not about shapes. -/
structure Numpy where
  /-- The conversion of a float to `float32`. -/
  float32 : ℚ → PyFloat

/-- The conversion of a value to `float32`. -/
def Numpy.convert (np : Numpy) : PyFloat → PyFloat
  | .finite q => np.float32 q
  | .nonfinite => .nonfinite

/-- The conversion of an array to `float32`. -/
def Numpy.asFloat32 (np : Numpy) (a : NdArray PyFloat) : NdArray PyFloat := a.map np.convert

/-- A value that a `float32` has room for. -/
def Representable (q : ℚ) : Prop :=
  ∃ m k : ℤ, |m| < 2 ^ 24 ∧ -149 ≤ k ∧ k ≤ 104 ∧ q = m * (2 : ℚ) ^ k

/-- A `float32` is not changed by the conversion. -/
def Numpy.Exact (np : Numpy) : Prop := ∀ q, Representable q → np.float32 q = .finite q

/-- The codec of the connection. -/
structure Codec (W : Type) where
  /-- `packb` -/
  packb : Value → W
  /-- `unpackb` -/
  unpackb : W → Except PyError Value

/-- Serialisation preserves shapes and values. -/
def Codec.Faithful {W : Type} (codec : Codec W) : Prop := ∀ v, codec.unpackb (codec.packb v) = .ok v

/-! ### Requests -/

/-- A camera image, three bytes for each pixel. -/
structure RgbFrame where
  /-- The pixels, row by row. -/
  data : List UInt8
  /-- The number of columns. -/
  width : ℕ
  /-- The number of rows. -/
  height : ℕ
  /-- `RGB frame dimensions and timestamp are invalid` -/
  size_pos : 0 < width ∧ 0 < height
  /-- `RGB frame buffer size is invalid` -/
  data_length : data.length = width * height * 3

/-- What the policy is shown. -/
structure Pi05Observation where
  /-- The joints and the grippers of both arms, finite. -/
  state : List ℚ
  /-- The overview camera. -/
  cameraHigh : RgbFrame
  /-- The left wrist camera. -/
  cameraLeftWrist : RgbFrame
  /-- The right wrist camera. -/
  cameraRightWrist : RgbFrame
  /-- `pi0.5 state must contain 14 finite values` -/
  state_length : state.length = 14

/-- A request for an action chunk. -/
structure Pi05PolicyRequest where
  /-- The Session. -/
  sessionId : String
  /-- The Episode. -/
  episodeId : String
  /-- The control epoch. -/
  controlEpoch : ℕ
  /-- The number of the inference. -/
  inferenceId : String
  /-- The checkpoint that is asked, normalized. -/
  checkpointSha256 : String
  /-- The task. -/
  prompt : String
  /-- What the policy is shown. -/
  observation : Pi05Observation
  /-- The commands that will be executed in the meantime. -/
  rtc : Option RtcPolicyContext
  /-- `policy request identifiers must not be empty` -/
  identifiers : sessionId ≠ "" ∧ episodeId ≠ "" ∧ inferenceId ≠ ""
  /-- `policy request epoch and prompt are invalid` -/
  prompt_ne : prompt ≠ ""
  /-- `checkpoint_sha256 must contain 64 hexadecimal characters` -/
  checkpointSha256_valid : IsSha256 checkpointSha256

/-- The values of an image, channel by channel. -/
def chwData (frame : RgbFrame) : List UInt8 :=
  (List.range 3).flatMap fun c => (List.range (frame.height * frame.width)).map fun i =>
    frame.data.getD (i * 3 + c) 0

/-- `_image_array`: channels first. -/
def imageArray (frame : RgbFrame) : NdArray UInt8 where
  shape := [3, frame.height, frame.width]
  data := chwData frame
  data_length := by
    simp only [chwData, List.length_flatMap, List.length_map, List.length_range, List.map_const',
      List.sum_replicate, smul_eq_mul, List.prod_cons, List.prod_nil, mul_one]

/-- The observation of a request. -/
def observationToWire (np : Numpy) (observation : Pi05Observation) : Mapping :=
  [("state", .floats (np.asFloat32 (.ofList (observation.state.map .finite)))),
    ("images", .map
      [("cam_high", .bytes (imageArray observation.cameraHigh)),
        ("cam_left_wrist", .bytes (imageArray observation.cameraLeftWrist)),
        ("cam_right_wrist", .bytes (imageArray observation.cameraRightWrist))])]

/-- The context of a request; `none` when the rows of the prefix differ in length, which `asarray`
refuses. -/
def rtcToWire (np : Numpy) (context : RtcPolicyContext) : Option Mapping :=
  (NdArray.ofRows (context.actionPrefix.map (·.map .finite))).map fun rows =>
    [("estimated_delay_steps", .int context.estimatedDelaySteps),
      ("action_prefix", .floats (np.asFloat32 rows))]

/-- `policy_request_to_wire` -/
def policyRequestToWire (np : Numpy) (request : Pi05PolicyRequest) : Option Mapping :=
  let payload : Mapping :=
    [("session_id", .str request.sessionId),
      ("episode_id", .str request.episodeId),
      ("control_epoch", .int request.controlEpoch),
      ("inference_id", .str request.inferenceId),
      ("checkpoint_sha256", .str request.checkpointSha256),
      ("prompt", .str request.prompt),
      ("observation", .map (observationToWire np request.observation))]
  match request.rtc with
  | none => some payload
  | some context => (rtcToWire np context).map fun rtc => payload.assign "rtc" (.map rtc)

/-- The entries of a request on the wire. -/
theorem policyRequestToWire_items {np : Numpy} {request : Pi05PolicyRequest} {payload : Mapping}
    (h : policyRequestToWire np request = some payload) :
    payload.item "session_id" = some (.str request.sessionId) ∧
      payload.item "episode_id" = some (.str request.episodeId) ∧
      payload.item "control_epoch" = some (.int request.controlEpoch) ∧
      payload.item "inference_id" = some (.str request.inferenceId) ∧
      payload.item "checkpoint_sha256" = some (.str request.checkpointSha256) ∧
      payload.item "prompt" = some (.str request.prompt) ∧
      payload.item "observation" = some (.map (observationToWire np request.observation)) ∧
      payload.item "rtc" = request.rtc.bind fun context => (rtcToWire np context).map .map := by
  rw [policyRequestToWire] at h
  cases hrtc : request.rtc with
  | none =>
    rw [hrtc, Option.some.injEq] at h
    subst h
    exact ⟨rfl, rfl, rfl, rfl, rfl, rfl, rfl, rfl⟩
  | some context =>
    rw [hrtc] at h
    obtain ⟨rtc, hwire, h⟩ := Option.map_eq_some_iff.1 h
    subst h
    refine ⟨rfl, rfl, rfl, rfl, rfl, rfl, rfl, ?_⟩
    rw [Option.bind_some, hwire]
    rfl

end DualCollection
