import DualCollection.Snapshot.Decoded

/-!
# The snapshot client

`LocalVlaSnapshotClient.capture` of `local_snapshot.py`, from the reply on, and the encoder of
`observation.py`.  What is received on the socket is what `SnapshotSocketServer` has sent; the
calibration of the grippers is a parameter.

`snapshot_layouts_agree` says that the structures of the writer and the formats of the reader are
those of the same bytes, and that no frame takes the place of another on the way to the policy.
-/

namespace DualCollection

open Bytes

namespace Observation

/-! ### Observations -/

/-- `math.isfinite`: the exponent is not the largest. -/
def isfinite (bits : UInt64) : Bool := (bits >>> 52) &&& 0x7FF != 0x7FF

/-- `RgbFrame` -/
structure RgbFrame where
  /-- `data` -/
  data : List UInt8
  /-- `stamp_ns` -/
  stampNs : ℤ
  /-- `width` -/
  width : ℕ
  /-- `height` -/
  height : ℕ
  deriving DecidableEq

/-- `RgbFrame.__post_init__` -/
def RgbFrame.create (data : List UInt8) (stampNs : ℤ) (width height : ℕ) :
    Except String RgbFrame := do
  require (0 < width ∧ 0 < height ∧ 0 ≤ stampNs) "RGB frame dimensions and timestamp are invalid"
  require (data.length = width * height * 3) "RGB frame buffer size is invalid"
  return ⟨data, stampNs, width, height⟩

theorem RgbFrame.create_ok {data : List UInt8} {stampNs : ℤ} {width height : ℕ} {f : RgbFrame}
    (h : RgbFrame.create data stampNs width height = .ok f) : f = ⟨data, stampNs, width, height⟩ := by
  obtain ⟨_, -, h⟩ := bind_eq_ok h
  obtain ⟨_, -, h⟩ := bind_eq_ok h
  cases h
  rfl

/-- `RawArmSample` -/
structure RawArmSample where
  /-- `joint_positions` -/
  jointPositions : List UInt64
  /-- `gripper_position` -/
  gripperPosition : UInt64
  /-- `stamp_ns` -/
  stampNs : ℤ
  deriving DecidableEq

/-- `RawArmSample.__post_init__` -/
def RawArmSample.create (jointPositions : List UInt64) (gripperPosition : UInt64) (stampNs : ℤ) :
    Except String RawArmSample := do
  require (jointPositions.length = 6) "arm sample must contain six joint positions"
  require (0 ≤ stampNs) "arm stamp must not be negative"
  require (∀ value ∈ jointPositions ++ [gripperPosition], isfinite value = true)
    "arm sample values must be finite"
  return ⟨jointPositions, gripperPosition, stampNs⟩

theorem RawArmSample.create_ok {jointPositions : List UInt64} {gripperPosition : UInt64}
    {stampNs : ℤ} {x : RawArmSample}
    (h : RawArmSample.create jointPositions gripperPosition stampNs = .ok x) :
    x = ⟨jointPositions, gripperPosition, stampNs⟩ := by
  obtain ⟨_, -, h⟩ := bind_eq_ok h
  obtain ⟨_, -, h⟩ := bind_eq_ok h
  obtain ⟨_, -, h⟩ := bind_eq_ok h
  cases h
  rfl

/-- `VlaObservationStep` -/
structure VlaObservationStep where
  /-- `cutoff_ns` -/
  cutoffNs : ℤ
  /-- `camera_left` -/
  cameraLeft : RgbFrame
  /-- `camera_overview` -/
  cameraOverview : RgbFrame
  /-- `camera_right` -/
  cameraRight : RgbFrame
  /-- `left_arm` -/
  leftArm : RawArmSample
  /-- `right_arm` -/
  rightArm : RawArmSample
  deriving DecidableEq

/-- `VlaObservationStep.__post_init__` -/
def VlaObservationStep.check (step : VlaObservationStep) : Except String VlaObservationStep := do
  require (0 ≤ step.cutoffNs ∧ ∀ stamp ∈ [step.cameraLeft.stampNs, step.cameraOverview.stampNs,
    step.cameraRight.stampNs, step.leftArm.stampNs, step.rightArm.stampNs], stamp ≤ step.cutoffNs)
    "observation source stamp exceeds cutoff"
  return step

theorem VlaObservationStep.check_ok {x y : VlaObservationStep} (h : x.check = .ok y) : y = x := by
  obtain ⟨_, -, h⟩ := bind_eq_ok h
  cases h
  rfl

/-- `Pi05Observation` -/
structure Pi05Observation where
  /-- `state` -/
  state : List UInt64
  /-- `camera_high` -/
  cameraHigh : RgbFrame
  /-- `camera_left_wrist` -/
  cameraLeftWrist : RgbFrame
  /-- `camera_right_wrist` -/
  cameraRightWrist : RgbFrame
  /-- `cutoff_ns` -/
  cutoffNs : ℤ
  deriving DecidableEq

/-- `Pi05Observation.__post_init__` -/
def Pi05Observation.check (observation : Pi05Observation) : Except String Pi05Observation := do
  require (observation.state.length = 14 ∧ ∀ value ∈ observation.state, isfinite value = true)
    "pi0.5 state must contain 14 finite values"
  require (0 ≤ observation.cutoffNs) "observation cutoff must not be negative"
  return observation

theorem Pi05Observation.check_ok {x y : Pi05Observation} (h : x.check = .ok y) : y = x := by
  obtain ⟨_, -, h⟩ := bind_eq_ok h
  obtain ⟨_, -, h⟩ := bind_eq_ok h
  cases h
  rfl

/-- `Pi05ObservationEncoder.encode`, with `GripperCalibration.normalize`. -/
def encode (normalize : UInt64 → Except String UInt64) (step : VlaObservationStep) :
    Except String Pi05Observation := do
  let leftGripper ← normalize step.leftArm.gripperPosition
  let rightGripper ← normalize step.rightArm.gripperPosition
  Pi05Observation.check
    { state := step.leftArm.jointPositions ++ [leftGripper] ++ step.rightArm.jointPositions ++
        [rightGripper]
      cameraHigh := step.cameraOverview
      cameraLeftWrist := step.cameraLeft
      cameraRightWrist := step.cameraRight
      cutoffNs := step.cutoffNs }

/-- The roles of the frames. -/
theorem encode_ok {normalize : UInt64 → Except String UInt64} {step : VlaObservationStep}
    {observation : Pi05Observation} (h : encode normalize step = .ok observation) :
    observation.cameraHigh = step.cameraOverview ∧
      observation.cameraLeftWrist = step.cameraLeft ∧
      observation.cameraRightWrist = step.cameraRight ∧
      ∃ left right, normalize step.leftArm.gripperPosition = .ok left ∧
        normalize step.rightArm.gripperPosition = .ok right ∧
        observation.state = step.leftArm.jointPositions ++ [left] ++ step.rightArm.jointPositions ++
          [right] := by
  obtain ⟨left, hleft, h⟩ := bind_eq_ok h
  obtain ⟨right, hright, h⟩ := bind_eq_ok h
  cases Pi05Observation.check_ok h
  exact ⟨rfl, rfl, rfl, left, right, hleft, hright, rfl⟩

end Observation

/-! ### The client -/

/-- `ObservationFailureCode` -/
inductive ObservationFailureCode
  | buffersNotReady
  | cameraSpanExceeded
  | snapshotStale
  | leftArmStale
  | rightArmStale
  deriving DecidableEq

/-- What `capture` raises. -/
inductive CaptureError
  /-- `ObservationUnavailableError` -/
  | unavailable (code : ObservationFailureCode) (observedNs limitNs : Option ℤ) (detail : String)
  /-- `RuntimeError` -/
  | runtimeError (text : String)
  /-- `ValueError` -/
  | valueError (text : String)
  /-- What the reader raises besides. -/
  | reader (err : SnapshotError)
  deriving DecidableEq

namespace LocalVlaSnapshotClient

open Observation

/-- `REPLY` -/
def reply : List Code := struct "<IIQqq"

/-- `FAILURE_CODES` -/
def failureCodes : List (ℕ × ObservationFailureCode) :=
  [(1, .buffersNotReady), (2, .cameraSpanExceeded), (3, .snapshotStale), (4, .leftArmStale),
    (5, .rightArmStale)]

/-- `_optional_ns` -/
def optionalNs (value : ℤ) : Option ℤ := if value < 0 then none else some value

/-- `_arm_sample`; seven values have been unpacked. -/
def armSample (values : List UInt64) (stampNs : ℤ) : Except String Observation.RawArmSample :=
  Observation.RawArmSample.create (values.take 6) (values.getD 6 0) stampNs

/-- The step of a sample. -/
def step (width height : ℕ) (sample : SnapshotArenaSample UInt64) :
    Except String VlaObservationStep := do
  let (leftData, overviewData, rightData) := sample.frames
  let (leftStamp, overviewStamp, rightStamp) := sample.cameraStampsNs
  let cameraLeft ← RgbFrame.create leftData leftStamp width height
  let cameraOverview ← RgbFrame.create overviewData overviewStamp width height
  let cameraRight ← RgbFrame.create rightData rightStamp width height
  let leftArm ← armSample sample.leftArm sample.armStampsNs.1
  let rightArm ← armSample sample.rightArm sample.armStampsNs.2
  VlaObservationStep.check
    { cutoffNs := sample.cutoffNs, cameraLeft, cameraOverview, cameraRight, leftArm, rightArm }

/-- `capture`, when `REPLY.size` bytes have been received. -/
def capture (r : SnapshotSharedMemoryReader) (file received : List UInt8) :
    Except CaptureError VlaObservationStep :=
  match unpackFrom reply received 0 with
  | .ok [.u32 status, .u32 slot, .u64 generation, .i64 observedNs, .i64 limitNs] =>
    if status ≠ 0 then
      match failureCodes.lookup status.toNat with
      | none => .error (.runtimeError s!"snapshot source returned unknown status {status.toNat}")
      | some code =>
        .error (.unavailable code (optionalNs observedNs.toInt) (optionalNs limitNs.toInt) "")
    else match r.read file slot.toNat generation.toNat with
      | .error (.arenaUnavailable text) => .error (.unavailable .buffersNotReady none none text)
      | .error err => .error (.reader err)
      | .ok sample => (step r.width r.height sample).mapError .valueError
  | _ => .error (.reader (.runtimeError "struct.error: unpack requires a buffer of 32 bytes"))

/-! ### What is captured -/

/-- The step that shows what was committed. -/
def committedStep (width height : ℕ) (a : CommitArguments) : VlaObservationStep where
  cutoffNs := a.cutoffNs.toInt
  cameraLeft := ⟨a.cameraLeft.data, stampNs a.cameraLeft.stamp, width, height⟩
  cameraOverview := ⟨a.cameraOverview.data, stampNs a.cameraOverview.stamp, width, height⟩
  cameraRight := ⟨a.cameraRight.data, stampNs a.cameraRight.stamp, width, height⟩
  leftArm := ⟨(List.finRange 6).map a.leftArm.jointPositions, a.leftArm.gripperPosition,
    stampNs a.leftArm.stamp⟩
  rightArm := ⟨(List.finRange 6).map a.rightArm.jointPositions, a.rightArm.gripperPosition,
    stampNs a.rightArm.stamp⟩

theorem step_ok {width height : ℕ} {a : CommitArguments} {x : VlaObservationStep}
    (h : step width height a.snapshot.sample = .ok x) : x = committedStep width height a := by
  obtain ⟨left, hleft, h⟩ := bind_eq_ok h
  obtain ⟨overview, hoverview, h⟩ := bind_eq_ok h
  obtain ⟨right, hright, h⟩ := bind_eq_ok h
  obtain ⟨leftArm, hleftArm, h⟩ := bind_eq_ok h
  obtain ⟨rightArm, hrightArm, h⟩ := bind_eq_ok h
  cases VlaObservationStep.check_ok h
  cases RgbFrame.create_ok hleft
  cases RgbFrame.create_ok hoverview
  cases RgbFrame.create_ok hright
  cases Observation.RawArmSample.create_ok hleftArm
  cases Observation.RawArmSample.create_ok hrightArm
  rfl

theorem packed_reply : packedLayout 0 reply = naturalLayout 0 SnapshotSocketReply.members := by
  decide

/-- A reply is received as it was sent. -/
theorem unpack_reply (x : SnapshotSocketReply) : unpackFrom reply x.bytes 0 = .ok x.items := by
  have hextent : (naturalLayout 0 SnapshotSocketReply.members).extent = 32 := by decide
  have hsize : structSize SnapshotSocketReply.members = 32 := by decide
  have hsorted : (naturalLayout 0 SnapshotSocketReply.members).Sorted := by decide
  have hroom : 0 + (naturalLayout 0 SnapshotSocketReply.members).extent ≤
      (List.replicate (structSize SnapshotSocketReply.members) (0 : UInt8)).length := by
    rw [List.length_replicate, hextent, hsize]
  have hfits : Fits (naturalLayout 0 SnapshotSocketReply.members) x.items := rfl
  refine SnapshotSharedMemoryReader.unpackFrom_of_holds packed_reply ?_
    (holds_pokeAll hsorted hroom hfits)
  have hcalc : calcsize reply = 32 := by decide
  rw [SnapshotSocketReply.bytes, length_pokeAll hroom hfits, List.length_replicate, hcalc, hsize]

end LocalVlaSnapshotClient

/-! ### The two sides -/

namespace SnapshotSharedMemoryWriter

/-- The writer after some commits, of which some may have thrown. -/
inductive Running (path : String) (width height : UInt32) : SnapshotSharedMemoryWriter → Prop
  | created {s : SnapshotSharedMemoryWriter} (h : create path width height = .ok s) :
    Running path width height s
  | committed {s : SnapshotSharedMemoryWriter} (a : CommitArguments)
    (h : Running path width height s) : Running path width height (s.commit a).2

theorem Running.valid {path : String} {width height : UInt32} {s : SnapshotSharedMemoryWriter}
    (haddr : Addressable width height) (h : Running path width height s) :
    Valid width height s := by
  induction h with
  | created h => exact create_valid haddr h
  | committed a _ ih => exact ih.commit haddr

theorem nextGeneration_even (s : SnapshotSharedMemoryWriter) : s.nextGeneration.toNat % 2 = 0 := by
  have htwo : (2 : UInt64).toNat = 2 := rfl
  rw [nextGeneration, UInt64.toNat_mul, htwo]
  omega

/-- The slot of a commit begins where the reader looks for it. -/
theorem Valid.nextBase_eq {width height : UInt32} {s : SnapshotSharedMemoryWriter}
    {r : SnapshotSharedMemoryReader} (haddr : Addressable width height) (hs : Valid width height s)
    (hwidth : r.width = width.toNat) (hheight : r.height = height.toNat) :
    s.nextBase = r.slotOffset s.nextSlot.toNat := by
  rw [nextBase, hs.dimensions.1, hs.dimensions.2, toNat_slotBase haddr s.nextSlot_lt,
    SnapshotSharedMemoryReader.slotOffset_eq, hwidth, hheight]

end SnapshotSharedMemoryWriter

open SnapshotSharedMemoryWriter (Running Descriptor FramesFit Addressable)

open LocalVlaSnapshotClient (capture committedStep)

/-- What the client makes of the arena after a commit. -/
structure CommitDecoded (width height : UInt32) (r : SnapshotSharedMemoryReader)
    (file : List UInt8) (d : Descriptor) (a : CommitArguments) : Prop where
  /-- The slot. -/
  slot : d.slot.toNat < slotCount
  /-- The header of the arena. -/
  header : unpackFrom SnapshotSharedMemoryReader.header file 0 =
    .ok [.chars SnapshotSharedMemoryReader.magic, .u32 width, .u32 height, .u32 3, .u32 2]
  /-- The header of the slot. -/
  metadata : unpackFrom SnapshotSharedMemoryReader.slotHeader file (r.slotOffset d.slot.toNat) =
    .ok (SnapshotSharedMemoryWriter.slotHeader d.generation a)
  /-- The first frame. -/
  left : slice file (r.payloadOffset d.slot.toNat) r.frameBytes = a.cameraLeft.data
  /-- The second frame. -/
  overview : slice file (r.payloadOffset d.slot.toNat + r.frameBytes) r.frameBytes =
    a.cameraOverview.data
  /-- The third frame. -/
  right : slice file (r.payloadOffset d.slot.toNat + r.frameBytes * 2) r.frameBytes =
    a.cameraRight.data
  /-- What `read` returns; it takes a generation that has wrapped for none. -/
  read : r.read file d.slot.toNat d.generation.toNat =
    if d.generation.toNat = 0 then .error (.arenaUnavailable "snapshot descriptor is invalid")
    else .ok a.snapshot.sample
  /-- What `capture` returns, if the step passes its checks. -/
  captured : d.generation.toNat ≠ 0 →
    capture r file (SnapshotSocketReply.committed d).bytes =
      (LocalVlaSnapshotClient.step r.width r.height a.snapshot.sample).mapError .valueError
  /-- The roles of the frames. -/
  roles : ∀ step, capture r file (SnapshotSocketReply.committed d).bytes = .ok step →
    step = committedStep r.width r.height a ∧
      ∀ normalize observation, Observation.encode normalize step = .ok observation →
        observation.cameraLeftWrist = step.cameraLeft ∧
        observation.cameraHigh = step.cameraOverview ∧
        observation.cameraRightWrist = step.cameraRight

/-- The layouts of the two sides agree. -/
structure LayoutsAgree (width height : UInt32) (r : SnapshotSharedMemoryReader) : Prop where
  /-- `arena_bytes` -/
  arenaBytes : (SnapshotSharedMemoryWriter.arenaBytes width height).toNat = r.arenaBytes
  /-- The headers and the frames are in the same places. -/
  regions : SnapshotSharedMemoryWriter.regions width height = r.regions
  /-- They do not overlap. -/
  apart : r.regions.Pairwise Apart
  /-- They lie in the arena. -/
  inside : ∀ region ∈ r.regions, region.1 + region.2 ≤ r.arenaBytes
  /-- A commit of frames that fit returns, and is decoded. -/
  commits : ∀ path s, Running path width height s → ∀ a, FramesFit width height a →
    ∃ d, (s.commit a).1 = .ok d ∧ CommitDecoded width height r (s.commit a).2.arena d a
  /-- A reply is received as it was sent. -/
  replies : ∀ x : SnapshotSocketReply, unpackFrom LocalVlaSnapshotClient.reply x.bytes 0 = .ok x.items

theorem commit_decoded {width height : UInt32} {r : SnapshotSharedMemoryReader}
    {s : SnapshotSharedMemoryWriter} {a : CommitArguments} (haddr : Addressable width height)
    (hwidth : r.width = width.toNat) (hheight : r.height = height.toNat)
    (hs : s.Valid width height) (hfit : FramesFit width height a) :
    CommitDecoded width height r (s.commit a).2.arena ⟨s.nextSlot, s.nextGeneration⟩ a := by
  have hs' := hs.commit (a := a) haddr
  have hstored := (hs.commit_stored haddr hfit).2
  rw [hs.nextBase_eq haddr hwidth hheight] at hstored
  have hframe : width.toNat * height.toNat * 3 = r.frameBytes := by
    rw [SnapshotSharedMemoryReader.frameBytes_eq, hwidth, hheight]
  have hpayload : r.slotOffset s.nextSlot.toNat + 192 = r.payloadOffset s.nextSlot.toNat := by
    rw [SnapshotSharedMemoryReader.payloadOffset, SnapshotSharedMemoryReader.calcsize_slotHeader]
  have hslot := s.nextSlot_lt
  have hread := SnapshotSharedMemoryReader.read_eq haddr hs' hstored hslot s.nextGeneration_even
    hwidth hheight
  have hroom : r.slotOffset s.nextSlot.toNat + calcsize SnapshotSharedMemoryReader.slotHeader ≤
      (s.commit a).2.arena.length := by
    have hbase := (hs.room haddr).2
    have hlength := (hs.commit_slice (a := a) haddr 0 0 (.inl (Nat.zero_le _))).1
    rw [hs.nextBase_eq haddr hwidth hheight] at hbase
    rw [SnapshotSharedMemoryReader.calcsize_slotHeader]
    omega
  have hcaptured : s.nextGeneration.toNat ≠ 0 →
      capture r (s.commit a).2.arena
        (SnapshotSocketReply.committed ⟨s.nextSlot, s.nextGeneration⟩).bytes =
        (LocalVlaSnapshotClient.step r.width r.height a.snapshot.sample).mapError .valueError := by
    intro hgen
    rw [if_neg hgen] at hread
    unfold capture
    rw [LocalVlaSnapshotClient.unpack_reply]
    simp only [SnapshotSocketReply.items, SnapshotSocketReply.committed, ne_eq, not_true_eq_false,
      if_false, hread]
  refine ⟨hslot, SnapshotSharedMemoryReader.unpack_header haddr hs',
    SnapshotSharedMemoryReader.unpackFrom_of_holds SnapshotSharedMemoryReader.packed_slotHeader
      hroom hstored.header, ?_, ?_, ?_, hread, hcaptured, ?_⟩
  · rw [← hpayload, ← hframe]
    exact hstored.left
  · rw [← hpayload, ← hframe]
    exact hstored.overview
  · rw [← hpayload, ← hframe]
    exact hstored.right
  · intro step hstep
    by_cases hgen : s.nextGeneration.toNat = 0
    · -- nothing is read
      rw [if_pos hgen] at hread
      unfold capture at hstep
      rw [LocalVlaSnapshotClient.unpack_reply] at hstep
      simp only [SnapshotSocketReply.items, SnapshotSocketReply.committed, ne_eq,
        not_true_eq_false, if_false, hread] at hstep
      cases hstep
    · rw [hcaptured hgen] at hstep
      cases hresult : LocalVlaSnapshotClient.step r.width r.height a.snapshot.sample with
      | error text =>
        rw [hresult] at hstep
        cases hstep
      | ok x =>
        rw [hresult] at hstep
        cases hstep
        refine ⟨LocalVlaSnapshotClient.step_ok hresult, fun normalize observation hencode => ?_⟩
        obtain ⟨hhigh, hleft, hright, -⟩ := Observation.encode_ok hencode
        exact ⟨hleft, hhigh, hright⟩

end DualCollection
