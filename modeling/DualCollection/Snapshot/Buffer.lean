import DualCollection.Snapshot.Messages
import DualCollection.Snapshot.Nearest

/-!
# The snapshot buffer

`SnapshotBuffer` of `snapshot_buffer.cpp`: the latest images of three cameras and the latest states
of two arms, and the choice of a snapshot among them.
-/

namespace DualCollection

open Search

/-- `FailureCode` -/
inductive FailureCode
  | none
  | buffersNotReady
  | cameraSpanExceeded
  | snapshotStale
  | leftArmStale
  | rightArmStale
  deriving DecidableEq

/-- `SnapshotConstraints` -/
structure SnapshotConstraints where
  /-- `max_camera_span_ns` -/
  maxCameraSpanNs : ℤ := 40000000
  /-- `max_arm_age_ns` -/
  maxArmAgeNs : ℤ := 2000000
  /-- `max_snapshot_age_ns` -/
  maxSnapshotAgeNs : ℤ := 100000000

/-- `SelectionFailure` -/
structure SelectionFailure where
  /-- `code` -/
  code : FailureCode := .none
  /-- `observed_ns` -/
  observedNs : ℤ := -1
  /-- `limit_ns` -/
  limitNs : ℤ := -1
  /-- `detail` -/
  detail : String := ""

variable (D : Type) in
/-- `SelectionResult` -/
structure SelectionResult where
  /-- `snapshot` -/
  snapshot : Option (VlaSnapshot D)
  /-- `failure` -/
  failure : SelectionFailure

/-- `CameraGroup` -/
structure CameraGroup where
  /-- `left` -/
  left : Image
  /-- `overview` -/
  overview : Image
  /-- `right` -/
  right : Image
  /-- `cutoff_ns` -/
  cutoffNs : ℤ
  /-- `span_ns` -/
  spanNs : ℤ

/-- The image of a camera. -/
def CameraGroup.camera (g : CameraGroup) : Camera → Image
  | .left => g.left
  | .overview => g.overview
  | .right => g.right

/-- When an image was taken. -/
def Image.ns (image : Image) : ℤ := stampNs image.stamp

/-- When a state was read. -/
def ArmState.ns {D : Type} (arm : ArmState D) : ℤ := stampNs arm.stamp

variable (D : Type) in
/-- `SnapshotBuffer` -/
structure SnapshotBuffer where
  /-- `camera_history_size_` -/
  cameraHistorySize : ℕ
  /-- `arm_history_size_` -/
  armHistorySize : ℕ
  /-- `camera_left_`, `camera_overview_` and `camera_right_` -/
  camera : Camera → List Image := fun _ => []
  /-- `left_arm_` and `right_arm_` -/
  arm : Side → List (ArmState D) := fun _ => []

namespace SnapshotBuffer

variable {D : Type}

/-- The constructor. -/
def create (cameraHistorySize armHistorySize : ℕ) : Except String (SnapshotBuffer D) :=
  if cameraHistorySize < 2 ∨ armHistorySize = 0 then .error "snapshot history sizes are invalid"
  else .ok { cameraHistorySize, armHistorySize }

/-- The loop of `push`. -/
def popFront {M : Type} (limit : ℕ) : List M → List M
  | [] => []
  | m :: messages => if (m :: messages).length > limit then popFront limit messages else m :: messages

/-- `push` -/
def push {M : Type} (target : List M) (message : Option M) (limit : ℕ) : Except String (List M) :=
  match message with
  | none => .error "snapshot message must not be null"
  | some m => .ok (popFront limit (target ++ [m]))

variable (b : SnapshotBuffer D)

/-- `add_camera_left`, `add_camera_overview` and `add_camera_right` -/
def addCamera (camera : Camera) (message : Option Image) : Except String (SnapshotBuffer D) := do
  let messages ← push (b.camera camera) message b.cameraHistorySize
  pure { b with camera := Function.update b.camera camera messages }

/-- `add_left_arm` and `add_right_arm` -/
def addArm (side : Side) (message : Option (ArmState D)) : Except String (SnapshotBuffer D) := do
  let messages ← push (b.arm side) message b.armHistorySize
  pure { b with arm := Function.update b.arm side messages }

/-- The names of the empty buffers. -/
def missing : List String :=
  (if b.camera .left = [] then ["camera_left"] else []) ++
  (if b.camera .overview = [] then ["camera_overview"] else []) ++
  (if b.camera .right = [] then ["camera_right"] else []) ++
  (if (b.arm .left).isEmpty then ["left_arm"] else []) ++
  (if (b.arm .right).isEmpty then ["right_arm"] else [])

variable (nowNs : ℤ) (constraints : SnapshotConstraints)

/-- The images of the other cameras that are nearest to an overview image. -/
def group (overview : Image) : Option CameraGroup := do
  let left ← nearestNotAfter Image.ns overview.ns nowNs (b.camera .left)
  let right ← nearestNotAfter Image.ns overview.ns nowNs (b.camera .right)
  let cutoffNs := max (max left.ns overview.ns) right.ns
  let oldestNs := min (min left.ns overview.ns) right.ns
  pure ⟨left, overview, right, cutoffNs, cutoffNs - oldestNs⟩

/-- The local variables of the first loop of `select`. -/
structure Fresh where
  /-- `fresh_groups` -/
  freshGroups : List CameraGroup := []
  /-- `newest_age_ns` -/
  newestAgeNs : ℤ := int64Min

/-- A round of the first loop of `select`. -/
def freshStep (f : Fresh) (overview : Image) : Fresh :=
  match b.group nowNs overview with
  | none => f
  | some g =>
    let ageNs := nowNs - g.cutoffNs
    let f := if f.newestAgeNs = int64Min then { f with newestAgeNs := ageNs } else f
    if ageNs < 0 ∨ ageNs > constraints.maxSnapshotAgeNs then f
    else { f with freshGroups := f.freshGroups ++ [g] }

/-- The local variables of the second loop of `select`. -/
structure Aligned where
  /-- `aligned_groups` -/
  alignedGroups : List CameraGroup := []
  /-- `minimum_span_ns` -/
  minimumSpanNs : ℤ := int64Max

/-- A round of the second loop of `select`. -/
def alignedStep (a : Aligned) (g : CameraGroup) : Aligned :=
  let a := { a with minimumSpanNs := min a.minimumSpanNs g.spanNs }
  if g.spanNs ≤ constraints.maxCameraSpanNs then { a with alignedGroups := a.alignedGroups ++ [g] }
  else a

/-- The failure is kept if it is the first. -/
def firstFailure (armFailure failure : SelectionFailure) : SelectionFailure :=
  if armFailure.code = .none then failure else armFailure

/-- The code of a stale arm. -/
def armStale : Side → FailureCode
  | .left => .leftArmStale
  | .right => .rightArmStale

/-- The state of an arm for a group of images. -/
def armState (g : CameraGroup) (side : Side) : Except SelectionFailure (ArmState D) :=
  match latestNotAfter ArmState.ns (b.arm side) g.cutoffNs with
  | none => .error ⟨armStale side, -1, constraints.maxArmAgeNs, "no state at or before camera cutoff"⟩
  | some arm =>
    let ageNs := g.cutoffNs - arm.ns
    if ageNs > constraints.maxArmAgeNs then
      .error ⟨armStale side, ageNs, constraints.maxArmAgeNs, ""⟩
    else .ok arm

/-- The states of the two arms for a group of images. -/
def armStates (g : CameraGroup) : Except SelectionFailure (Side → ArmState D) := do
  let left ← b.armState constraints g .left
  let right ← b.armState constraints g .right
  pure fun
    | .left => left
    | .right => right

/-- The third loop of `select`. -/
def selectArms : List CameraGroup → SelectionFailure → SelectionResult D
  | [], armFailure => ⟨none, armFailure⟩
  | g :: groups, armFailure => match b.armStates constraints g with
    | .error failure => selectArms groups (firstFailure armFailure failure)
    | .ok arm => ⟨some ⟨g.camera, arm, g.cutoffNs⟩, {}⟩

/-- `select` -/
def select : Except String (SelectionResult D) :=
  if constraints.maxCameraSpanNs ≤ 0 ∨ constraints.maxArmAgeNs ≤ 0 ∨
      constraints.maxSnapshotAgeNs ≤ 0 then
    .error "snapshot timing limits must be positive"
  else if b.missing ≠ [] then
    .ok ⟨none, ⟨.buffersNotReady, -1, -1, "missing=" ++ ",".intercalate b.missing⟩⟩
  else
    let f := (b.camera .overview).reverse.foldl (b.freshStep nowNs constraints) {}
    if f.freshGroups = [] then
      .ok ⟨none, ⟨.snapshotStale, f.newestAgeNs, constraints.maxSnapshotAgeNs, ""⟩⟩
    else
      let a := f.freshGroups.foldl (alignedStep constraints) {}
      if a.alignedGroups = [] then
        .ok ⟨none, ⟨.cameraSpanExceeded, a.minimumSpanNs, constraints.maxCameraSpanNs, ""⟩⟩
      else .ok (b.selectArms constraints a.alignedGroups {})

end SnapshotBuffer

end DualCollection
