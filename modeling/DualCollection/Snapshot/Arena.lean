import DualCollection.Snapshot.Messages
import DualCollection.Thread.Prog
import DualCollection.Thread.Seqlock

/-!
# The snapshot arena

`SnapshotSharedMemoryWriter` of `snapshot_shared_memory_writer.cpp` and
`SnapshotSharedMemoryReader` of `snapshot_shared_memory.py`: two processes that share two slots.

A field of the header of a slot is loaded and stored by one section, and so is a frame; the
generation is the version of the slot.  The sections of a `commit` are executed in the order of the
source, and `unpack_from` loads the fields from the first to the last.
-/

namespace DualCollection

open Thread

/-- The exceptions of the snapshot. -/
inductive SnapshotError
  /-- `OSError`, of which `TimeoutError` and `ConnectionError` are subclasses. -/
  | osError (text : String)
  /-- `SnapshotArenaUnavailableError` -/
  | arenaUnavailable (text : String)
  /-- `std::invalid_argument` -/
  | invalidArgument (text : String)
  /-- `RuntimeError`, `std::logic_error` and `std::runtime_error` -/
  | runtimeError (text : String)
  deriving DecidableEq

/-! ### The layout -/

/-- `SLOT_COUNT` -/
def slotCount : ℕ := 2

/-- `CHANNELS` -/
def channels : ℕ := 3

/-- The times in the header of a slot. -/
inductive NsField
  | cutoffNs
  | cameraNs (camera : Camera)
  | armNs (side : Side)
  deriving DecidableEq

/-- What is stored in a slot besides the generation. -/
inductive ArenaCell
  | ns (field : NsField)
  | joint (side : Side) (index : Fin 7)
  | frame (camera : Camera)
  deriving DecidableEq

variable (D : Type) in
/-- What is stored in a cell. -/
abbrev ArenaCell.Value : ArenaCell → Type
  | .ns _ => ℤ
  | .joint _ _ => D
  | .frame _ => List UInt8

/-- `ArenaHeader` -/
structure ArenaHeader where
  /-- `magic` -/
  magic : String
  /-- `width` -/
  width : ℕ
  /-- `height` -/
  height : ℕ
  /-- `channels` -/
  channels : ℕ
  /-- `slot_count` -/
  slotCount : ℕ
  deriving DecidableEq

/-- `frame_bytes` -/
def frameBytes (width height : ℕ) : ℕ := width * height * channels

/-- `arena_bytes` -/
def arenaBytes (width height : ℕ) : ℕ := 64 + slotCount * (192 + frameBytes width height * 3)

/-- The header that the writer stores and the reader expects. -/
def ArenaHeader.of (width height : ℕ) : ArenaHeader where
  magic := "ARX5RGB1"
  width
  height
  channels := DualCollection.channels
  slotCount := DualCollection.slotCount

/-- The states of the seven joints of an arm: those of the joints, and that of the gripper. -/
def ArmState.joint {D : Type} (arm : ArmState D) (index : Fin 7) : D :=
  if h : index.val < 6 then arm.jointPositions ⟨index, h⟩ else arm.gripperPosition

/-- What a commit stores. -/
def VlaSnapshot.cell {D : Type} (x : VlaSnapshot D) : ∀ i : ArenaCell, i.Value D
  | .ns .cutoffNs => x.cutoffNs
  | .ns (.cameraNs camera) => stampNs (x.camera camera).stamp
  | .ns (.armNs side) => stampNs (x.arm side).stamp
  | .joint side index => (x.arm side).joint index
  | .frame camera => (x.camera camera).data

theorem slotOf_lt (sequence : ℕ) : sequence % slotCount < slotCount := Nat.mod_lt _ Nat.two_pos

/-- The slot of a sequence number. -/
def slotOf (sequence : ℕ) : Fin slotCount := ⟨sequence % slotCount, slotOf_lt sequence⟩

/-- What `read` rejects. -/
def InvalidDescriptor (slot generation : ℤ) : Prop :=
  slot < 0 ∨ slot ≥ slotCount ∨ generation ≤ 0 ∨ generation % 2 ≠ 0

instance (slot generation : ℤ) : Decidable (InvalidDescriptor slot generation) :=
  inferInstanceAs (Decidable (slot < 0 ∨ slot ≥ slotCount ∨ generation ≤ 0 ∨ generation % 2 ≠ 0))

theorem slot_lt {slot generation : ℤ} (h : ¬ InvalidDescriptor slot generation) :
    slot.toNat < slotCount := by
  unfold InvalidDescriptor at h
  omega

/-- `SnapshotDescriptor` -/
structure SnapshotDescriptor where
  /-- `slot` -/
  slot : Fin slotCount
  /-- `generation` -/
  generation : ℕ
  deriving DecidableEq

/-- `SnapshotArenaSample` -/
structure SnapshotArenaSample (D : Type) where
  /-- `cutoff_ns` -/
  cutoffNs : ℤ
  /-- `camera_stamps_ns` -/
  cameraStampsNs : ℤ × ℤ × ℤ
  /-- `arm_stamps_ns` -/
  armStampsNs : ℤ × ℤ
  /-- `left_arm` -/
  leftArm : List D
  /-- `right_arm` -/
  rightArm : List D
  /-- `frames` -/
  frames : List UInt8 × List UInt8 × List UInt8

/-- What a reader should return. -/
def VlaSnapshot.sample {D : Type} (x : VlaSnapshot D) : SnapshotArenaSample D where
  cutoffNs := x.cutoffNs
  cameraStampsNs := (stampNs (x.camera .left).stamp, stampNs (x.camera .overview).stamp,
    stampNs (x.camera .right).stamp)
  armStampsNs := (stampNs (x.arm .left).stamp, stampNs (x.arm .right).stamp)
  leftArm := (List.finRange 7).map (x.arm .left).joint
  rightArm := (List.finRange 7).map (x.arm .right).joint
  frames := ((x.camera .left).data, (x.camera .overview).data, (x.camera .right).data)

/-! ### The shared state -/

variable (D : Type) in
/-- The arena, and the attributes of the two processes. -/
structure Arena where
  /-- The size of the arena. -/
  bytes : ℕ
  /-- The header. -/
  header : ArenaHeader
  /-- The slots. -/
  slots : Fin slotCount → Slot ArenaCell (ArenaCell.Value D)
  /-- `sequence_` of the writer. -/
  sequence : ℕ := 0
  /-- `_mapping` of the reader is not `None`. -/
  mapped : Bool := false
  /-- What the calls of `commit` have returned, and what they were called with. -/
  committed : List (SnapshotDescriptor × VlaSnapshot D) := []
  /-- What the calls of `read` have returned, and what they were called with. -/
  returned : List (ℤ × ℤ × SnapshotArenaSample D) := []

/-- The values of an arena that was cleared. -/
def clearedCell {D : Type} [Zero D] (frameBytes : ℕ) : ∀ i : ArenaCell, i.Value D
  | .ns _ => (0 : ℤ)
  | .joint _ _ => (0 : D)
  | .frame _ => List.replicate frameBytes (0 : UInt8)

/-- The constructor of `SnapshotSharedMemoryWriter`. -/
def Arena.create (D : Type) [Zero D] (path : String) (width height : UInt32) :
    Except SnapshotError (Arena D) :=
  if path = "" ∨ width = 0 ∨ height = 0 then
    .error (.invalidArgument "snapshot arena path and dimensions are required")
  else .ok
    { bytes := arenaBytes width.toNat height.toNat
      header := .of width.toNat height.toNat
      slots := fun _ => ⟨0, clearedCell (frameBytes width.toNat height.toNat)⟩ }

/-- The sections of the two processes. -/
inductive ArenaSection
  | nextSequence
  | storeGeneration (slot : Fin slotCount)
  | store (slot : Fin slotCount) (cell : ArenaCell)
  | publish (slot : Fin slotCount)
  | openArena
  | loadGeneration (slot : Fin slotCount)
  | load (slot : Fin slotCount) (cell : ArenaCell)
  | record
  deriving DecidableEq

/-- A program of one of the processes; the operating system may refuse to open the arena. -/
abbrev ArenaProg (D α : Type) := Prog ArenaSection (Option SnapshotError) (Arena D) SnapshotError α

namespace Arena

variable {D : Type}

/-! ### The writer -/

/-- `++sequence_` -/
def nextSequence : ArenaProg D ℕ :=
  .atomic .nextSequence fun _ s =>
    let sequence := (s.sequence + 1) % 2 ^ 64
    (.ok sequence, { s with sequence })

/-- `__atomic_store_n(&slot_header->generation, generation | 1, __ATOMIC_SEQ_CST)` -/
def storeGeneration (slot : Fin slotCount) (generation : ℕ) : ArenaProg D Unit :=
  .atomic (.storeGeneration slot) fun _ s =>
    (.ok (), { s with slots := setVersion s.slots slot generation })

/-- Store a field or a frame. -/
def store (slot : Fin slotCount) (cell : ArenaCell) (value : cell.Value D) : ArenaProg D Unit :=
  .atomic (.store slot cell) fun _ s => (.ok (), { s with slots := setCell s.slots slot cell value })

/-- Store one after the other. -/
def storeAll (slot : Fin slotCount) (value : ∀ i : ArenaCell, i.Value D) :
    List ArenaCell → ArenaProg D Unit
  | [] => pure ()
  | cell :: cells => do
    store slot cell (value cell)
    storeAll slot value cells

/-- The fields of the header of a slot. -/
def headerCells : List ArenaCell :=
  [.ns .cutoffNs, .ns (.cameraNs .left), .ns (.cameraNs .overview), .ns (.cameraNs .right),
    .ns (.armNs .left), .ns (.armNs .right)] ++
  (List.finRange 7).map (.joint .left) ++ (List.finRange 7).map (.joint .right)

/-- The frame has the layout of the arena. -/
def FrameFits (width height : UInt32) (image : Image) : Prop :=
  image.encoding = "rgb8" ∧ image.width = width ∧ image.height = height ∧
    image.step = width * channels.toUInt32 ∧
    image.data.length = frameBytes width.toNat height.toNat

instance (width height : UInt32) : DecidablePred (FrameFits width height) := fun image =>
  inferInstanceAs (Decidable (image.encoding = "rgb8" ∧ image.width = width ∧
    image.height = height ∧ image.step = width * channels.toUInt32 ∧
    image.data.length = frameBytes width.toNat height.toNat))

/-- `copy_frame` -/
def copyFrame (width height : UInt32) (slot : Fin slotCount) (camera : Camera) (image : Image) :
    ArenaProg D Unit :=
  if ¬ FrameFits width height image then
    .raise (.invalidArgument "snapshot RGB frame does not match the arena layout")
  else store slot (.frame camera) image.data

/-- The last store of a commit, after which the call returns. -/
def publish (descriptor : SnapshotDescriptor) (x : VlaSnapshot D) : ArenaProg D SnapshotDescriptor :=
  .atomic (.publish descriptor.slot) fun _ s => (.ok descriptor,
    { s with
      slots := setVersion s.slots descriptor.slot descriptor.generation
      committed := (descriptor, x) :: s.committed })

/-- `commit` -/
def commit (width height : UInt32) (x : VlaSnapshot D) : ArenaProg D SnapshotDescriptor := do
  let sequence ← nextSequence
  let generation := sequence * 2 % 2 ^ 64
  let slot := slotOf sequence
  storeGeneration slot (generation ||| 1)
  storeAll slot x.cell headerCells
  copyFrame width height slot .left (x.camera .left)
  copyFrame width height slot .overview (x.camera .overview)
  copyFrame width height slot .right (x.camera .right)
  publish ⟨slot, generation⟩ x

/-! ### The reader -/

/-- `_open` -/
def openArena (width height : ℕ) : ArenaProg D Unit :=
  .atomic .openArena fun refused s =>
    if s.mapped = true then (.ok (), s)
    else match refused with
      | some err => (.error err, s)
      | none =>
        if s.bytes ≠ arenaBytes width height then
          (.error (.arenaUnavailable "snapshot arena size is invalid"), s)
        else if s.header ≠ .of width height then
          (.error (.arenaUnavailable "snapshot arena header is invalid"), s)
        else (.ok (), { s with mapped := true })

/-- Load the generation. -/
def loadGeneration (slot : Fin slotCount) : ArenaProg D ℕ :=
  .atomic (.loadGeneration slot) fun _ s => (.ok (s.slots slot).version, s)

/-- Load a field or a frame. -/
def load (slot : Fin slotCount) (cell : ArenaCell) : ArenaProg D (cell.Value D) :=
  .atomic (.load slot cell) fun _ s => (.ok ((s.slots slot).cell cell), s)

/-- Load the states of joints of an arm. -/
def loadJoints (slot : Fin slotCount) (side : Side) : List (Fin 7) → ArenaProg D (List D)
  | [] => pure []
  | index :: indices => do
    let value ← load slot (.joint side index)
    let values ← loadJoints slot side indices
    pure (value :: values)

/-- The tuple that `SLOT_HEADER.unpack_from` returns. -/
structure SlotHeader (D : Type) where
  /-- `metadata[0]` -/
  generation : ℕ
  /-- `metadata[1]` -/
  cutoffNs : ℤ
  /-- `metadata[2:5]` -/
  cameraStampsNs : ℤ × ℤ × ℤ
  /-- `metadata[5:7]` -/
  armStampsNs : ℤ × ℤ
  /-- `metadata[7:14]` -/
  leftArm : List D
  /-- `metadata[14:21]` -/
  rightArm : List D

/-- `SLOT_HEADER.unpack_from` -/
def unpackHeader (slot : Fin slotCount) : ArenaProg D (SlotHeader D) := do
  let generation ← loadGeneration slot
  let cutoffNs ← load slot (.ns .cutoffNs)
  let leftNs ← load slot (.ns (.cameraNs .left))
  let overviewNs ← load slot (.ns (.cameraNs .overview))
  let rightNs ← load slot (.ns (.cameraNs .right))
  let leftArmNs ← load slot (.ns (.armNs .left))
  let rightArmNs ← load slot (.ns (.armNs .right))
  let leftArm ← loadJoints slot .left (List.finRange 7)
  let rightArm ← loadJoints slot .right (List.finRange 7)
  pure ⟨generation, cutoffNs, (leftNs, overviewNs, rightNs), (leftArmNs, rightArmNs), leftArm,
    rightArm⟩

/-- `bytes(mapping[payload_offset : payload_offset + self.frame_bytes * 3])` -/
def loadPayload (slot : Fin slotCount) : ArenaProg D (List UInt8) := do
  let left ← load slot (.frame .left)
  let overview ← load slot (.frame .overview)
  let right ← load slot (.frame .right)
  pure (left ++ overview ++ right)

/-- `read` -/
def read (width height : ℕ) (slot generation : ℤ) : ArenaProg D (SnapshotArenaSample D) :=
  if h : InvalidDescriptor slot generation then
    .raise (.arenaUnavailable "snapshot descriptor is invalid")
  else do
    let slot : Fin slotCount := ⟨slot.toNat, slot_lt h⟩
    openArena width height
    let metadata ← unpackHeader slot
    if (metadata.generation : ℤ) ≠ generation then
      .raise (.arenaUnavailable "snapshot slot was replaced before read")
    else do
      let payload ← loadPayload slot
      let after ← unpackHeader slot
      if (after.generation : ℤ) ≠ generation then
        .raise (.arenaUnavailable "snapshot slot changed during read")
      else
        let n := frameBytes width height
        pure
          { cutoffNs := metadata.cutoffNs
            cameraStampsNs := metadata.cameraStampsNs
            armStampsNs := metadata.armStampsNs
            leftArm := metadata.leftArm
            rightArm := metadata.rightArm
            frames := (payload.take n, (payload.drop n).take n, payload.drop (n * 2)) }

end Arena

end DualCollection
