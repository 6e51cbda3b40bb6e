import DualCollection.Bytes.Layout
import DualCollection.Snapshot.Arena

/-!
# The bytes of a snapshot

`SnapshotSharedMemoryWriter` of `snapshot_shared_memory_writer.cpp` stores structures of C++, and
`SnapshotSharedMemoryReader` of `snapshot_shared_memory.py` and `LocalVlaSnapshotClient` of
`local_snapshot.py` unpack them with formats of `struct`.  Here both work on the same bytes, one
after the other; that they work at the same time is the subject of `Snapshot.Arena`.

Sizes and offsets are `std::size_t` for the writer, hence of 64 bits, and unbounded for the reader.
`MultiD405Source` accepts only dimensions for which this makes no difference
(`sourceAccepts_addressable`).

A double is given by its bits.
-/

namespace DualCollection

open Bytes

/-! ### The writer -/

/-- `SnapshotSharedMemoryWriter` -/
structure SnapshotSharedMemoryWriter where
  /-- `width_` -/
  width : UInt32
  /-- `height_` -/
  height : UInt32
  /-- What `arena_` points to. -/
  arena : List UInt8
  /-- `sequence_` -/
  sequence : UInt64 := 0

/-- What `commit` is called with. -/
structure CommitArguments where
  /-- `camera_left` -/
  cameraLeft : Image
  /-- `camera_overview` -/
  cameraOverview : Image
  /-- `camera_right` -/
  cameraRight : Image
  /-- `left_arm` -/
  leftArm : ArmState UInt64
  /-- `right_arm` -/
  rightArm : ArmState UInt64
  /-- `cutoff_ns` -/
  cutoffNs : Int64

namespace SnapshotSharedMemoryWriter

/-- `kMagic` -/
def kMagic : List UInt8 := "ARX5RGB1".toList.map Char.toUInt8

/-- `kChannels` -/
def kChannels : UInt32 := 3

/-- `kSlotCount` -/
def kSlotCount : UInt32 := 2

/-- The members of `ArenaHeader`. -/
def arenaHeaderMembers : List Scalar := [.chars 8, .u32, .u32, .u32, .u32, .chars 40]

/-- The members of `SlotHeader`; an array is laid out as its elements. -/
def slotHeaderMembers : List Scalar :=
  .u64 :: List.replicate 6 .i64 ++ List.replicate 7 .f64 ++ List.replicate 7 .f64 ++ [.chars 24]

/-- `sizeof(ArenaHeader)` -/
def sizeofArenaHeader : UInt64 := UInt64.ofNat (structSize arenaHeaderMembers)

/-- `sizeof(SlotHeader)` -/
def sizeofSlotHeader : UInt64 := UInt64.ofNat (structSize slotHeaderMembers)

/-- The members of `ArenaHeader` that are stored: all but `reserved`. -/
def arenaHeaderLayout : Layout := (naturalLayout 0 arenaHeaderMembers).dropLast

/-- The members of `SlotHeader` that are stored: all but `reserved`. -/
def slotHeaderLayout : Layout := (naturalLayout 0 slotHeaderMembers).dropLast

/-- `frame_bytes_` -/
def frameBytes (width height : UInt32) : UInt64 :=
  width.toUInt64 * height.toUInt64 * kChannels.toUInt64

/-- `slot_stride_` -/
def slotStride (width height : UInt32) : UInt64 := sizeofSlotHeader + frameBytes width height * 3

/-- `arena_bytes_` -/
def arenaBytes (width height : UInt32) : UInt64 :=
  sizeofArenaHeader + kSlotCount.toUInt64 * slotStride width height

/-- What is stored in the header of the arena. -/
def arenaHeader (width height : UInt32) : List Item :=
  [.chars kMagic, .u32 width, .u32 height, .u32 kChannels, .u32 kSlotCount]

/-- The constructor; the operating system may refuse to create the arena. -/
def create (path : String) (width height : UInt32) :
    Except SnapshotError SnapshotSharedMemoryWriter :=
  if path = "" ∨ width = 0 ∨ height = 0 then
    .error (.invalidArgument "snapshot arena path and dimensions are required")
  else
    let cleared := List.replicate (arenaBytes width height).toNat 0
    .ok ⟨width, height, pokeAll cleared 0 arenaHeaderLayout (arenaHeader width height), 0⟩

/-- `SnapshotDescriptor` -/
structure Descriptor where
  /-- `slot` -/
  slot : UInt32
  /-- `generation` -/
  generation : UInt64
  deriving DecidableEq

/-- `stamp_ns` -/
def stamp (time : Time) : Item := .i64 (Int64.ofInt (stampNs time))

/-- What is stored in the header of a slot. -/
def slotHeader (generation : UInt64) (a : CommitArguments) : List Item :=
  [.u64 generation, .i64 a.cutoffNs, stamp a.cameraLeft.stamp, stamp a.cameraOverview.stamp,
    stamp a.cameraRight.stamp, stamp a.leftArm.stamp, stamp a.rightArm.stamp] ++
  (List.finRange 7).map (fun k => .f64 (a.leftArm.joint k)) ++
  (List.finRange 7).map (fun k => .f64 (a.rightArm.joint k))

/-- `slot_base` -/
def slotBase (width height : UInt32) (slot : UInt32) : UInt64 :=
  sizeofArenaHeader + slot.toUInt64 * slotStride width height

/-- `payload` -/
def payload (width height : UInt32) (slot : UInt32) : UInt64 :=
  slotBase width height slot + sizeofSlotHeader

/-- What `copy_frame` accepts. -/
def FrameFits (width height : UInt32) (image : Image) : Prop :=
  image.encoding = "rgb8" ∧ image.width = width ∧ image.height = height ∧
    image.step = width * kChannels ∧ image.data.length = (frameBytes width height).toNat

instance (width height : UInt32) : DecidablePred (FrameFits width height) := fun image =>
  inferInstanceAs (Decidable (image.encoding = "rgb8" ∧ image.width = width ∧
    image.height = height ∧ image.step = width * kChannels ∧
    image.data.length = (frameBytes width height).toNat))

/-- The calls of `copy_frame`, up to the first that throws. -/
def copyFrames (s : SnapshotSharedMemoryWriter) :
    List (Image × UInt64) → Except SnapshotError Unit × SnapshotSharedMemoryWriter
  | [] => (.ok (), s)
  | (image, destination) :: rest =>
    if ¬ FrameFits s.width s.height image then
      (.error (.invalidArgument "snapshot RGB frame does not match the arena layout"), s)
    else { s with arena := poke s.arena destination.toNat image.data }.copyFrames rest

/-- `commit`, and what the arena holds when it returns or throws. -/
def commit (s : SnapshotSharedMemoryWriter) (a : CommitArguments) :
    Except SnapshotError Descriptor × SnapshotSharedMemoryWriter :=
  let sequence := s.sequence + 1
  let generation := sequence * 2
  let slot := (sequence % kSlotCount.toUInt64).toUInt32
  let base := slotBase s.width s.height slot
  let payload := payload s.width s.height slot
  let frame := frameBytes s.width s.height
  let stored := { s with
    sequence
    arena := pokeAll s.arena base.toNat slotHeaderLayout (slotHeader (generation ||| 1) a) }
  match stored.copyFrames [(a.cameraLeft, payload), (a.cameraOverview, payload + frame),
      (a.cameraRight, payload + frame * 2)] with
  | (.error err, s) => (.error err, s)
  | (.ok (), s) =>
    (.ok ⟨slot, generation⟩,
      { s with arena := poke s.arena base.toNat (Item.u64 generation).memory })

end SnapshotSharedMemoryWriter

/-- `SnapshotSocketReply` -/
structure SnapshotSocketReply where
  /-- `status` -/
  status : UInt32
  /-- `slot` -/
  slot : UInt32
  /-- `generation` -/
  generation : UInt64
  /-- `observed_ns` -/
  observedNs : Int64
  /-- `limit_ns` -/
  limitNs : Int64
  deriving DecidableEq

namespace SnapshotSocketReply

/-- The members. -/
def members : List Scalar := [.u32, .u32, .u64, .i64, .i64]

/-- The values of the members. -/
def items (r : SnapshotSocketReply) : List Item :=
  [.u32 r.status, .u32 r.slot, .u64 r.generation, .i64 r.observedNs, .i64 r.limitNs]

/-- What `serve` sends. -/
def bytes (r : SnapshotSocketReply) : List UInt8 :=
  pokeAll (List.replicate (structSize members) 0) 0 (naturalLayout 0 members) r.items

/-- The reply of `capture_snapshot` after a commit. -/
def committed (d : SnapshotSharedMemoryWriter.Descriptor) : SnapshotSocketReply :=
  ⟨0, d.slot, d.generation, -1, -1⟩

end SnapshotSocketReply

/-- What `MultiD405Source` accepts as the dimensions of the snapshot. -/
def SourceAccepts (width height : UInt32) : Prop :=
  0 < width.toNat ∧ width.toNat ≤ 848 ∧ 0 < height.toNat ∧ height.toNat ≤ 480

instance (width height : UInt32) : Decidable (SourceAccepts width height) :=
  inferInstanceAs (Decidable (0 < width.toNat ∧ width.toNat ≤ 848 ∧ 0 < height.toNat ∧
    height.toNat ≤ 480))

/-! ### The reader -/

/-- `Struct(format)` -/
def struct (format : String) : List Code := (Format.parse format).getD []

/-- `unpack_from` -/
def unpackFrom (codes : List Code) (buffer : List UInt8) (offset : ℕ) : Except String (List Item) :=
  if offset + calcsize codes ≤ buffer.length then
    .ok (readAll buffer offset (packedLayout 0 codes))
  else .error "struct.error: unpack_from requires a larger buffer"

/-- The integer that is unpacked. -/
def Item.int : Item → ℤ
  | .u32 x => x.toNat
  | .u64 x => x.toNat
  | .i64 x => x.toInt
  | _ => 0

/-- The double that is unpacked. -/
def Item.double : Item → UInt64
  | .f64 bits => bits
  | _ => 0

/-- `SnapshotSharedMemoryReader` -/
structure SnapshotSharedMemoryReader where
  /-- `width` -/
  width : ℕ
  /-- `height` -/
  height : ℕ
  /-- `snapshot dimensions must be positive` -/
  width_pos : 0 < width
  /-- `snapshot dimensions must be positive` -/
  height_pos : 0 < height

namespace SnapshotSharedMemoryReader

/-- `MAGIC` -/
def magic : List UInt8 := "ARX5RGB1".toList.map Char.toUInt8

/-- `HEADER` -/
def header : List Code := struct "<8sIIII40x"

/-- `SLOT_HEADER` -/
def slotHeader : List Code := struct "<Q6q14d24x"

variable (r : SnapshotSharedMemoryReader)

/-- `frame_bytes` -/
def frameBytes : ℕ := r.width * r.height * channels

/-- `slot_stride` -/
def slotStride : ℕ := calcsize slotHeader + r.frameBytes * 3

/-- `arena_bytes` -/
def arenaBytes : ℕ := calcsize header + slotCount * r.slotStride

/-- `slot_offset` -/
def slotOffset (slot : ℕ) : ℕ := calcsize header + slot * r.slotStride

/-- `payload_offset` -/
def payloadOffset (slot : ℕ) : ℕ := r.slotOffset slot + calcsize slotHeader

/-- The header that is expected: `(MAGIC, self.width, self.height, CHANNELS, SLOT_COUNT)`. -/
def HeaderMatches (items : List Item) : Prop :=
  items.head? = some (.chars magic) ∧
    items.tail.map Item.int = [(r.width : ℤ), r.height, channels, slotCount]

instance : DecidablePred r.HeaderMatches := fun items =>
  inferInstanceAs (Decidable (items.head? = some (.chars magic) ∧
    items.tail.map Item.int = [(r.width : ℤ), r.height, channels, slotCount]))

/-- `_open` -/
def openArena (file : List UInt8) : Except SnapshotError Unit :=
  if file.length ≠ r.arenaBytes then
    .error (.arenaUnavailable "snapshot arena size is invalid")
  else match unpackFrom header file 0 with
    | .error text => .error (.runtimeError text)
    | .ok items =>
      if ¬ r.HeaderMatches items then
        .error (.arenaUnavailable "snapshot arena header is invalid")
      else .ok ()

/-- The sample of the unpacked header and of the payload. -/
def sample (metadata : List Item) (payload : List UInt8) : SnapshotArenaSample UInt64 where
  cutoffNs := (metadata.map Item.int).getD 1 0
  cameraStampsNs := ((metadata.map Item.int).getD 2 0, (metadata.map Item.int).getD 3 0,
    (metadata.map Item.int).getD 4 0)
  armStampsNs := ((metadata.map Item.int).getD 5 0, (metadata.map Item.int).getD 6 0)
  leftArm := ((metadata.drop 7).take 7).map Item.double
  rightArm := ((metadata.drop 14).take 7).map Item.double
  frames := (payload.take r.frameBytes, (payload.drop r.frameBytes).take r.frameBytes,
    payload.drop (r.frameBytes * 2))

/-- `SLOT_HEADER.unpack_from` -/
def unpackSlot (file : List UInt8) (slot : ℕ) : Except SnapshotError (List Item) :=
  (unpackFrom slotHeader file (r.slotOffset slot)).mapError .runtimeError

/-- `metadata[0]` -/
def generation (metadata : List Item) : ℤ := (metadata.map Item.int).getD 0 0

/-- `read` -/
def read (file : List UInt8) (slot generation : ℤ) :
    Except SnapshotError (SnapshotArenaSample UInt64) :=
  if InvalidDescriptor slot generation then
    .error (.arenaUnavailable "snapshot descriptor is invalid")
  else do
    let () ← r.openArena file
    let metadata ← r.unpackSlot file slot.toNat
    if SnapshotSharedMemoryReader.generation metadata ≠ generation then
      .error (.arenaUnavailable "snapshot slot was replaced before read")
    else do
      let payload := slice file (r.payloadOffset slot.toNat) (r.frameBytes * 3)
      let after ← r.unpackSlot file slot.toNat
      if SnapshotSharedMemoryReader.generation after ≠ generation then
        .error (.arenaUnavailable "snapshot slot changed during read")
      else .ok (r.sample metadata payload)

end SnapshotSharedMemoryReader

end DualCollection
