import DualCollection.Snapshot.Layout

/-!
# What is read of what was committed

A slot that a commit has filled is read back as it was committed (`read_eq`), as long as nothing
else is stored in it: what a commit stores lies in its slot (`Valid.commit_slice`).

* `regions_apart`, `regions_inside`: the headers and the frames do not overlap.
* `Valid`: what holds of the writer after every commit, also of one that throws.
* `Stored`: what holds of the slot of a commit that returns.
-/

namespace DualCollection

open Bytes

namespace SnapshotSharedMemoryWriter

/-- The size of the arena has room in a `std::size_t`. -/
def Addressable (width height : UInt32) : Prop :=
  64 + 2 * (192 + 9 * (width.toNat * height.toNat)) < 2 ^ 64

end SnapshotSharedMemoryWriter

theorem sourceAccepts_addressable {width height : UInt32} (h : SourceAccepts width height) :
    SnapshotSharedMemoryWriter.Addressable width height := by
  obtain ⟨-, hwidth, -, hheight⟩ := h
  have hprod : width.toNat * height.toNat ≤ 848 * 480 := Nat.mul_le_mul hwidth hheight
  unfold SnapshotSharedMemoryWriter.Addressable
  omega

namespace SnapshotSharedMemoryWriter

/-! ### Sizes and offsets -/

theorem slot_mul_le {slot n : ℕ} (h : slot < 2) : slot * n ≤ n := by
  calc slot * n ≤ 1 * n := Nat.mul_le_mul_right n (by omega)
    _ = n := one_mul n

theorem sizeofArenaHeader_eq : sizeofArenaHeader = 64 := by decide

theorem sizeofSlotHeader_eq : sizeofSlotHeader = 192 := by decide

section Offsets

variable {width height slot : UInt32} (h : Addressable width height)

include h

theorem toNat_frameBytes : (frameBytes width height).toNat = width.toNat * height.toNat * 3 := by
  unfold Addressable at h
  have hprod : width.toNat * height.toNat < 2 ^ 64 := by omega
  have hchannels : kChannels.toUInt64.toNat = 3 := by decide
  rw [frameBytes, UInt64.toNat_mul, UInt64.toNat_mul, UInt32.toNat_toUInt64, UInt32.toNat_toUInt64,
    hchannels, Nat.mod_eq_of_lt hprod, Nat.mod_eq_of_lt (by omega)]

theorem toNat_slotStride :
    (slotStride width height).toNat = 192 + width.toNat * height.toNat * 3 * 3 := by
  have hframe := toNat_frameBytes h
  unfold Addressable at h
  have hthree : (3 : UInt64).toNat = 3 := rfl
  have hsize : (192 : UInt64).toNat = 192 := rfl
  rw [slotStride, sizeofSlotHeader_eq, UInt64.toNat_add, UInt64.toNat_mul, hframe, hthree, hsize,
    Nat.mod_eq_of_lt (a := _ * 3) (by omega), Nat.mod_eq_of_lt (by omega)]

theorem toNat_arenaBytes : (arenaBytes width height).toNat =
    64 + 2 * (192 + width.toNat * height.toNat * 3 * 3) := by
  have hstride := toNat_slotStride h
  unfold Addressable at h
  have hcount : kSlotCount.toUInt64.toNat = 2 := by decide
  have hsize : (64 : UInt64).toNat = 64 := rfl
  rw [arenaBytes, sizeofArenaHeader_eq, UInt64.toNat_add, UInt64.toNat_mul, hstride, hcount, hsize,
    Nat.mod_eq_of_lt (a := 2 * _) (by omega), Nat.mod_eq_of_lt (by omega)]

theorem toNat_slotBase (hslot : slot.toNat < 2) : (slotBase width height slot).toNat =
    64 + slot.toNat * (192 + width.toNat * height.toNat * 3 * 3) := by
  have hstride := toNat_slotStride h
  unfold Addressable at h
  have hsize : (64 : UInt64).toNat = 64 := rfl
  have hoffset : slot.toNat * (192 + width.toNat * height.toNat * 3 * 3) ≤
      192 + width.toNat * height.toNat * 3 * 3 := slot_mul_le hslot
  rw [slotBase, sizeofArenaHeader_eq, UInt64.toNat_add, UInt64.toNat_mul, hstride, hsize,
    UInt32.toNat_toUInt64, Nat.mod_eq_of_lt (a := slot.toNat * _) (by omega),
    Nat.mod_eq_of_lt (by omega)]

theorem toNat_payload (hslot : slot.toNat < 2) : (payload width height slot).toNat =
    64 + slot.toNat * (192 + width.toNat * height.toNat * 3 * 3) + 192 := by
  have hbase := toNat_slotBase h hslot
  unfold Addressable at h
  have hsize : (192 : UInt64).toNat = 192 := rfl
  have hoffset : slot.toNat * (192 + width.toNat * height.toNat * 3 * 3) ≤
      192 + width.toNat * height.toNat * 3 * 3 := slot_mul_le hslot
  rw [payload, sizeofSlotHeader_eq, UInt64.toNat_add, hbase, hsize, Nat.mod_eq_of_lt (by omega)]

/-- The offset of the second frame. -/
theorem toNat_payload_add (hslot : slot.toNat < 2) :
    (payload width height slot + frameBytes width height).toNat =
      (payload width height slot).toNat + width.toNat * height.toNat * 3 := by
  have hframe := toNat_frameBytes h
  have hpayload := toNat_payload h hslot
  unfold Addressable at h
  have hoffset : slot.toNat * (192 + width.toNat * height.toNat * 3 * 3) ≤
      192 + width.toNat * height.toNat * 3 * 3 := slot_mul_le hslot
  rw [UInt64.toNat_add, hframe, Nat.mod_eq_of_lt (by omega)]

/-- The offset of the third frame. -/
theorem toNat_payload_add_two (hslot : slot.toNat < 2) :
    (payload width height slot + frameBytes width height * 2).toNat =
      (payload width height slot).toNat + width.toNat * height.toNat * 3 * 2 := by
  have hframe := toNat_frameBytes h
  have hpayload := toNat_payload h hslot
  unfold Addressable at h
  have htwo : (2 : UInt64).toNat = 2 := rfl
  have hoffset : slot.toNat * (192 + width.toNat * height.toNat * 3 * 3) ≤
      192 + width.toNat * height.toNat * 3 * 3 := slot_mul_le hslot
  rw [UInt64.toNat_add, UInt64.toNat_mul, hframe, htwo, Nat.mod_eq_of_lt (a := _ * 2) (by omega),
    Nat.mod_eq_of_lt (by omega)]

end Offsets

/-! ### Regions -/

/-- The offsets and the sizes of the header of the arena, and of the header and of the frames of
each slot. -/
def regions (width height : UInt32) : List (ℕ × ℕ) :=
  let frame := frameBytes width height
  (0, sizeofArenaHeader.toNat) :: [0, 1].flatMap fun slot =>
    [((slotBase width height slot).toNat, sizeofSlotHeader.toNat),
      ((payload width height slot).toNat, frame.toNat),
      ((payload width height slot + frame).toNat, frame.toNat),
      ((payload width height slot + frame * 2).toNat, frame.toNat)]

end SnapshotSharedMemoryWriter

/-- The offsets and the sizes of what is unpacked, and of the frames of each slot. -/
def SnapshotSharedMemoryReader.regions (r : SnapshotSharedMemoryReader) : List (ℕ × ℕ) :=
  (0, calcsize header) :: (List.range slotCount).flatMap fun slot =>
    [(r.slotOffset slot, calcsize slotHeader),
      (r.payloadOffset slot, r.frameBytes),
      (r.payloadOffset slot + r.frameBytes, r.frameBytes),
      (r.payloadOffset slot + r.frameBytes * 2, r.frameBytes)]

/-- A region ends before another starts. -/
def Apart (a b : ℕ × ℕ) : Prop := a.1 + a.2 ≤ b.1

namespace SnapshotSharedMemoryReader

theorem calcsize_header : calcsize header = 64 := by decide

theorem calcsize_slotHeader : calcsize slotHeader = 192 := by decide

theorem packed_header :
    packedLayout 0 header = SnapshotSharedMemoryWriter.arenaHeaderLayout := by decide

theorem packed_slotHeader :
    packedLayout 0 slotHeader = SnapshotSharedMemoryWriter.slotHeaderLayout := by decide

variable (r : SnapshotSharedMemoryReader)

theorem frameBytes_eq : r.frameBytes = r.width * r.height * 3 := rfl

theorem slotStride_eq : r.slotStride = 192 + r.width * r.height * 3 * 3 := by
  rw [slotStride, calcsize_slotHeader, frameBytes_eq]

theorem arenaBytes_eq : r.arenaBytes = 64 + 2 * (192 + r.width * r.height * 3 * 3) := by
  rw [arenaBytes, calcsize_header, slotStride_eq]
  rfl

theorem slotOffset_eq (slot : ℕ) :
    r.slotOffset slot = 64 + slot * (192 + r.width * r.height * 3 * 3) := by
  rw [slotOffset, calcsize_header, slotStride_eq]

theorem payloadOffset_eq (slot : ℕ) :
    r.payloadOffset slot = 64 + slot * (192 + r.width * r.height * 3 * 3) + 192 := by
  rw [payloadOffset, slotOffset_eq, calcsize_slotHeader]

theorem regions_eq : r.regions =
    [(0, 64),
      (64, 192), (256, r.frameBytes), (256 + r.frameBytes, r.frameBytes),
      (256 + r.frameBytes * 2, r.frameBytes),
      (256 + r.frameBytes * 3, 192), (448 + r.frameBytes * 3, r.frameBytes),
      (448 + r.frameBytes * 4, r.frameBytes), (448 + r.frameBytes * 5, r.frameBytes)] := by
  have hrange : List.range slotCount = [0, 1] := rfl
  simp only [regions, hrange, List.flatMap_cons, List.flatMap_nil, List.append_nil,
    List.cons_append, List.nil_append, calcsize_header, calcsize_slotHeader, slotOffset_eq,
    payloadOffset_eq, frameBytes_eq, List.cons.injEq, Prod.mk.injEq, true_and, and_true]
  omega

theorem regions_apart : r.regions.Pairwise Apart := by
  simp only [regions_eq, List.pairwise_cons, List.mem_cons, List.not_mem_nil, Apart,
    forall_eq_or_imp, or_false, forall_eq, List.Pairwise.nil, and_true, IsEmpty.forall_iff,
    implies_true]
  omega

theorem regions_inside : ∀ region ∈ r.regions, region.1 + region.2 ≤ r.arenaBytes := by
  simp only [regions_eq, List.mem_cons, List.not_mem_nil, forall_eq_or_imp, or_false, forall_eq,
    arenaBytes_eq, frameBytes_eq]
  omega

/-- Both sides have the same regions. -/
theorem writer_regions {width height : UInt32}
    (h : SnapshotSharedMemoryWriter.Addressable width height) (hwidth : r.width = width.toNat)
    (hheight : r.height = height.toNat) :
    SnapshotSharedMemoryWriter.regions width height = r.regions := by
  have hzero : (0 : UInt32).toNat < 2 := by decide
  have hone : (1 : UInt32).toNat < 2 := by decide
  have hframe : r.frameBytes = width.toNat * height.toNat * 3 := by
    rw [frameBytes_eq, hwidth, hheight]
  simp only [SnapshotSharedMemoryWriter.regions, List.flatMap_cons, List.flatMap_nil,
    List.append_nil, List.cons_append, List.nil_append,
    SnapshotSharedMemoryWriter.sizeofArenaHeader_eq,
    SnapshotSharedMemoryWriter.sizeofSlotHeader_eq,
    SnapshotSharedMemoryWriter.toNat_payload_add h hzero,
    SnapshotSharedMemoryWriter.toNat_payload_add h hone,
    SnapshotSharedMemoryWriter.toNat_payload_add_two h hzero,
    SnapshotSharedMemoryWriter.toNat_payload_add_two h hone,
    SnapshotSharedMemoryWriter.toNat_payload h hzero,
    SnapshotSharedMemoryWriter.toNat_payload h hone,
    SnapshotSharedMemoryWriter.toNat_slotBase h hzero,
    SnapshotSharedMemoryWriter.toNat_slotBase h hone,
    SnapshotSharedMemoryWriter.toNat_frameBytes h, regions_eq, hframe]
  have hzero : (0 : UInt32).toNat = 0 := rfl
  have hone : (1 : UInt32).toNat = 1 := rfl
  have hheader : (64 : UInt64).toNat = 64 := rfl
  have hslot : (192 : UInt64).toNat = 192 := rfl
  simp only [hzero, hone, hheader, hslot, List.cons.injEq, Prod.mk.injEq, true_and, and_true]
  omega

end SnapshotSharedMemoryReader

namespace SnapshotSharedMemoryWriter

/-! ### What is stored -/

theorem arenaHeader_fits (width height : UInt32) :
    Fits arenaHeaderLayout (arenaHeader width height) := rfl

theorem slotHeader_fits (generation : UInt64) (a : CommitArguments) :
    Fits slotHeaderLayout (slotHeader generation a) := rfl

theorem arenaHeaderLayout_sorted : arenaHeaderLayout.Sorted := by decide

theorem slotHeaderLayout_sorted : slotHeaderLayout.Sorted := by decide

theorem arenaHeaderLayout_extent : arenaHeaderLayout.extent = 24 := by decide

theorem slotHeaderLayout_extent : slotHeaderLayout.extent = 168 := by decide

theorem slotHeaderLayout_le : ∀ f ∈ slotHeaderLayout, f.1 + f.2.size ≤ 168 := by decide

/-- The generation is the first member. -/
theorem slotHeaderLayout_cons : slotHeaderLayout = (0, .u64) :: slotHeaderLayout.tail := by decide

theorem slotHeader_cons (generation : UInt64) (a : CommitArguments) :
    slotHeader generation a = .u64 generation :: (slotHeader 0 a).tail := rfl

theorem slotHeaderLayout_tail_ge : ∀ f ∈ slotHeaderLayout.tail, 8 ≤ f.1 := by decide

theorem arenaHeaderLayout_le : ∀ f ∈ arenaHeaderLayout, f.1 + f.2.size ≤ 24 := by decide

/-- What holds of the writer between two commits. -/
structure Valid (width height : UInt32) (s : SnapshotSharedMemoryWriter) : Prop where
  /-- The dimensions are kept. -/
  dimensions : s.width = width ∧ s.height = height
  /-- The size of the arena. -/
  length : s.arena.length = (arenaBytes width height).toNat
  /-- The header is stored. -/
  header : Holds s.arena 0 arenaHeaderLayout (arenaHeader width height)

theorem create_valid {path : String} {width height : UInt32} {s : SnapshotSharedMemoryWriter}
    (haddr : Addressable width height) (h : create path width height = .ok s) :
    Valid width height s := by
  unfold create at h
  split_ifs at h with hbad
  cases h
  have hroom : 0 + arenaHeaderLayout.extent ≤
      (List.replicate (arenaBytes width height).toNat (0 : UInt8)).length := by
    rw [List.length_replicate, arenaHeaderLayout_extent, toNat_arenaBytes haddr]
    omega
  refine ⟨⟨rfl, rfl⟩, ?_, holds_pokeAll arenaHeaderLayout_sorted hroom (arenaHeader_fits _ _)⟩
  rw [length_pokeAll hroom (arenaHeader_fits _ _), List.length_replicate]

section CopyFrames

variable (s : SnapshotSharedMemoryWriter) (frames : List (Image × UInt64))

theorem copyFrames_kept : (s.copyFrames frames).2.width = s.width ∧
    (s.copyFrames frames).2.height = s.height ∧
    (s.copyFrames frames).2.sequence = s.sequence := by
  induction frames generalizing s with
  | nil => exact ⟨rfl, rfl, rfl⟩
  | cons f frames ih =>
    unfold copyFrames
    split_ifs with hfits
    · exact ih _
    · exact ⟨rfl, rfl, rfl⟩

/-- What the frames do not cover is not changed. -/
theorem copyFrames_slice (other n : ℕ)
    (hroom : ∀ f ∈ frames, f.2.toNat + (frameBytes s.width s.height).toNat ≤ s.arena.length)
    (hd : ∀ f ∈ frames, other + n ≤ f.2.toNat ∨
      f.2.toNat + (frameBytes s.width s.height).toNat ≤ other) :
    (s.copyFrames frames).2.arena.length = s.arena.length ∧
      slice (s.copyFrames frames).2.arena other n = slice s.arena other n := by
  induction frames generalizing s with
  | nil => exact ⟨rfl, rfl⟩
  | cons f frames ih =>
    unfold copyFrames
    split_ifs with hfits
    · -- the frame has the size of the others
      obtain ⟨-, -, -, -, hsize⟩ := hfits
      have hf := hroom f List.mem_cons_self
      rw [← hsize] at hf
      have hlength := length_poke hf
      obtain ⟨hlength', hslice⟩ := ih { s with arena := poke s.arena f.2.toNat f.1.data }
        (fun g hg => by
          rw [hlength]
          exact hroom g (List.mem_cons_of_mem f hg))
        (fun g hg => hd g (List.mem_cons_of_mem f hg))
      refine ⟨hlength'.trans hlength, hslice.trans (slice_poke_of_disjoint hf ?_)⟩
      rw [hsize]
      exact hd f List.mem_cons_self
    · exact ⟨rfl, rfl⟩

end CopyFrames

section Commit

variable {width height : UInt32} {s : SnapshotSharedMemoryWriter} {a : CommitArguments}

/-- The slot of the next commit. -/
def nextSlot (s : SnapshotSharedMemoryWriter) : UInt32 :=
  ((s.sequence + 1) % kSlotCount.toUInt64).toUInt32

/-- The generation of the next commit. -/
def nextGeneration (s : SnapshotSharedMemoryWriter) : UInt64 := (s.sequence + 1) * 2

/-- The offset of the slot of the next commit. -/
def nextBase (s : SnapshotSharedMemoryWriter) : ℕ := (slotBase s.width s.height s.nextSlot).toNat

/-- The writer when the header of the slot has been stored. -/
def storeHeader (s : SnapshotSharedMemoryWriter) (a : CommitArguments) :
    SnapshotSharedMemoryWriter :=
  { s with
    sequence := s.sequence + 1
    arena := pokeAll s.arena s.nextBase slotHeaderLayout (slotHeader (s.nextGeneration ||| 1) a) }

/-- The frames of a commit, and where they are copied to. -/
def frames (s : SnapshotSharedMemoryWriter) (a : CommitArguments) : List (Image × UInt64) :=
  let payload := payload s.width s.height s.nextSlot
  [(a.cameraLeft, payload), (a.cameraOverview, payload + frameBytes s.width s.height),
    (a.cameraRight, payload + frameBytes s.width s.height * 2)]

theorem commit_eq (s : SnapshotSharedMemoryWriter) (a : CommitArguments) :
    s.commit a = match (s.storeHeader a).copyFrames (s.frames a) with
      | (.error err, s') => (.error err, s')
      | (.ok (), s') => (.ok ⟨s.nextSlot, s.nextGeneration⟩,
          { s' with arena := poke s'.arena s.nextBase (Item.u64 s.nextGeneration).memory }) :=
  rfl

@[simp] theorem storeHeader_width (s : SnapshotSharedMemoryWriter) (a : CommitArguments) :
    (s.storeHeader a).width = s.width := by
  unfold storeHeader
  rfl

@[simp] theorem storeHeader_height (s : SnapshotSharedMemoryWriter) (a : CommitArguments) :
    (s.storeHeader a).height = s.height := by
  unfold storeHeader
  rfl

theorem nextSlot_lt (s : SnapshotSharedMemoryWriter) : s.nextSlot.toNat < 2 := by
  have hcount : kSlotCount.toUInt64.toNat = 2 := by decide
  unfold nextSlot
  rw [UInt64.toNat_toUInt32, UInt64.toNat_mod, hcount]
  omega

/-- The room that a slot has. -/
theorem Valid.room (haddr : Addressable width height) (hs : Valid width height s) :
    64 ≤ s.nextBase ∧
      s.nextBase + (192 + width.toNat * height.toNat * 3 * 3) ≤ s.arena.length := by
  obtain ⟨⟨rfl, rfl⟩, hlength, -⟩ := hs
  have hle : s.nextSlot.toNat * (192 + s.width.toNat * s.height.toNat * 3 * 3) ≤
      192 + s.width.toNat * s.height.toNat * 3 * 3 := slot_mul_le s.nextSlot_lt
  rw [hlength, toNat_arenaBytes haddr, nextBase, toNat_slotBase haddr s.nextSlot_lt]
  omega

/-- Where the frames are copied to. -/
theorem Valid.frames (haddr : Addressable width height) (hs : Valid width height s) :
    s.frames a =
      [(a.cameraLeft, payload width height s.nextSlot),
        (a.cameraOverview, payload width height s.nextSlot + frameBytes width height),
        (a.cameraRight, payload width height s.nextSlot + frameBytes width height * 2)] ∧
    (payload width height s.nextSlot).toNat = s.nextBase + 192 := by
  obtain ⟨⟨rfl, rfl⟩, -, -⟩ := hs
  refine ⟨rfl, ?_⟩
  rw [nextBase, toNat_payload haddr s.nextSlot_lt, toNat_slotBase haddr s.nextSlot_lt]

theorem Valid.storeHeader_length (haddr : Addressable width height) (hs : Valid width height s) :
    (s.storeHeader a).arena.length = s.arena.length := by
  have hroom := hs.room haddr
  refine length_pokeAll ?_ (slotHeader_fits _ a)
  rw [slotHeaderLayout_extent]
  omega

/-- What is not in the slot of a commit is not changed. -/
theorem Valid.commit_slice (haddr : Addressable width height) (hs : Valid width height s)
    (other n : ℕ) (hd : other + n ≤ s.nextBase ∨
      s.nextBase + (192 + width.toNat * height.toNat * 3 * 3) ≤ other) :
    (s.commit a).2.arena.length = s.arena.length ∧
      slice (s.commit a).2.arena other n = slice s.arena other n := by
  have hroom := hs.room haddr
  have hlength := hs.storeHeader_length (a := a) haddr
  have hstored : slice (s.storeHeader a).arena other n = slice s.arena other n := by
    refine slice_pokeAll ?_ (slotHeader_fits _ a) fun f hf => ?_
    · rw [slotHeaderLayout_extent]
      omega
    · have := slotHeaderLayout_le f hf
      omega
  have hframe : (frameBytes (s.storeHeader a).width (s.storeHeader a).height).toNat =
      width.toNat * height.toNat * 3 := by
    rw [storeHeader_width, storeHeader_height, hs.dimensions.1, hs.dimensions.2,
      toNat_frameBytes haddr]
  obtain ⟨hframes, hpayload⟩ := hs.frames (a := a) haddr
  have hplaces : ∀ f ∈ s.frames a, s.nextBase + 192 ≤ f.2.toNat ∧ f.2.toNat +
      width.toNat * height.toNat * 3 ≤ s.nextBase + (192 + width.toNat * height.toNat * 3 * 3) := by
    rw [hframes]
    simp only [List.mem_cons, List.not_mem_nil, or_false, forall_eq_or_imp, forall_eq,
      toNat_payload_add haddr s.nextSlot_lt, toNat_payload_add_two haddr s.nextSlot_lt, hpayload]
    omega
  obtain ⟨hlength', hslice⟩ := copyFrames_slice (s.storeHeader a) (s.frames a) other n
    (fun f hf => by
      have := hplaces f hf
      omega)
    (fun f hf => by
      have := hplaces f hf
      omega)
  have hword (g : UInt64) : (Item.u64 g).memory.length = 8 := length_leBytes 8 _
  rw [commit_eq]
  cases hcopied : (s.storeHeader a).copyFrames (s.frames a) with
  | mk result s' =>
    rw [hcopied] at hlength' hslice
    cases result with
    | error err => exact ⟨hlength'.trans hlength, hslice.trans hstored⟩
    | ok u =>
      -- the generation is stored once more
      have hpoke : s.nextBase + (Item.u64 s.nextGeneration).memory.length ≤ s'.arena.length := by
        rw [hword]
        change s'.arena.length = _ at hlength'
        omega
      refine ⟨(length_poke hpoke).trans (hlength'.trans hlength), ?_⟩
      refine (slice_poke_of_disjoint hpoke ?_).trans (hslice.trans hstored)
      rw [hword]
      omega

theorem Valid.commit (haddr : Addressable width height) (hs : Valid width height s) :
    Valid width height (s.commit a).2 := by
  have hroom := hs.room haddr
  refine ⟨?_, ?_, ?_⟩
  · have hkept := copyFrames_kept (s.storeHeader a) (s.frames a)
    rw [storeHeader_width, storeHeader_height, hs.dimensions.1, hs.dimensions.2] at hkept
    rw [commit_eq]
    cases hcopied : (s.storeHeader a).copyFrames (s.frames a) with
    | mk result s' =>
      rw [hcopied] at hkept
      cases result with
      | error err => exact ⟨hkept.1, hkept.2.1⟩
      | ok u => exact ⟨hkept.1, hkept.2.1⟩
  · exact (hs.commit_slice haddr 0 0 (.inl (by omega))).1.trans hs.length
  · refine hs.header.congr fun f hf => (hs.commit_slice haddr _ _ (.inl ?_)).2
    have := arenaHeaderLayout_le f hf
    omega

variable (width height) in
/-- A slot, at an offset, holds what a commit was called with. -/
structure Stored (arena : List UInt8) (base : ℕ) (generation : UInt64) (a : CommitArguments) :
    Prop where
  /-- The header. -/
  header : Holds arena base slotHeaderLayout (slotHeader generation a)
  /-- The first frame. -/
  left : slice arena (base + 192) (width.toNat * height.toNat * 3) = a.cameraLeft.data
  /-- The second frame. -/
  overview : slice arena (base + 192 + width.toNat * height.toNat * 3)
    (width.toNat * height.toNat * 3) = a.cameraOverview.data
  /-- The third frame. -/
  right : slice arena (base + 192 + width.toNat * height.toNat * 3 * 2)
    (width.toNat * height.toNat * 3) = a.cameraRight.data

/-- The frames have the layout of the arena. -/
structure FramesFit (width height : UInt32) (a : CommitArguments) : Prop where
  /-- `camera_left` -/
  left : FrameFits width height a.cameraLeft
  /-- `camera_overview` -/
  overview : FrameFits width height a.cameraOverview
  /-- `camera_right` -/
  right : FrameFits width height a.cameraRight

theorem copyFrames_nil (s : SnapshotSharedMemoryWriter) : s.copyFrames [] = (.ok (), s) := rfl

theorem copyFrames_cons {image : Image} {destination : UInt64} {rest : List (Image × UInt64)}
    (h : FrameFits s.width s.height image) : s.copyFrames ((image, destination) :: rest) =
      { s with arena := poke s.arena destination.toNat image.data }.copyFrames rest := by
  conv_lhs => unfold copyFrames
  exact if_neg (not_not.2 h)

/-- Three frames, one after the other. -/
theorem slice_three {m left overview right : List UInt8} {b n : ℕ} (hleft : left.length = n)
    (hoverview : overview.length = n) (hright : right.length = n)
    (hroom : b + n * 3 ≤ m.length) :
    let m' := poke (poke (poke m b left) (b + n) overview) (b + n * 2) right
    m'.length = m.length ∧ slice m' b n = left ∧ slice m' (b + n) n = overview ∧
      slice m' (b + n * 2) n = right := by
  have hfirst : (poke m b left).length = m.length := length_poke (by omega)
  have hsecond : (poke (poke m b left) (b + n) overview).length = m.length := by
    rw [length_poke (by omega), hfirst]
  refine ⟨?_, ?_, ?_, ?_⟩
  · rw [length_poke (by omega), hsecond]
  · rw [slice_poke_of_disjoint (by omega) (by omega), slice_poke_of_disjoint (by omega) (by omega),
      slice_poke hleft (by omega)]
  · rw [slice_poke_of_disjoint (by omega) (by omega), slice_poke hoverview (by omega)]
  · exact slice_poke hright (by omega)

theorem slice_three_before {m left overview right : List UInt8} {b n other k : ℕ}
    (hleft : left.length = n) (hoverview : overview.length = n) (hright : right.length = n)
    (hroom : b + n * 3 ≤ m.length) (hother : other + k ≤ b) :
    slice (poke (poke (poke m b left) (b + n) overview) (b + n * 2) right) other k =
      slice m other k := by
  have hfirst : (poke m b left).length = m.length := length_poke (by omega)
  have hsecond : (poke (poke m b left) (b + n) overview).length = m.length := by
    rw [length_poke (by omega), hfirst]
  rw [slice_poke_of_disjoint (by omega) (by omega), slice_poke_of_disjoint (by omega) (by omega),
    slice_poke_of_disjoint (by omega) (by omega)]

/-- A commit of frames that fit returns, and its slot holds what it was called with. -/
theorem Valid.commit_stored (haddr : Addressable width height) (hs : Valid width height s)
    (hfit : FramesFit width height a) :
    (s.commit a).1 = .ok ⟨s.nextSlot, s.nextGeneration⟩ ∧
      Stored width height (s.commit a).2.arena s.nextBase s.nextGeneration a := by
  have hroom := hs.room haddr
  obtain ⟨hframes, hpayload⟩ := hs.frames (a := a) haddr
  have hlength := hs.storeHeader_length (a := a) haddr
  have hword : (Item.u64 s.nextGeneration).memory.length = 8 := length_leBytes 8 _
  have hsize {image : Image} (h : FrameFits width height image) :
      image.data.length = width.toNat * height.toNat * 3 := by
    rw [h.2.2.2.2, toNat_frameBytes haddr]
  have hfits {image : Image} (m : List UInt8) (h : FrameFits width height image) :
      let s' := { s.storeHeader a with arena := m }
      FrameFits s'.width s'.height image := by
    simp only [storeHeader_width, storeHeader_height, hs.dimensions.1, hs.dimensions.2]
    exact h
  -- the three frames are copied behind the header
  generalize hm : (s.storeHeader a).arena = m at hlength
  have hcopied : (s.storeHeader a).copyFrames (s.frames a) = (.ok (), { s.storeHeader a with
      arena := poke (poke (poke m (s.nextBase + 192) a.cameraLeft.data)
        (s.nextBase + 192 + width.toNat * height.toNat * 3) a.cameraOverview.data)
        (s.nextBase + 192 + width.toNat * height.toNat * 3 * 2) a.cameraRight.data }) := by
    rw [hframes, copyFrames_cons (hfits _ hfit.left), copyFrames_cons (hfits _ hfit.overview),
      copyFrames_cons (hfits _ hfit.right), toNat_payload_add haddr s.nextSlot_lt,
      toNat_payload_add_two haddr s.nextSlot_lt, hpayload]
    dsimp only
    rw [hm, copyFrames_nil]
  obtain ⟨hlength', hleft, hoverview, hright⟩ := slice_three (m := m)
    (b := s.nextBase + 192) (hsize hfit.left) (hsize hfit.overview) (hsize hfit.right) (by omega)
  have helsewhere {k n : ℕ} (hd : k + n ≤ s.nextBase + 192) := slice_three_before (m := m)
    (b := s.nextBase + 192) (hsize hfit.left) (hsize hfit.overview) (hsize hfit.right) (by omega) hd
  generalize poke (poke (poke m (s.nextBase + 192) a.cameraLeft.data)
    (s.nextBase + 192 + width.toNat * height.toNat * 3) a.cameraOverview.data)
    (s.nextBase + 192 + width.toNat * height.toNat * 3 * 2) a.cameraRight.data = m'
    at hcopied hlength' hleft hoverview hright helsewhere
  have hbehind {k n : ℕ} (hk : s.nextBase + 8 ≤ k) :
      slice (poke m' s.nextBase (Item.u64 s.nextGeneration).memory) k n = slice m' k n :=
    slice_poke_of_disjoint (by omega) (by omega)
  rw [commit_eq, hcopied]
  refine ⟨rfl, ?_⟩
  change Stored width height (poke m' s.nextBase (Item.u64 s.nextGeneration).memory) s.nextBase
    s.nextGeneration a
  refine ⟨?_, ?_, ?_, ?_⟩
  · -- the header was stored with another generation
    have hstored : Holds m s.nextBase slotHeaderLayout (slotHeader (s.nextGeneration ||| 1) a) := by
      rw [← hm]
      refine holds_pokeAll slotHeaderLayout_sorted ?_ (slotHeader_fits _ a)
      rw [slotHeaderLayout_extent]
      omega
    have hin : s.nextBase ≤ m'.length := by omega
    rw [slotHeaderLayout_cons, slotHeader_cons] at hstored ⊢
    obtain ⟨-, hrest⟩ := List.forall₂_cons.1 hstored
    refine .cons ⟨rfl, slice_poke hword hin⟩ (Holds.congr hrest fun f hf => ?_)
    have hlow := slotHeaderLayout_tail_ge f hf
    have hhigh := slotHeaderLayout_le f (List.mem_of_mem_tail hf)
    rw [hbehind (by omega), helsewhere (by omega)]
  · exact (hbehind (by omega)).trans hleft
  · exact (hbehind (by omega)).trans hoverview
  · exact (hbehind (by omega)).trans hright

end Commit

end SnapshotSharedMemoryWriter

/-! ### What is read -/

namespace CommitArguments

variable (a : CommitArguments)

/-- The image of a camera. -/
def camera : Camera → Image
  | .left => a.cameraLeft
  | .overview => a.cameraOverview
  | .right => a.cameraRight

/-- The state of an arm. -/
def arm : Side → ArmState UInt64
  | .left => a.leftArm
  | .right => a.rightArm

/-- The snapshot that is committed. -/
def snapshot : VlaSnapshot UInt64 := ⟨a.camera, a.arm, a.cutoffNs.toInt⟩

end CommitArguments

attribute [ext] SnapshotArenaSample

namespace SnapshotSharedMemoryReader

open SnapshotSharedMemoryWriter (Valid Stored Addressable)

variable {r : SnapshotSharedMemoryReader} {width height : UInt32}
  {s : SnapshotSharedMemoryWriter} {a : CommitArguments} {file : List UInt8} {slot : ℕ}
  {g : UInt64}

theorem unpackFrom_of_holds {codes : List Code} {items : List Item} {layout : Layout} {offset : ℕ}
    (hlayout : packedLayout 0 codes = layout) (hroom : offset + calcsize codes ≤ file.length)
    (h : Holds file offset layout items) : unpackFrom codes file offset = .ok items := by
  unfold unpackFrom
  rw [if_pos hroom, hlayout, h.readAll]

theorem unpack_header (haddr : Addressable width height) (hs : Valid width height s) :
    unpackFrom header s.arena 0 = .ok (SnapshotSharedMemoryWriter.arenaHeader width height) := by
  refine unpackFrom_of_holds packed_header ?_ hs.header
  rw [calcsize_header, hs.length, SnapshotSharedMemoryWriter.toNat_arenaBytes haddr]
  omega

/-- The reader accepts the arena. -/
theorem openArena_ok (haddr : Addressable width height) (hs : Valid width height s)
    (hwidth : r.width = width.toNat) (hheight : r.height = height.toNat) :
    r.openArena s.arena = .ok () := by
  have hlength : s.arena.length = r.arenaBytes := by
    rw [hs.length, SnapshotSharedMemoryWriter.toNat_arenaBytes haddr, arenaBytes_eq, hwidth, hheight]
  have hmatches : r.HeaderMatches (SnapshotSharedMemoryWriter.arenaHeader width height) := by
    refine ⟨rfl, ?_⟩
    rw [hwidth, hheight]
    rfl
  unfold openArena
  rw [if_neg (not_not.2 hlength), unpack_header haddr hs]
  exact if_neg (not_not.2 hmatches)

theorem unpackSlot_ok (h : Stored width height file (r.slotOffset slot) g a)
    (hroom : r.slotOffset slot + 192 ≤ file.length) :
    r.unpackSlot file slot = .ok (SnapshotSharedMemoryWriter.slotHeader g a) := by
  unfold unpackSlot
  rw [unpackFrom_of_holds packed_slotHeader hroom h.header]
  rfl

theorem stamp_int (time : Time) :
    Item.int (SnapshotSharedMemoryWriter.stamp time) = stampNs time := by
  have hbounds := stampNs_bounds time
  refine Int64.toInt_ofInt_of_le ?_ ?_
  · omega
  · omega

/-- The sample has what was committed. -/
theorem sample_eq (h : Stored width height file (r.slotOffset slot) g a)
    (hwidth : r.width = width.toNat) (hheight : r.height = height.toNat) :
    r.sample (SnapshotSharedMemoryWriter.slotHeader g a)
      (slice file (r.payloadOffset slot) (r.frameBytes * 3)) = a.snapshot.sample := by
  have hframe : width.toNat * height.toNat * 3 = r.frameBytes := by
    rw [frameBytes_eq, hwidth, hheight]
  obtain ⟨-, hleft, hoverview, hright⟩ := h
  rw [hframe] at hleft hoverview hright
  have hpayload : r.slotOffset slot + 192 = r.payloadOffset slot := by
    rw [payloadOffset, calcsize_slotHeader]
  rw [hpayload] at hleft hoverview hright
  have hframes : (r.sample (SnapshotSharedMemoryWriter.slotHeader g a)
      (slice file (r.payloadOffset slot) (r.frameBytes * 3))).frames = a.snapshot.sample.frames := by
    have hthird : r.frameBytes * 3 - r.frameBytes * 2 = r.frameBytes := by omega
    simp only [sample, VlaSnapshot.sample]
    rw [take_slice (by omega), drop_slice, take_slice (by omega), drop_slice, hthird, hleft,
      hoverview, hright]
    rfl
  refine SnapshotArenaSample.ext rfl ?_ ?_ rfl rfl hframes
  · exact Prod.ext (stamp_int _) (Prod.ext (stamp_int _) (stamp_int _))
  · exact Prod.ext (stamp_int _) (stamp_int _)

/-- A slot is read, unless its generation has wrapped to `0`. -/
theorem read_eq (haddr : Addressable width height) (hs : Valid width height s)
    (h : Stored width height s.arena (r.slotOffset slot) g a) (hslot : slot < slotCount)
    (heven : g.toNat % 2 = 0) (hwidth : r.width = width.toNat) (hheight : r.height = height.toNat) :
    r.read s.arena slot g.toNat =
      if g.toNat = 0 then .error (.arenaUnavailable "snapshot descriptor is invalid")
      else .ok a.snapshot.sample := by
  have hinvalid : InvalidDescriptor (slot : ℤ) (g.toNat : ℤ) ↔ g.toNat = 0 := by
    unfold InvalidDescriptor
    omega
  have hroom : r.slotOffset slot + 192 ≤ s.arena.length := by
    have hle : slot * (192 + width.toNat * height.toNat * 3 * 3) ≤
      192 + width.toNat * height.toNat * 3 * 3 := SnapshotSharedMemoryWriter.slot_mul_le hslot
    rw [hs.length, SnapshotSharedMemoryWriter.toNat_arenaBytes haddr, slotOffset_eq, hwidth, hheight]
    omega
  have hgeneration : generation (SnapshotSharedMemoryWriter.slotHeader g a) = (g.toNat : ℤ) := rfl
  unfold read
  by_cases hzero : g.toNat = 0
  · rw [if_pos (hinvalid.2 hzero), if_pos hzero]
  · rw [if_neg (fun hbad => hzero (hinvalid.1 hbad)), if_neg hzero, openArena_ok haddr hs hwidth hheight,
      Int.toNat_natCast, unpackSlot_ok h hroom]
    simp only [bind, Except.bind, hgeneration, ne_eq, not_true_eq_false, if_false,
      sample_eq h hwidth hheight]

end SnapshotSharedMemoryReader

end DualCollection
