import DualCollection.Snapshot.Arena
import DualCollection.Thread.Play

/-!
# What is read from the arena was committed

The writer calls `commit`, the reader calls `read`, and their sections interleave in any order; a
commit may be given up because a frame does not fit.  `Known` is what the reader knows while it
loads the fields of a slot: whatever was published in the slot before, if it is still there then the
values that were loaded are its values.  When the generation is the same afterwards, it still was.
-/

namespace DualCollection

open Thread

/-- The two processes. -/
inductive ArenaRole
  | writer
  | reader
  deriving DecidableEq

/-- What they do. -/
inductive ArenaOp (D : Type)
  | commit (x : VlaSnapshot D)
  | read (slot generation : ℤ)

namespace Arena

variable {D : Type}

/-- Note what a call of `read` has returned. -/
def record (slot generation : ℤ) (sample : SnapshotArenaSample D) : ArenaProg D Unit :=
  .atomic .record fun _ s => (.ok (), { s with returned := (slot, generation, sample) :: s.returned })

variable (D) in
/-- A writer for frames of one size, and a reader that expects frames of one size. -/
def system (width height : UInt32) (width' height' : ℕ) :
    System ArenaRole (ArenaOp D) ArenaSection (Option SnapshotError) (Arena D) SnapshotError where
  op
    | .writer, .commit x => do
      let _ ← commit width height x
      pure ()
    | .reader, .read slot generation => do
      let sample ← read width' height' slot generation
      record slot generation sample
    -- the writer does not read, and the reader does not commit
    | .writer, .read _ _ | .reader, .commit _ => pure ()

/-- The generations do not wrap. -/
def NoWrap (_ : ArenaRole) (l : ArenaSection) (_ : Option SnapshotError) (s : Arena D) : Prop :=
  l = .nextSequence → s.sequence + 1 < 2 ^ 63

/-! ### The invariant -/

/-- What a commit has published. -/
def publication (p : SnapshotDescriptor × VlaSnapshot D) :
    Publication (Fin slotCount) ArenaCell (ArenaCell.Value D) := ⟨p.1.slot, p.1.generation, p.2.cell⟩

/-- What was published so far. -/
def published (s : Arena D) : List (Publication (Fin slotCount) ArenaCell (ArenaCell.Value D)) :=
  s.committed.map publication

/-- The call of `read` has returned what was committed. -/
def Untorn (s : Arena D) (r : ℤ × ℤ × SnapshotArenaSample D) : Prop :=
  ∃ p ∈ s.committed, (p.1.slot : ℤ) = r.1 ∧ (p.1.generation : ℤ) = r.2.1 ∧ r.2.2 = p.2.sample

/-- The invariant. -/
structure Inv (width height : UInt32) (width' height' : ℕ) (s : Arena D) : Prop where
  /-- The slots hold what was published. -/
  consistent : Consistent s.slots s.published
  /-- No generation was published that is still to come. -/
  bound : ∀ p ∈ s.committed, p.1.generation ≤ s.sequence * 2
  /-- The frames that were committed fit. -/
  fits : ∀ p ∈ s.committed, ∀ camera,
    (p.2.camera camera).data.length = frameBytes width.toNat height.toNat
  /-- The header is that of the writer. -/
  header : s.header = .of width.toNat height.toNat
  /-- The reader has checked the header. -/
  mapped : s.mapped = true → s.header = .of width' height'
  /-- What was returned is what was committed. -/
  returned : ∀ r ∈ s.returned, s.Untorn r

/-- What the reader leaves to the writer. -/
structure ByReader (s s' : Arena D) : Prop where
  slots : s'.slots = s.slots
  sequence : s'.sequence = s.sequence
  committed : s'.committed = s.committed

/-- What the writer leaves to the reader. -/
structure ByWriter (s s' : Arena D) : Prop where
  mapped : s'.mapped = s.mapped
  returned : s'.returned = s.returned
  committed : s.committed ⊆ s'.committed
  advances : Advances s.slots s.published s'.slots s'.published

variable (D) in
/-- The proof outline of the two processes. -/
def outline (width height : UInt32) (width' height' : ℕ) :
    Outline ArenaRole ArenaSection (Option SnapshotError) (Arena D) SnapshotError where
  inv := Inv width height width' height'
  admits := NoWrap
  rely
    | .writer => ByReader
    | .reader => ByWriter
  guar
    | .writer, _, s, _, s' => ByWriter s s'
    | .reader, _, s, _, s' => ByReader s s'

variable {width height : UInt32} {width' height' : ℕ} {s s' : Arena D}

theorem ByReader.refl : ByReader s s := ⟨rfl, rfl, rfl⟩

theorem ByReader.trans {s'' : Arena D} (h : ByReader s s') (h' : ByReader s' s'') :
    ByReader s s'' where
  slots := h'.slots.trans h.slots
  sequence := h'.sequence.trans h.sequence
  committed := h'.committed.trans h.committed

theorem ByWriter.refl : ByWriter s s := ⟨rfl, rfl, List.Subset.refl _, .refl⟩

theorem ByWriter.trans {s'' : Arena D} (h : ByWriter s s') (h' : ByWriter s' s'') :
    ByWriter s s'' where
  mapped := h'.mapped.trans h.mapped
  returned := h'.returned.trans h.returned
  committed := List.Subset.trans h.committed h'.committed
  advances := h.advances.trans h'.advances

/-! ### The writer -/

/-- What the writer knows while it stores the fields and the frames. -/
structure Writing (n : ℕ) (x : VlaSnapshot D) (stored : List ArenaCell) (s : Arena D) :
    Prop where
  /-- The sequence number is that of the call. -/
  sequence : s.sequence = n
  /-- Nobody reads the slot. -/
  locked : ¬ Stable (s.slots (slotOf n)).version
  /-- The generation is new. -/
  fresh : ∀ p ∈ s.committed, p.1.generation < n * 2
  /-- What was stored. -/
  cells : ∀ i ∈ stored, (s.slots (slotOf n)).cell i = x.cell i

variable {n : ℕ} {x : VlaSnapshot D} {stored : List ArenaCell}

theorem Writing.byReader (h : Writing n x stored s) (hr : ByReader s s') :
    Writing n x stored s' := by
  obtain ⟨hslots, hsequence, hcommitted⟩ := hr
  exact ⟨hsequence.trans h.sequence, hslots ▸ h.locked, hcommitted ▸ h.fresh, hslots ▸ h.cells⟩

/-- A change of a slot that nobody reads. -/
theorem Inv.change (h : Inv width height width' height' s)
    {slots : Fin slotCount → Slot ArenaCell (ArenaCell.Value D)}
    (hc : Consistent slots s.published ∧ Advances s.slots s.published slots s.published) :
    Inv width height width' height' { s with slots } ∧ ByWriter s { s with slots } :=
  ⟨⟨hc.1, h.bound, h.fits, h.header, h.mapped, h.returned⟩, rfl, rfl,
    List.Subset.refl _, hc.2⟩

theorem store_wp (h : Writing n x stored s) (cell : ArenaCell) :
    wp (outline D width height width' height') .writer
      (fun r s' => r = .ok () ∧ Writing n x (cell :: stored) s')
      (store (slotOf n) cell (x.cell cell)) s := by
  refine wp_atomic.2 fun s₁ hr hi => ⟨trivial, fun e _ => ?_⟩
  have hw := h.byReader hr
  obtain ⟨hinv, hguar⟩ := hi.change (hi.consistent.store hw.locked cell (x.cell cell))
  refine ⟨hinv, hguar, rfl, hw.sequence, ?_, hw.fresh, fun i hmem => ?_⟩
  · simpa using hw.locked
  · dsimp only
    rw [setCell_self]
    by_cases hi : i = cell
    · subst hi
      exact Function.update_self ..
    · exact (Function.update_of_ne hi ..).trans
        (hw.cells i ((List.mem_cons.1 hmem).resolve_left hi))

theorem storeAll_wp (h : Writing n x stored s) (cells : List ArenaCell) :
    wp (outline D width height width' height') .writer
      (fun r s' => r = .ok () ∧ Writing n x (cells.reverse ++ stored) s')
      (storeAll (slotOf n) x.cell cells) s := by
  induction cells generalizing s stored with
  | nil => exact ⟨rfl, h⟩
  | cons cell cells ih =>
    refine wp_bind.2 (wp_mono (store_wp h cell) fun r s₁ hr => ?_)
    obtain ⟨rfl, hw⟩ := hr
    refine wp_mono (ih hw) fun r s₂ hr => ?_
    rw [List.reverse_cons, List.append_assoc]
    exact hr

theorem copyFrame_wp (h : Writing n x stored s) (camera : Camera) :
    wp (outline D width height width' height') .writer
      (fun r s' => r = .ok () → FrameFits width height (x.camera camera) ∧
        Writing n x (.frame camera :: stored) s')
      (copyFrame width height (slotOf n) camera (x.camera camera)) s := by
  unfold copyFrame
  split
  · exact fun hr => by cases hr
  · rename_i hfits
    exact wp_mono (store_wp h (.frame camera)) fun r s' hr _ => ⟨not_not.1 hfits, hr.2⟩

theorem mem_headerCells (i : ArenaCell) : i ∈ headerCells ∨ ∃ camera, i = .frame camera := by
  cases i with
  | ns field =>
    left
    cases field with
    | cutoffNs => simp [headerCells]
    | cameraNs camera => cases camera <;> simp [headerCells]
    | armNs side => cases side <;> simp [headerCells]
  | joint side index => cases side <;> simp [headerCells]
  | frame camera => exact .inr ⟨camera, rfl⟩

theorem not_stable_or_one (n : ℕ) : ¬ Stable (n ||| 1) := by
  rintro ⟨-, heven⟩
  have hodd : (n ||| 1) % 2 = 1 := Nat.or_mod_two_eq_one.2 (.inr rfl)
  omega

/-- The generation of a slot is made odd. -/
theorem storeGeneration_wp {generation : ℕ} (x : VlaSnapshot D) (hsequence : s.sequence = n)
    (hfresh : ∀ p ∈ s.committed, p.1.generation < n * 2) :
    wp (outline D width height width' height') .writer
      (fun r s' => r = .ok () ∧ Writing n x [] s')
      (storeGeneration (slotOf n) (generation ||| 1)) s := by
  refine wp_atomic.2 fun s₁ hr hi => ⟨trivial, fun e _ => ?_⟩
  have hodd := not_stable_or_one generation
  obtain ⟨hinv, hguar⟩ := hi.change (hi.consistent.lock (k := slotOf n) hodd)
  refine ⟨hinv, hguar, rfl, hr.sequence.trans hsequence, ?_, hr.committed ▸ hfresh, by simp⟩
  simpa using hodd

/-- What was stored is published. -/
theorem publish_wp (h : Writing n x stored s) (hstored : ∀ i, i ∈ stored) (hn : 0 < n)
    (hfits : ∀ camera, FrameFits width height (x.camera camera)) :
    wp (outline D width height width' height') .writer (fun _ _ => True)
      (publish ⟨slotOf n, n * 2⟩ x) s := by
  refine wp_atomic.2 fun s₁ hr hi => ⟨trivial, fun e _ => ?_⟩
  have hw := h.byReader hr
  have hcell : (s₁.slots (slotOf n)).cell = x.cell := funext fun i => hw.cells i (hstored i)
  have hnew : ∀ p ∈ s₁.published, p.slot = slotOf n → p.version ≠ n * 2 := by
    intro p hp _
    obtain ⟨q, hq, rfl⟩ := List.mem_map.1 hp
    exact (hw.fresh q hq).ne
  obtain ⟨hc, ha⟩ := hi.consistent.publish ⟨by omega, by omega⟩ hnew
  rw [hcell] at hc ha
  refine ⟨⟨hc, ?_, ?_, hi.header, hi.mapped, fun r hmem => ?_⟩, ⟨rfl, rfl,
    List.subset_cons_self _ _, ha⟩, trivial⟩
  · intro p hp
    rcases List.mem_cons.1 hp with rfl | hp
    · exact (hw.sequence ▸ le_rfl)
    · exact hi.bound p hp
  · intro p hp
    rcases List.mem_cons.1 hp with rfl | hp
    · exact fun camera => (hfits camera).2.2.2.2
    · exact hi.fits p hp
  · obtain ⟨p, hp, hr⟩ := hi.returned r hmem
    exact ⟨p, List.mem_cons_of_mem _ hp, hr⟩

/-- A commit. -/
theorem commit_wp : wp (outline D width height width' height') .writer (fun _ _ => True)
    (commit width height x) s := by
  refine wp_bind.2 (wp_atomic.2 fun s₁ hr hi => ⟨trivial, fun e hadm => ?_⟩)
  have hlt : s₁.sequence + 1 < 2 ^ 63 := hadm rfl
  have hmod : (s₁.sequence + 1) % 2 ^ 64 = s₁.sequence + 1 := Nat.mod_eq_of_lt (by omega)
  have hgeneration : (s₁.sequence + 1) * 2 % 2 ^ 64 = (s₁.sequence + 1) * 2 :=
    Nat.mod_eq_of_lt (by omega)
  have hbound : ∀ p ∈ s₁.committed, p.1.generation < (s₁.sequence + 1) * 2 := fun p hp => by
    have := hi.bound p hp
    omega
  dsimp only
  rw [hmod, hgeneration]
  refine ⟨⟨hi.consistent, fun p hp => (hbound p hp).le, hi.fits, hi.header, hi.mapped,
    hi.returned⟩, ⟨rfl, rfl, List.Subset.refl _, .refl⟩, ?_⟩
  refine wp_bind.2 (wp_mono (storeGeneration_wp x rfl hbound) fun r s₂ hr => ?_)
  obtain ⟨rfl, hw⟩ := hr
  refine wp_bind.2 (wp_mono (storeAll_wp hw headerCells) fun r s₃ hr => ?_)
  obtain ⟨rfl, hw⟩ := hr
  have hframe : ∀ camera {stored s₃}, Writing (s₁.sequence + 1) x stored s₃ →
      ∀ {f : Unit → ArenaProg D SnapshotDescriptor}, (∀ s₄, FrameFits width height (x.camera camera) →
        Writing (s₁.sequence + 1) x (.frame camera :: stored) s₄ →
        wp (outline D width height width' height') .writer (fun _ _ => True) (f ()) s₄) →
      wp (outline D width height width' height') .writer (fun _ _ => True)
        (copyFrame width height (slotOf (s₁.sequence + 1)) camera (x.camera camera) >>= f) s₃ := by
    intro camera stored s₃ hw f hf
    refine wp_bind.2 (wp_mono (copyFrame_wp hw camera) fun r s₄ hr => ?_)
    cases r with
    | ok _ => exact hf s₄ (hr rfl).1 (hr rfl).2
    | error err => trivial
  refine hframe .left hw fun s₄ hleft hw => ?_
  refine hframe .overview hw fun s₅ hoverview hw => ?_
  refine hframe .right hw fun s₆ hright hw => ?_
  refine publish_wp hw (fun i => ?_) (Nat.succ_pos _) fun camera => ?_
  · rcases mem_headerCells i with hi | ⟨camera, rfl⟩
    · simp [hi]
    · cases camera <;> simp
  · cases camera with
    | left => exact hleft
    | overview => exact hoverview
    | right => exact hright

/-! ### The reader -/

/-- What the reader knows of the values that it has loaded from the slot `k`: what was published in
the slot in the history `h`, and is still there, satisfies `P`. -/
structure Known (h : List (Publication (Fin slotCount) ArenaCell (ArenaCell.Value D)))
    (k : Fin slotCount) (P : (∀ i : ArenaCell, i.Value D) → Prop) (s : Arena D) : Prop where
  /-- What was published. -/
  published : h ⊆ s.published
  /-- It satisfies `P` if it is still there. -/
  cells : ∀ p ∈ h, p.slot = k → (s.slots k).version = p.version → P p.cell

variable {h : List (Publication (Fin slotCount) ArenaCell (ArenaCell.Value D))}
  {k : Fin slotCount} {P : (∀ i : ArenaCell, i.Value D) → Prop}

theorem Known.byWriter (hk : Known h k P s) (hw : ByWriter s s') : Known h k P s' where
  published := List.Subset.trans hk.published hw.advances.published
  cells p hp hslot hv := by
    have hkept := hw.advances.kept p (hk.published hp)
    rw [hslot] at hkept
    have hsame := hkept hv
    rw [hsame] at hv
    exact hk.cells p hp hslot hv

theorem Known.nil : Known [] k (fun _ => True) s :=
  ⟨List.nil_subset _, fun _ hp => (List.not_mem_nil hp).elim⟩

section

variable {α : Type} {Q : Except SnapshotError α → Arena D → Prop}

/-- Load a cell, and go on. -/
theorem load_bind {cell : ArenaCell} {f : cell.Value D → ArenaProg D α} (hk : Known h k P s)
    (hf : ∀ v s', Known h k (fun c => P c ∧ v = c cell) s' →
      wp (outline D width height width' height') .reader Q (f v) s') :
    wp (outline D width height width' height') .reader Q (load k cell >>= f) s := by
  refine wp_bind.2 (wp_atomic.2 fun s₁ hr hi => ⟨trivial, fun e _ => ⟨hi, .refl, ?_⟩⟩)
  have hk := hk.byWriter hr
  refine hf _ s₁ ⟨hk.published, fun p hp hslot hv => ⟨hk.cells p hp hslot hv, ?_⟩⟩
  subst hslot
  exact hi.consistent.seen (hk.published hp) cell hv

/-- Load the states of joints, and go on. -/
theorem loadJoints_bind {side : Side} {indices : List (Fin 7)} {f : List D → ArenaProg D α}
    (hk : Known h k P s)
    (hf : ∀ vs s', Known h k (fun c => P c ∧ vs = indices.map fun i => c (.joint side i)) s' →
      wp (outline D width height width' height') .reader Q (f vs) s') :
    wp (outline D width height width' height') .reader Q (loadJoints k side indices >>= f) s := by
  induction indices generalizing α s P f Q with
  | nil => exact hf [] s ⟨hk.published, fun p hp hslot hv => ⟨hk.cells p hp hslot hv, rfl⟩⟩
  | cons index indices ih =>
    refine wp_bind.2 (load_bind hk fun v s₁ hk => ih hk fun vs s₂ hk => ?_)
    refine hf (v :: vs) s₂ ⟨hk.published, fun p hp hslot hv => ?_⟩
    obtain ⟨⟨hP, rfl⟩, rfl⟩ := hk.cells p hp hslot hv
    exact ⟨hP, rfl⟩

/-- The header says what is in the cells. -/
structure SlotHeader.Matches (header : SlotHeader D) (c : ∀ i : ArenaCell, i.Value D) : Prop where
  cutoffNs : header.cutoffNs = c (.ns .cutoffNs)
  cameraStampsNs : header.cameraStampsNs = (c (.ns (.cameraNs .left)),
    c (.ns (.cameraNs .overview)), c (.ns (.cameraNs .right)))
  armStampsNs : header.armStampsNs = (c (.ns (.armNs .left)), c (.ns (.armNs .right)))
  leftArm : header.leftArm = (List.finRange 7).map fun i => c (.joint .left i)
  rightArm : header.rightArm = (List.finRange 7).map fun i => c (.joint .right i)

/-- The publication has frames of the size that the writer stores. -/
def Framed (width height : UInt32)
    (p : Publication (Fin slotCount) ArenaCell (ArenaCell.Value D)) : Prop :=
  ∀ camera, List.length (α := UInt8) (p.cell (.frame camera)) = frameBytes width.toNat height.toNat

theorem Inv.framed (hi : Inv width height width' height' s) :
    ∀ p ∈ s.published, Framed width height p := by
  intro p hp camera
  obtain ⟨q, hq, rfl⟩ := List.mem_map.1 hp
  exact hi.fits q hq camera

/-- Load the header, and go on: what the generation says of the values that were loaded before, and
that a generation which may be read was published. -/
theorem unpackHeader_bind {f : SlotHeader D → ArenaProg D α} (hk : Known h k P s)
    (hf : ∀ header h' s', Known h' k header.Matches s' → h ⊆ h' →
      (Stable header.generation →
        ∃ p ∈ h', p.slot = k ∧ p.version = header.generation ∧ Framed width height p) →
      (∀ p ∈ h, p.slot = k → header.generation = p.version → P p.cell) →
      wp (outline D width height width' height') .reader Q (f header) s') :
    wp (outline D width height width' height') .reader Q (unpackHeader k >>= f) s := by
  refine wp_bind.2 (wp_bind.2 (wp_atomic.2 fun s₁ hr hi => ⟨trivial, fun e _ => ⟨hi, .refl, ?_⟩⟩))
  have hbefore := hk.byWriter hr
  have hcurrent := hi.consistent.current k
  have hknown : Known s₁.published k (fun _ => True) s₁ :=
    ⟨List.Subset.refl _, fun _ _ _ _ => trivial⟩
  refine load_bind hknown fun cutoffNs s₂ hk => ?_
  refine load_bind hk fun leftNs s₃ hk => ?_
  refine load_bind hk fun overviewNs s₄ hk => ?_
  refine load_bind hk fun rightNs s₅ hk => ?_
  refine load_bind hk fun leftArmNs s₆ hk => ?_
  refine load_bind hk fun rightArmNs s₇ hk => ?_
  refine loadJoints_bind hk fun leftArm s₈ hk => ?_
  refine loadJoints_bind hk fun rightArm s₉ hk => ?_
  refine hf _ s₁.published s₉ ⟨hk.published, fun p hp hslot hv => ?_⟩ hbefore.published
    (fun hstable => ⟨_, hcurrent hstable, rfl, rfl, hi.framed _ (hcurrent hstable)⟩) hbefore.cells
  obtain ⟨⟨⟨⟨⟨⟨⟨⟨-, rfl⟩, rfl⟩, rfl⟩, rfl⟩, rfl⟩, rfl⟩, rfl⟩, rfl⟩ := hk.cells p hp hslot hv
  exact ⟨rfl, rfl, rfl, rfl, rfl⟩

/-- Load the frames, and go on. -/
theorem loadPayload_bind {f : List UInt8 → ArenaProg D α} (hk : Known h k P s)
    (hf : ∀ payload s', Known h k (fun c => P c ∧ payload =
      (c (.frame .left) ++ c (.frame .overview) ++ c (.frame .right) : List UInt8)) s' →
      wp (outline D width height width' height') .reader Q (f payload) s') :
    wp (outline D width height width' height') .reader Q (loadPayload k >>= f) s := by
  refine wp_bind.2 (load_bind hk fun left s₁ hk => load_bind hk fun overview s₂ hk =>
    load_bind hk fun right s₃ hk => hf _ s₃ ⟨hk.published, fun p hp hslot hv => ?_⟩)
  obtain ⟨⟨⟨hP, rfl⟩, rfl⟩, rfl⟩ := hk.cells p hp hslot hv
  exact ⟨hP, rfl⟩

/-- The reader has checked that it expects frames of the size that the writer stores. -/
theorem openArena_bind {f : Unit → ArenaProg D α} (herr : ∀ err s', Q (.error err) s')
    (hf : ∀ s', width' = width.toNat → height' = height.toNat →
      wp (outline D width height width' height') .reader Q (f ()) s') :
    wp (outline D width height width' height') .reader Q (openArena width' height' >>= f) s := by
  refine wp_bind.2 (wp_atomic.2 fun s₁ hr hi => ⟨trivial, fun e _ => ?_⟩)
  have hheader : s₁.header = .of width' height' → width' = width.toNat ∧ height' = height.toNat := by
    intro heq
    rw [hi.header] at heq
    exact ⟨(congrArg ArenaHeader.width heq).symm, (congrArg ArenaHeader.height heq).symm⟩
  split
  · rename_i hmapped
    obtain ⟨hw, hh⟩ := hheader (hi.mapped hmapped)
    exact ⟨hi, .refl, hf s₁ hw hh⟩
  cases e with
  | some err => exact ⟨hi, .refl, herr err s₁⟩
  | none =>
    dsimp only
    split
    · exact ⟨hi, .refl, herr _ s₁⟩
    split
    · exact ⟨hi, .refl, herr _ s₁⟩
    rename_i hof
    obtain ⟨hw, hh⟩ := hheader (not_not.1 hof)
    refine ⟨⟨hi.consistent, hi.bound, hi.fits, hi.header, fun _ => not_not.1 hof, hi.returned⟩,
      ⟨rfl, rfl, rfl⟩, hf _ hw hh⟩

end

/-- The three frames in what was loaded. -/
theorem payload_frames {n : ℕ} {a b c : List UInt8} (ha : a.length = n) (hb : b.length = n) :
    (a ++ b ++ c).take n = a ∧ ((a ++ b ++ c).drop n).take n = b ∧ (a ++ b ++ c).drop (n * 2) = c := by
  subst ha
  refine ⟨?_, ?_, ?_⟩
  · rw [List.append_assoc, List.take_left]
  · rw [List.append_assoc, List.drop_left, ← hb, List.take_left]
  · rw [List.drop_left' (by simp [hb, Nat.mul_two])]

/-- What is read was committed. -/
theorem read_wp {slot generation : ℤ} :
    wp (outline D width height width' height') .reader
      (fun r s' => ∀ sample, r = .ok sample → s'.Untorn (slot, generation, sample))
      (read width' height' slot generation) s := by
  unfold read
  split
  · exact fun _ h => by cases h
  rename_i hvalid
  have hslot := slot_lt hvalid
  unfold InvalidDescriptor at hvalid
  refine openArena_bind (fun _ _ _ h => by cases h) fun s₁ hw hh => ?_
  refine unpackHeader_bind .nil fun metadata h s₂ hk _ hcurrent _ => ?_
  split
  · exact fun _ h => by cases h
  rename_i hbefore
  refine loadPayload_bind hk fun payload s₃ hk => ?_
  refine unpackHeader_bind hk fun after h' s₄ hk' hsub _ hafter => ?_
  split
  · exact fun _ h => by cases h
  rename_i hsame
  rintro sample ⟨⟩
  -- the generation was published, and is the same after the values were loaded
  obtain ⟨p, hp, hpk, hv, hframed⟩ := hcurrent ⟨by omega, by omega⟩
  obtain ⟨hmatches, rfl⟩ := hafter p hp hpk (by omega)
  obtain ⟨q, hq, rfl⟩ := List.mem_map.1 (hk'.published (hsub hp))
  have hn : frameBytes width' height' = frameBytes width.toNat height.toNat := by rw [hw, hh]
  obtain ⟨hleft, hoverview, hright⟩ :=
    payload_frames (c := q.2.cell (.frame .right)) (hframed .left) (hframed .overview)
  refine ⟨q, hq, ?_, ?_, ?_⟩
  · have hval : q.1.slot.val = slot.toNat := congrArg Fin.val hpk
    show (q.1.slot.val : ℤ) = slot
    omega
  · have hval : q.1.generation = metadata.generation := hv
    show (q.1.generation : ℤ) = generation
    omega
  · obtain ⟨hcutoff, hcameras, harms, hleftArm, hrightArm⟩ := hmatches
    simp only [VlaSnapshot.sample, SnapshotArenaSample.mk.injEq, Prod.mk.injEq]
    rw [hn, hcutoff, hcameras, harms, hleftArm, hrightArm]
    exact ⟨rfl, rfl, rfl, rfl, rfl, hleft, hoverview, hright⟩

/-- What the calls have returned is what was committed. -/
theorem record_wp {slot generation : ℤ} {sample : SnapshotArenaSample D}
    (h : s.Untorn (slot, generation, sample)) :
    wp (outline D width height width' height') .reader (fun _ _ => True)
      (record slot generation sample) s := by
  refine wp_atomic.2 fun s₁ hr hi => ⟨trivial, fun e _ => ?_⟩
  refine ⟨⟨hi.consistent, hi.bound, hi.fits, hi.header, hi.mapped, fun r hmem => ?_⟩,
    ⟨rfl, rfl, rfl⟩, trivial⟩
  rcases List.mem_cons.1 hmem with rfl | hmem
  · obtain ⟨p, hp, hp'⟩ := h
    exact ⟨p, hr.committed hp, hp'⟩
  · exact hi.returned r hmem

/-! ### The system -/

theorem outline_sound : (outline D width height width' height').Sound
    (system D width height width' height') where
  refl t s := by
    cases t with
    | writer => exact ByReader.refl
    | reader => exact ByWriter.refl
  trans t a b c h h' := by
    cases t with
    | writer => exact ByReader.trans h h'
    | reader => exact ByWriter.trans h h'
  compat := by
    intro t t' l s r s' hne _ _ _ hguar
    cases t with
    | writer =>
      cases t' with
      | writer => exact absurd rfl hne
      | reader => exact hguar
    | reader =>
      cases t' with
      | writer => exact hguar
      | reader => exact absurd rfl hne
  idle_stable _ _ := trivial
  op t o s _ _ _ := by
    cases t with
    | writer =>
      cases o with
      | commit x =>
        refine wp_bind.2 (wp_mono commit_wp fun r s' _ => ?_)
        cases r <;> trivial
      | read slot generation => trivial
    | reader =>
      cases o with
      | commit x => trivial
      | read slot generation =>
        refine wp_bind.2 (wp_mono read_wp fun r s' hr => ?_)
        cases r with
        | ok sample => exact record_wp (hr sample rfl)
        | error err => trivial

theorem inv_create [Zero D] {path : String} (hs : Arena.create D path width height = .ok s) :
    Inv width height width' height' s := by
  unfold Arena.create at hs
  split at hs
  · cases hs
  cases hs
  exact ⟨⟨fun k hk => absurd hk.1 (lt_irrefl 0), .nil, fun p hp => (List.not_mem_nil hp).elim⟩,
    fun p hp => (List.not_mem_nil hp).elim, fun p hp => (List.not_mem_nil hp).elim, rfl,
    (fun hm => by cases hm), fun r hr => (List.not_mem_nil hr).elim⟩

/-- Nothing else has the key of an entry. -/
theorem filter_key {α β : Type} [DecidableEq α] {l : List (α × β)} (hl : (l.map Prod.fst).Nodup)
    {p : α × β} (hp : p ∈ l) : (l.filter fun q => q.1 = p.1) = [p] := by
  induction l with
  | nil => exact (List.not_mem_nil hp).elim
  | cons q l ih =>
    rw [List.map_cons, List.nodup_cons] at hl
    obtain ⟨hnew, hl⟩ := hl
    rcases List.mem_cons.1 hp with rfl | hp
    · have hrest : (l.filter fun q => q.1 = p.1) = [] := by
        refine List.filter_eq_nil_iff.2 fun q hq heq => hnew ?_
        rw [← of_decide_eq_true heq]
        exact List.mem_map_of_mem hq
      rw [List.filter_cons_of_pos (by simp), hrest]
    · have hne : ¬ q.1 = p.1 := fun heq => hnew (heq ▸ List.mem_map_of_mem hp)
      rw [List.filter_cons_of_neg (by simpa using hne), ih hl hp]

/-- No descriptor is returned twice. -/
theorem Inv.descriptors_nodup (hi : Inv width height width' height' s) :
    (s.committed.map Prod.fst).Nodup := by
  refine List.pairwise_map.2 ((List.pairwise_map.1 hi.consistent.once).imp fun hne heq => hne ?_)
  exact ⟨congrArg SnapshotDescriptor.slot heq, congrArg SnapshotDescriptor.generation heq⟩

/-- What a call of `read` returns is what the one call of `commit` stored that returned its slot and
its generation. -/
theorem read_untorn [Zero D] {path : String} {s : Arena D}
    (hs : Arena.create D path width height = .ok s)
    {c : Config ArenaRole ArenaSection (Option SnapshotError) (Arena D) SnapshotError}
    (hc : (system D width height width' height').Reachable NoWrap (.init s) c)
    {slot generation : ℤ} {sample : SnapshotArenaSample D}
    (hread : (slot, generation, sample) ∈ c.shared.returned) :
    ∃ (d : SnapshotDescriptor) (x : VlaSnapshot D), (d.slot : ℤ) = slot ∧
      (d.generation : ℤ) = generation ∧
        (c.shared.committed.filter fun p => p.1 = d) = [(d, x)] ∧ sample = x.sample := by
  have hinv := outline_sound.inv (inv_create hs) (fun _ => trivial) hc
  obtain ⟨⟨d, x⟩, hp, hslot, hgeneration, hsample⟩ := hinv.returned _ hread
  exact ⟨d, x, hslot, hgeneration, filter_key hinv.descriptors_nodup hp, hsample⟩

namespace Station

/-- An image of one pixel. -/
def pixel (value : UInt8) : Image := ⟨⟨0, 1⟩, 1, 1, "rgb8", 3, List.replicate 3 value⟩

/-- A snapshot of three pixels. -/
def snapshot : VlaSnapshot ℕ where
  camera
    | .left => pixel 1
    | .overview => pixel 2
    | .right => pixel 3
  arm _ := ⟨⟨0, 1⟩, fun i => i, 7⟩
  cutoffNs := 1

/-- The generations can be evaluated. -/
def noWrap (_ : ArenaRole) (l : ArenaSection) (_ : Option SnapshotError) (s : Arena ℕ) : Bool :=
  !decide (l = .nextSequence) || decide (s.sequence + 1 < 2 ^ 63)

theorem noWrap_spec (t : ArenaRole) (l : ArenaSection) (e : Option SnapshotError) (s : Arena ℕ)
    (h : noWrap t l e s = true) : NoWrap t l e s := by
  intro hl
  simpa [noWrap, hl] using h

/-- The snapshot is committed, and the next commit is begun while it is read. -/
def schedule : List (Move ArenaRole (ArenaOp ℕ) (Option SnapshotError)) :=
  Move.run .writer (.commit snapshot) 26 none ++ Move.run .writer (.commit snapshot) 10 none ++
    Move.run .reader (.read 1 2) 47 none

end Station

/-- A snapshot is read while the next one is committed. -/
theorem read_untorn_committed : ∃ (s : Arena ℕ)
    (c : Config ArenaRole ArenaSection (Option SnapshotError) (Arena ℕ) SnapshotError)
    (sample : SnapshotArenaSample ℕ), Arena.create ℕ "arena" 1 1 = .ok s ∧
      (system ℕ 1 1 1 1).Reachable NoWrap (.init s) c ∧ (1, 2, sample) ∈ c.shared.returned ∧
      ∃ (d : SnapshotDescriptor) (x : VlaSnapshot ℕ), (d.slot : ℤ) = 1 ∧ (d.generation : ℤ) = 2 ∧
        (c.shared.committed.filter fun p => p.1 = d) = [(d, x)] ∧ sample = x.sample := by
  have hshown : ((Arena.create ℕ "arena" 1 1).toOption.any fun s =>
      ((system ℕ 1 1 1 1).play Station.noWrap (.init s) Station.schedule).any fun c =>
        c.shared.returned.any fun r => r.1 = 1 && r.2.1 = 2) = true := by decide +kernel
  obtain ⟨s, hs, hplayed⟩ := (Option.any_eq_true _ _).1 hshown
  obtain ⟨c, hc, hreturned⟩ := (Option.any_eq_true _ _).1 hplayed
  obtain ⟨⟨slot, generation, sample⟩, hread, heq⟩ := List.any_eq_true.1 hreturned
  simp only [Bool.and_eq_true, decide_eq_true_eq] at heq
  obtain ⟨rfl, rfl⟩ := heq
  have hcreate : Arena.create ℕ "arena" 1 1 = .ok s := by
    cases h : Arena.create ℕ "arena" 1 1 with
    | error err => rw [h] at hs; cases hs
    | ok s' =>
      rw [h] at hs
      exact congrArg Except.ok (Option.some.inj hs)
  have hreachable := System.play_reachable (fun _ _ _ => trivial) Station.noWrap_spec hc
  exact ⟨s, c, sample, hcreate, hreachable, hread, read_untorn hcreate hreachable hread⟩

end Arena

end DualCollection
