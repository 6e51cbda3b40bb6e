import DualCollection.Snapshot.Protocol

/-!
# Requests and answers

What the arena holds after a commit, and what is read from it while nothing is committed
(`Arena.read_alone`); and the readings of the log that say to which request an answer belongs
(`InAnswer`).
-/

namespace DualCollection

open Thread Net Bytes

namespace Arena

variable {width height : UInt32} {width' height' : ℕ} {D : Type} {s s' : Arena D}
  {x : VlaSnapshot D} {d : SnapshotDescriptor}

/-! ### The arena -/

/-- The slot holds what was committed. -/
structure Holds (d : SnapshotDescriptor) (x : VlaSnapshot D) (s : Arena D) : Prop where
  /-- What is in the slot. -/
  slot : s.slots d.slot = ⟨d.generation, x.cell⟩
  /-- It was committed. -/
  committed : (d, x) ∈ s.committed
  /-- Its generation can be read. -/
  generation : 0 < d.generation ∧ d.generation % 2 = 0 ∧ d.generation < 2 ^ 64

theorem Holds.byReader (h : Holds d x s) (hr : ByReader s s') : Holds d x s' where
  slot := by rw [hr.slots]; exact h.slot
  committed := by rw [hr.committed]; exact h.committed
  generation := h.generation

/-- What was published is in its slot. -/
theorem publish_holds {n : ℕ} {stored : List ArenaCell} (h : Writing n x stored s)
    (hstored : ∀ i, i ∈ stored) (hn : 0 < n) (hbound : n < 2 ^ 63)
    (hfits : ∀ camera, FrameFits width height (x.camera camera)) :
    wp (outline D width height width' height') .writer
      (fun r s' => r = .ok ⟨slotOf n, n * 2⟩ ∧ Holds ⟨slotOf n, n * 2⟩ x s')
      (publish ⟨slotOf n, n * 2⟩ x) s := by
  refine wp_atomic.2 fun s₁ hr hi => ?_
  obtain ⟨hpre, hstep⟩ := wp_atomic.1 (publish_wp h hstored hn hfits) s₁ hr hi
  refine ⟨hpre, fun e hadm => ?_⟩
  obtain ⟨hinv, hguar, -⟩ := hstep e hadm
  have hw := h.byReader hr
  have hcell : (s₁.slots (slotOf n)).cell = x.cell := funext fun i => hw.cells i (hstored i)
  have hgeneration : 0 < n * 2 ∧ n * 2 % 2 = 0 ∧ n * 2 < 2 ^ 64 := by omega
  refine ⟨hinv, hguar, rfl, ?_, List.mem_cons_self, hgeneration⟩
  rw [← hcell]
  exact setVersion_self ..

/-- Store a frame, and go on if it fits. -/
theorem copyFrame_bind {n : ℕ} {stored : List ArenaCell} {α : Type} {f : Unit → ArenaProg D α}
    {Q : Except SnapshotError α → Arena D → Prop} (h : Writing n x stored s) (camera : Camera)
    (herr : ∀ err s', Q (.error err) s')
    (hf : ∀ s', FrameFits width height (x.camera camera) →
      Writing n x (.frame camera :: stored) s' →
        wp (outline D width height width' height') .writer Q (f ()) s') :
    wp (outline D width height width' height') .writer Q
      (copyFrame width height (slotOf n) camera (x.camera camera) >>= f) s := by
  refine wp_bind.2 (wp_mono (copyFrame_wp h camera) fun r s' hr => ?_)
  cases r with
  | ok u => exact hf s' (hr rfl).1 (hr rfl).2
  | error err => exact herr err s'

/-- What a commit leaves: its descriptor is new. -/
theorem commit_holds :
    wp (outline D width height width' height') .writer
      (fun r s' => ∀ d, r = .ok d → Holds d x s' ∧ ∀ p ∈ s.committed, p.1 ≠ d)
      (commit width height x) s := by
  refine wp_bind.2 (wp_atomic.2 fun s₁ hr hi => ⟨trivial, fun e hadm => ?_⟩)
  have hlt : s₁.sequence + 1 < 2 ^ 63 := hadm rfl
  have hmod : (s₁.sequence + 1) % 2 ^ 64 = s₁.sequence + 1 := Nat.mod_eq_of_lt (by omega)
  have hgeneration : (s₁.sequence + 1) * 2 % 2 ^ 64 = (s₁.sequence + 1) * 2 :=
    Nat.mod_eq_of_lt (by omega)
  have hbound : ∀ p ∈ s₁.committed, p.1.generation < (s₁.sequence + 1) * 2 := fun p hp => by
    have := hi.bound p hp
    omega
  have hnew : ∀ p ∈ s.committed, p.1 ≠ ⟨slotOf (s₁.sequence + 1), (s₁.sequence + 1) * 2⟩ := by
    rw [← hr.committed]
    intro p hp heq
    have := hbound p hp
    rw [heq] at this
    exact lt_irrefl _ this
  dsimp only
  rw [hmod, hgeneration]
  refine ⟨⟨hi.consistent, fun p hp => (hbound p hp).le, hi.fits, hi.header, hi.mapped,
    hi.returned⟩, ⟨rfl, rfl, List.Subset.refl _, .refl⟩, ?_⟩
  refine wp_bind.2 (wp_mono (storeGeneration_wp x rfl hbound) fun r s₂ hr => ?_)
  obtain ⟨rfl, hw⟩ := hr
  refine wp_bind.2 (wp_mono (storeAll_wp hw headerCells) fun r s₃ hr => ?_)
  obtain ⟨rfl, hw⟩ := hr
  refine copyFrame_bind hw .left (fun _ _ _ h => by cases h) fun s₄ hleft hw => ?_
  refine copyFrame_bind hw .overview (fun _ _ _ h => by cases h) fun s₅ hoverview hw => ?_
  refine copyFrame_bind hw .right (fun _ _ _ h => by cases h) fun s₆ hright hw => ?_
  refine wp_mono (publish_holds hw (fun i => ?_) (Nat.succ_pos _) hlt fun camera => ?_)
    fun r s₇ ⟨hr, hholds⟩ d hd => ?_
  · rcases mem_headerCells i with hi | ⟨camera, rfl⟩
    · simp [hi]
    · cases camera <;> simp
  · cases camera with
    | left => exact hleft
    | overview => exact hoverview
    | right => exact hright
  · rw [hr] at hd
    obtain rfl := Except.ok.inj hd
    exact ⟨hholds, hnew⟩

/-- The arena cannot be opened. -/
inductive Unopened : SnapshotError → Prop
  | osError (text : String) : Unopened (.osError text)
  | size : Unopened (.arenaUnavailable "snapshot arena size is invalid")
  | header : Unopened (.arenaUnavailable "snapshot arena header is invalid")

variable (D) in
/-- The outline of a process that nobody interferes with, while the operating system refuses nothing
but opening the arena. -/
def alone (width height : UInt32) (width' height' : ℕ) :
    Outline ArenaRole ArenaSection (Option SnapshotError) (Arena D) SnapshotError :=
  { outline D width height width' height' with
    admits := fun _ _ e _ => ∀ err, e = some err → Unopened err
    rely := fun _ s s' => s' = s }

section Alone

variable {α : Type} {Q : Except SnapshotError α → Arena D → Prop} {slot : Fin slotCount}

theorem load_alone {cell : ArenaCell} {f : cell.Value D → ArenaProg D α}
    (h : wp (alone D width height width' height') .reader Q (f ((s.slots slot).cell cell)) s) :
    wp (alone D width height width' height') .reader Q (load slot cell >>= f) s := by
  refine wp_bind.2 (wp_atomic.2 fun s₁ hr hi => ⟨trivial, fun e _ => ⟨hi, .refl, ?_⟩⟩)
  rw [show s₁ = s from hr]
  exact h

theorem loadJoints_alone {side : Side} {indices : List (Fin 7)} {f : List D → ArenaProg D α}
    (h : wp (alone D width height width' height') .reader Q
      (f (indices.map fun i => (s.slots slot).cell (.joint side i))) s) :
    wp (alone D width height width' height') .reader Q
      (loadJoints slot side indices >>= f) s := by
  induction indices generalizing α f Q with
  | nil => exact h
  | cons index indices ih => exact wp_bind.2 (load_alone (ih h))

/-- The header of a slot. -/
def headerOf (slot : Slot ArenaCell (ArenaCell.Value D)) : SlotHeader D where
  generation := slot.version
  cutoffNs := slot.cell (.ns .cutoffNs)
  cameraStampsNs := (slot.cell (.ns (.cameraNs .left)), slot.cell (.ns (.cameraNs .overview)),
    slot.cell (.ns (.cameraNs .right)))
  armStampsNs := (slot.cell (.ns (.armNs .left)), slot.cell (.ns (.armNs .right)))
  leftArm := (List.finRange 7).map fun i => slot.cell (.joint .left i)
  rightArm := (List.finRange 7).map fun i => slot.cell (.joint .right i)

theorem unpackHeader_alone {f : SlotHeader D → ArenaProg D α}
    (h : wp (alone D width height width' height') .reader Q (f (headerOf (s.slots slot))) s) :
    wp (alone D width height width' height') .reader Q (unpackHeader slot >>= f) s := by
  refine wp_bind.2 (wp_bind.2 (wp_atomic.2 fun s₁ hr hi => ⟨trivial, fun e _ => ⟨hi, .refl, ?_⟩⟩))
  rw [show s₁ = s from hr]
  refine load_alone (load_alone (load_alone (load_alone (load_alone (load_alone ?_)))))
  refine loadJoints_alone (loadJoints_alone ?_)
  exact h

theorem loadPayload_alone {f : List UInt8 → ArenaProg D α}
    (h : wp (alone D width height width' height') .reader Q
      (f ((s.slots slot).cell (.frame .left) ++ (s.slots slot).cell (.frame .overview) ++
        (s.slots slot).cell (.frame .right) : List UInt8)) s) :
    wp (alone D width height width' height') .reader Q (loadPayload slot >>= f) s := by
  exact wp_bind.2 (load_alone (load_alone (load_alone h)))

/-- Opening the arena leaves the slots alone. -/
theorem openArena_alone {f : Unit → ArenaProg D α}
    (herr : ∀ err, Unopened err → Q (.error err) s)
    (hf : ∀ s', s'.slots = s.slots → s'.committed = s.committed →
      Inv width height width' height' s' → width' = width.toNat → height' = height.toNat →
        wp (alone D width height width' height') .reader Q (f ()) s') :
    wp (alone D width height width' height') .reader Q (openArena width' height' >>= f) s := by
  refine wp_bind.2 (wp_atomic.2 fun s₁ hr hi => ⟨trivial, fun e hadm => ?_⟩)
  obtain rfl : s₁ = s := hr
  have hheader : s₁.header = .of width' height' →
      width' = width.toNat ∧ height' = height.toNat := by
    intro heq
    have hof := hi.header
    rw [heq] at hof
    exact ⟨congrArg ArenaHeader.width hof, congrArg ArenaHeader.height hof⟩
  split
  · rename_i hmapped
    obtain ⟨hw, hh⟩ := hheader (hi.mapped hmapped)
    exact ⟨hi, .refl, hf s₁ rfl rfl hi hw hh⟩
  cases e with
  | some err => exact ⟨hi, .refl, herr err (hadm err rfl)⟩
  | none =>
    dsimp only
    split
    · exact ⟨hi, .refl, herr _ .size⟩
    split
    · exact ⟨hi, .refl, herr _ .header⟩
    rename_i hof
    obtain ⟨hw, hh⟩ := hheader (not_not.1 hof)
    have hi' : Inv width height width' height' { s₁ with mapped := true } :=
      ⟨hi.consistent, hi.bound, hi.fits, hi.header, fun _ => not_not.1 hof, hi.returned⟩
    exact ⟨hi', ⟨rfl, rfl, rfl⟩, hf _ rfl rfl hi' hw hh⟩

end Alone

/-- What is read while nothing is committed. -/
theorem read_alone (h : Holds d x s) :
    wp (alone D width height width' height') .reader
      (fun r _ => r = .ok x.sample ∨ ∃ err, r = .error err ∧ Unopened err)
      (read width' height' d.slot d.generation) s := by
  have hvalid : ¬ InvalidDescriptor (d.slot : ℤ) (d.generation : ℤ) := by
    have hlt := d.slot.isLt
    obtain ⟨hpos, heven, -⟩ := h.generation
    unfold InvalidDescriptor
    omega
  rw [read, dif_neg hvalid]
  refine openArena_alone (fun err herr => .inr ⟨err, rfl, herr⟩)
    fun s₁ hslots hcommitted hi hw hh => ?_
  have hslot : s₁.slots ⟨(d.slot : ℤ).toNat, slot_lt hvalid⟩ = ⟨d.generation, x.cell⟩ := by
    rw [hslots]
    exact h.slot
  refine unpackHeader_alone ?_
  rw [hslot, if_neg (by simp [headerOf])]
  refine loadPayload_alone (unpackHeader_alone ?_)
  rw [hslot, if_neg (by simp [headerOf])]
  -- the frames have the size that the reader expects
  have hfits := hi.fits (d, x) (by rw [hcommitted]; exact h.committed)
  have hn : frameBytes width' height' = frameBytes width.toNat height.toNat := by rw [hw, hh]
  obtain ⟨hleft, hoverview, hright⟩ :=
    payload_frames (c := (x.camera .right).data) (hfits .left) (hfits .overview)
  refine .inl (congrArg Except.ok ?_)
  simp only [VlaSnapshot.sample, SnapshotArenaSample.mk.injEq, Prod.mk.injEq]
  rw [hn]
  exact ⟨rfl, rfl, rfl, rfl, rfl, hleft, hoverview, hright⟩

end Arena

namespace SnapshotLink

/-! ### Readings of the log -/

/-- The requests that were sent on a connection. -/
def requests (k : ℕ) : List LinkEvent → ℕ
  | [] => 0
  | .requested j _ :: log => requests k log + if j = k then 1 else 0
  | .answered _ _ _ :: log | .returned _ :: log => requests k log

/-- The requests of a connection that were answered. -/
def answers (k : ℕ) : List LinkEvent → ℕ
  | [] => 0
  | .answered j _ _ :: log => answers k log + if j = k then 1 else 0
  | .requested _ _ :: log | .returned _ :: log => answers k log

/-- An answer. -/
def IsAnswer (e : LinkEvent) : Prop := ∃ k reply committed, e = .answered k reply committed

/-- What holds of the answers since a request was sent on the connection `k` after the commits `cs`,
when nothing else has happened since; all earlier requests of the connection were answered
before. -/
def Since (k : ℕ) (P : List LinkEvent → List SnapshotDescriptor → Prop) (log : List LinkEvent) :
    Prop :=
  ∃ middle cs before, log = middle ++ .requested k cs :: before ∧ (∀ e ∈ middle, IsAnswer e) ∧
    answers k before = requests k before ∧ P middle cs

/-- The request was not answered yet. -/
def Pending (k : ℕ) : List LinkEvent → Prop := Since k fun middle _ => answers k middle = 0

/-- The reply is the one answer to the request that was sent last, and what it shows was committed
after the request was sent. -/
def InAnswer (k : ℕ) (reply : SnapshotSocketReply)
    (committed : Option (SnapshotDescriptor × VlaSnapshot UInt64)) : List LinkEvent → Prop :=
  Since k fun middle cs => answers k middle = 1 ∧ .answered k reply committed ∈ middle ∧
    ∀ d x, committed = some (d, x) → d ∉ cs

/-- What `capture` raises when the arena cannot be opened. -/
def unopened : SnapshotError → CaptureError
  | .arenaUnavailable text => .unavailable .buffersNotReady none none text
  | err => .reader err

/-- What `capture` makes of a reply, and of what was committed. -/
inductive Shown (p : LinkParameters) (reply : SnapshotSocketReply) :
    Option (SnapshotDescriptor × VlaSnapshot UInt64) →
      Except CaptureError Observation.VlaObservationStep → Prop
  /-- Nothing could be selected. -/
  | failed (h : reply.status ≠ 0) :
      Shown p reply none (.error (failure reply.status reply.observedNs reply.limitNs))
  /-- Nothing was selected, and the reply does not say why. -/
  | invalid (h : reply.status = 0) : Shown p reply none
      (.error (.unavailable .buffersNotReady none none "snapshot descriptor is invalid"))
  /-- The arena cannot be opened. -/
  | unopened {d : SnapshotDescriptor} {x : VlaSnapshot UInt64} {err : SnapshotError}
      (h : Arena.Unopened err) : Shown p reply (some (d, x)) (.error (unopened err))
  /-- What was committed. -/
  | captured {d : SnapshotDescriptor} {x : VlaSnapshot UInt64} : Shown p reply (some (d, x))
      ((LocalVlaSnapshotClient.step p.readerWidth p.readerHeight x.sample).mapError .valueError)

/-- Why `capture` has ended as it did. -/
def Explained (p : LinkParameters) (r : Except CaptureError Observation.VlaObservationStep)
    (earlier : List LinkEvent) : Prop :=
  (∃ observedNs text, r =
      .error (.unavailable .buffersNotReady (some observedNs) (some p.timeoutNs) text)) ∨
    ∃ k reply committed, InAnswer k reply committed earlier ∧ Shown p reply committed r

variable {k j : ℕ} {log : List LinkEvent} {P P' : List LinkEvent → List SnapshotDescriptor → Prop}
  {reply : SnapshotSocketReply} {committed : Option (SnapshotDescriptor × VlaSnapshot UInt64)}
  {e : LinkEvent}

/-- One more answer. -/
theorem Since.cons (h : Since k P log) (he : IsAnswer e)
    (hP : ∀ middle cs, P middle cs → P' (e :: middle) cs) : Since k P' (e :: log) := by
  obtain ⟨middle, cs, before, rfl, hmiddle, hbalance, h⟩ := h
  exact ⟨e :: middle, cs, before, rfl, List.forall_mem_cons.2 ⟨he, hmiddle⟩, hbalance,
    hP middle cs h⟩

theorem answers_append (log log' : List LinkEvent) :
    answers k (log ++ log') = answers k log + answers k log' := by
  induction log with
  | nil => simp [answers]
  | cons e log ih =>
    cases e with
    | requested j cs => exact ih
    | returned r => exact ih
    | answered j reply committed =>
      rw [List.cons_append, answers, ih, answers]
      omega

theorem requests_append (log log' : List LinkEvent) :
    requests k (log ++ log') = requests k log + requests k log' := by
  induction log with
  | nil => simp [requests]
  | cons e log ih =>
    cases e with
    | answered j reply committed => exact ih
    | returned r => exact ih
    | requested j cs =>
      rw [List.cons_append, requests, ih, requests]
      omega

theorem requests_eq_zero (h : ∀ e ∈ log, IsAnswer e) : requests k log = 0 := by
  induction log with
  | nil => rfl
  | cons e log ih =>
    obtain ⟨⟨j, reply, committed, rfl⟩, htail⟩ := List.forall_mem_cons.1 h
    exact ih htail

/-- After the answer the requests of the connection are answered. -/
theorem InAnswer.balanced (h : InAnswer k reply committed log) :
    answers k log = requests k log := by
  obtain ⟨middle, cs, before, rfl, hmiddle, hbalance, hone, -⟩ := h
  rw [answers_append, requests_append, requests_eq_zero hmiddle, hone, answers, requests, hbalance,
    if_pos rfl]
  omega

/-- The pending request is answered. -/
theorem Pending.answered (h : Pending k log)
    (hnew : ∀ d x, committed = some (d, x) → ∀ j cs, .requested j cs ∈ log → d ∉ cs) :
    InAnswer k reply committed (.answered k reply committed :: log) := by
  obtain ⟨middle, cs, before, rfl, hmiddle, hbalance, hzero⟩ := h
  refine ⟨.answered k reply committed :: middle, cs, before, rfl,
    List.forall_mem_cons.2 ⟨⟨k, reply, committed, rfl⟩, hmiddle⟩, hbalance, ?_,
    List.mem_cons_self, fun d x hd => hnew d x hd k cs (by simp)⟩
  rw [answers, if_pos rfl, hzero]

/-- An answer on another connection. -/
theorem Pending.other (h : Pending k log) (hj : j ≠ k) :
    Pending k (.answered j reply committed :: log) :=
  Since.cons h ⟨_, _, _, rfl⟩ fun middle cs hzero => by rw [answers, if_neg hj, hzero]

theorem InAnswer.other {reply' : SnapshotSocketReply}
    {committed' : Option (SnapshotDescriptor × VlaSnapshot UInt64)}
    (h : InAnswer k reply committed log) (hj : j ≠ k) :
    InAnswer k reply committed (.answered j reply' committed' :: log) :=
  Since.cons h ⟨_, _, _, rfl⟩ fun middle cs hone => by
    rw [answers, if_neg hj]
    exact ⟨hone.1, List.mem_cons_of_mem _ hone.2.1, hone.2.2⟩

end SnapshotLink

end DualCollection
