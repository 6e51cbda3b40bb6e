import DualCollection.Snapshot.Buffer

/-!
# The choice of a snapshot

Whatever was pushed into the five buffers, `select` returns the first group of images that passes
all tests, newest overview image first, and if there is none it says which test is to blame.
`Selects` says what it returns; `select_correct` is the result.  That the images of a later group are
not earlier (`group_mono`) is why the first group is the best one.
-/

namespace DualCollection

open Search

/-- A message that is pushed into one of the buffers. -/
inductive BufferPush (D : Type)
  | camera (camera : Camera) (message : Option Image)
  | arm (side : Side) (message : Option (ArmState D))

namespace SnapshotBuffer

variable {D : Type} (b : SnapshotBuffer D)

/-- Push a message; a message that is refused changes nothing. -/
def add : BufferPush D → SnapshotBuffer D
  | .camera camera message => (b.addCamera camera message).toOption.getD b
  | .arm side message => (b.addArm side message).toOption.getD b

/-- Push one message after the other. -/
def fill (history : List (BufferPush D)) : SnapshotBuffer D := history.foldl add b

/-- The images that are pushed for a camera. -/
def pushedImage (camera : Camera) : BufferPush D → Option Image
  | .camera camera' message => if camera' = camera then message else none
  | .arm _ _ => none

/-- The states that are pushed for an arm. -/
def pushedState (side : Side) : BufferPush D → Option (ArmState D)
  | .camera _ _ => none
  | .arm side' message => if side' = side then message else none

/-- The buffers were filled in the order of the times. -/
structure Ordered (history : List (BufferPush D)) : Prop where
  /-- Those of the cameras. -/
  camera : ∀ camera, (history.filterMap (pushedImage camera)).Pairwise fun m m' => m.ns ≤ m'.ns
  /-- Those of the arms. -/
  arm : ∀ side, (history.filterMap (pushedState side)).Pairwise fun m m' => m.ns ≤ m'.ns

variable (nowNs : ℤ) (constraints : SnapshotConstraints)

/-! ### What is to be selected -/

/-- The groups of images, newest overview image first. -/
def groups : List CameraGroup := (b.camera .overview).reverse.filterMap (b.group nowNs)

/-- The age test. -/
def FreshGroup (g : CameraGroup) : Prop :=
  0 ≤ nowNs - g.cutoffNs ∧ nowNs - g.cutoffNs ≤ constraints.maxSnapshotAgeNs

/-- The span test. -/
def AlignedGroup (g : CameraGroup) : Prop := g.spanNs ≤ constraints.maxCameraSpanNs

/-- The test of an arm: the latest state that is not after the images is not too old. -/
def ArmFits (g : CameraGroup) (side : Side) : Prop :=
  ∃ arm, latestNotAfter ArmState.ns (b.arm side) g.cutoffNs = some arm ∧
    g.cutoffNs - arm.ns ≤ constraints.maxArmAgeNs

/-- All tests. -/
structure Passes (g : CameraGroup) : Prop where
  fresh : FreshGroup nowNs constraints g
  aligned : AlignedGroup constraints g
  arm : ∀ side, b.ArmFits constraints g side

/-- A group has the images of the other cameras that are nearest to an overview image. -/
structure IsGroup (m : Image) (g : CameraGroup) : Prop where
  overview : g.overview = m
  left : IsNearest Image.ns m.ns nowNs (b.camera .left) g.left
  right : IsNearest Image.ns m.ns nowNs (b.camera .right) g.right
  cutoff : g.cutoffNs = max (max g.left.ns g.overview.ns) g.right.ns
  span : g.spanNs = g.cutoffNs - min (min g.left.ns g.overview.ns) g.right.ns

/-- An overview image has a group, unless all images of another camera are after now. -/
structure Grouped : Prop where
  some : ∀ overview g, b.group nowNs overview = some g → b.IsGroup nowNs overview g
  none : ∀ overview, b.group nowNs overview = none →
    (∀ m ∈ b.camera .left, nowNs < m.ns) ∨ ∀ m ∈ b.camera .right, nowNs < m.ns

/-- The limits are positive. -/
structure Positive : Prop where
  span : 0 < constraints.maxCameraSpanNs
  armAge : 0 < constraints.maxArmAgeNs
  age : 0 < constraints.maxSnapshotAgeNs

/-- A buffer is empty. -/
def Missing : Prop := (∃ camera, b.camera camera = []) ∨ ∃ side, b.arm side = []

/-- What a snapshot consists of. -/
structure Sound (x : VlaSnapshot D) : Prop where
  /-- The images are in the buffers. -/
  camera : ∀ camera, x.camera camera ∈ b.camera camera
  /-- The states are in the buffers. -/
  arm : ∀ side, x.arm side ∈ b.arm side
  /-- The time is that of the latest image. -/
  cutoff : x.cutoffNs = max (max (x.camera .left).ns (x.camera .overview).ns) (x.camera .right).ns
  /-- It is not after now. -/
  notAfter : x.cutoffNs ≤ nowNs
  /-- It is not too long ago. -/
  age : nowNs - x.cutoffNs ≤ constraints.maxSnapshotAgeNs
  /-- The images are not too far apart. -/
  span : ∀ camera, x.cutoffNs - (x.camera camera).ns ≤ constraints.maxCameraSpanNs
  /-- The states are not after the images. -/
  armNotAfter : ∀ side, (x.arm side).ns ≤ x.cutoffNs
  /-- They are not too old. -/
  armAge : ∀ side, x.cutoffNs - (x.arm side).ns ≤ constraints.maxArmAgeNs

/-- What `select` returns. -/
inductive Selects : SelectionResult D → Prop
  /-- The first group that passes all tests. -/
  | selected {result : SelectionResult D} {x : VlaSnapshot D} {g : CameraGroup}
    {earlier later : List CameraGroup} (ready : ¬ b.Missing)
    (split : b.groups nowNs = earlier ++ g :: later)
    (passes : b.Passes nowNs constraints g) (first : ∀ g' ∈ earlier, ¬ b.Passes nowNs constraints g')
    (camera : x.camera = g.camera) (cutoff : x.cutoffNs = g.cutoffNs)
    (arm : ∀ side, latestNotAfter ArmState.ns (b.arm side) g.cutoffNs = some (x.arm side))
    (hresult : result = ⟨some x, {}⟩) : Selects result
  /-- A buffer is empty. -/
  | missing {result : SelectionResult D} (hmissing : b.Missing) (hnone : result.snapshot = none)
    (code : result.failure.code = .buffersNotReady) : Selects result
  /-- No group passes the age test. -/
  | stale {result : SelectionResult D} (ready : ¬ b.Missing)
    (stale : ∀ g ∈ b.groups nowNs, ¬ FreshGroup nowNs constraints g)
    (hnone : result.snapshot = none) (code : result.failure.code = .snapshotStale) : Selects result
  /-- None of those that pass the age test passes the span test. -/
  | span {result : SelectionResult D} {g : CameraGroup} (ready : ¬ b.Missing)
    (hg : g ∈ b.groups nowNs) (fresh : FreshGroup nowNs constraints g)
    (span : ∀ g ∈ b.groups nowNs, FreshGroup nowNs constraints g → ¬ AlignedGroup constraints g)
    (hnone : result.snapshot = none) (code : result.failure.code = .cameraSpanExceeded) :
    Selects result
  /-- None of those that pass both passes the tests of the arms, and the first of them fails that of
  this arm. -/
  | arm {result : SelectionResult D} {g : CameraGroup} {side : Side}
    {earlier later : List CameraGroup} (ready : ¬ b.Missing)
    (split : b.groups nowNs = earlier ++ g :: later) (fresh : FreshGroup nowNs constraints g)
    (aligned : AlignedGroup constraints g)
    (first : ∀ g' ∈ earlier, FreshGroup nowNs constraints g' → ¬ AlignedGroup constraints g')
    (fails : ¬ b.ArmFits constraints g side)
    (left : side = .right → b.ArmFits constraints g .left)
    (none : ∀ g ∈ b.groups nowNs, ¬ b.Passes nowNs constraints g)
    (hnone : result.snapshot = .none) (code : result.failure.code = armStale side) : Selects result

/-- Nothing later could have been selected. -/
structure Latest (x : VlaSnapshot D) : Prop where
  /-- No group that passes all tests is later. -/
  cutoff : ∀ g ∈ b.groups nowNs, b.Passes nowNs constraints g → g.cutoffNs ≤ x.cutoffNs
  /-- No state that is not after the images is later. -/
  arm : ∀ side, ∀ m ∈ b.arm side, m.ns ≤ x.cutoffNs → m.ns ≤ (x.arm side).ns

instance : DecidablePred (FreshGroup nowNs constraints) := fun g =>
  inferInstanceAs (Decidable (0 ≤ nowNs - g.cutoffNs ∧
    nowNs - g.cutoffNs ≤ constraints.maxSnapshotAgeNs))

instance : DecidablePred (AlignedGroup constraints) := fun g =>
  inferInstanceAs (Decidable (g.spanNs ≤ constraints.maxCameraSpanNs))

variable {b nowNs constraints}

/-! ### The buffers -/

theorem popFront_suffix {M : Type} {limit : ℕ} {l : List M} : popFront limit l <:+ l := by
  induction l with
  | nil => exact List.suffix_refl _
  | cons m l ih =>
    rw [popFront]
    split
    · exact ih.trans (List.suffix_cons m l)
    · exact List.suffix_refl _

@[simp] theorem add_camera_none (camera : Camera) : b.add (.camera camera none) = b := rfl

@[simp] theorem add_camera_some (camera : Camera) (m : Image) :
    b.add (.camera camera (some m)) = { b with
      camera := Function.update b.camera camera
        (popFront b.cameraHistorySize (b.camera camera ++ [m])) } := rfl

@[simp] theorem add_arm_none (side : Side) : b.add (.arm side none) = b := rfl

@[simp] theorem add_arm_some (side : Side) (m : ArmState D) :
    b.add (.arm side (some m)) = { b with
      arm := Function.update b.arm side (popFront b.armHistorySize (b.arm side ++ [m])) } := rfl

/-- A buffer holds the last messages that were pushed. -/
theorem add_camera_suffix (p : BufferPush D) (camera : Camera) :
    (b.add p).camera camera <:+ b.camera camera ++ (pushedImage camera p).toList := by
  have hrefl : b.camera camera <:+ b.camera camera ++ [] := (List.append_nil _).symm ▸ List.suffix_rfl
  rcases p with ⟨camera', (- | m)⟩ | ⟨side, (- | m)⟩
  · simp [pushedImage]
  · by_cases heq : camera' = camera
    · subst heq
      simpa [pushedImage] using popFront_suffix
    · simp [pushedImage, heq, Function.update_of_ne (Ne.symm heq)]
  · exact hrefl
  · exact hrefl

theorem add_arm_suffix (p : BufferPush D) (side : Side) :
    (b.add p).arm side <:+ b.arm side ++ (pushedState side p).toList := by
  have hrefl : b.arm side <:+ b.arm side ++ [] := (List.append_nil _).symm ▸ List.suffix_rfl
  rcases p with ⟨camera, (- | m)⟩ | ⟨side', (- | m)⟩
  · exact hrefl
  · exact hrefl
  · simp [pushedState]
  · by_cases heq : side' = side
    · subst heq
      simpa [pushedState] using popFront_suffix
    · simp [pushedState, heq, Function.update_of_ne (Ne.symm heq)]

/-- What every push extends by a message at the end is a part of what was pushed. -/
theorem foldl_suffix {M P S : Type} {step : S → P → S} (buffer : S → List M)
    (pushed : P → Option M)
    (hstep : ∀ s p, buffer (step s p) <:+ buffer s ++ (pushed p).toList) (s : S) (history : List P) :
    buffer (history.foldl step s) <:+ buffer s ++ history.filterMap pushed := by
  induction history generalizing s with
  | nil => simp
  | cons p history ih =>
    obtain ⟨front, hfront⟩ := hstep s p
    obtain ⟨front', hfront'⟩ := ih (step s p)
    have hpushed : (p :: history).filterMap pushed = (pushed p).toList ++ history.filterMap pushed := by
      cases h : pushed p <;> simp [h]
    exact ⟨front ++ front', by
      rw [List.foldl_cons, List.append_assoc, hfront', hpushed, ← List.append_assoc, hfront,
        List.append_assoc]⟩

variable {history : List (BufferPush D)} {cameraHistorySize armHistorySize : ℕ}

/-- The buffers hold the last messages that were pushed. -/
theorem fill_suffix (hb : create cameraHistorySize armHistorySize = .ok b) :
    (∀ camera, (b.fill history).camera camera <:+ history.filterMap (pushedImage camera)) ∧
      ∀ side, (b.fill history).arm side <:+ history.filterMap (pushedState side) := by
  have hempty : (∀ camera, b.camera camera = []) ∧ ∀ side, b.arm side = [] := by
    unfold create at hb
    split at hb
    · cases hb
    · cases hb
      exact ⟨fun _ => rfl, fun _ => rfl⟩
  refine ⟨fun camera => ?_, fun side => ?_⟩
  · have h := foldl_suffix (fun b : SnapshotBuffer D => b.camera camera) (pushedImage camera)
      (fun _ p => add_camera_suffix p camera) b history
    rwa [hempty.1, List.nil_append] at h
  · have h := foldl_suffix (fun b : SnapshotBuffer D => b.arm side) (pushedState side)
      (fun _ p => add_arm_suffix p side) b history
    rwa [hempty.2, List.nil_append] at h

/-! ### The groups -/

/-- The times are so small that their differences can be represented. -/
theorem ns_near (m m' : Image) : |m.ns - m'.ns| < int64Max := by
  have hm := stampNs_bounds m.stamp
  have hm' := stampNs_bounds m'.stamp
  unfold Image.ns int64Max
  rw [abs_lt]
  omega

theorem grouped : b.Grouped nowNs where
  some overview g h := by
    obtain ⟨left, hleft, h⟩ := Option.bind_eq_some_iff.1 h
    obtain ⟨right, hright, h⟩ := Option.bind_eq_some_iff.1 h
    cases h
    exact ⟨rfl, nearestNotAfter_some (fun m _ => ns_near m overview) hleft,
      nearestNotAfter_some (fun m _ => ns_near m overview) hright, rfl, rfl⟩
  none overview h := by
    cases hleft : nearestNotAfter Image.ns overview.ns nowNs (b.camera .left) with
    | none => exact .inl (nearestNotAfter_none (fun m _ => ns_near m overview) hleft)
    | some left =>
      cases hright : nearestNotAfter Image.ns overview.ns nowNs (b.camera .right) with
      | none => exact .inr (nearestNotAfter_none (fun m _ => ns_near m overview) hright)
      | some right => simp [group, hleft, hright] at h

theorem mem_groups {g : CameraGroup} (h : g ∈ b.groups nowNs) :
    g.overview ∈ b.camera .overview ∧ b.IsGroup nowNs g.overview g := by
  obtain ⟨overview, hm, hg⟩ := List.mem_filterMap.1 h
  have hgroup := grouped.some overview g hg
  obtain rfl := hgroup.overview
  exact ⟨List.mem_reverse.1 hm, hgroup⟩

/-- The group of a later overview image is not earlier. -/
theorem IsGroup.mono {m m' : Image} {g g' : CameraGroup} (h : b.IsGroup nowNs m g)
    (h' : b.IsGroup nowNs m' g') (hle : m.ns ≤ m'.ns) : g.cutoffNs ≤ g'.cutoffNs := by
  have hleft := h.left.mono h'.left hle
  have hright := h.right.mono h'.right hle
  rw [h.cutoff, h'.cutoff, h.overview, h'.overview]
  exact max_le_max (max_le_max hleft hle) hright

/-- The groups of buffers that were filled in order get earlier. -/
theorem groups_sorted (hsorted : (b.camera .overview).Pairwise fun m m' => m.ns ≤ m'.ns) :
    (b.groups nowNs).Pairwise fun g g' => g'.cutoffNs ≤ g.cutoffNs := by
  refine List.pairwise_filterMap.2 ((List.pairwise_reverse.2 hsorted).imp ?_)
  intro m m' hle g hg g' hg'
  exact (grouped.some m' g' hg').mono (grouped.some m g hg) hle

/-! ### The loops -/

theorem foldl_fresh {l : List Image} {f : Fresh} :
    (l.foldl (b.freshStep nowNs constraints) f).freshGroups =
      f.freshGroups ++ (l.filterMap (b.group nowNs)).filter (FreshGroup nowNs constraints) := by
  induction l generalizing f with
  | nil => simp
  | cons overview l ih =>
    rw [List.foldl_cons, ih, freshStep]
    cases hg : b.group nowNs overview with
    | none => simp [hg]
    | some g =>
      have hold : (nowNs - g.cutoffNs < 0 ∨ nowNs - g.cutoffNs > constraints.maxSnapshotAgeNs) ↔
          ¬ FreshGroup nowNs constraints g := by
        unfold FreshGroup
        omega
      simp only [hold]
      by_cases hfresh : FreshGroup nowNs constraints g
      · rw [if_neg (not_not.2 hfresh)]
        split <;> simp [hg, hfresh]
      · rw [if_pos hfresh]
        split <;> simp [hg, hfresh]

theorem foldl_aligned {l : List CameraGroup} {a : Aligned} :
    (l.foldl (alignedStep constraints) a).alignedGroups =
      a.alignedGroups ++ l.filter (AlignedGroup constraints) := by
  induction l generalizing a with
  | nil => simp
  | cons g l ih =>
    rw [List.foldl_cons, ih, alignedStep]
    by_cases haligned : AlignedGroup constraints g
    · rw [if_pos (show g.spanNs ≤ constraints.maxCameraSpanNs from haligned)]
      simp [haligned]
    · rw [if_neg (show ¬ g.spanNs ≤ constraints.maxCameraSpanNs from haligned)]
      simp [haligned]

variable {g : CameraGroup} {side : Side} {failure : SelectionFailure}

theorem armState_ok {arm : ArmState D} (h : b.armState constraints g side = .ok arm) :
    latestNotAfter ArmState.ns (b.arm side) g.cutoffNs = some arm ∧
      g.cutoffNs - arm.ns ≤ constraints.maxArmAgeNs := by
  unfold armState at h
  split at h
  · cases h
  · rename_i arm' hlatest
    dsimp only at h
    split at h
    · cases h
    · rename_i hage
      cases h
      exact ⟨hlatest, not_lt.1 hage⟩

theorem armState_error (h : b.armState constraints g side = .error failure) :
    ¬ b.ArmFits constraints g side ∧ failure.code = armStale side := by
  unfold armState at h
  split at h
  · rename_i hlatest
    cases h
    refine ⟨?_, rfl⟩
    rintro ⟨arm, harm, -⟩
    rw [hlatest] at harm
    cases harm
  · rename_i arm' hlatest
    dsimp only at h
    split at h
    · rename_i hage
      cases h
      refine ⟨?_, rfl⟩
      rintro ⟨arm, harm, hle⟩
      rw [hlatest] at harm
      cases harm
      exact absurd hle (not_le.2 hage)
    · cases h

theorem armStates_ok {arm : Side → ArmState D} (h : b.armStates constraints g = .ok arm)
    (side : Side) : latestNotAfter ArmState.ns (b.arm side) g.cutoffNs = some (arm side) ∧
      g.cutoffNs - (arm side).ns ≤ constraints.maxArmAgeNs := by
  unfold armStates at h
  cases hleft : b.armState constraints g .left with
  | error failure => rw [hleft] at h; cases h
  | ok left =>
    cases hright : b.armState constraints g .right with
    | error failure => rw [hleft, hright] at h; cases h
    | ok right =>
      rw [hleft, hright] at h
      cases h
      cases side with
      | left => exact armState_ok hleft
      | right => exact armState_ok hright

/-- The first arm whose test fails. -/
def FirstStale (b : SnapshotBuffer D) (constraints : SnapshotConstraints) (g : CameraGroup)
    (side : Side) : Prop :=
  ¬ b.ArmFits constraints g side ∧ (side = .right → b.ArmFits constraints g .left)

theorem armStates_error (h : b.armStates constraints g = .error failure) :
    ∃ side, b.FirstStale constraints g side ∧ failure.code = armStale side := by
  unfold armStates at h
  cases hleft : b.armState constraints g .left with
  | error failure' =>
    rw [hleft] at h
    cases h
    obtain ⟨hstale, hcode⟩ := armState_error hleft
    exact ⟨.left, ⟨hstale, fun h => by cases h⟩, hcode⟩
  | ok left =>
    cases hright : b.armState constraints g .right with
    | error failure' =>
      rw [hleft, hright] at h
      cases h
      obtain ⟨hstale, hcode⟩ := armState_error hright
      exact ⟨.right, ⟨hstale, fun _ => ⟨left, armState_ok hleft⟩⟩, hcode⟩
    | ok right => rw [hleft, hright] at h; cases h

/-- What the third loop returns. -/
inductive SelectsArms (b : SnapshotBuffer D) (constraints : SnapshotConstraints)
    (groups : List CameraGroup) (armFailure : SelectionFailure) : SelectionResult D → Prop
  /-- The first group whose arms pass their tests. -/
  | selected {g : CameraGroup} {earlier later : List CameraGroup} {arm : Side → ArmState D}
    (split : groups = earlier ++ g :: later)
    (first : ∀ g' ∈ earlier, ¬ ∀ side, b.ArmFits constraints g' side)
    (fits : ∀ side, latestNotAfter ArmState.ns (b.arm side) g.cutoffNs = some (arm side) ∧
      g.cutoffNs - (arm side).ns ≤ constraints.maxArmAgeNs) :
    SelectsArms b constraints groups armFailure ⟨some ⟨g.camera, arm, g.cutoffNs⟩, {}⟩
  /-- The failure of the first group, unless there was one before. -/
  | failed {failure : SelectionFailure}
    (none : ∀ g ∈ groups, ¬ ∀ side, b.ArmFits constraints g side)
    (old : armFailure.code ≠ .none → failure = armFailure)
    (new : armFailure.code = .none → ∀ g groups', groups = g :: groups' →
      ∃ side, b.FirstStale constraints g side ∧ failure.code = armStale side) :
    SelectsArms b constraints groups armFailure ⟨.none, failure⟩

theorem selectArms_spec {groups : List CameraGroup} {armFailure : SelectionFailure} :
    b.SelectsArms constraints groups armFailure (b.selectArms constraints groups armFailure) := by
  induction groups generalizing armFailure with
  | nil => exact .failed (fun _ h => (List.not_mem_nil h).elim) (fun _ => rfl) fun _ _ _ h => by cases h
  | cons g groups ih =>
    rw [selectArms]
    cases harms : b.armStates constraints g with
    | ok arm =>
      exact .selected rfl (fun _ h => (List.not_mem_nil h).elim) (armStates_ok harms)
    | error failure =>
      obtain ⟨side, hstale, hcode⟩ := armStates_error harms
      have hne : ¬ ∀ side, b.ArmFits constraints g side := fun h => hstale.1 (h side)
      dsimp only
      have hrest := @ih (firstFailure armFailure failure)
      generalize b.selectArms constraints groups (firstFailure armFailure failure) = result at hrest
      cases hrest with
      | selected split first fits =>
        refine .selected (by rw [split, List.cons_append]) (fun g' hg' => ?_) fits
        rcases List.mem_cons.1 hg' with rfl | hg'
        · exact hne
        · exact first g' hg'
      | failed hnone old new =>
        refine .failed (fun g' hg' => ?_) (fun hsome => ?_) fun hfirst g' groups' heq => ?_
        · rcases List.mem_cons.1 hg' with rfl | hg'
          · exact hne
          · exact hnone g' hg'
        · rw [firstFailure, if_neg hsome] at old
          exact old hsome
        · cases heq
          rw [firstFailure, if_pos hfirst] at old
          rw [old (by rw [hcode]; cases side <;> simp [armStale])]
          exact ⟨side, hstale, hcode⟩

/-! ### The result -/

theorem missing_eq_nil : b.missing = [] ↔ ¬ b.Missing := by
  have hcamera : (∃ camera, b.camera camera = []) ↔ b.camera .left = [] ∨ b.camera .overview = [] ∨
      b.camera .right = [] := by
    constructor
    · rintro ⟨camera, h⟩
      cases camera <;> simp [h]
    · rintro (h | h | h) <;> exact ⟨_, h⟩
  have harm : (∃ side, b.arm side = []) ↔ b.arm .left = [] ∨ b.arm .right = [] := by
    constructor
    · rintro ⟨side, h⟩
      cases side <;> simp [h]
    · rintro (h | h) <;> exact ⟨_, h⟩
  unfold missing Missing
  rw [hcamera, harm]
  by_cases h₁ : b.camera .left = [] <;> by_cases h₂ : b.camera .overview = [] <;>
    by_cases h₃ : b.camera .right = [] <;> by_cases h₄ : b.arm .left = [] <;>
      by_cases h₅ : b.arm .right = [] <;> simp [h₁, h₂, h₃, h₄, h₅]

/-- The third loop goes through the groups that pass the first two tests. -/
theorem SelectsArms.selects {result : SelectionResult D} (hready : ¬ b.Missing)
    (haligned : (b.groups nowNs).filter (fun g => decide (AlignedGroup constraints g) &&
      decide (FreshGroup nowNs constraints g)) ≠ [])
    (h : b.SelectsArms constraints ((b.groups nowNs).filter fun g =>
      decide (AlignedGroup constraints g) && decide (FreshGroup nowNs constraints g)) {} result) :
    b.Selects nowNs constraints result := by
  have htests : ∀ g, (decide (AlignedGroup constraints g) && decide (FreshGroup nowNs constraints g)) =
      true ↔ AlignedGroup constraints g ∧ FreshGroup nowNs constraints g := fun g => by simp
  generalize hl : (b.groups nowNs).filter _ = l at h haligned
  cases h with
  | @selected g earlier later arm split first fits =>
    rw [split, List.filter_eq_append_iff] at hl
    obtain ⟨l₁, l₂, hgroups, hl₁, hl₂⟩ := hl
    obtain ⟨l₃, l₄, rfl, hl₃, hg, -⟩ := List.filter_eq_cons_iff.1 hl₂
    obtain ⟨haligned, hfresh⟩ := (htests g).1 hg
    rw [← List.append_assoc] at hgroups
    refine .selected hready hgroups
      ⟨hfresh, haligned, fun side => ⟨arm side, fits side⟩⟩ (fun g' hg' hpasses => ?_) rfl rfl
      (fun side => (fits side).1) rfl
    have htest := (htests g').2 ⟨hpasses.aligned, hpasses.fresh⟩
    rcases List.mem_append.1 hg' with hg' | hg'
    · exact first g' (hl₁ ▸ List.mem_filter.2 ⟨hg', htest⟩) hpasses.arm
    · exact hl₃ g' hg' htest
  | @failed failure none old new =>
    obtain ⟨g, l', rfl⟩ := List.exists_cons_of_ne_nil haligned
    obtain ⟨side, hstale, hcode⟩ := new rfl g l' rfl
    have hnone : ∀ g ∈ b.groups nowNs, ¬ b.Passes nowNs constraints g := by
      intro g' hg' hpasses
      refine none g' (hl ▸ List.mem_filter.2 ⟨hg', ?_⟩) hpasses.arm
      exact (htests g').2 ⟨hpasses.aligned, hpasses.fresh⟩
    obtain ⟨l₁, l₂, hgroups, hl₁, hg, -⟩ := List.filter_eq_cons_iff.1 hl
    obtain ⟨haligned, hfresh⟩ := (htests g).1 hg
    refine .arm hready hgroups hfresh haligned (fun g' hg' hf ha => ?_) hstale.1 hstale.2 hnone rfl
      hcode
    exact hl₁ g' hg' ((htests g').2 ⟨ha, hf⟩)

/-- What `select` does. -/
theorem select_selects (hc : Positive constraints) :
    ∃ result, b.select nowNs constraints = .ok result ∧ b.Selects nowNs constraints result := by
  obtain ⟨hspan, harm, hage⟩ := hc
  unfold select
  rw [if_neg (by omega)]
  by_cases hmissing : b.missing = []
  · have hready := missing_eq_nil.1 hmissing
    rw [if_neg (not_not.2 hmissing)]
    dsimp only
    rw [foldl_fresh, List.nil_append]
    change ∃ result, (if (b.groups nowNs).filter _ = [] then _ else _) = _ ∧ _
    split
    · rename_i hstale
      refine ⟨_, rfl, .stale hready (fun g hg hfresh => ?_) rfl rfl⟩
      exact absurd (decide_eq_true hfresh) (List.filter_eq_nil_iff.1 hstale g hg)
    rename_i hfresh
    rw [foldl_aligned, List.nil_append]
    split
    · rename_i hspan
      obtain ⟨g, hg⟩ := List.exists_mem_of_ne_nil _ hfresh
      obtain ⟨hg, hgfresh⟩ := List.mem_filter.1 hg
      refine ⟨_, rfl, .span hready hg (of_decide_eq_true hgfresh) (fun g' hg' hf ha => ?_) rfl rfl⟩
      refine absurd (decide_eq_true ha) (List.filter_eq_nil_iff.1 hspan g' ?_)
      exact List.mem_filter.2 ⟨hg', decide_eq_true hf⟩
    rename_i haligned
    rw [List.filter_filter] at haligned ⊢
    exact ⟨_, rfl, selectArms_spec.selects hready haligned⟩
  · rw [if_pos hmissing]
    exact ⟨_, rfl, .missing (not_not.1 fun h => hmissing (missing_eq_nil.2 h)) rfl rfl⟩

/-- What is selected is in the buffers, and meets the limits. -/
theorem Selects.sound {result : SelectionResult D} (h : b.Selects nowNs constraints result)
    {x : VlaSnapshot D} (hx : result.snapshot = some x) : b.Sound nowNs constraints x := by
  cases h with
  | missing _ hnone => rw [hnone] at hx; cases hx
  | stale _ _ hnone => rw [hnone] at hx; cases hx
  | span _ _ _ _ hnone => rw [hnone] at hx; cases hx
  | arm _ _ _ _ _ _ _ _ hnone => rw [hnone] at hx; cases hx
  | @selected x' g earlier later ready split passes first camera cutoff arm hresult =>
    rw [hresult] at hx
    cases hx
    have hg : g ∈ b.groups nowNs := split ▸ List.mem_append_right _ List.mem_cons_self
    obtain ⟨hoverview, hgroup⟩ := mem_groups hg
    obtain ⟨hnot, hage⟩ := passes.fresh
    have hfits : ∀ side, g.cutoffNs - (x.arm side).ns ≤ constraints.maxArmAgeNs := fun side => by
      obtain ⟨state, hstate, hle⟩ := passes.arm side
      rw [arm side] at hstate
      cases hstate
      exact hle
    have hspan : g.cutoffNs - min (min g.left.ns g.overview.ns) g.right.ns ≤
        constraints.maxCameraSpanNs := hgroup.span ▸ passes.aligned
    refine ⟨fun camera' => ?_, fun side => (latestNotAfter_some (arm side)).1, ?_, ?_, ?_,
      fun camera' => ?_, fun side => ?_, fun side => ?_⟩
    · rw [camera]
      cases camera' with
      | left => exact hgroup.left.mem
      | overview => exact hoverview
      | right => exact hgroup.right.mem
    · rw [cutoff, camera]
      exact hgroup.cutoff
    · omega
    · rw [cutoff]
      exact hage
    · rw [cutoff, camera]
      cases camera' <;> simp only [CameraGroup.camera] <;> omega
    · rw [cutoff]
      exact (latestNotAfter_some (arm side)).2
    · rw [cutoff]
      exact hfits side

/-- A snapshot is selected unless no group passes all tests. -/
theorem Selects.none_iff {result : SelectionResult D} (h : b.Selects nowNs constraints result) :
    result.snapshot = none ↔ ∀ g ∈ b.groups nowNs, ¬ b.Passes nowNs constraints g := by
  cases h with
  | @selected x g earlier later _ split passes _ _ _ _ hresult =>
    have hg : g ∈ b.groups nowNs := split ▸ List.mem_append_right _ List.mem_cons_self
    refine iff_of_false (by simp [hresult]) fun hnone => hnone g hg passes
  | missing hmissing hnone =>
    refine iff_of_true hnone fun g hg hpasses => ?_
    obtain ⟨hoverview, hgroup⟩ := mem_groups hg
    rcases hmissing with ⟨camera, hempty⟩ | ⟨side, hempty⟩
    · cases camera with
      | left => exact List.not_mem_nil (hempty ▸ hgroup.left.mem)
      | overview => exact List.not_mem_nil (hempty ▸ hoverview)
      | right => exact List.not_mem_nil (hempty ▸ hgroup.right.mem)
    · obtain ⟨state, hstate, -⟩ := hpasses.arm side
      exact List.not_mem_nil (hempty ▸ (latestNotAfter_some hstate).1)
  | stale _ stale hnone => exact iff_of_true hnone fun g hg hpasses => stale g hg hpasses.fresh
  | span _ _ _ span hnone =>
    exact iff_of_true hnone fun g hg hpasses => span g hg hpasses.fresh hpasses.aligned
  | arm _ _ _ _ _ _ _ none hnone => exact iff_of_true hnone none

/-- If the buffers were filled in order, nothing later could have been selected. -/
theorem Selects.latest {result : SelectionResult D} (h : b.Selects nowNs constraints result)
    (hoverview : (b.camera .overview).Pairwise fun m m' => m.ns ≤ m'.ns)
    (harm : ∀ side, (b.arm side).Pairwise fun m m' => m.ns ≤ m'.ns) {x : VlaSnapshot D}
    (hx : result.snapshot = some x) : b.Latest nowNs constraints x := by
  cases h with
  | missing _ hnone => rw [hnone] at hx; cases hx
  | stale _ _ hnone => rw [hnone] at hx; cases hx
  | span _ _ _ _ hnone => rw [hnone] at hx; cases hx
  | arm _ _ _ _ _ _ _ _ hnone => rw [hnone] at hx; cases hx
  | @selected x' g earlier later ready split passes first camera cutoff arm hresult =>
    rw [hresult] at hx
    cases hx
    have hsorted := @groups_sorted D b nowNs hoverview
    refine ⟨fun g' hg' hpasses => ?_, fun side m hm hle => ?_⟩
    · rw [split] at hg' hsorted
      rw [cutoff]
      rcases List.mem_append.1 hg' with hg' | hg'
      · exact absurd hpasses (first g' hg')
      · rcases List.mem_cons.1 hg' with rfl | hg'
        · exact le_rfl
        · exact (List.pairwise_cons.1 (List.pairwise_append.1 hsorted).2.1).1 g' hg'
    · rw [cutoff] at hle
      exact latestNotAfter_latest (harm side) (arm side) m hm hle

/-- Whatever was pushed: what `select` returns is in the buffers and meets the limits, it is the
first group that passes all tests, and if there is none the failure is that of the first test that
all groups fail; if the buffers were filled in order, nothing later could have been selected. -/
theorem select_correct (hb : create cameraHistorySize armHistorySize = .ok b)
    (hc : Positive constraints) : (b.fill history).Grouped nowNs ∧
      ∃ result, (b.fill history).select nowNs constraints = .ok result ∧
        (b.fill history).Selects nowNs constraints result ∧
        (result.snapshot = none ↔
          ∀ g ∈ (b.fill history).groups nowNs, ¬ (b.fill history).Passes nowNs constraints g) ∧
        ∀ x, result.snapshot = some x → (b.fill history).Sound nowNs constraints x ∧
          (Ordered history → (b.fill history).Latest nowNs constraints x) := by
  obtain ⟨result, hresult, hselects⟩ := @select_selects D (b.fill history) nowNs constraints hc
  refine ⟨grouped, result, hresult, hselects, hselects.none_iff, fun x hx =>
    ⟨hselects.sound hx, fun hordered => hselects.latest ?_ (fun side => ?_) hx⟩⟩
  · exact (hordered.camera .overview).sublist ((fill_suffix hb).1 .overview).sublist
  · exact (hordered.arm side).sublist ((fill_suffix hb).2 side).sublist

/-- An image that was taken at a time. -/
def imageAt (ns : UInt32) : Image := ⟨⟨0, ns⟩, 1, 1, "rgb8", 3, []⟩

/-- A state of an arm at a time. -/
def stateAt (ns : UInt32) : ArmState ℕ := ⟨⟨0, ns⟩, fun _ => 0, 0⟩

/-- The images of a frame. -/
def frame (left overview right : UInt32) : List (BufferPush ℕ) :=
  [.camera .left (some (imageAt left)), .camera .overview (some (imageAt overview)),
    .camera .right (some (imageAt right))]

/-- Five frames and the states of the arms.  At the time `40` the fifth frame is still to come, no
state of the left arm is as late as the fourth, and an image of the third was taken too early. -/
def stream : List (BufferPush ℕ) :=
  frame 9 10 11 ++ frame 19 20 21 ++ frame 28 29 23 ++ frame 35 36 36 ++ frame 44 45 46 ++
    [5, 18, 41].map (fun ns => .arm .left (some (stateAt ns))) ++
    [8, 19, 34].map (fun ns => .arm .right (some (stateAt ns)))

/-- Limits of a few nanoseconds. -/
def narrow : SnapshotConstraints := ⟨5, 4, 25⟩

theorem narrow_positive : Positive narrow := ⟨by decide, by decide, by decide⟩

theorem stream_ordered : Ordered stream where
  camera camera := by cases camera <;> decide +kernel
  arm side := by cases side <;> decide +kernel

/-- Buffers for five frames and two states. -/
def small : SnapshotBuffer ℕ := { cameraHistorySize := 5, armHistorySize := 2 }

/-- The three latest groups fail a test each, and the one before them is selected. -/
theorem select_correct_earlier :
    ((small.fill stream).groups 40).map (·.cutoffNs) = [45, 36, 29, 21, 11] ∧
      ∃ result x, (small.fill stream).select 40 narrow = .ok result ∧
        result.snapshot = some x ∧ x.cutoffNs = 21 ∧
        (small.fill stream).Sound 40 narrow x ∧ (small.fill stream).Latest 40 narrow x := by
  refine ⟨by decide +kernel, ?_⟩
  have hcreate : create 5 2 = .ok small := rfl
  obtain ⟨-, result, hresult, -, -, hx⟩ :=
    @select_correct ℕ small 40 narrow stream 5 2 hcreate narrow_positive
  have hselected : ((small.fill stream).select 40 narrow).toOption.any (fun result =>
      result.snapshot.any (·.cutoffNs = 21)) = true := by decide +kernel
  rw [hresult] at hselected
  have hcut : result.snapshot.any (·.cutoffNs = 21) = true := hselected
  obtain ⟨x, hsnapshot, hcutoff⟩ := (Option.any_eq_true _ _).1 hcut
  obtain ⟨hsound, hlatest⟩ := hx x hsnapshot
  exact ⟨result, x, hresult, hsnapshot, of_decide_eq_true hcutoff, hsound,
    hlatest stream_ordered⟩

end SnapshotBuffer

end DualCollection
