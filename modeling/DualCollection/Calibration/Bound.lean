import DualCollection.Calibration.Replay
import DualCollection.Thread.Failing
import DualCollection.Thread.Play

/-!
# The motion bound of a replay

The thread samples whatever segment is installed, at a clock reading that it has taken before; the
caller may have installed the segment since, for either arm.  What it may rely on is `Smooth`: from
the reading of the last sample on, the segment leaves the targets no faster than the limit.  A
segment that is installed starts at the targets and at a later reading, and so is smooth too,
however far the segment before it has got.

`replay_motion_bound` has that the commands that are published keep to the limit, from the pose at
which the object was constructed on.
-/

namespace DualCollection

open Thread

namespace Calibration

variable {K : Type} [Field K] [LinearOrder K]

/-- No joint of either arm is moved by more than `limit`. -/
def Near (limit : K) (a b : Side → Joints K) : Prop := ∀ side j, |a side j - b side j| ≤ limit

/-- At most one arm is moved. -/
def OneArm (a b : Side → Joints K) : Prop := ∃ side, ∀ other, other ≠ side → a other = b other

/-- The commands (newest first) keep to the velocity, from the pose `pose` at the time
`constructed` on. -/
def Paced (velocity constructed : K) (pose : Side → Joints K) : List (Publication K) → Prop
  | [] => True
  | [p] => Near (velocity * (p.now - constructed)) p.command pose
  | p :: q :: earlier => (Near (velocity * (p.now - q.now)) p.command q.command ∧
      p.now - q.now ≤ 1 / 10 ∧ OneArm p.command q.command) ∧
    Paced velocity constructed pose (q :: earlier)

namespace Replay

variable {limits : MotionLimits K} {strict : Prop} {constructed : K} {pose : Side → Joints K}
  {s s' : Replay limits} {α : Type}

/-- The runs that are considered: the clock does not run backwards, and if they are strict, then
no segment is installed before the first command is published. -/
def Admits (strict : Prop) : Role → ReplaySection → ReplayEnv K → Replay limits → Prop :=
  fun t l e s => Clocked t l e s ∧ (strict → l = .install → s.published ≠ [])

/-- The last reading at which the targets were sampled, and the targets. -/
def base (constructed : K) (pose : Side → Joints K) : List (Publication K) → K × (Side → Joints K)
  | [] => (constructed, pose)
  | p :: _ => (p.now, p.command)

/-- From the reading `t` on, the segment leaves the targets no faster than the limit. -/
def Smooth (s : Replay limits) (t : K) : Prop :=
  ∀ segment ∈ s.segment, ∀ now, t ≤ now → ∀ j,
    |segment.at (now - s.segmentStarted) j - s.targets s.segmentSide j| ≤
      limits.velocityRadS * (now - t)

/-- The invariant. -/
structure Inv (strict : Prop) (constructed : K) (pose : Side → Joints K) (s : Replay limits) :
    Prop where
  /-- The commands keep to the velocity. -/
  paced : Paced limits.velocityRadS constructed pose s.published
  /-- They were published at readings of the clock. -/
  base_le : (base constructed pose s.published).1 ≤ s.time
  /-- In a strict run there is no segment before the first command. -/
  quiet : strict → s.published = [] → s.segment = none
  /-- The first command is then the measured pose. -/
  first : strict → ∀ p ∈ s.published.getLast?, p.command = pose

/-- What the caller does to the motion. -/
structure Undisturbed (strict : Prop) (s s' : Replay limits) : Prop where
  /-- The targets are the thread's. -/
  targets : s'.targets = s.targets
  /-- The caller does not publish. -/
  published : s'.published = s.published
  /-- The clock does not run backwards. -/
  time : s.time ≤ s'.time
  /-- The thread is begun by itself. -/
  begun : s'.begun = s.begun
  /-- What is installed is smooth. -/
  smooth : ∀ t ≤ s.time, s.Smooth t → s'.Smooth t
  /-- In a strict run nothing is installed before the first command. -/
  quiet : strict → s.published = [] → s'.segment = s.segment

theorem Undisturbed.refl (s : Replay limits) : Undisturbed strict s s :=
  ⟨rfl, rfl, le_rfl, rfl, fun _ _ h => h, fun _ _ => rfl⟩

theorem Undisturbed.trans {a b c : Replay limits} (h : Undisturbed strict a b)
    (h' : Undisturbed strict b c) : Undisturbed strict a c where
  targets := h'.targets.trans h.targets
  published := h'.published.trans h.published
  time := h.time.trans h'.time
  begun := h'.begun.trans h.begun
  smooth := fun t ht hs => h'.smooth t (ht.trans h.time) (h.smooth t ht hs)
  quiet := fun hstrict hnil =>
    (h'.quiet hstrict (h.published.trans hnil)).trans (h.quiet hstrict hnil)

/-- The targets are the last command, and the segment is smooth from its reading on. -/
structure Settled (constructed : K) (pose : Side → Joints K) (s : Replay limits) : Prop where
  /-- The targets are the last command. -/
  targets : s.targets = (base constructed pose s.published).2
  /-- The segment is smooth. -/
  smooth : s.Smooth (base constructed pose s.published).1
  /-- The reading is not ahead of the clock. -/
  time : (base constructed pose s.published).1 ≤ s.time

theorem Settled.undisturbed (h : s.Settled constructed pose) (hu : Undisturbed strict s s') :
    s'.Settled constructed pose where
  targets := by rw [hu.targets, hu.published]; exact h.targets
  smooth := by rw [hu.published]; exact hu.smooth _ h.time h.smooth
  time := by rw [hu.published]; exact h.time.trans hu.time

/-- What a section of the thread does to what was published. -/
structure Published (l : ReplaySection) (s s' : Replay limits) : Prop where
  /-- Only `arms.publish` publishes. -/
  published : l ≠ .publish → s'.published = s.published
  /-- The thread has begun. -/
  begun : s'.begun = true

/-- The outline. -/
def outline (strict : Prop) (constructed : K) (pose : Side → Joints K) :
    Outline Role ReplaySection (ReplayEnv K) (Replay limits) MotionError where
  inv := Inv strict constructed pose
  admits := Admits strict
  rely
    | .motion, s, s' => Undisturbed strict s s'
    | .caller, _, _ => True
  guar
    | .motion, l, s, _, s' => Published l s s'
    | .caller, _, s, _, s' => Undisturbed strict s s'
  idle
    | .motion, s => s.begun = false → s.Settled constructed pose ∧ s.published = []
    | .caller, _ => True

/-! ### The caller -/

theorem Inv.undisturbed (hi : Inv strict constructed pose s) (hu : Undisturbed strict s s') :
    Inv strict constructed pose s' where
  paced := by rw [hu.published]; exact hi.paced
  base_le := by rw [hu.published]; exact hi.base_le.trans hu.time
  quiet := fun hstrict hnil => by
    rw [hu.published] at hnil
    exact (hu.quiet hstrict hnil).trans (hi.quiet hstrict hnil)
  first := by rw [hu.published]; exact hi.first

/-- A section of the caller that leaves the motion alone. -/
theorem wp_caller {l : ReplaySection} {act : Section limits α}
    {Q : Except MotionError α → Replay limits → Prop} (hQ : ∀ r s, Q r s)
    (h : ∀ e s, Admits strict .caller l e s → Undisturbed strict s (act e s).2) :
    wp (outline strict constructed pose) .caller Q (.atomic l act) s :=
  fun s' _ hi => ⟨trivial, fun e he => ⟨hi.undisturbed (h e s' he), h e s' he, hQ _ _⟩⟩

/-- Only attributes that no motion reads have changed. -/
theorem undisturbed_of_eq (htargets : s'.targets = s.targets)
    (hpublished : s'.published = s.published)
    (htime : s.time ≤ s'.time) (hbegun : s'.begun = s.begun) (hsegment : s'.segment = s.segment)
    (hside : s'.segmentSide = s.segmentSide) (hstarted : s'.segmentStarted = s.segmentStarted) :
    Undisturbed strict s s' where
  targets := htargets
  published := hpublished
  time := htime
  begun := hbegun
  smooth := fun t _ h => by
    unfold Smooth
    rw [hsegment, hside, hstarted, htargets]
    exact h
  quiet := fun _ _ => hsegment

variable [IsStrictOrderedRing K]

/-- A segment that is installed starts at the targets. -/
theorem install_undisturbed {sqrt : K → K} {side : Side} {q : Option (Joints K)}
    {e : ReplayEnv K} (he : Admits strict .caller .install e s) :
    Undisturbed strict s (install sqrt side q e s).2 := by
  have hclock : s.time ≤ e.clock := he.1.1
  unfold install
  dsimp only
  split_ifs
  · exact undisturbed_of_eq rfl rfl hclock rfl rfl rfl rfl
  split
  · exact undisturbed_of_eq rfl rfl hclock rfl rfl rfl rfl
  · rename_i segment hmake
    have hstart : segment.start = s.targets side := Segment.make_start hmake
    refine ⟨rfl, rfl, hclock.trans he.1.2, rfl, fun t ht _ => ?_, fun hstrict hnil => ?_⟩
    swap
    · exact absurd hnil (he.2 hstrict rfl)
    rintro _ ⟨⟩ now hnow j
    have hpos := limits.velocity_pos.le
    dsimp only
    have ht' : t ≤ e.clockAgain := ht.trans (hclock.trans he.1.2)
    have hzero : segment.at 0 j = s.targets side j := by
      rw [segment.at_of_nonpos le_rfl, hstart]
    rcases le_total now e.clockAgain with hle | hle
    · -- the reading was taken before the segment was installed
      rw [segment.at_of_nonpos (sub_nonpos.2 hle), hstart, sub_self, abs_zero]
      exact mul_nonneg hpos (sub_nonneg.2 hnow)
    · have hslope := segment.abs_at_sub_at_le (now - e.clockAgain) 0 j
      rw [hzero, sub_zero, abs_of_nonneg (sub_nonneg.2 hle)] at hslope
      exact hslope.trans (mul_le_mul_of_nonneg_left (sub_le_sub_left ht' now) hpos)

/-- The operations of the caller leave the motion alone. -/
theorem wp_callerOp {sqrt : K → K} {o : Op K} :
    wp (outline strict constructed pose) .caller (fun _ _ => True)
      ((system sqrt limits).op .caller o) s := by
  have hsame : ∀ s' : Replay limits, Undisturbed strict s' s' := Undisturbed.refl
  cases o with
  | start =>
    refine wp_bind.2 (wp_caller (fun r s => ?_) fun e s _ => hsame s)
    cases r with
    | error err => trivial
    | ok u =>
      exact wp_caller (fun _ _ => trivial)
        fun e s _ => undisturbed_of_eq rfl rfl le_rfl rfl rfl rfl rfl
  | move side q =>
    refine wp_bind.2 (wp_bind.2 (wp_caller (fun r s => ?_) fun e s _ => hsame s))
    cases r with
    | error err => trivial
    | ok activeArm =>
      refine wp_caller (fun r s => ?_) fun e s he => install_undisturbed he
      cases r <;> trivial
  | target =>
    refine wp_bind.2 (wp_caller (fun r s => ?_) fun e s _ => hsame s)
    cases r <;> trivial
  | stop =>
    refine wp_bind.2 (wp_caller (fun r s => ?_)
      fun e s _ => undisturbed_of_eq rfl rfl le_rfl rfl rfl rfl rfl)
    cases r with
    | error err => trivial
    | ok u =>
      refine wp_bind.2 (wp_caller (fun r s => ?_) fun e s _ => hsame s)
      cases r with
      | error err => trivial
      | ok u => exact wp_caller (fun _ _ => trivial) fun e s _ => hsame s
  | run n => trivial

/-! ### The thread -/

omit [IsStrictOrderedRing K] in
/-- A section of the thread that leaves the motion alone. -/
theorem wp_motion {l : ReplaySection} {act : Section limits α}
    {Q : Except MotionError α → Replay limits → Prop} (hb : s.begun = true)
    (h : ∀ e s', Undisturbed strict s s' → Admits strict .motion l e s' →
      Undisturbed strict s' (act e s').2 ∧ Q (act e s').1 (act e s').2) :
    wp (outline strict constructed pose) .motion Q (.atomic l act) s := by
  refine fun s' hu hi => ⟨trivial, fun e he => ?_⟩
  obtain ⟨hu', hQ⟩ := h e s' hu he
  have hbegun : (act e s').2.begun = true := hu'.begun.trans (hu.begun.trans hb)
  exact ⟨hi.undisturbed hu', ⟨fun _ => hu'.published, hbegun⟩, hQ⟩

/-- What the thread knows in a tick whose reading is `now`. -/
structure Ticking (constructed : K) (pose : Side → Joints K) (now : K) (s : Replay limits) : Prop
    extends Settled constructed pose s where
  /-- The thread has begun. -/
  begun : s.begun = true
  /-- The reading is not ahead of the clock. -/
  now_le : now ≤ s.time
  /-- It is not before the last one. -/
  base_le : (base constructed pose s.published).1 ≤ now
  /-- It is not long after the last one. -/
  gap : s.published ≠ [] → now - (base constructed pose s.published).1 ≤ 1 / 10

omit [IsStrictOrderedRing K] in
theorem Ticking.undisturbed {now : K} (h : Ticking constructed pose now s)
    (hu : Undisturbed strict s s') : Ticking constructed pose now s' where
  toSettled := h.toSettled.undisturbed hu
  begun := hu.begun.trans h.begun
  now_le := h.now_le.trans hu.time
  base_le := by rw [hu.published]; exact h.base_le
  gap := by rw [hu.published]; exact h.gap

/-- What the thread knows once it has sampled the command of a tick. -/
structure Sampled (strict : Prop) (constructed : K) (pose : Side → Joints K) (now : K)
    (command : Side → Joints K) (s : Replay limits) : Prop where
  /-- The thread has begun. -/
  begun : s.begun = true
  /-- The reading is not ahead of the clock. -/
  now_le : now ≤ s.time
  /-- The command is what the targets are. -/
  targets : s.targets = command
  /-- The segment is smooth from the reading on. -/
  smooth : s.Smooth now
  /-- The command may be published. -/
  paced : Paced limits.velocityRadS constructed pose (⟨now, command⟩ :: s.published)
  /-- In a strict run the first command is the measured pose. -/
  first : strict → ∀ p ∈ (⟨now, command⟩ :: s.published : List (Publication K)).getLast?,
    p.command = pose

omit [IsStrictOrderedRing K] in
theorem Sampled.undisturbed {now : K} {command : Side → Joints K}
    (h : Sampled strict constructed pose now command s) (hu : Undisturbed strict s s') :
    Sampled strict constructed pose now command s' where
  begun := hu.begun.trans h.begun
  now_le := h.now_le.trans hu.time
  targets := hu.targets.trans h.targets
  smooth := hu.smooth now h.now_le h.smooth
  paced := by rw [hu.published]; exact h.paced
  first := by rw [hu.published]; exact h.first

/-- The command of a tick is close to the last one, and moves one arm. -/
theorem sampled_near {now : K} {command : Side → Joints K} (h : Ticking constructed pose now s)
    (hcommand : command = match s.segment with
      | none => s.targets
      | some segment =>
        Function.update s.targets s.segmentSide (segment.at (now - s.segmentStarted))) :
    Near (limits.velocityRadS * (now - (base constructed pose s.published).1)) command
        (base constructed pose s.published).2 ∧
      OneArm command (base constructed pose s.published).2 := by
  have hnonneg : 0 ≤ limits.velocityRadS * (now - (base constructed pose s.published).1) :=
    mul_nonneg limits.velocity_pos.le (sub_nonneg.2 h.base_le)
  have hsame : ∀ side j, command side = s.targets side →
      |command side j - (base constructed pose s.published).2 side j| ≤
        limits.velocityRadS * (now - (base constructed pose s.published).1) := by
    intro side j heq
    rw [heq, h.targets, sub_self, abs_zero]
    exact hnonneg
  cases hsegment : s.segment with
  | none =>
    have htargets : command = s.targets := by rw [hcommand, hsegment]
    refine ⟨fun side j => hsame side j (by rw [htargets]), .left, fun other _ => ?_⟩
    rw [htargets, h.targets]
  | some segment =>
    have hupdate : command =
        Function.update s.targets s.segmentSide (segment.at (now - s.segmentStarted)) := by
      rw [hcommand, hsegment]
    refine ⟨fun side j => ?_, s.segmentSide, fun other hother => ?_⟩
    · by_cases hside : side = s.segmentSide
      · have hsmooth := h.smooth segment hsegment now h.base_le j
        rw [h.targets] at hsmooth
        rw [hupdate, hside, Function.update_self]
        exact hsmooth
      · exact hsame side j (by rw [hupdate, Function.update_of_ne hside])
    · rw [hupdate, Function.update_of_ne hother, h.targets]

/-- The segment is sampled at the reading of the tick. -/
theorem sampleSegment_sampled {now : K} {e : ReplayEnv K} {command : Side → Joints K}
    (h : Ticking constructed pose now s) (hi : Inv strict constructed pose s)
    (hcommand : (sampleSegment now e s).1 = .ok command) :
    Sampled strict constructed pose now command (sampleSegment now e s).2 := by
  obtain ⟨hnear, hone⟩ := sampled_near h (Except.ok.inj hcommand).symm
  refine ⟨h.begun, h.now_le, Except.ok.inj hcommand, ?_, ?_, ?_⟩
  · intro segment hsegment now' hle j
    have htargets : (sampleSegment now e s).2.targets s.segmentSide =
        segment.at (now - s.segmentStarted) := by
      have hs : s.segment = some segment := hsegment
      unfold sampleSegment
      rw [hs]
      exact Function.update_self ..
    show |segment.at (now' - s.segmentStarted) j -
      (sampleSegment now e s).2.targets s.segmentSide j| ≤ _
    rw [htargets]
    refine (segment.abs_at_sub_at_le _ _ j).trans_eq ?_
    rw [sub_sub_sub_cancel_right, abs_of_nonneg (sub_nonneg.2 hle)]
  · show Paced limits.velocityRadS constructed pose (⟨now, command⟩ :: s.published)
    have hpaced := hi.paced
    have hgap := h.gap
    cases hpublished : s.published with
    | nil =>
      rw [hpublished] at hnear
      exact hnear
    | cons p earlier =>
      rw [hpublished] at hnear hone hpaced hgap
      exact ⟨⟨hnear, hgap (List.cons_ne_nil _ _), hone⟩, hpaced⟩
  · show strict → ∀ p ∈ (⟨now, command⟩ :: s.published : List (Publication K)).getLast?,
      p.command = pose
    intro hstrict p hp
    have hfirst := hi.first hstrict
    have htargets := h.targets
    cases hpublished : s.published with
    | nil =>
      have hsegment : s.segment = none := hi.quiet hstrict hpublished
      rw [hpublished] at hp htargets
      cases hp
      unfold sampleSegment at hcommand
      rw [hsegment] at hcommand
      exact (Except.ok.inj hcommand).symm.trans htargets
    | cons q earlier =>
      rw [hpublished] at hp hfirst
      exact hfirst p (by rwa [List.getLast?_cons_cons] at hp)

/-- What the thread knows between two ticks. -/
structure Resting (constructed : K) (pose : Side → Joints K) (previousTick : K)
    (s : Replay limits) : Prop extends Settled constructed pose s where
  /-- The thread has begun. -/
  begun : s.begun = true
  /-- The reading of the last tick is the last one. -/
  previous : s.published ≠ [] → (base constructed pose s.published).1 = previousTick

omit [IsStrictOrderedRing K] in
theorem Resting.undisturbed {previousTick : K} (h : Resting constructed pose previousTick s)
    (hu : Undisturbed strict s s') : Resting constructed pose previousTick s' where
  toSettled := h.toSettled.undisturbed hu
  begun := hu.begun.trans h.begun
  previous := by rw [hu.published]; exact h.previous

/-- What holds after a part of the thread. -/
def Outcome (P : α → Replay limits → Prop) (r : Except MotionError α) (s : Replay limits) : Prop :=
  s.begun = true ∧ ∀ a, r = .ok a → P a s

omit [IsStrictOrderedRing K] in
/-- The parts of the thread in a row. -/
theorem wp_next {β : Type} {p : Program limits β} {f : β → Program limits α}
    {P : α → Replay limits → Prop} {R : β → Replay limits → Prop}
    (hp : wp (outline strict constructed pose) .motion (Outcome R) p s)
    (hf : ∀ b s, R b s → wp (outline strict constructed pose) .motion (Outcome P) (f b) s) :
    wp (outline strict constructed pose) .motion (Outcome P) (p >>= f) s := by
  refine wp_bind.2 (wp_mono hp fun r s' hr => ?_)
  cases r with
  | ok b => exact hf b s' (hr.2 b rfl)
  | error err => exact ⟨hr.1, by rintro _ ⟨⟩⟩

theorem wp_sample {now : K} (h : Ticking constructed pose now s) :
    wp (outline strict constructed pose) .motion (Outcome (Sampled strict constructed pose now))
      (.atomic .sample (sampleSegment now)) s := by
  refine fun s' hu hi => ⟨trivial, fun e _ => ?_⟩
  have hticking : Ticking constructed pose now s' := h.undisturbed hu
  refine ⟨⟨hi.paced, hi.base_le, hi.quiet, hi.first⟩, ⟨fun _ => rfl, hticking.begun⟩,
    hticking.begun, fun command hcommand => ?_⟩
  exact sampleSegment_sampled hticking hi hcommand

omit [IsStrictOrderedRing K] in
theorem wp_publish {now : K} {command : Side → Joints K}
    (h : Sampled strict constructed pose now command s) :
    wp (outline strict constructed pose) .motion (Outcome fun _ => Resting constructed pose now)
      (.atomic .publish (publish now command)) s := by
  refine fun s' hu _ => ⟨trivial, fun e _ => ?_⟩
  have hs : Sampled strict constructed pose now command s' := h.undisturbed hu
  refine ⟨⟨hs.paced, hs.now_le, fun _ hnil => absurd hnil (List.cons_ne_nil _ _), hs.first⟩,
    ⟨fun hne => absurd rfl hne, hs.begun⟩, hs.begun, fun _ _ => ?_⟩
  exact ⟨⟨hs.targets, hs.smooth, hs.now_le⟩, hs.begun, fun _ => rfl⟩

theorem wp_tick {previousTick : K} (h : Resting constructed pose previousTick s) :
    wp (outline strict constructed pose) .motion (Outcome (Resting constructed pose))
      (tick previousTick) s := by
  unfold tick
  refine wp_next (R := Ticking constructed pose) (wp_motion h.begun fun e s' hu he => ?_)
    fun now s₁ h₁ => ?_
  · have hrest : Resting constructed pose previousTick s' := h.undisturbed hu
    have hclock : Undisturbed strict s' (readClock previousTick e s').2 :=
      undisturbed_of_eq rfl rfl he.1.1 rfl rfl rfl rfl
    refine ⟨hclock, hrest.begun, fun now hnow => ?_⟩
    unfold readClock at hnow
    dsimp only at hnow
    split_ifs at hnow with hgap
    cases hnow
    refine ⟨hrest.toSettled.undisturbed hclock, hrest.begun, le_rfl, hrest.time.trans he.1.1, ?_⟩
    intro hne
    show e.clock - (base constructed pose s'.published).1 ≤ 1 / 10
    rw [hrest.previous hne]
    linarith [not_lt.1 hgap]
  refine wp_next (R := fun _ => Ticking constructed pose now)
    (wp_motion h₁.begun fun e s' hu he => ?_) fun sample s₂ h₂ => ?_
  · have hclock : Undisturbed strict s' (readArms e s').2 :=
      undisturbed_of_eq rfl rfl he.1.1 rfl rfl rfl rfl
    have hticking := (h₁.undisturbed hu).undisturbed hclock
    exact ⟨hclock, hticking.begun, fun _ _ => hticking⟩
  refine wp_next (wp_sample h₂) fun command s₃ h₃ => ?_
  refine wp_next (R := fun _ => Sampled strict constructed pose now command)
    (wp_motion h₃.begun fun e s' hu _ => ?_) fun _ s₄ h₄ => ?_
  · have hs := h₃.undisturbed hu
    exact ⟨Undisturbed.refl _, hs.begun, fun _ _ => hs⟩
  refine wp_next (wp_publish h₄) fun _ s₅ h₅ => ?_
  refine wp_next (R := fun _ => Resting constructed pose now)
    (wp_motion h₅.begun fun e s' hu he => ?_) fun _ s₆ h₆ => ?_
  · have hclock : Undisturbed strict s' { s' with time := e.clock } :=
      undisturbed_of_eq rfl rfl he.1.1 rfl rfl rfl rfl
    have hrest := (h₅.undisturbed hu).undisturbed hclock
    exact ⟨hclock, hrest.begun, fun _ _ => hrest⟩
  exact ⟨h₆.begun, by rintro _ ⟨⟩; exact h₆⟩

theorem wp_loop {n : ℕ} {previousTick : K} (h : Resting constructed pose previousTick s) :
    wp (outline strict constructed pose) .motion (Outcome fun _ _ => True)
      (loop n previousTick) s := by
  induction n generalizing previousTick s with
  | zero => trivial
  | succ n ih =>
    refine wp_next (R := fun _ => Resting constructed pose previousTick)
      (wp_motion h.begun fun e s' hu _ => ?_) fun stopped s₁ h₁ => ?_
    · have hrest := h.undisturbed hu
      exact ⟨Undisturbed.refl _, hrest.begun, fun _ _ => hrest⟩
    cases stopped with
    | true => exact ⟨h₁.begun, fun _ _ => trivial⟩
    | false => exact wp_next (wp_tick h₁) fun now s₂ h₂ => ih h₂

omit [IsStrictOrderedRing K] in
theorem wp_handler {err : MotionError} (h : s.begun = true) :
    wp (outline strict constructed pose) .motion (fun _ s => s.begun = true)
      (handler err : Program limits Unit) s := by
  refine wp_bind.2 (wp_motion h fun e s' hu _ => ?_)
  refine ⟨undisturbed_of_eq rfl rfl le_rfl rfl rfl rfl rfl, ?_⟩
  have hbegun' : s'.begun = true := hu.begun.trans h
  refine wp_tryCatch.2 (wp_motion hbegun' fun e s'' hu' _ => ?_)
  have hbegun : s''.begun = true := hu'.begun.trans hbegun'
  refine ⟨Undisturbed.refl _, ?_⟩
  cases (call e s'').1 <;> exact hbegun

theorem wp_run {n : ℕ} (h : s.Settled constructed pose) (hpublished : s.published = []) :
    wp (outline strict constructed pose) .motion (fun _ s => s.begun = true)
      (run n : Program limits Unit) s := by
  refine wp_bind.2 fun s' hu hi => ⟨trivial, fun e he => ?_⟩
  have hsettled : s'.Settled constructed pose := h.undisturbed hu
  have hnil : s'.published = [] := hu.published.trans hpublished
  refine ⟨⟨hi.paced, hi.base_le.trans he.1.1, hi.quiet, hi.first⟩, ⟨fun _ => rfl, rfl⟩, ?_⟩
  refine wp_tryCatch.2 (wp_mono (wp_loop (s := { s' with begun := true, time := e.clock })
    ⟨⟨hsettled.targets, hsettled.smooth, hsettled.time.trans he.1.1⟩, rfl, ?_⟩) fun r s₁ hr => ?_)
  · exact fun hne => absurd hnil hne
  · cases r with
    | ok u => exact hr.1
    | error err => exact wp_handler hr.1

/-- The outline is sound. -/
theorem outline_sound {sqrt : K → K} :
    (outline strict constructed pose : Outline _ _ _ (Replay limits) _).Sound
      (system sqrt limits) where
  refl := fun t s => by
    cases t with
    | caller => trivial
    | motion => exact Undisturbed.refl s
  trans := fun t a b c h h' => by
    cases t with
    | caller => trivial
    | motion => exact Undisturbed.trans h h'
  compat := fun {t t' l s r s'} hne _ _ _ hg => by
    cases t with
    | caller =>
      cases t' with
      | caller => exact absurd rfl hne
      | motion => exact hg
    | motion =>
      cases t' with
      | caller => trivial
      | motion => exact absurd rfl hne
  idle_stable := fun {t s s'} h hr => by
    cases t with
    | caller => trivial
    | motion =>
      intro hbegun
      obtain ⟨hsettled, hnil⟩ := h (hr.begun.symm.trans hbegun)
      exact ⟨hsettled.undisturbed hr, hr.published.trans hnil⟩
  op := fun t o s _ hidle hallowed => by
    cases t with
    | caller => exact wp_callerOp
    | motion =>
      cases o with
      | run n =>
        obtain ⟨hsettled, hnil⟩ := hidle hallowed.2
        refine wp_mono (wp_run hsettled hnil) fun _ s' hb hnot => ?_
        rw [hb] at hnot
        cases hnot
      | start | move | target | stop => exact hidle

/-! ### Failures -/

/-- Every section but `arms.publish`. -/
abbrev Quiet (l : ReplaySection) : Prop := l ≠ .publish

omit [IsStrictOrderedRing K] in
theorem tick_unhandled {previousTick : K} : (tick previousTick : Program limits K).Unhandled :=
  Prog.unhandled_bind Prog.unhandled_atomic fun _ =>
    Prog.unhandled_bind Prog.unhandled_atomic fun _ =>
      Prog.unhandled_bind Prog.unhandled_atomic fun _ =>
        Prog.unhandled_bind Prog.unhandled_atomic fun _ =>
          Prog.unhandled_bind Prog.unhandled_atomic fun _ =>
            Prog.unhandled_bind Prog.unhandled_atomic fun _ => trivial

omit [IsStrictOrderedRing K] in
theorem loop_unhandled {n : ℕ} {previousTick : K} :
    (loop n previousTick : Program limits Unit).Unhandled := by
  induction n generalizing previousTick with
  | zero => trivial
  | succ n ih =>
    refine Prog.unhandled_bind Prog.unhandled_atomic fun stopped => ?_
    cases stopped with
    | true => trivial
    | false => exact Prog.unhandled_bind tick_unhandled fun now => ih

omit [IsStrictOrderedRing K] in
theorem handler_quiet {err : MotionError} : (handler err : Program limits Unit).Only Quiet :=
  Prog.only_bind (Prog.only_atomic (by decide)) fun _ =>
    Prog.only_tryCatch (Prog.only_atomic (by decide)) fun _ => trivial

/-- The thread does not publish after an exception. -/
theorem motion_failsInto {sqrt : K → K} (o : Op K) :
    ((system sqrt limits).op .motion o).FailsInto Quiet := by
  cases o with
  | run n =>
    exact Prog.failsInto_bind Prog.unhandled_atomic fun previousTick =>
      Prog.failsInto_tryCatch loop_unhandled fun err => handler_quiet
  | start | move | target | stop => trivial

/-- The thread will not publish any more. -/
structure Silent (c : Config Role ReplaySection (ReplayEnv K) (Replay limits) MotionError) :
    Prop where
  /-- It has begun. -/
  begun : c.shared.begun = true
  /-- What is left of it does not publish. -/
  left : System.Left (Prog.Only Quiet) .motion c

variable {sqrt : K → K} {s₀ : Replay limits}
  {c c' c'' : Config Role ReplaySection (ReplayEnv K) (Replay limits) MotionError}

/-- After an exception the thread will not publish any more. -/
theorem silent_of_failed {l : ReplaySection} {e : ReplayEnv K} {err : MotionError}
    (hc : (system sqrt limits).Reachable (Admits strict) (.init s₀) c)
    (hs : (system sqrt limits).Step (Admits strict) c (.sect .motion l e (some err)) c')
    (hbegun : c'.shared.begun = true) : Silent c' :=
  ⟨hbegun, hs.failed (hc.failsInto motion_failsInto)⟩

/-- What is published, and that the thread has begun, if it is not going to publish. -/
theorem Silent.step (hS : (outline strict constructed pose).Sound (system sqrt limits))
    (h₀ : Inv strict constructed pose s₀) (hid : ∀ t, (outline strict constructed pose).idle t s₀)
    (hc : (system sqrt limits).Reachable (Admits strict) (.init s₀) c) (h : Silent c)
    {x : Label Role (Op K) ReplaySection (ReplayEnv K) MotionError}
    (hs : (system sqrt limits).Step (Admits strict) c x c') :
    Silent c' ∧ c'.shared.published = c.shared.published := by
  have hleft : System.Left (Prog.Only Quiet) .motion c' := by
    refine hs.left_only h.left fun o hx => ?_
    subst hx
    cases hs with
    | start hn ha =>
      cases o with
      | run n =>
        have hnot : c.shared.begun = false := ha.2
        rw [h.begun] at hnot
        cases hnot
      | start | move | target | stop => trivial
  cases x with
  | start t o =>
    cases hs with
    | start hn ha => exact ⟨⟨h.begun, hleft⟩, rfl⟩
  | sect t l e r =>
    have hg := hS.guar h₀ hid hc hs
    cases t with
    | caller => exact ⟨⟨hg.begun.trans h.begun, hleft⟩, hg.published⟩
    | motion => exact ⟨⟨hg.begun, hleft⟩, hg.published (hs.only_label h.left)⟩

theorem Silent.reachable (hS : (outline strict constructed pose).Sound (system sqrt limits))
    (h₀ : Inv strict constructed pose s₀) (hid : ∀ t, (outline strict constructed pose).idle t s₀)
    (hc : (system sqrt limits).Reachable (Admits strict) (.init s₀) c) (h : Silent c)
    (hreach : (system sqrt limits).Reachable (Admits strict) c c') :
    Silent c' ∧ c'.shared.published = c.shared.published := by
  induction hreach with
  | refl => exact ⟨h, rfl⟩
  | tail hreach hs ih =>
    obtain ⟨x, hx⟩ := hs
    obtain ⟨hsilent, hpublished⟩ := ih.1.step hS h₀ hid (hc.trans hreach) hx
    exact ⟨hsilent, hpublished.trans ih.2⟩

omit [IsStrictOrderedRing K] in
/-- What the constructor has measured. -/
theorem create_ok {activeArm : Side} {sample : Side → ArmSample K} {clock clockAgain : K}
    (h : create limits activeArm sample clock clockAgain = .ok s₀) :
    (∀ side, (sample side).q = some (s₀.targets side)) ∧
      Inv strict clockAgain s₀.targets s₀ ∧
      ∀ t, (outline strict clockAgain s₀.targets).idle t s₀ := by
  unfold create vector at h
  cases hl : (sample .left).q with
  | none =>
    rw [hl] at h
    cases h
  | some left =>
    cases hr : (sample .right).q with
    | none =>
      rw [hl, hr] at h
      cases h
    | some right =>
      rw [hl, hr] at h
      cases h
      refine ⟨fun side => ?_, ⟨trivial, le_rfl, fun _ _ => rfl, by simp⟩, fun t => ?_⟩
      · cases side
        · exact hl
        · exact hr
      · cases t with
        | caller => trivial
        | motion => exact fun _ => ⟨⟨rfl, by rintro _ ⟨⟩, le_rfl⟩, rfl⟩

/-- Along any interleaving, the published commands keep to the velocity of the limits, from the
measured pose at the time of construction on, and move one arm at a time; and after the thread has
failed, nothing more is published. -/
theorem replay_motion_bound (sqrt : K → K) (limits : MotionLimits K) {activeArm : Side}
    {sample : Side → ArmSample K} {clock clockAgain : K} {s₀ : Replay limits}
    (hcreate : create limits activeArm sample clock clockAgain = .ok s₀)
    {c : Config Role ReplaySection (ReplayEnv K) (Replay limits) MotionError}
    (hc : (system sqrt limits).Reachable Clocked (.init s₀) c) :
    (∀ side, (sample side).q = some (s₀.targets side)) ∧
      Paced limits.velocityRadS clockAgain s₀.targets c.shared.published ∧
      ∀ l e err c' c'', (system sqrt limits).Step Clocked c (.sect .motion l e (some err)) c' →
        (system sqrt limits).Reachable Clocked c' c'' →
        c''.shared.published = c'.shared.published := by
  obtain ⟨hmeasured, h₀, hid⟩ : _ ∧ Inv False clockAgain s₀.targets s₀ ∧
      ∀ t, (outline False clockAgain s₀.targets).idle t s₀ := create_ok hcreate
  have hS : (outline False clockAgain s₀.targets).Sound (system sqrt limits) := outline_sound
  have hadmits : ∀ (t : Role) (l : ReplaySection) (e : ReplayEnv K) (s : Replay limits),
      Clocked t l e s → Admits False t l e s := fun t l e s h => ⟨h, fun hfalse => hfalse.elim⟩
  have hreach := hc.mono hadmits
  refine ⟨hmeasured, (hS.inv h₀ hid hreach).paced, fun l e err c' c'' hs hreach' => ?_⟩
  have hs' := hs.mono hadmits
  have hsilent : Silent c' := silent_of_failed hreach hs' (hS.guar h₀ hid hreach hs').begun
  exact (hsilent.reachable hS h₀ hid (hreach.tail ⟨_, hs'⟩) (hreach'.mono hadmits)).2

end Replay

/-! ### Two moves -/

namespace Station

open Replay

/-- The default limits. -/
def limits : MotionLimits ℚ where
  velocityRadS := 1 / 10
  accelerationRadS2 := 1 / 5
  rateHz := 50
  arrivalRad := 1 / 100
  stillVelocityRadS := 1 / 25
  stableS := 3 / 5
  captureS := 2
  feedbackAgeS := 1 / 10
  followingErrorRad := 2 / 25
  segmentTimeoutS := 120
  positive := by decide +kernel
  ceiling := by decide +kernel
  rate := by decide +kernel
  tolerances := by decide +kernel
  dwell := by decide +kernel

/-- `math.sqrt`, to eight decimals. -/
def sqrt (x : ℚ) : ℚ := Nat.sqrt (x * 10 ^ 16).floor.toNat / 10 ^ 8

/-- Both arms are measured at rest. -/
def resting (clock : ℚ) : Side → ArmSample ℚ := fun _ =>
  { q := some fun _ => 1
    velocity := some fun _ => 0
    gripper := some 0
    receivedMonotonicS := clock }

/-- Everything is answered at the time `clock`. -/
def answer (clock : ℚ) : ReplayEnv ℚ where
  clock := clock
  clockAgain := clock
  sample := some (resting clock)

/-- The first joint is raised. -/
def raised : Joints ℚ := Function.update (fun _ => 1) 0 (101 / 100)

def run (t : Role) (o : Op ℚ) (n : ℕ) (clock : ℚ) : List (Move Role (Op ℚ) (ReplayEnv ℚ)) :=
  Move.run t o n (answer clock)

/-- Rounds of the loop. -/
def rounds (clocks : List ℚ) : List (Move Role (Op ℚ) (ReplayEnv ℚ)) :=
  clocks.flatMap fun clock => List.replicate 7 (.go .motion (answer clock))

/-- After the first tick the right arm is moved, and when it is there, the left arm. -/
def schedule : List (Move Role (Op ℚ) (ReplayEnv ℚ)) :=
  run .caller .start 2 0 ++ run .motion (.run 9) 8 (1 / 50) ++
    run .caller (.move (some .right) (some raised)) 2 (1 / 50) ++
    rounds [1 / 10, 1 / 5, 3 / 10, 2 / 5, 1 / 2, 3 / 5] ++
    run .caller (.move (some .left) (some raised)) 2 (3 / 5) ++ rounds [7 / 10, 4 / 5]

/-- Whether a thread may begin an operation. -/
def mayBegin (t : Role) (o : Op ℚ) (s : Replay limits) : Bool :=
  match t, o with
  | .motion, .run _ => s.thread && !s.begun
  | _, _ => true

/-- What the schedule ends in. -/
def played : Option (Config Role ReplaySection (ReplayEnv ℚ) (Replay limits) MotionError) :=
  match create limits .left (resting 0) 0 0 with
  | .ok s₀ => (system sqrt limits).playIf mayBegin
      (fun _ l e s => decide ((s.time ≤ e.clock ∧ e.clock ≤ e.clockAgain) ∧
        (l = .install → s.published ≠ []))) (.init s₀) schedule
  | .error _ => none

theorem played_reachable
    {c : Config Role ReplaySection (ReplayEnv ℚ) (Replay limits) MotionError}
    (h : played = some c) : ∃ s₀, create limits .left (resting 0) 0 0 = .ok s₀ ∧
      (system sqrt limits).Reachable (Admits True) (.init s₀) c := by
  unfold played at h
  split at h
  · rename_i s₀ hcreate
    refine ⟨s₀, hcreate, System.playIf_reachable (fun t o s hmay => ?_) (fun t l e s hok => ?_) h⟩
    · cases t with
      | caller => cases o <;> trivial
      | motion =>
        cases o with
        | run n =>
          unfold mayBegin at hmay
          rw [Bool.and_eq_true, Bool.not_eq_true'] at hmay
          exact hmay
        | start | move | target | stop => trivial
    · obtain ⟨hclocked, hinstall⟩ := of_decide_eq_true hok
      exact ⟨hclocked, fun _ => hinstall⟩
  · cases h

/-- The right arm has been moved to the end, and the left arm after it; no command is the one
before it. -/
structure Moved (published : List (Publication ℚ)) : Prop where
  /-- When the commands were published. -/
  clocks : published.map Publication.now =
    [4 / 5, 7 / 10, 3 / 5, 1 / 2, 2 / 5, 3 / 10, 1 / 5, 1 / 10, 1 / 50]
  /-- Each of them moves an arm. -/
  steps : published.IsChain fun p q =>
    q.command .left 0 < p.command .left 0 ∨ q.command .right 0 < p.command .right 0
  /-- Where the arms are. -/
  last : ∃ p ∈ published.head?, 1 < p.command .left 0 ∧ p.command .right = raised

/-- The schedule moves both arms. -/
theorem played_moved : ∃ c, played = some c ∧ Moved c.shared.published := by
  have hplayed : (played.map Config.shared).any (fun s => decide
      (s.published.map Publication.now =
          [4 / 5, 7 / 10, 3 / 5, 1 / 2, 2 / 5, 3 / 10, 1 / 5, 1 / 10, 1 / 50] ∧
        (s.published.IsChain fun p q =>
          q.command .left 0 < p.command .left 0 ∨ q.command .right 0 < p.command .right 0) ∧
        ∃ p ∈ s.published.head?, 1 < p.command .left 0 ∧ p.command .right = raised)) = true := by
    decide +kernel
  rw [Option.any_map] at hplayed
  obtain ⟨c, hc, hmoved⟩ := (Option.any_eq_true _ _).1 hplayed
  obtain ⟨hclocks, hsteps, hlast⟩ := of_decide_eq_true hmoved
  exact ⟨c, hc, hclocks, hsteps, hlast⟩

end Station

open Replay Station in
/-- Both arms are moved, one after the other. -/
theorem replay_motion_bound_moved : ∃ s₀ c, create limits .left (resting 0) 0 0 = .ok s₀ ∧
    (system Station.sqrt limits).Reachable Clocked (.init s₀) c ∧ Moved c.shared.published ∧
      (∀ side, (resting 0 side).q = some (s₀.targets side)) ∧
      Paced limits.velocityRadS 0 s₀.targets c.shared.published ∧
      ∀ l e err c' c'',
        (system Station.sqrt limits).Step Clocked c (.sect .motion l e (some err)) c' →
        (system Station.sqrt limits).Reachable Clocked c' c'' →
        c''.shared.published = c'.shared.published := by
  obtain ⟨c, hc, hmoved⟩ := played_moved
  obtain ⟨s₀, hcreate, hreach⟩ := played_reachable hc
  have hclocked : (system Station.sqrt limits).Reachable Clocked (.init s₀) c :=
    hreach.mono fun _ _ _ _ h => h.1
  exact ⟨s₀, c, hcreate, hclocked, hmoved, replay_motion_bound Station.sqrt limits hcreate hclocked⟩

end Calibration

end DualCollection
