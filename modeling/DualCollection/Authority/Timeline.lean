import DualCollection.Control.Locked

/-!
# The authority timeline

`AuthorityTimeline` of `dagger/takeover.py`: the sparse events and the segments of an Episode in
which one owner commands the arms.  Its methods are computations over the timeline; the event sink
is total, and `events` lists what it received, newest first.
-/

namespace DualCollection

/-- Who commands the arms. -/
inductive ControlOwner
  | model
  | human
  deriving DecidableEq, Repr

/-- The types of authority events. -/
inductive AuthorityEventType
  | takeoverRequested
  | humanActive
  | resumeRequested
  | policyActive
  | faultHold
  deriving DecidableEq, Repr

/-- What a fault handler noted. -/
inductive FailureNote
  /-- The error that it handles. -/
  | error (e : Exc)
  /-- `close_gate=...` -/
  | closeGate (e : Exc)
  /-- `clear_pending=...` -/
  | clearPending (e : Exc)
  /-- `gravity_compensation=...` -/
  | gravityCompensation (e : PyError)
  deriving DecidableEq, Repr

/-- The reasons of authority events. -/
inductive AuthorityReason
  | operatorOwnershipToggle
  | gravityCompensationConfirmed
  | operatorRequestedPolicyResume
  | actionGatewayReady
  | noActionGatewayReady
  /-- `"; ".join(failures)` -/
  | failures (notes : List FailureNote)
  deriving DecidableEq, Repr

/-- An authority event. -/
structure AuthorityEvent where
  /-- Its number in the Session. -/
  sequence : ℕ
  /-- When it happened. -/
  monotonicTimeNs : ℤ
  /-- The intervention it belongs to. -/
  interventionId : ℕ
  /-- The control epoch. -/
  controlEpoch : ℕ
  /-- What happened. -/
  eventType : AuthorityEventType
  /-- Why it happened. -/
  reason : AuthorityReason
  deriving DecidableEq, Repr

/-- A stretch of an Episode with one owner. -/
structure ControlSegment where
  /-- Who commands. -/
  owner : ControlOwner
  /-- Seconds from the start of the Episode. -/
  startedOffsetS : ℚ
  /-- Seconds from the start of the Episode. -/
  endedOffsetS : ℚ
  /-- The intervention of a human segment. -/
  interventionId : Option ℕ
  /-- `control segment start must be finite and non-negative` -/
  started_nonneg : 0 ≤ startedOffsetS
  /-- `control segment end must not precede its start` -/
  started_le_ended : startedOffsetS ≤ endedOffsetS
  /-- `intervention_id must be positive` -/
  interventionId_pos : ∀ id ∈ interventionId, 0 < id
  /-- A segment has an intervention exactly when a human commands. -/
  interventionId_human : interventionId.isSome = true ↔ owner = .human

/-- The constructor of `ControlSegment` with its checks. -/
def ControlSegment.make (owner : ControlOwner) (started ended : ℚ) (interventionId : Option ℕ) :
    Except SegmentError ControlSegment :=
  if h₁ : started < 0 then .error .negativeStart
  else if h₂ : ended < started then .error .endsBeforeStart
  else if h₃ : interventionId = some 0 then .error .interventionNotPositive
  else if h₄ : owner = .human ∧ interventionId = none then .error .humanWithoutIntervention
  else if h₅ : owner = .model ∧ interventionId ≠ none then .error .modelWithIntervention
  else .ok
    { owner := owner
      startedOffsetS := started
      endedOffsetS := ended
      interventionId := interventionId
      started_nonneg := not_lt.1 h₁
      started_le_ended := not_lt.1 h₂
      interventionId_pos := fun id hid => Nat.pos_of_ne_zero fun h0 => h₃ (h0 ▸ hid)
      interventionId_human := by
        cases owner <;> cases interventionId <;> simp_all }

/-- The owner of the open segment. -/
structure ActiveOwner where
  /-- Who commands. -/
  owner : ControlOwner
  /-- Since when. -/
  startedOffsetS : ℚ
  /-- The intervention of a human segment. -/
  interventionId : Option ℕ

/-- The timeline. -/
structure AuthorityTimeline where
  /-- `_sequence` -/
  sequence : ℕ := 0
  /-- `_episode_started_ns` -/
  episodeStartedNs : Option ℤ := none
  /-- `_intervention_count` -/
  interventionCount : ℕ := 0
  /-- `_segments` -/
  segments : List ControlSegment := []
  /-- `_active` -/
  active : Option ActiveOwner := none
  /-- What the event sink received, newest first. -/
  events : List AuthorityEvent := []

namespace AuthorityTimeline

/-- `_require_active`, with the start of the Episode. -/
def requireActive : Locked AuthorityTimeline ℤ := do
  let t ← .get
  match t.episodeStartedNs with
  | none => .raise (.authority .timelineInactive)
  | some startedNs => pure startedNs

/-- `_offset_s` -/
def offsetS (monotonicTimeNs : ℤ) : Locked AuthorityTimeline ℚ := do
  let startedNs ← requireActive
  if monotonicTimeNs < startedNs then .raise (.authority .precedesStart)
  pure ((monotonicTimeNs - startedNs : ℤ) / 10 ^ 9)

/-- `_close_active` -/
def closeActive (endedOffsetS : ℚ) : Locked AuthorityTimeline Unit := do
  let t ← .get
  match t.active with
  | none => pure ()
  | some a =>
    match ControlSegment.make a.owner a.startedOffsetS (max a.startedOffsetS endedOffsetS)
        a.interventionId with
    | .error err => .raise (.authority (.segment err))
    | .ok segment =>
      .modify fun t => { t with segments := t.segments ++ [segment], active := none }

/-- `_emit` -/
def emit (eventType : AuthorityEventType) (interventionId controlEpoch : ℕ)
    (reason : AuthorityReason) (monotonicTimeNs : ℤ) : Locked AuthorityTimeline Unit :=
  .modify fun t =>
    { t with
      sequence := t.sequence + 1
      events :=
        ⟨t.sequence + 1, monotonicTimeNs, interventionId, controlEpoch, eventType, reason⟩ ::
          t.events }

/-- `start_episode` -/
def startEpisode (monotonicTimeNs : ℤ) : Locked AuthorityTimeline Unit := do
  let t ← .get
  if t.episodeStartedNs ≠ none then .raise (.authority .timelineActive)
  .modify fun t =>
    { t with
      episodeStartedNs := some monotonicTimeNs
      interventionCount := 0
      segments := []
      active := none }

/-- `takeover_requested` -/
def takeoverRequested (controlEpoch : ℕ) (reason : AuthorityReason) (monotonicTimeNs : ℤ) :
    Locked AuthorityTimeline ℕ := do
  let _ ← requireActive
  let atS ← offsetS monotonicTimeNs
  closeActive atS
  .modify fun t => { t with interventionCount := t.interventionCount + 1 }
  let t ← .get
  emit .takeoverRequested t.interventionCount controlEpoch reason monotonicTimeNs
  pure t.interventionCount

/-- `human_active` -/
def humanActive (interventionId controlEpoch : ℕ) : Locked AuthorityTimeline Unit := do
  let env ← .ask
  let atS ← offsetS env.clockNs
  .modify fun t => { t with active := some ⟨.human, atS, some interventionId⟩ }
  emit .humanActive interventionId controlEpoch .gravityCompensationConfirmed env.clockNs

/-- `resume_requested` -/
def resumeRequested (interventionId controlEpoch : ℕ) (monotonicTimeNs : ℤ) :
    Locked AuthorityTimeline Unit := do
  let atS ← offsetS monotonicTimeNs
  closeActive atS
  emit .resumeRequested interventionId controlEpoch .operatorRequestedPolicyResume monotonicTimeNs

/-- `policy_active` -/
def policyActive (interventionId controlEpoch : ℕ) (reason : AuthorityReason) :
    Locked AuthorityTimeline Unit := do
  let env ← .ask
  let atS ← offsetS env.clockNs
  .modify fun t => { t with active := some ⟨.model, atS, none⟩ }
  emit .policyActive interventionId controlEpoch reason env.clockNs

/-- `fault_hold` -/
def faultHold (interventionId controlEpoch : ℕ) (reason : AuthorityReason) :
    Locked AuthorityTimeline ℤ := do
  let env ← .ask
  let atS ← offsetS env.clockNs
  closeActive atS
  emit .faultHold interventionId controlEpoch reason env.clockNs
  pure env.clockNs

/-- `finish_episode` -/
def finishEpisode (monotonicTimeNs : ℤ) : Locked AuthorityTimeline Unit := do
  let _ ← requireActive
  let atS ← offsetS monotonicTimeNs
  closeActive atS
  .modify fun t => { t with episodeStartedNs := none }

/-! ### Rules -/

variable {e : Env} {tl : AuthorityTimeline} {ns : ℤ}

theorem post_requireActive {Q : Except Exc ℤ → AuthorityTimeline → Prop}
    (hok : ∀ startedNs, tl.episodeStartedNs = some startedNs → Q (.ok startedNs) tl)
    (herr : tl.episodeStartedNs = none → ∀ err, Q (.error err) tl) :
    requireActive.Post e tl Q := by
  rw [requireActive, Locked.post_bind, Locked.post_get]
  dsimp only
  split
  · rename_i hnone
    exact herr hnone _
  · rename_i startedNs hsome
    exact hok startedNs hsome

theorem post_offsetS {Q : Except Exc ℚ → AuthorityTimeline → Prop}
    (hok : ∀ startedNs, tl.episodeStartedNs = some startedNs → startedNs ≤ ns →
      Q (.ok ((ns - startedNs : ℤ) / 10 ^ 9)) tl)
    (herr : (∀ startedNs, tl.episodeStartedNs = some startedNs → ns < startedNs) →
      ∀ err, Q (.error err) tl) : (offsetS ns).Post e tl Q := by
  rw [offsetS, Locked.post_bind]
  refine post_requireActive (fun startedNs hs => ?_) fun hnone err => ?_
  · dsimp only
    rw [Locked.post_ite]
    refine ⟨fun hlt => herr (fun _ hs' => ?_) _, fun hle => hok startedNs hs (not_lt.1 hle)⟩
    rw [hs, Option.some.injEq] at hs'
    exact hs' ▸ hlt
  · exact herr (fun _ hs => by rw [hnone] at hs; cases hs) err

theorem post_closeActive {endedOffsetS : ℚ} {Q : Except Exc Unit → AuthorityTimeline → Prop}
    (hnone : tl.active = none → Q (.ok ()) tl)
    (hsome : ∀ a segment, tl.active = some a →
      ControlSegment.make a.owner a.startedOffsetS (max a.startedOffsetS endedOffsetS)
        a.interventionId = .ok segment →
      Q (.ok ()) { tl with segments := tl.segments ++ [segment], active := none })
    (herr : ∀ a err, tl.active = some a →
      ControlSegment.make a.owner a.startedOffsetS (max a.startedOffsetS endedOffsetS)
        a.interventionId = .error err →
      Q (.error (.authority (.segment err))) tl) :
    (closeActive endedOffsetS).Post e tl Q := by
  rw [closeActive, Locked.post_bind, Locked.post_get]
  dsimp only
  cases ha : tl.active with
  | none => exact hnone ha
  | some a =>
    dsimp only
    split
    · rename_i err h
      exact herr a err ha h
    · rename_i segment h
      exact hsome a segment ha h

end AuthorityTimeline

end DualCollection
