import DualCollection.Authority.Operations
import DualCollection.Episode.CollectionMetadata

/-!
# The law of the authority timeline

* `Lawful` says which events may follow each other in an Episode.
* `recordedSegments` are the segments that the events of an Episode amount to: each event that gives
  the arms to an owner opens one, and the next event, or the end of the Episode, closes it.
* `Episode.Law` ties the attributes of a controller, its timeline and the events together: the
  state is the one that the last event left, the open segment is the one that it opened, and the
  recorded segments are the ones that the events amount to.

The lists of events are newest first, as they are in the model of the timeline.  Offsets are
rationals here; in the source they are quotients of floating-point numbers, rounded monotonically.
-/

namespace DualCollection

open Thread

/-! ### Words -/

/-- What may follow the last event of an Episode: `FAULT_HOLD` may replace any event, and nothing
follows it. -/
def AuthorityEventType.Follows : Option AuthorityEventType → AuthorityEventType → Prop
  | some .faultHold, _ => False
  | _, .faultHold => True
  | none, .policyActive => True
  | some .policyActive, .takeoverRequested => True
  | some .takeoverRequested, .humanActive => True
  | some .humanActive, .resumeRequested => True
  | some .resumeRequested, .policyActive => True
  | _, _ => False

/-- The events of an Episode follow each other. -/
def Lawful : List AuthorityEventType → Prop
  | [] => True
  | eventType :: earlier => eventType.Follows earlier.head? ∧ Lawful earlier

/-- The state in which the last event leaves the controller. -/
def stateAfter : Option AuthorityEventType → TakeoverState
  | none => .resumePending
  | some .takeoverRequested => .handoverPending
  | some .humanActive => .humanActive
  | some .resumeRequested => .resumePending
  | some .policyActive => .modelControl
  | some .faultHold => .faultHold

theorem stateAfter_resumePending {last : Option AuthorityEventType}
    (h : stateAfter last = .resumePending) : last = none ∨ last = some .resumeRequested := by
  rcases last with _ | (_ | _ | _ | _ | _) <;> simp_all [stateAfter]

theorem stateAfter_handoverPending {last : Option AuthorityEventType}
    (h : stateAfter last = .handoverPending) : last = some .takeoverRequested := by
  rcases last with _ | (_ | _ | _ | _ | _) <;> simp_all [stateAfter]

theorem stateAfter_humanActive {last : Option AuthorityEventType}
    (h : stateAfter last = .humanActive) : last = some .humanActive := by
  rcases last with _ | (_ | _ | _ | _ | _) <;> simp_all [stateAfter]

theorem stateAfter_modelControl {last : Option AuthorityEventType}
    (h : stateAfter last = .modelControl) : last = some .policyActive := by
  rcases last with _ | (_ | _ | _ | _ | _) <;> simp_all [stateAfter]

/-- `FAULT_HOLD` may replace any event. -/
theorem AuthorityEventType.faultHold_follows {last : Option AuthorityEventType}
    (h : last ≠ some .faultHold) : AuthorityEventType.faultHold.Follows last := by
  rcases last with _ | (_ | _ | _ | _ | _)
  · trivial
  · trivial
  · trivial
  · trivial
  · trivial
  · exact h rfl

/-! ### Segments -/

/-- Seconds from the start of the Episode. -/
def offset (startedNs ns : ℤ) : ℚ := (ns - startedNs : ℤ) / 10 ^ 9

/-- What a segment says. -/
structure SegmentData where
  /-- Who commands. -/
  owner : ControlOwner
  /-- Since when. -/
  startedOffsetS : ℚ
  /-- Until when. -/
  endedOffsetS : ℚ
  /-- The intervention of a human segment. -/
  interventionId : Option ℕ
  deriving DecidableEq

/-- What a segment says. -/
def ControlSegment.data (segment : ControlSegment) : SegmentData :=
  ⟨segment.owner, segment.startedOffsetS, segment.endedOffsetS, segment.interventionId⟩

/-- The segment that an event opens. -/
def AuthorityEvent.opens (startedNs : ℤ) (ev : AuthorityEvent) : Option ActiveOwner :=
  match ev.eventType with
  | .humanActive => some ⟨.human, offset startedNs ev.monotonicTimeNs, some ev.interventionId⟩
  | .policyActive => some ⟨.model, offset startedNs ev.monotonicTimeNs, none⟩
  | _ => none

/-- An open segment is closed; it does not end before it starts. -/
def ActiveOwner.closedAt (a : ActiveOwner) (endedOffsetS : ℚ) : SegmentData :=
  ⟨a.owner, a.startedOffsetS, max a.startedOffsetS endedOffsetS, a.interventionId⟩

/-- The segment of an event that is closed at the time `ns`, if there is one. -/
def AuthorityEvent.segment (startedNs ns : ℤ) (ev : AuthorityEvent) : List SegmentData :=
  ((ev.opens startedNs).map fun a => a.closedAt (offset startedNs ns)).toList

/-- The segments that later events have closed. -/
def closedSegments (startedNs : ℤ) : List AuthorityEvent → List SegmentData
  | [] => []
  | [_] => []
  | next :: ev :: earlier =>
    closedSegments startedNs (ev :: earlier) ++ ev.segment startedNs next.monotonicTimeNs

/-- The segments of an Episode that has been stopped at the time `stoppedNs`, if at all. -/
def recordedSegments (startedNs : ℤ) (stoppedNs : Option ℤ) (events : List AuthorityEvent) :
    List SegmentData :=
  closedSegments startedNs events ++ match stoppedNs, events with
    | some ns, ev :: _ => ev.segment startedNs ns
    | _, _ => []

theorem offset_nonneg {startedNs ns : ℤ} (h : startedNs ≤ ns) : 0 ≤ offset startedNs ns := by
  unfold offset
  have : (0 : ℚ) ≤ (ns - startedNs : ℤ) := by exact_mod_cast sub_nonneg.2 h
  positivity

theorem offset_mono {startedNs ns ns' : ℤ} (h : ns ≤ ns') :
    offset startedNs ns ≤ offset startedNs ns' := by
  unfold offset
  have : ((ns - startedNs : ℤ) : ℚ) ≤ (ns' - startedNs : ℤ) := by
    exact_mod_cast sub_le_sub_right h startedNs
  gcongr

/-- An open segment that a constructor of segments accepts. -/
structure ActiveOwner.Sound (a : ActiveOwner) : Prop where
  /-- It starts in the Episode. -/
  started_nonneg : 0 ≤ a.startedOffsetS
  /-- Interventions are numbered from one. -/
  interventionId_pos : ∀ id ∈ a.interventionId, 0 < id
  /-- Only a human intervenes. -/
  interventionId_human : a.interventionId.isSome = true ↔ a.owner = .human

theorem ControlSegment.make_sound {a : ActiveOwner} (h : a.Sound) {endedOffsetS : ℚ} :
    ∃ segment, make a.owner a.startedOffsetS (max a.startedOffsetS endedOffsetS)
      a.interventionId = .ok segment ∧ segment.data = a.closedAt endedOffsetS := by
  have h₁ : ¬ a.startedOffsetS < 0 := not_lt.2 h.started_nonneg
  have h₂ : ¬ max a.startedOffsetS endedOffsetS < a.startedOffsetS := not_lt.2 (le_max_left ..)
  have h₃ : a.interventionId ≠ some 0 := fun h0 => absurd (h.interventionId_pos 0 h0) (by simp)
  have h₄ : ¬ (a.owner = .human ∧ a.interventionId = none) := by
    rintro ⟨howner, hnone⟩
    have := h.interventionId_human.2 howner
    rw [hnone] at this
    cases this
  have h₅ : ¬ (a.owner = .model ∧ a.interventionId ≠ none) := by
    rintro ⟨howner, hsome⟩
    have := h.interventionId_human.1 (Option.isSome_iff_ne_none.2 hsome)
    rw [howner] at this
    cases this
  unfold make
  rw [dif_neg h₁, dif_neg h₂, dif_neg h₃, dif_neg h₄, dif_neg h₅]
  exact ⟨_, rfl, rfl⟩

/-- The open segment is closed. -/
theorem AuthorityTimeline.closeActive_sound {e : Env} {tl : AuthorityTimeline} {endedOffsetS : ℚ}
    (h : ∀ a ∈ tl.active, a.Sound) : (closeActive endedOffsetS).Post e tl fun r tl' =>
      r = .ok () ∧ ∃ closed : List ControlSegment,
        tl' = { tl with segments := tl.segments ++ closed, active := none } ∧
        closed.map ControlSegment.data =
          (tl.active.map fun a => a.closedAt endedOffsetS).toList := by
  refine post_closeActive (fun hnone => ?_) (fun a segment ha hmake => ?_) fun a err ha hmake => ?_
  · refine ⟨rfl, [], ?_, by rw [hnone]; rfl⟩
    rw [List.append_nil, ← hnone]
  · obtain ⟨segment', hmake', hdata⟩ := ControlSegment.make_sound (h a ha)
    rw [hmake', Except.ok.injEq] at hmake
    refine ⟨rfl, [segment], rfl, ?_⟩
    rw [ha, ← hmake]
    exact congrArg (fun data => [data]) hdata
  · obtain ⟨segment', hmake', -⟩ := ControlSegment.make_sound (h a ha)
    rw [hmake'] at hmake
    cases hmake

/-! ### The invariant -/

/-- What the timeline says of an Episode with the events `es`, after the events `before` of earlier
Episodes; `now` is the time. -/
structure Recorded (before : List AuthorityEvent) (startedNs : ℤ) (stoppedNs : Option ℤ) (now : ℤ)
    (es : List AuthorityEvent) (tl : AuthorityTimeline) : Prop where
  /-- The events are counted. -/
  sequence : tl.sequence = tl.events.length
  /-- The events are numbered from one. -/
  numbered : tl.events.map AuthorityEvent.sequence = (List.range' 1 tl.events.length).reverse
  /-- The events of the Episode come after the others. -/
  events : tl.events = es ++ before
  /-- They follow each other. -/
  word : Lawful (es.map AuthorityEvent.eventType)
  /-- The segments are those of the events. -/
  segments : tl.segments.map ControlSegment.data = recordedSegments startedNs stoppedNs es
  /-- They do not overlap. -/
  ordered : SegmentsOrdered 0 tl.segments
  /-- They are over. -/
  ended : ∀ segment ∈ tl.segments, segment.endedOffsetS ≤ offset startedNs now
  /-- Nothing happens before the Episode or in the future. -/
  times : ∀ ev ∈ es, startedNs ≤ ev.monotonicTimeNs ∧ ev.monotonicTimeNs ≤ now
  /-- Interventions are counted. -/
  count : tl.interventionCount = (es.map AuthorityEvent.eventType).count .takeoverRequested
  /-- Interventions are numbered from one. -/
  humans : ∀ ev ∈ es, ev.eventType = .humanActive →
    0 < ev.interventionId ∧ ev.interventionId ≤ tl.interventionCount
  /-- The segments belong to interventions that there were. -/
  interventions : ∀ segment ∈ tl.segments, ∀ id ∈ segment.interventionId,
    id ≤ tl.interventionCount

/-- Time passes. -/
theorem Recorded.mono {before es : List AuthorityEvent} {startedNs now now' : ℤ}
    {stoppedNs : Option ℤ} {tl : AuthorityTimeline} (h : Recorded before startedNs stoppedNs now es tl)
    (hnow : now ≤ now') : Recorded before startedNs stoppedNs now' es tl :=
  { h with
    ended := fun segment hmem => (h.ended segment hmem).trans (offset_mono hnow)
    times := fun ev hmem => ⟨(h.times ev hmem).1, (h.times ev hmem).2.trans hnow⟩ }

/-- The Episode runs. -/
structure Running (before : List AuthorityEvent) (startedNs now : ℤ) (es : List AuthorityEvent)
    (t : Takeover) : Prop extends Recorded before startedNs none now es t.timeline where
  /-- It has started. -/
  started : t.timeline.episodeStartedNs = some startedNs
  /-- The last event has opened the open segment. -/
  active : t.timeline.active = es.head?.bind (AuthorityEvent.opens startedNs)
  /-- The segments before it are over. -/
  before_active : ∀ a ∈ t.timeline.active, ∀ segment ∈ t.timeline.segments,
    segment.endedOffsetS ≤ a.startedOffsetS
  /-- The state is that of the last event. -/
  state : t.state = stateAfter (es.head?.map AuthorityEvent.eventType)
  /-- The intervention is the last one. -/
  intervention : t.interventionId = t.timeline.interventionCount

theorem SegmentsOrdered.append {previousEnd : ℚ} {segments closed : List ControlSegment}
    (h : SegmentsOrdered previousEnd segments) {bound : ℚ} (hprevious : previousEnd ≤ bound)
    (hbound : ∀ segment ∈ segments, segment.endedOffsetS ≤ bound)
    (hclosed : SegmentsOrdered bound closed) : SegmentsOrdered previousEnd (segments ++ closed) := by
  induction segments generalizing previousEnd with
  | nil =>
    cases closed with
    | nil => trivial
    | cons segment closed => exact ⟨hprevious.trans hclosed.1, hclosed.2⟩
  | cons segment segments ih =>
    exact ⟨h.1, ih h.2 (hbound segment List.mem_cons_self) fun segment' hmem =>
      hbound segment' (List.mem_cons_of_mem _ hmem)⟩

/-- The segment that an event opens is accepted. -/
theorem opens_sound {startedNs : ℤ} {ev : AuthorityEvent} {a : ActiveOwner}
    (h : ev.opens startedNs = some a) (htime : startedNs ≤ ev.monotonicTimeNs)
    (hhuman : ev.eventType = .humanActive → 0 < ev.interventionId) : a.Sound := by
  unfold AuthorityEvent.opens at h
  split at h
  · rename_i hev
    cases h
    refine ⟨offset_nonneg htime, ?_, by simp⟩
    rintro id ⟨⟩
    exact hhuman hev
  · cases h
    exact ⟨offset_nonneg htime, (by simp), by simp⟩
  · cases h

/-- What an operation of the timeline does that emits `ev`: the open segment is closed, and the one
that the event opens is opened. -/
structure Emission (startedNs : ℤ) (ev : AuthorityEvent) (tl tl' : AuthorityTimeline) : Prop where
  /-- The next number. -/
  number : ev.sequence = tl.sequence + 1
  /-- It is counted. -/
  sequence : tl'.sequence = tl.sequence + 1
  /-- It is emitted. -/
  events : tl'.events = ev :: tl.events
  /-- The open segment is closed. -/
  segments : ∃ closed : List ControlSegment, tl'.segments = tl.segments ++ closed ∧
    closed.map ControlSegment.data =
      (tl.active.map fun a => a.closedAt (offset startedNs ev.monotonicTimeNs)).toList
  /-- Another one is opened. -/
  active : tl'.active = ev.opens startedNs
  /-- Interventions are counted. -/
  count : tl'.interventionCount =
    tl.interventionCount + if ev.eventType = .takeoverRequested then 1 else 0
  /-- A human has the arms in the last intervention. -/
  human : ev.eventType = .humanActive → ev.interventionId = tl'.interventionCount
  /-- The Episode goes on. -/
  started : tl'.episodeStartedNs = tl.episodeStartedNs

theorem opens_started {startedNs : ℤ} {ev : AuthorityEvent} {a : ActiveOwner}
    (h : ev.opens startedNs = some a) : a.startedOffsetS = offset startedNs ev.monotonicTimeNs := by
  unfold AuthorityEvent.opens at h
  split at h <;> cases h <;> rfl

namespace Running

variable {before es : List AuthorityEvent} {startedNs now now' : ℤ} {t t' : Takeover}
  {ev : AuthorityEvent}

/-- The open segment is the one of the last event. -/
theorem of_active (h : Running before startedNs now es t) {a : ActiveOwner}
    (ha : t.timeline.active = some a) : ∃ ev ∈ es, ev.opens startedNs = some a := by
  rw [h.active] at ha
  cases es with
  | nil => cases ha
  | cons ev es => exact ⟨ev, List.mem_cons_self, ha⟩

theorem active_sound (h : Running before startedNs now es t) :
    ∀ a ∈ t.timeline.active, a.Sound := by
  intro a ha
  obtain ⟨ev, hev, hopens⟩ := h.of_active ha
  exact opens_sound hopens (h.times ev hev).1 fun hhuman => (h.humans ev hev hhuman).1

theorem closed_eq (h : Running before startedNs now es t) {ns : ℤ} :
    closedSegments startedNs es ++ ((t.timeline.active.map fun a =>
      a.closedAt (offset startedNs ns)).toList) = recordedSegments startedNs (some ns) es := by
  rw [h.active]
  cases es with
  | nil => rfl
  | cons ev es => rfl

theorem closedSegments_cons (h : Running before startedNs now es t) :
    closedSegments startedNs (ev :: es) = closedSegments startedNs es ++
      (t.timeline.active.map fun a =>
        a.closedAt (offset startedNs ev.monotonicTimeNs)).toList := by
  rw [h.active]
  cases es with
  | nil => rfl
  | cons last es => rfl

/-- A closed segment lies between the opening event and the closing one. -/
theorem closed_ended (h : Running before startedNs now es t) {ns : ℤ} (hns : ns ≤ now')
    (hnow : now ≤ now') {closed : List ControlSegment}
    (hclosed : closed.map ControlSegment.data =
      (t.timeline.active.map fun a => a.closedAt (offset startedNs ns)).toList) :
    ∀ segment ∈ closed, segment.endedOffsetS ≤ offset startedNs now' ∧
      (∀ id ∈ segment.interventionId, id ≤ t.timeline.interventionCount) ∧
      ∃ a ∈ t.timeline.active, segment.startedOffsetS = a.startedOffsetS := by
  intro segment hmem
  have hdata : segment.data ∈ (t.timeline.active.map fun a =>
      a.closedAt (offset startedNs ns)).toList := hclosed ▸ List.mem_map_of_mem hmem
  obtain ⟨a, ha, hdata⟩ := Option.map_eq_some_iff.1 (Option.mem_toList.1 hdata)
  obtain ⟨ev, hev, hopens⟩ := h.of_active ha
  have hstart : a.startedOffsetS = offset startedNs ev.monotonicTimeNs ∧
      (∀ id ∈ a.interventionId, id ≤ t.timeline.interventionCount) := by
    unfold AuthorityEvent.opens at hopens
    split at hopens
    · rename_i hhuman
      cases hopens
      refine ⟨rfl, ?_⟩
      rintro id ⟨⟩
      exact (h.humans ev hev hhuman).2
    · cases hopens
      exact ⟨rfl, by simp⟩
    · cases hopens
  obtain ⟨-, hstarted, hended, hid⟩ := SegmentData.mk.inj hdata
  refine ⟨?_, ?_, a, ha, hstarted.symm⟩
  · refine hended.symm.le.trans (max_le ?_ (offset_mono hns))
    rw [hstart.1]
    exact offset_mono ((h.times ev hev).2.trans hnow)
  · exact fun id hmem => hstart.2 id (hid.trans hmem)

/-- The segment that is closed comes after the others. -/
theorem ordered_closed (h : Running before startedNs now es t) {ns : ℤ}
    {closed : List ControlSegment} (hclosed : closed.map ControlSegment.data =
      (t.timeline.active.map fun a => a.closedAt (offset startedNs ns)).toList) :
    SegmentsOrdered 0 (t.timeline.segments ++ closed) := by
  cases ha : t.timeline.active with
  | none =>
    rw [ha] at hclosed
    rw [List.map_eq_nil_iff.1 hclosed, List.append_nil]
    exact h.ordered
  | some a =>
    refine h.ordered.append (h.active_sound a ha).started_nonneg (h.before_active a ha) ?_
    rw [ha] at hclosed
    obtain ⟨segment, rfl, hdata⟩ := List.map_eq_singleton_iff.1 hclosed
    exact ⟨(congrArg SegmentData.startedOffsetS hdata).ge, trivial⟩

theorem emit (h : Running before startedNs now es t)
    (hfollows : ev.eventType.Follows (es.head?.map AuthorityEvent.eventType))
    (hem : Emission startedNs ev t.timeline t'.timeline) (hstarted : startedNs ≤ ev.monotonicTimeNs)
    (hev : ev.monotonicTimeNs ≤ now') (hnow : now ≤ now')
    (hopens : ∀ a ∈ ev.opens startedNs, now ≤ ev.monotonicTimeNs ∧ t.timeline.active = none)
    (hpos : ev.eventType = .humanActive → 0 < t'.timeline.interventionCount)
    (hstate : t'.state = stateAfter (some ev.eventType))
    (hid : t'.interventionId = t'.timeline.interventionCount) :
    Running before startedNs now' (ev :: es) t' := by
  obtain ⟨closed, hsegments, hclosed⟩ := hem.segments
  have hends := h.closed_ended hev hnow hclosed
  have hcount : t.timeline.interventionCount ≤ t'.timeline.interventionCount := by
    rw [hem.count]
    exact Nat.le_add_right _ _
  have hordered : SegmentsOrdered 0 t'.timeline.segments := hsegments ▸ h.ordered_closed hclosed
  have hsplit : ∀ segment ∈ t'.timeline.segments,
      segment ∈ t.timeline.segments ∨ segment ∈ closed := fun segment hmem => by
    rw [hsegments] at hmem
    exact List.mem_append.1 hmem
  exact
    { sequence := by rw [hem.sequence, hem.events, h.sequence, List.length_cons]
      numbered := by
        rw [hem.events, List.map_cons, h.numbered, hem.number, h.sequence, List.length_cons,
          List.range'_1_concat, List.reverse_append, Nat.add_comm]
        rfl
      events := by rw [hem.events, h.events, List.cons_append]
      word := ⟨by rw [List.head?_map]; exact hfollows, h.word⟩
      segments := by
        have hold := h.segments
        simp only [recordedSegments, List.append_nil] at hold ⊢
        rw [hsegments, List.map_append, hold, hclosed, h.closedSegments_cons]
      ordered := hordered
      ended := fun segment hmem => by
        rcases hsplit segment hmem with hmem | hmem
        · exact (h.ended segment hmem).trans (offset_mono hnow)
        · exact (hends segment hmem).1
      times := fun ev' hmem => by
        rcases List.mem_cons.1 hmem with rfl | hmem
        · exact ⟨hstarted, hev⟩
        · exact ⟨(h.times ev' hmem).1, (h.times ev' hmem).2.trans hnow⟩
      count := by
        rw [hem.count, h.count, List.map_cons, List.count_cons]
        simp only [beq_iff_eq]
      humans := fun ev' hmem hhuman => by
        rcases List.mem_cons.1 hmem with rfl | hmem
        · rw [hem.human hhuman]
          exact ⟨hpos hhuman, le_rfl⟩
        · exact ⟨(h.humans ev' hmem hhuman).1, (h.humans ev' hmem hhuman).2.trans hcount⟩
      interventions := fun segment hmem id hid => by
        rcases hsplit segment hmem with hmem | hmem
        · exact (h.interventions segment hmem id hid).trans hcount
        · exact ((hends segment hmem).2.1 id hid).trans hcount
      started := hem.started.trans h.started
      active := hem.active
      before_active := fun a ha segment hmem => by
        rw [hem.active] at ha
        obtain ⟨hle, hnone⟩ := hopens a ha
        rw [hnone] at hclosed
        rw [hsegments, List.map_eq_nil_iff.1 hclosed, List.append_nil] at hmem
        rw [opens_started ha]
        exact (h.ended segment hmem).trans (offset_mono hle)
      state := hstate
      intervention := hid }

/-- The type of the last event. -/
abbrev last (es : List AuthorityEvent) : Option AuthorityEventType :=
  es.head?.map AuthorityEvent.eventType

theorem last_resumePending (h : Running before startedNs now es t)
    (hstate : t.state = .resumePending) : last es = none ∨ last es = some .resumeRequested :=
  stateAfter_resumePending (h.state.symm.trans hstate)

theorem last_handoverPending (h : Running before startedNs now es t)
    (hstate : t.state = .handoverPending) : last es = some .takeoverRequested :=
  stateAfter_handoverPending (h.state.symm.trans hstate)

theorem last_humanActive (h : Running before startedNs now es t)
    (hstate : t.state = .humanActive) : last es = some .humanActive :=
  stateAfter_humanActive (h.state.symm.trans hstate)

theorem last_modelControl (h : Running before startedNs now es t)
    (hstate : t.state = .modelControl) : last es = some .policyActive :=
  stateAfter_modelControl (h.state.symm.trans hstate)

/-- Anything but a held fault may be followed by one. -/
theorem follows_faultHold (h : Running before startedNs now es t) (hstate : t.state ≠ .faultHold) :
    AuthorityEventType.faultHold.Follows (last es) :=
  AuthorityEventType.faultHold_follows fun hlast => hstate (h.state.trans (congrArg stateAfter hlast))

/-- Only the events that give the arms to an owner open a segment. -/
theorem inactive (h : Running before startedNs now es t) (hhuman : last es ≠ some .humanActive)
    (hpolicy : last es ≠ some .policyActive) : t.timeline.active = none := by
  rw [h.active]
  cases es with
  | nil => rfl
  | cons ev es =>
    have hhuman : ev.eventType ≠ .humanActive := fun heq => hhuman (congrArg some heq)
    have hpolicy : ev.eventType ≠ .policyActive := fun heq => hpolicy (congrArg some heq)
    show ev.opens startedNs = none
    unfold AuthorityEvent.opens
    split
    · rename_i heq
      exact absurd heq hhuman
    · rename_i heq
      exact absurd heq hpolicy
    · rfl

/-- An event of the given type is emitted. -/
theorem next (h : Running before startedNs now es t) {eventType : AuthorityEventType}
    (htype : ev.eventType = eventType) (hfollows : eventType.Follows (last es))
    (hem : Emission startedNs ev t.timeline t'.timeline) (hstarted : startedNs ≤ ev.monotonicTimeNs)
    (hev : ev.monotonicTimeNs ≤ now') (hnow : now ≤ now')
    (hopens : eventType = .humanActive ∨ eventType = .policyActive →
      now ≤ ev.monotonicTimeNs ∧ t.timeline.active = none)
    (hpos : eventType = .humanActive → 0 < t'.timeline.interventionCount)
    (hstate : t'.state = stateAfter (some eventType))
    (hid : t'.interventionId = t'.timeline.interventionCount) :
    Running before startedNs now' (ev :: es) t' := by
  subst htype
  refine h.emit hfollows hem hstarted hev hnow (fun a ha => hopens ?_) hpos hstate hid
  unfold AuthorityEvent.opens at ha
  split at ha
  · rename_i heq
    exact .inl heq
  · rename_i heq
    exact .inr heq
  · cases ha

/-- Time passes, and the attributes that the law does not mention change. -/
theorem congr (h : Running before startedNs now es t) (hnow : now ≤ now')
    (htimeline : t'.timeline = t.timeline) (hstate : t'.state = t.state)
    (hid : t'.interventionId = t.interventionId) : Running before startedNs now' es t' where
  toRecorded := by
    rw [htimeline]
    exact h.toRecorded.mono hnow
  started := by rw [htimeline]; exact h.started
  active := by rw [htimeline]; exact h.active
  before_active := by rw [htimeline]; exact h.before_active
  state := hstate.trans h.state
  intervention := by rw [htimeline, hid]; exact h.intervention

end Running

/-! ### The operations of the timeline -/

namespace AuthorityTimeline

variable {e : Env} {tl : AuthorityTimeline} {startedNs ns : ℤ} {interventionId controlEpoch : ℕ}
  {reason : AuthorityReason}

/-- An operation raises and leaves the timeline alone, or it emits an event of the given type and
time and returns what `value` says of the timeline that it leaves. -/
def Emitted {α : Type} (startedNs : ℤ) (eventType : AuthorityEventType) (ns : ℤ)
    (value : AuthorityTimeline → α) (tl : AuthorityTimeline) (r : Except Exc α)
    (tl' : AuthorityTimeline) : Prop :=
  (∃ err, r = .error err ∧ tl' = tl ∧ ns < startedNs) ∨
    r = .ok (value tl') ∧ startedNs ≤ ns ∧ ∃ ev : AuthorityEvent, ev.eventType = eventType ∧
      ev.monotonicTimeNs = ns ∧ Emission startedNs ev tl tl'

/-- The offset of a time in a running Episode. -/
theorem post_offset {Q : Except Exc ℚ → AuthorityTimeline → Prop}
    (h : tl.episodeStartedNs = some startedNs)
    (hok : startedNs ≤ ns → Q (.ok (offset startedNs ns)) tl)
    (herr : ns < startedNs → ∀ err, Q (.error err) tl) : (offsetS ns).Post e tl Q := by
  refine post_offsetS (fun startedNs' hs hle => ?_) fun hlt err => herr (hlt _ h) err
  rw [h, Option.some.injEq] at hs
  subst hs
  exact hok hle

theorem policyActive_emitted (h : tl.episodeStartedNs = some startedNs) (hactive : tl.active = none) :
    (policyActive interventionId controlEpoch reason).Post e tl
      (Emitted startedNs .policyActive e.clockNs (fun _ => ()) tl) := by
  rw [policyActive, Locked.post_bind, Locked.post_ask]
  dsimp only
  rw [Locked.post_bind]
  refine post_offset h (fun hle => ?_) fun hlt err => .inl ⟨err, rfl, rfl, hlt⟩
  exact .inr ⟨rfl, hle, _, rfl, rfl, ⟨rfl, rfl, rfl, ⟨[], (List.append_nil _).symm, by rw [hactive]; rfl⟩,
    rfl, rfl, by simp, rfl⟩⟩

theorem humanActive_emitted (h : tl.episodeStartedNs = some startedNs) (hactive : tl.active = none)
    (hid : interventionId = tl.interventionCount) :
    (humanActive interventionId controlEpoch).Post e tl
      (Emitted startedNs .humanActive e.clockNs (fun _ => ()) tl) := by
  rw [humanActive, Locked.post_bind, Locked.post_ask]
  dsimp only
  rw [Locked.post_bind]
  refine post_offset h (fun hle => ?_) fun hlt err => .inl ⟨err, rfl, rfl, hlt⟩
  exact .inr ⟨rfl, hle, _, rfl, rfl, ⟨rfl, rfl, rfl, ⟨[], (List.append_nil _).symm, by rw [hactive]; rfl⟩,
    rfl, rfl, fun _ => hid, rfl⟩⟩

/-- An event that closes the open segment. -/
theorem post_closing {α : Type} {body : Locked AuthorityTimeline α}
    {Q : Except Exc α → AuthorityTimeline → Prop} (h : tl.episodeStartedNs = some startedNs)
    (hsound : ∀ a ∈ tl.active, a.Sound) (herr : ns < startedNs → ∀ err, Q (.error err) tl)
    (hok : startedNs ≤ ns → ∀ closed : List ControlSegment, closed.map ControlSegment.data =
        (tl.active.map fun a => a.closedAt (offset startedNs ns)).toList →
      body.Post e { tl with segments := tl.segments ++ closed, active := none } Q) :
    (do
      let atS ← offsetS ns
      closeActive atS
      body).Post e tl Q := by
  rw [Locked.post_bind]
  refine post_offset h (fun hle => ?_) fun hlt err => herr hlt err
  dsimp only
  rw [Locked.post_bind]
  refine Locked.post_mono (closeActive_sound hsound) fun r tl' hr => ?_
  obtain ⟨rfl, closed, rfl, hclosed⟩ := hr
  exact hok hle closed hclosed

theorem resumeRequested_emitted (h : tl.episodeStartedNs = some startedNs)
    (hsound : ∀ a ∈ tl.active, a.Sound) :
    (resumeRequested interventionId controlEpoch ns).Post e tl
      (Emitted startedNs .resumeRequested ns (fun _ => ()) tl) :=
  post_closing h hsound (fun hlt err => .inl ⟨err, rfl, rfl, hlt⟩) fun hle closed hclosed =>
    .inr ⟨rfl, hle, _, rfl, rfl, ⟨rfl, rfl, rfl, ⟨closed, rfl, hclosed⟩, rfl, rfl, by simp, rfl⟩⟩

theorem faultHold_emitted (h : tl.episodeStartedNs = some startedNs)
    (hsound : ∀ a ∈ tl.active, a.Sound) :
    (faultHold interventionId controlEpoch reason).Post e tl
      (Emitted startedNs .faultHold e.clockNs (fun _ => e.clockNs) tl) := by
  rw [faultHold, Locked.post_bind, Locked.post_ask]
  exact post_closing h hsound (fun hlt err => .inl ⟨err, rfl, rfl, hlt⟩) fun hle closed hclosed =>
    .inr ⟨rfl, hle, _, rfl, rfl, ⟨rfl, rfl, rfl, ⟨closed, rfl, hclosed⟩, rfl, rfl, by simp, rfl⟩⟩

theorem takeoverRequested_emitted (h : tl.episodeStartedNs = some startedNs)
    (hsound : ∀ a ∈ tl.active, a.Sound) :
    (takeoverRequested controlEpoch reason ns).Post e tl
      (Emitted startedNs .takeoverRequested ns interventionCount tl) := by
  rw [takeoverRequested, Locked.post_bind]
  refine post_requireActive (fun _ _ => ?_) fun hnone => by rw [h] at hnone; cases hnone
  exact post_closing h hsound (fun hlt err => .inl ⟨err, rfl, rfl, hlt⟩) fun hle closed hclosed =>
    .inr ⟨rfl, hle, _, rfl, rfl, ⟨rfl, rfl, rfl, ⟨closed, rfl, hclosed⟩, rfl, rfl, by simp, rfl⟩⟩

end AuthorityTimeline

end DualCollection
