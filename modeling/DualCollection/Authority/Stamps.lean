import DualCollection.Authority.Held
import DualCollection.Authority.Session

/-!
# The stamps of authority events

Some events are stamped with the clock when they are emitted, others with the time of a trigger that
was read before.  In one call of `wait` the controller polls the runtime after the trigger has been
read and before it is handled, so that the trigger's event may be stamped earlier than the one that
the poll has emitted.

`Sorted` has that no event of a Session is stamped earlier than the one before it.  `wait_recorded`
and `stop_finished` say when the operations of an Episode keep it: the time of a trigger that is
handled is not before the last event (`Timely`), and the stop hook does not emit `FAULT_HOLD` later
than the time at which the Episode was stopped.
-/

namespace DualCollection

open Thread

/-- Nothing is emitted, or one event with the given stamp. -/
def AuthorityTimeline.Stamped (ns : ℤ) (tl tl' : AuthorityTimeline) : Prop :=
  tl'.episodeStartedNs = tl.episodeStartedNs ∧ ((tl'.sequence = tl.sequence ∧ tl'.events = tl.events) ∨
    ∃ ev : AuthorityEvent, ev.monotonicTimeNs = ns ∧ ev.sequence = tl.sequence + 1 ∧
      tl'.sequence = tl.sequence + 1 ∧ tl'.events = ev :: tl.events)

theorem AuthorityTimeline.Emitted.stamped {α : Type} {startedNs ns : ℤ}
    {eventType : AuthorityEventType} {value : AuthorityTimeline → α} {tl tl' : AuthorityTimeline}
    {r : Except Exc α} (h : Emitted startedNs eventType ns value tl r tl') : Stamped ns tl tl' := by
  rcases h with ⟨err, -, rfl, -⟩ | ⟨-, -, ev, -, htime, hem⟩
  · exact ⟨rfl, .inl ⟨rfl, rfl⟩⟩
  · exact ⟨hem.started, .inr ⟨ev, htime, hem.number, hem.sequence, hem.events⟩⟩

/-- The events are stamped in the order of their numbers, and not in the future. -/
structure AuthorityTimeline.Sorted (now : ℤ) (tl : AuthorityTimeline) : Prop where
  /-- No event is stamped earlier than the one before it. -/
  events : tl.events.Pairwise fun later earlier =>
    earlier.sequence < later.sequence ∧ earlier.monotonicTimeNs ≤ later.monotonicTimeNs
  /-- No event is stamped in the future. -/
  past : ∀ ev ∈ tl.events, ev.sequence ≤ tl.sequence ∧ ev.monotonicTimeNs ≤ now

namespace AuthorityTimeline.Sorted

variable {now now' ns : ℤ} {tl tl' : AuthorityTimeline}

theorem mono (h : Sorted now tl) (hnow : now ≤ now') : Sorted now' tl where
  events := h.events
  past := fun ev hev => ⟨(h.past ev hev).1, (h.past ev hev).2.trans hnow⟩

theorem congr (h : Sorted now tl) (hevents : tl'.events = tl.events)
    (hsequence : tl'.sequence = tl.sequence) : Sorted now tl' where
  events := hevents ▸ h.events
  past := by
    rw [hevents, hsequence]
    exact h.past

/-- An event may be stamped with a time that is not before the last one. -/
theorem stamped (h : Sorted now tl) (hst : Stamped ns tl tl')
    (hlast : ∀ ev ∈ tl.events, ev.monotonicTimeNs ≤ ns) (hns : ns ≤ now') (hnow : now ≤ now') :
    Sorted now' tl' := by
  rcases hst.2 with ⟨hsequence, hevents⟩ | ⟨ev, htime, hnumber, hsequence, hevents⟩
  · exact (h.mono hnow).congr hevents hsequence
  · refine ⟨?_, fun ev' hmem => ?_⟩
    · rw [hevents, List.pairwise_cons]
      refine ⟨fun ev' hmem => ⟨?_, htime ▸ hlast ev' hmem⟩, h.events⟩
      rw [hnumber]
      exact Nat.lt_succ_of_le (h.past ev' hmem).1
    · rw [hsequence]
      rcases List.mem_cons.1 (hevents ▸ hmem) with rfl | hmem
      · exact ⟨hnumber.le, htime ▸ hns⟩
      · exact ⟨(h.past ev' hmem).1.trans (Nat.le_succ _), (h.past ev' hmem).2.trans hnow⟩

/-- What is not before the last event is before none. -/
theorem le_of_head (h : Sorted now tl) (hlast : ∀ ev ∈ tl.events.head?, ev.monotonicTimeNs ≤ ns) :
    ∀ ev ∈ tl.events, ev.monotonicTimeNs ≤ ns := by
  have hsorted := h.events
  intro ev hmem
  cases hevents : tl.events with
  | nil =>
    rw [hevents] at hmem
    cases hmem
  | cons last earlier =>
    rw [hevents] at hmem hlast hsorted
    have hle : last.monotonicTimeNs ≤ ns := hlast last rfl
    rcases List.mem_cons.1 hmem with rfl | hmem
    · exact hle
    · exact ((List.pairwise_cons.1 hsorted).1 ev hmem).2.trans hle

end AuthorityTimeline.Sorted

namespace Takeover

open AuthorityTimeline (Stamped Sorted)

variable {L G : Type} {gw : CommandGateway L G} {text : AuthorityReason → String}
  {before es : List AuthorityEvent} {startedNs now now' ns : ℤ} {t t' : Takeover} {e : Env}
  {w w' : World G} {tr : List (Witnessed L G)}

/-- The record of a held fault has the time of the last event. -/
def FaultTimed (t : Takeover) : Prop :=
  t.state = .faultHold → t.faultTimeNs = t.timeline.events.head?.map AuthorityEvent.monotonicTimeNs

/-- The Episode runs, and its events are sorted. -/
structure Chronicled (before : List AuthorityEvent) (startedNs now : ℤ) (t : Takeover) : Prop where
  /-- The Episode runs. -/
  running : ∃ es, Running before startedNs now es t
  /-- The events are sorted. -/
  sorted : Sorted now t.timeline
  /-- The time of a fault is recorded. -/
  faultTimed : FaultTimed t

/-- The Episode has been broken off: the state may have changed without the event that goes with
it, if the time of a trigger was rejected. -/
structure Halted (before : List AuthorityEvent) (startedNs now : ℤ) (t : Takeover) : Prop where
  /-- The Episode runs, but for the state. -/
  running : ∃ es s₀, Running before startedNs now es (t.entered s₀) ∧
    (s₀ = .faultHold ↔ t.state = .faultHold)
  /-- The events are sorted. -/
  sorted : Sorted now t.timeline
  /-- The controller has not been stopped. -/
  active : t.state ≠ .idle

/-- The Episode ends at the time `ns`. -/
structure EndsAt (before : List AuthorityEvent) (startedNs ns now : ℤ) (t : Takeover) : Prop
    extends Halted before startedNs now t where
  /-- The time is not in the future. -/
  le_now : ns ≤ now
  /-- It is not before the last event, if it is not before the Episode. -/
  last : startedNs ≤ ns → ∀ ev ∈ t.timeline.events, ev.monotonicTimeNs ≤ ns

/-- The Episode was stopped at the time `ns`, before which all its events were emitted. -/
structure StoppedAt (before : List AuthorityEvent) (startedNs ns now : ℤ) (t : Takeover) : Prop where
  /-- The Episode is over. -/
  finished : ∃ es, Over before startedNs (some ns) now es t
  /-- It was not stopped before it started. -/
  started : startedNs ≤ ns
  /-- It was not stopped before its last event. -/
  last : ∀ ev ∈ t.timeline.events, ev.monotonicTimeNs ≤ ns

/-- An event of the trigger is not ignored: the owner changes, or the Episode ends. -/
def heeds (t : Takeover) : DaggerTriggerEvent → Bool
  | .ownershipToggle => t.state = .modelControl ∨ t.state = .humanActive
  | .recordToggle | .abort => t.state ≠ .idle ∧ t.state ≠ .faultHold

/-- A trigger that is handled after the poll of the runtime is not before the last event, if it is
not before the Episode. -/
def Timely (gw : CommandGateway L G) (signal : Option DaggerTriggerSignal) (w : World G)
    (tr : List (Witnessed L G)) : Prop :=
  ∀ s ∈ signal, ∀ tr₁ tr₂ r w₁, tr = tr₁ ++ tr₂ → (pollRuntime gw).among.Run w tr₁ (.ok r) w₁ →
    w₁.takeover.heeds s.event = true →
    (∀ startedNs ∈ w₁.takeover.timeline.episodeStartedNs, startedNs ≤ s.monotonicTimeNs) →
    ∀ ev ∈ w₁.takeover.timeline.events.head?, ev.monotonicTimeNs ≤ s.monotonicTimeNs

/-! ### The sections -/

theorem activated_stamped {reason : AuthorityReason} (h : Running before startedNs now es t)
    (hstate : t.state = .resumePending) :
    (activated reason).Post e t fun _ t' =>
      Stamped e.clockNs t.timeline t'.timeline ∧ t'.state ≠ .faultHold := by
  have hactive : t.timeline.active = none := by
    rcases h.last_resumePending hstate with hlast | hlast <;>
      exact h.inactive (by rw [hlast]; simp) (by rw [hlast]; simp)
  rw [activated, Locked.post_bind, Locked.post_get]
  dsimp only
  rw [Locked.post_bind]
  refine post_timeline (Locked.post_mono (AuthorityTimeline.policyActive_emitted h.started hactive)
    fun r tl hem => ?_)
  have hfree : TakeoverState.modelControl ≠ .faultHold := by decide
  cases r with
  | error err => exact ⟨hem.stamped, by rw [timed_state, hstate]; decide⟩
  | ok u => exact ⟨hem.stamped, hfree⟩

theorem handedOver_stamped (h : Running before startedNs now es t)
    (hstate : t.state = .handoverPending) :
    handedOver.Post e t fun _ t' =>
      Stamped e.clockNs t.timeline t'.timeline ∧ t'.state ≠ .faultHold := by
  have hlast := h.last_handoverPending hstate
  have hactive : t.timeline.active = none := h.inactive (by rw [hlast]; simp) (by rw [hlast]; simp)
  rw [handedOver, Locked.post_bind, Locked.post_get]
  dsimp only
  rw [Locked.post_bind]
  refine post_timeline (Locked.post_mono
    (AuthorityTimeline.humanActive_emitted h.started hactive h.intervention) fun r tl hem => ?_)
  have hfree : TakeoverState.humanActive ≠ .faultHold := by decide
  cases r with
  | error err => exact ⟨hem.stamped, by rw [timed_state, hstate]; decide⟩
  | ok u => exact ⟨hem.stamped, hfree⟩

theorem faulted_stamped {recovery : Option PyError} {reason : AuthorityReason} {s₀ : TakeoverState}
    (h : Running before startedNs now es (t.entered s₀)) (hstate : t.state ≠ .faultHold) :
    (faulted recovery reason).Post e t fun _ t' =>
      Stamped e.clockNs t.timeline t'.timeline ∧ FaultTimed t' := by
  simp only [faulted, Locked.post_bind, Locked.post_modify, Locked.post_get]
  refine post_timeline (Locked.post_mono
    (AuthorityTimeline.faultHold_emitted h.started h.active_sound)
    fun r tl hem => ?_)
  have hst : Stamped e.clockNs t.timeline tl := hem.stamped
  rcases hem with ⟨err, rfl, rfl, -⟩ | ⟨rfl, -, ev, -, htime, hem⟩
  · exact ⟨hst, fun hfault => absurd hfault hstate⟩
  · refine ⟨hst, fun _ => ?_⟩
    show some e.clockNs = tl.events.head?.map AuthorityEvent.monotonicTimeNs
    rw [hem.events, ← htime]
    rfl

theorem takenOver_stamped (h : Running before startedNs now es t) :
    (takenOver ns).Post e t fun _ t' =>
      Stamped ns t.timeline t'.timeline ∧ t'.state ≠ .faultHold := by
  simp only [takenOver, Locked.post_bind, Locked.post_modify, Locked.post_get]
  refine post_timeline (Locked.post_mono
    (AuthorityTimeline.takeoverRequested_emitted h.started h.active_sound)
    fun r tl hem => ?_)
  have hfree : TakeoverState.handoverPending ≠ .faultHold := by decide
  cases r with
  | error err => exact ⟨hem.stamped, hfree⟩
  | ok u => exact ⟨hem.stamped, hfree⟩

theorem resumed_stamped (h : Running before startedNs now es t) :
    (resumed ns).Post e t fun _ t' =>
      Stamped ns t.timeline t'.timeline ∧ t'.state ≠ .faultHold := by
  simp only [resumed, Locked.post_bind, Locked.post_modify, Locked.post_get]
  refine post_timeline (Locked.post_mono
    (AuthorityTimeline.resumeRequested_emitted h.started h.active_sound)
    fun r tl hem => ?_)
  have hfree : TakeoverState.resumePending ≠ .faultHold := by decide
  cases r with
  | error err => exact ⟨hem.stamped, hfree⟩
  | ok u => exact ⟨hem.stamped, hfree⟩

/-! ### The Episode runs -/

theorem Chronicled.mono (h : Chronicled before startedNs now t) (hnow : now ≤ now') :
    Chronicled before startedNs now' t where
  running := by
    obtain ⟨es, hrun⟩ := h.running
    exact ⟨es, hrun.congr hnow rfl rfl rfl⟩
  sorted := h.sorted.mono hnow
  faultTimed := h.faultTimed

theorem Chronicled.halted (h : Chronicled before startedNs now t) : Halted before startedNs now t where
  running := by
    obtain ⟨es, hrun⟩ := h.running
    exact ⟨es, t.state, hrun, Iff.rfl⟩
  sorted := h.sorted
  active := by
    obtain ⟨es, hrun⟩ := h.running
    exact state_ne_idle hrun

/-- A section of a running Episode emits at most one event, which is not before the last one. -/
theorem Chronicled.stamped (h : Chronicled before startedNs now t)
    (hwithin : Within before startedNs none now' t') (hst : Stamped ns t.timeline t'.timeline)
    (hlast : ∀ ev ∈ t.timeline.events, ev.monotonicTimeNs ≤ ns) (hns : ns ≤ now') (hnow : now ≤ now')
    (hfault : FaultTimed t') : Chronicled before startedNs now' t' where
  running := by
    rcases hwithin with hrun | ⟨es, hover⟩
    · exact hrun
    · obtain ⟨es', hrun⟩ := h.running
      have hstarted := hst.1
      rw [hover.finished, hrun.started] at hstarted
      cases hstarted
  sorted := h.sorted.stamped hst hlast hns hnow
  faultTimed := hfault

/-- What is stamped with the clock is not before the last event. -/
theorem Chronicled.clocked {l : WorldSection L} {f : World G → World G}
    (h : Chronicled before startedNs now t) (hs : clocked now (l, e, f) now')
    (hwithin : Within before startedNs none e.clockNs t')
    (hst : Stamped e.clockNs t.timeline t'.timeline) (hfault : FaultTimed t') :
    Chronicled before startedNs now' t' := by
  rw [hs.2.2]
  exact h.stamped hwithin hst (fun ev hev => (h.sorted.past ev hev).2.trans hs.2.1) le_rfl hs.2.1 hfault

theorem faultTimed_of_ne (h : t.state ≠ .faultHold) : FaultTimed t := fun hfault => absurd hfault h

theorem kept_chronicled : Kept (clocked : ℤ → Witnessed L G → ℤ → Prop)
    (Chronicled before startedNs) where
  mono := fun hnow h => h.mono hnow
  advanced := fun h => by
    obtain ⟨es, hrun⟩ := h.running
    exact ⟨⟨es, hrun.congr le_rfl rfl rfl rfl⟩, h.sorted, h.faultTimed⟩
  activated := fun {_ _ e _ _ t reason} hs h hstate => by
    obtain ⟨es, hrun⟩ := h.running
    have hpost : (activated reason).Post e t fun _ t' => Within before startedNs none e.clockNs t' ∧
        Stamped e.clockNs t.timeline t'.timeline ∧ t'.state ≠ .faultHold :=
      ⟨activated_running hrun hs.2.1 hstate, activated_stamped hrun hstate⟩
    exact Locked.post_mono hpost fun _ _ h' => h.clocked hs h'.1 h'.2.1 (faultTimed_of_ne h'.2.2)
  faulted := fun {_ _ e _ _ t recovery reason} hs h hstate => by
    obtain ⟨es, hrun⟩ := h.running
    have hpost : (faulted recovery reason).Post e t fun _ t' =>
        Within before startedNs none e.clockNs t' ∧ Stamped e.clockNs t.timeline t'.timeline ∧
          FaultTimed t' :=
      ⟨faulted_running hrun hs.2.1 hstate, faulted_stamped hrun hstate⟩
    exact Locked.post_mono hpost fun _ _ h' => h.clocked hs h'.1 h'.2.1 h'.2.2
  handedOver := fun {_ _ e _ _ t} hs h hstate => by
    obtain ⟨es, hrun⟩ := h.running
    have hpost : handedOver.Post e t fun _ t' => Within before startedNs none e.clockNs t' ∧
        Stamped e.clockNs t.timeline t'.timeline ∧ t'.state ≠ .faultHold :=
      ⟨handedOver_running hrun hs.2.1 hstate, handedOver_stamped hrun hstate⟩
    exact Locked.post_mono hpost fun _ _ h' => h.clocked hs h'.1 h'.2.1 (faultTimed_of_ne h'.2.2)

/-! ### Triggers -/

theorem takenOver_rejected (h : Running before startedNs now es t) (hlt : ns < startedNs) :
    (takenOver ns).Post e t fun r t' =>
      (∃ err, r = .error err) ∧ t' = t.entered .handoverPending := by
  simp only [takenOver, Locked.post_bind, Locked.post_modify, Locked.post_get]
  refine post_timeline (Locked.post_mono
    (AuthorityTimeline.takeoverRequested_emitted h.started h.active_sound) fun r tl hem => ?_)
  rcases hem with ⟨err, rfl, rfl, -⟩ | ⟨-, hle, -⟩
  · exact ⟨⟨err, rfl⟩, rfl⟩
  · exact absurd hle (not_le.2 hlt)

theorem resumed_rejected (h : Running before startedNs now es t) (hlt : ns < startedNs) :
    (resumed ns).Post e t fun r t' =>
      (∃ err, r = .error err) ∧ t' = t.entered .resumePending := by
  simp only [resumed, Locked.post_bind, Locked.post_modify, Locked.post_get]
  refine post_timeline (Locked.post_mono
    (AuthorityTimeline.resumeRequested_emitted h.started h.active_sound) fun r tl hem => ?_)
  rcases hem with ⟨err, rfl, rfl, -⟩ | ⟨-, hle, -⟩
  · exact ⟨⟨err, rfl⟩, rfl⟩
  · exact absurd hle (not_le.2 hlt)

/-- The time of a trigger was rejected: only the state has changed. -/
theorem Chronicled.rejected {state : TakeoverState} (h : Chronicled before startedNs now t)
    (hnow : now ≤ now') (hheld : t.state ≠ .faultHold) (hstate : state ≠ .faultHold)
    (hidle : state ≠ .idle) : Halted before startedNs now' (t.entered state) where
  running := by
    obtain ⟨es, hrun⟩ := h.running
    exact ⟨es, t.state, hrun.congr hnow rfl rfl rfl, fun heq => absurd heq hheld,
      fun heq => absurd heq hstate⟩
  sorted := h.sorted.mono hnow
  active := hidle

/-- A toggle is handled that is not before the last event, or is rejected. -/
theorem toggle_chronicled (h : Chronicled before startedNs now w.takeover) (hns : ns ≤ now)
    (hlast : w.takeover.state = .modelControl ∨ w.takeover.state = .humanActive →
      startedNs ≤ ns → ∀ ev ∈ w.takeover.timeline.events, ev.monotonicTimeNs ≤ ns) :
    (toggleOwnership gw ns).among.Under clocked w now fun r w' now' =>
      Chronicled before startedNs now' w'.takeover ∨
        (∃ f, r = .error f) ∧ Halted before startedNs now' w'.takeover := by
  obtain ⟨es, hrun⟩ := h.running
  refine under_toggled apart_clocked kept_chronicled h (fun hstate k₁ hk₁ l e f now' hs => ?_)
    fun hstate k₁ hk₁ l e f now' hs => ?_
  · have hnow : now ≤ now' := hk₁.trans (apart_clocked.le hs)
    rcases le_or_gt startedNs ns with hle | hlt
    · have hpost : (takenOver ns).Post e w.takeover fun _ t' =>
          Within before startedNs none now' t' ∧ Stamped ns w.takeover.timeline t'.timeline ∧
            t'.state ≠ .faultHold :=
        ⟨takenOver_running hrun hnow hle hns hstate, takenOver_stamped hrun⟩
      refine Locked.post_mono hpost fun r t' h' => ?_
      have hkept := h.stamped h'.1 h'.2.1 (hlast (.inl hstate) hle) (hns.trans hnow) hnow
        (faultTimed_of_ne h'.2.2)
      cases r with
      | ok u => exact hkept
      | error err => exact hkept.halted
    · refine Locked.post_mono (takenOver_rejected hrun hlt) fun r t' h' => ?_
      obtain ⟨⟨err, rfl⟩, rfl⟩ := h'
      exact h.rejected hnow (by rw [hstate]; decide) (by decide) (by decide)
  · have hnow : now ≤ now' := hk₁.trans (apart_clocked.le hs)
    rcases le_or_gt startedNs ns with hle | hlt
    · have hpost : (resumed ns).Post e w.takeover fun _ t' =>
          Within before startedNs none now' t' ∧ Stamped ns w.takeover.timeline t'.timeline ∧
            t'.state ≠ .faultHold :=
        ⟨resumed_running hrun hnow hle hns hstate, resumed_stamped hrun⟩
      refine Locked.post_mono hpost fun r t' h' => ?_
      have hkept := h.stamped h'.1 h'.2.1 (hlast (.inr hstate) hle) (hns.trans hnow) hnow
        (faultTimed_of_ne h'.2.2)
      cases r with
      | ok u => exact hkept
      | error err => exact hkept.halted
    · refine Locked.post_mono (resumed_rejected hrun hlt) fun r t' h' => ?_
      obtain ⟨⟨err, rfl⟩, rfl⟩ := h'
      exact h.rejected hnow (by rw [hstate]; decide) (by decide) (by decide)

/-- What `wait` leads to. -/
def Waited (before : List AuthorityEvent) (startedNs now : ℤ)
    (r : Except Failure (Option TriggerSignal)) (t : Takeover) : Prop :=
  match r with
  | .ok none => Chronicled before startedNs now t
  | .ok (some s) => s.event ≠ .conflict ∧ EndsAt before startedNs s.monotonicTimeNs now t
  | .error _ => Halted before startedNs now t

/-- A held fault ends the Episode at its own time. -/
theorem Chronicled.endsAt (h : Chronicled before startedNs now t) (hheld : t.state = .faultHold)
    (htime : t.faultTimeNs = some ns) : EndsAt before startedNs ns now t := by
  have htimes : some ns = t.timeline.events.head?.map AuthorityEvent.monotonicTimeNs :=
    htime.symm.trans (h.faultTimed hheld)
  obtain ⟨last, hhead, heq⟩ := Option.map_eq_some_iff.1 htimes.symm
  refine ⟨h.halted, heq ▸ (h.sorted.past last (List.mem_of_mem_head? hhead)).2, fun _ => ?_⟩
  refine h.sorted.le_of_head fun ev hev => ?_
  rw [Option.mem_def.1 hev] at htimes
  exact (Option.some.inj htimes).ge

/-- `episode_fault_signal` as the end of `wait`. -/
theorem faultSignal_waited (h : Chronicled before startedNs now w.takeover) :
    (perform .own (episodeFaultSignal text) : Program L G _).among.Under clocked w now
      fun r w' now' => Waited before startedNs now' r w'.takeover := by
  refine under_perform apart_clocked fun e f now' hs => ?_
  have h' : Chronicled before startedNs now' w.takeover := h.mono (apart_clocked.le hs)
  refine post_episodeFaultSignal (fun _ _ => h') (fun s hs hheld htime _ => ?_) fun _ _ => h'.halted
  exact ⟨by rw [hs]; decide, h'.endsAt hheld htime⟩

/-- A signal of the trigger as the end of `wait`. -/
theorem signalled_waited {event : TriggerEvent} (h : Chronicled before startedNs now w.takeover)
    (hevent : event ≠ .conflict) (hns : ns ≤ now)
    (hlast : startedNs ≤ ns → ∀ ev ∈ w.takeover.timeline.events, ev.monotonicTimeNs ≤ ns) :
    (perform .own (signalled event ns none) : Program L G _).among.Under clocked w now
      fun r w' now' => Waited before startedNs now' r w'.takeover := by
  refine under_perform apart_clocked fun e f now' hs => ?_
  have hle : now ≤ now' := apart_clocked.le hs
  unfold signalled
  split
  · rename_i signal hmake
    intro g
    have htime : signal.monotonicTimeNs = ns := TriggerSignal.time_of_make hmake
    refine ⟨by rw [TriggerSignal.event_of_make hmake]; exact hevent, (h.mono hle).halted, ?_, ?_⟩
    · rw [htime]
      exact hns.trans hle
    · rw [htime]
      exact hlast
  · exact fun _ => (h.mono hle).halted

theorem wait_waited {signal : Option DaggerTriggerSignal} {r : Except Failure (Option TriggerSignal)}
    (h : Chronicled before startedNs now w.takeover)
    (hsignal : ∀ s ∈ signal, s.monotonicTimeNs ≤ now)
    (hrun : (wait gw text signal).among.Run w tr r w') (hserved : Served clocked now tr now')
    (htimely : Timely gw signal w tr) : Waited before startedNs now' r w'.takeover := by
  have hs : Apart (clocked : ℤ → Witnessed L G → ℤ → Prop) := apart_clocked
  unfold wait at hrun
  rw [Prog.among_bind, Prog.bind_eq] at hrun
  obtain ⟨tr₁, tr₂, r₁, w₁, hpoll, hrun, rfl⟩ := Prog.run_andThen.1 hrun
  obtain ⟨now₁, hs₁, hs₂⟩ := served_append.1 hserved
  have h₁ : Chronicled before startedNs now₁ w₁.takeover :=
    under_pollRuntime hs kept_chronicled h _ _ _ _ hpoll hs₁
  have hle₁ : now ≤ now₁ := Served.invariant (J := fun k => now ≤ k)
    (fun _ _ _ hk hx => hk.trans (hs.le hx)) hs₁ le_rfl
  obtain ⟨es, hrunning⟩ := h₁.running
  cases r₁ with
  | error f =>
    obtain ⟨rfl, rfl, rfl⟩ := Prog.run_ret.1 hrun
    cases hs₂
    exact h₁.halted
  | ok state =>
    -- a trigger that is heeded is not before what the poll has emitted
    have hlast : ∀ s ∈ signal, w₁.takeover.heeds s.event = true → startedNs ≤ s.monotonicTimeNs →
        ∀ ev ∈ w₁.takeover.timeline.events, ev.monotonicTimeNs ≤ s.monotonicTimeNs := by
      intro s hsome hheeds hle
      refine h₁.sorted.le_of_head (htimely s hsome tr₁ tr₂ state w₁ rfl hpoll hheeds ?_)
      intro startedNs' hstarted
      rw [Option.mem_def, hrunning.started] at hstarted
      exact Option.some.inj hstarted ▸ hle
    refine (?_ : Prog.Under clocked _ w₁ now₁ fun r w' now' =>
      Waited before startedNs now' r w'.takeover) tr₂ r w' now' hrun hs₂
    dsimp only
    rw [Prog.among_bind]
    refine Prog.under_bind (under_perform hs fun e₂ f₂ now₂ hserve₂ => ?_)
    have hle₂ : now₁ ≤ now₂ := hs.le hserve₂
    have h₂ : Chronicled before startedNs now₂ w₁.takeover := h₁.mono hle₂
    refine post_episodeFaultSignal (fun hfree g₂ => ?_) (fun s hs' hheld htime g₂ => ?_)
      fun err g₂ => ?_
    · dsimp only [markEpoch_ok]
      rw [if_neg (by simp)]
      cases signal with
      | none => exact Prog.under_pure h₂
      | some signal =>
        have hns : signal.monotonicTimeNs ≤ now₂ := (hsignal signal rfl).trans (hle₁.trans hle₂)
        have hlast := hlast signal rfl
        have hidle : w₁.takeover.state ≠ .idle := state_ne_idle hrunning
        dsimp only
        cases hevent : signal.event with
        | recordToggle =>
          rw [hevent] at hlast
          exact signalled_waited (w := ⟨_, g₂⟩) h₂ (by decide) hns
            (hlast (decide_eq_true ⟨hidle, hfree⟩))
        | abort =>
          rw [hevent] at hlast
          exact signalled_waited (w := ⟨_, g₂⟩) h₂ (by decide) hns
            (hlast (decide_eq_true ⟨hidle, hfree⟩))
        | ownershipToggle =>
          rw [hevent] at hlast
          refine under_attributes hs fun g₃ now₃ hle₃ => ?_
          have h₃ : Chronicled before startedNs now₃ w₁.takeover := h₂.mono hle₃
          dsimp only
          rw [if_neg hidle, Prog.among_bind]
          refine Prog.under_bind ((toggle_chronicled (w := ⟨_, g₃⟩) h₃ (hns.trans hle₃)
            fun hstate => hlast (decide_eq_true hstate)).mono fun r w₄ now₄ h₄ => ?_)
          cases r with
          | error f => exact h₄.elim Chronicled.halted fun h₄ => h₄.2
          | ok u =>
            refine faultSignal_waited (h₄.elim id fun h₄ => ?_)
            obtain ⟨⟨f, hf⟩, -⟩ := h₄
            cases hf
    · exact Prog.under_pure ⟨by rw [hs']; decide, h₂.endsAt hheld htime⟩
    · exact h₂.halted

/-! ### The hooks -/

theorem begun_events {started : RecordingStarted} :
    (begun started).Post e t fun r t' => t'.timeline.events = t.timeline.events ∧
      t'.timeline.sequence = t.timeline.sequence ∧ ∀ a, r = .ok a → t'.state = .resumePending := by
  simp only [begun, Locked.post_bind, Locked.post_get, Locked.post_ite, Locked.post_modify]
  refine ⟨fun _ => ⟨rfl, rfl, by rintro _ ⟨⟩⟩, fun _ => post_timeline ?_⟩
  simp only [AuthorityTimeline.startEpisode, Locked.post_bind, Locked.post_get, Locked.post_ite,
    Locked.post_modify]
  exact ⟨fun _ => ⟨rfl, rfl, by rintro _ ⟨⟩⟩, fun _ => ⟨rfl, rfl, fun _ _ => rfl⟩⟩

/-- The start hook that returns starts an Episode. -/
theorem start_chronicled {started : RecordingStarted} {s₀ : ℤ} {stoppedNs : Option ℤ}
    (h : Over before s₀ stoppedNs now es w.takeover) (hsorted : Sorted now w.takeover.timeline) :
    (startEpisode gw started).among.Under clocked w now fun r w' now' =>
      Sorted now' w'.takeover.timeline ∧ (r = .ok () →
        Chronicled w.takeover.timeline.events started.monotonicTimeNs now' w'.takeover) := by
  refine (under_startEpisode apart_clocked kept_chronicled
    (I := Chronicled w.takeover.timeline.events started.monotonicTimeNs)
    (E := fun now' t => Sorted now' t.timeline) fun l e f now' hs => ?_).mono fun r w' now' hr => ?_
  · have hpost : (begun started).Post e w.takeover fun r t' =>
        Running w.takeover.timeline.events started.monotonicTimeNs now' [] t' ∧
          t'.timeline.events = w.takeover.timeline.events ∧
          t'.timeline.sequence = w.takeover.timeline.sequence ∧
          ∀ a, r = .ok a → t'.state = .resumePending := ⟨begun_running h, begun_events⟩
    refine Locked.post_mono hpost fun r t' h' => ?_
    obtain ⟨hrun, hevents, hsequence, hstate⟩ := h'
    have hsorted' : Sorted now' t'.timeline :=
      (hsorted.mono (apart_clocked.le hs)).congr hevents hsequence
    cases r with
    | error err => exact hsorted'
    | ok u => exact ⟨⟨[], hrun⟩, hsorted', faultTimed_of_ne (by rw [hstate u rfl]; decide)⟩
  · rcases hr with hr | ⟨⟨f, rfl⟩, hr⟩
    · exact ⟨hr.sorted, fun _ => hr⟩
    · exact ⟨hr, by rintro ⟨⟩⟩

theorem Halted.mono (h : Halted before startedNs now t) (hnow : now ≤ now') :
    Halted before startedNs now' t where
  running := by
    obtain ⟨es, s₀, hrun, hheld⟩ := h.running
    exact ⟨es, s₀, hrun.congr hnow rfl rfl rfl, hheld⟩
  sorted := h.sorted.mono hnow
  active := h.active

theorem faulting_halted : Faulting (clocked : ℤ → Witnessed L G → ℤ → Prop)
    (fun now t => Halted before startedNs now t ∧ ns ≤ now) where
  mono := fun hnow h => ⟨h.1.mono hnow, h.2.trans hnow⟩
  advanced := fun h => by
    obtain ⟨es, s₀, hrun, hheld⟩ := h.1.running
    exact ⟨⟨⟨es, s₀, hrun.congr le_rfl rfl rfl rfl, hheld⟩, h.1.sorted, h.1.active⟩, h.2⟩
  faulted := fun {now _ e _ now' t recovery reason} hs h hstate => by
    obtain ⟨es, s₀, hrun, hheld⟩ := h.1.running
    have hs₀ : s₀ ≠ .faultHold := fun heq => hstate (hheld.1 heq)
    have hnow : now ≤ e.clockNs := hs.2.1
    have hrunning : (faulted recovery reason).Post e t fun _ t' =>
        (∃ es s₀, Running before startedNs e.clockNs es (t'.entered s₀) ∧
          (s₀ = .faultHold ↔ t'.state = .faultHold)) ∧ t'.state ≠ .idle := by
      simp only [faulted, Locked.post_bind, Locked.post_modify, Locked.post_get]
      refine post_timeline (Locked.post_mono
        (AuthorityTimeline.faultHold_emitted hrun.started hrun.active_sound) fun r tl hem => ?_)
      rcases hem with ⟨err, rfl, rfl, -⟩ | ⟨rfl, hle, ev, htype, htime, hem⟩
      · exact ⟨⟨es, s₀, hrun.congr hnow rfl rfl rfl, hheld⟩, h.1.active⟩
      · refine ⟨⟨ev :: es, .faultHold, ?_, by simp⟩, by simp⟩
        refine hrun.next htype (hrun.follows_faultHold hs₀) hem (htime ▸ hle) htime.le hnow
          (by simp) (by simp) rfl ?_
        show t.interventionId = tl.interventionCount
        rw [hem.count, htype]
        exact hrun.intervention
    have hpost : (faulted recovery reason).Post e t fun _ t' =>
        ((∃ es s₀, Running before startedNs e.clockNs es (t'.entered s₀) ∧
          (s₀ = .faultHold ↔ t'.state = .faultHold)) ∧ t'.state ≠ .idle) ∧
          Stamped e.clockNs t.timeline t'.timeline ∧ FaultTimed t' :=
      ⟨hrunning, faulted_stamped hrun hstate⟩
    refine Locked.post_mono hpost fun _ t' h' => ?_
    rw [hs.2.2]
    refine ⟨⟨h'.1.1, h.1.sorted.stamped h'.2.1 (fun ev hev => ?_) le_rfl hnow, h'.1.2⟩,
      h.2.trans hnow⟩
    exact (h.1.sorted.past ev hev).2.trans hnow

theorem finished_halted (h : Halted before startedNs now t) (hnow : now ≤ now') (hns : ns ≤ now) :
    (finished ns).Post e t fun r t' => Sorted now' t'.timeline ∧ ∀ a, r = .ok a →
      startedNs ≤ ns ∧ ∃ es, Over before startedNs (some ns) now' es t' := by
  obtain ⟨es, s₀, hrun, -⟩ := h.running
  have hsorted : Sorted now' t.timeline := h.sorted.mono hnow
  rw [finished, Locked.post_bind]
  refine post_timeline ?_
  rw [AuthorityTimeline.finishEpisode, Locked.post_bind]
  refine AuthorityTimeline.post_requireActive (fun _ _ => ?_) fun _ _ =>
    ⟨hsorted, by rintro _ ⟨⟩⟩
  refine AuthorityTimeline.post_closing hrun.started hrun.active_sound
    (fun _ _ => ⟨hsorted, by rintro _ ⟨⟩⟩) fun hle closed hclosed => ?_
  refine ⟨hsorted.congr rfl rfl, fun _ _ => ⟨hle, es, ?_⟩⟩
  exact over_of_closed hrun hnow (hns.trans hnow) hclosed rfl rfl

theorem served_alongside (h : Served clocked now tr now') : Served alongside () tr () := by
  induction h with
  | nil => exact .nil _
  | cons hx _ ih => exact .cons hx.1 ih

/-- The stop hook that returns has stopped the Episode at the time of its end, unless it has
recovered from a fault since. -/
theorem stop_stoppedAt {stopping : RecordingStopping} {r : Except Failure Unit}
    (h : EndsAt before startedNs stopping.monotonicTimeNs now w.takeover)
    (hrun : (stopEpisode gw stopping).among.Run w tr r w') (hserved : Served clocked now tr now')
    (htimely : Recovers gw w tr → now' ≤ stopping.monotonicTimeNs) :
    Sorted now' w'.takeover.timeline ∧ (r = .ok () →
      StoppedAt before startedNs stopping.monotonicTimeNs now' w'.takeover) := by
  obtain ⟨hsorted, hok⟩ := under_stopped
    (J := fun now' t => Sorted now' t.timeline)
    (O := fun now' t => startedNs ≤ stopping.monotonicTimeNs ∧
      ∃ es, Over before startedNs (some stopping.monotonicTimeNs) now' es t)
    apart_clocked faulting_halted (fun h => h.1.sorted)
    (fun _ _ _ _ _ _ hs h => finished_halted h.1 (apart_clocked.le hs) h.2)
    (fun hidle => absurd hidle h.active) ⟨h.toHalted, h.le_now⟩ tr r w' now' hrun hserved
  refine ⟨hsorted, fun hr => ?_⟩
  subst hr
  obtain ⟨hle, hover⟩ := hok rfl
  refine ⟨hover, hle, fun ev hev => ?_⟩
  by_cases hrecovers : Recovers gw w tr
  · exact (hsorted.past ev hev).2.trans (htimely hrecovers)
  · rw [stop_events hrun (served_alongside hserved) hrecovers] at hev
    exact h.last hle ev hev

end Takeover

end DualCollection
