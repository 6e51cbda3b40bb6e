import DualCollection.Authority.Law

/-!
# Sessions of a takeover controller

A Session is any sequence of operations of a controller, Episode after Episode, under a clock that
does not run backwards.  `Session` keeps beside the controller what the law of the timeline speaks
of: the events before the Episode, when it started, and when it was stopped.  The law holds in every
Session (`authority_timeline_law`).
-/

namespace DualCollection

open Thread

namespace Takeover

variable {L G : Type} {gw : CommandGateway L G} {before : List AuthorityEvent} {startedNs : ℤ}
  {stoppedNs : Option ℤ} {now now' ns : ℤ} {t : Takeover} {e : Env}

/-- The Episode is over, or none has started. -/
structure Over (before : List AuthorityEvent) (startedNs : ℤ) (stoppedNs : Option ℤ) (now : ℤ)
    (es : List AuthorityEvent) (t : Takeover) : Prop
    extends Recorded before startedNs stoppedNs now es t.timeline where
  /-- The timeline has been finished. -/
  finished : t.timeline.episodeStartedNs = none
  /-- The controller rests. -/
  idle : t.state = .idle

/-- The law of the timeline: the Episode runs or is over. -/
def Within (before : List AuthorityEvent) (startedNs : ℤ) (stoppedNs : Option ℤ) (now : ℤ)
    (t : Takeover) : Prop :=
  (∃ es, Running before startedNs now es t) ∨ ∃ es, Over before startedNs stoppedNs now es t

/-- The other threads work on the gateway only, and the clock does not run backwards. -/
def clocked : ℤ → Witnessed L G → ℤ → Prop := fun now x now' =>
  (∀ w, (x.2.2 w).takeover = w.takeover) ∧ now ≤ x.2.1.clockNs ∧ now' = x.2.1.clockNs

theorem apart_clocked : Apart (clocked : ℤ → Witnessed L G → ℤ → Prop) where
  takeover := fun h => h.1
  le := fun h => h.2.2 ▸ h.2.1

/-- All the sections are answered at the same time. -/
theorem clocked_served {tr : List (Witnessed L G)} (hne : tr ≠ [])
    (hle : now ≤ now') (h : ∀ x ∈ tr, x.2 = (({ clockNs := now' } : Env), id)) :
    Served clocked now tr now' := by
  induction tr generalizing now with
  | nil => exact absurd rfl hne
  | cons x tr ih =>
    have hx : clocked now x now' := by
      have heq := h x List.mem_cons_self
      unfold clocked
      rw [heq]
      exact ⟨fun _ => rfl, hle, rfl⟩
    cases tr with
    | nil => exact .cons hx (.nil _)
    | cons y tr =>
      exact .cons hx (ih (List.cons_ne_nil _ _) le_rfl fun z hz => h z (List.mem_cons_of_mem _ hz))

/-! ### The sections -/

section Sections

variable {es : List AuthorityEvent}

theorem activated_running {reason : AuthorityReason} (h : Running before startedNs now es t)
    (hnow : now ≤ e.clockNs) (hstate : t.state = .resumePending) :
    (activated reason).Post e t fun _ => Within before startedNs stoppedNs e.clockNs := by
  have hfollows : AuthorityEventType.policyActive.Follows (Running.last es) := by
    rcases h.last_resumePending hstate with hlast | hlast <;> rw [hlast] <;> trivial
  have hactive : t.timeline.active = none := by
    rcases h.last_resumePending hstate with hlast | hlast <;>
      exact h.inactive (by rw [hlast]; simp) (by rw [hlast]; simp)
  rw [activated, Locked.post_bind, Locked.post_get]
  dsimp only
  rw [Locked.post_bind]
  refine post_timeline (Locked.post_mono (AuthorityTimeline.policyActive_emitted h.started hactive)
    fun r tl hem => ?_)
  rcases hem with ⟨err, rfl, rfl, -⟩ | ⟨rfl, hle, ev, htype, htime, hem⟩
  · exact .inl ⟨es, h.congr hnow rfl rfl rfl⟩
  · refine .inl ⟨ev :: es, h.next htype hfollows hem (htime ▸ hle) htime.le hnow ?_ (by simp) rfl ?_⟩
    · exact fun _ => ⟨htime ▸ hnow, hactive⟩
    · show t.interventionId = tl.interventionCount
      rw [hem.count, htype, h.intervention]
      rfl

theorem handedOver_running (h : Running before startedNs now es t) (hnow : now ≤ e.clockNs)
    (hstate : t.state = .handoverPending) :
    handedOver.Post e t fun _ => Within before startedNs stoppedNs e.clockNs := by
  have hlast := h.last_handoverPending hstate
  have hactive : t.timeline.active = none := h.inactive (by rw [hlast]; simp) (by rw [hlast]; simp)
  have hpos : 0 < t.timeline.interventionCount := by
    rw [h.count]
    cases es with
    | nil => cases hlast
    | cons ev es => exact List.count_pos_iff.2 (List.mem_cons.2 (.inl (Option.some.inj hlast).symm))
  rw [handedOver, Locked.post_bind, Locked.post_get]
  dsimp only
  rw [Locked.post_bind]
  refine post_timeline (Locked.post_mono
    (AuthorityTimeline.humanActive_emitted h.started hactive h.intervention) fun r tl hem => ?_)
  rcases hem with ⟨err, rfl, rfl, -⟩ | ⟨rfl, hle, ev, htype, htime, hem⟩
  · exact .inl ⟨es, h.congr hnow rfl rfl rfl⟩
  · have hcount : tl.interventionCount = t.timeline.interventionCount := by
      rw [hem.count, htype]
      rfl
    refine .inl ⟨ev :: es, h.next htype (by rw [hlast]; trivial) hem (htime ▸ hle) htime.le hnow ?_
      (fun _ => hcount ▸ hpos) rfl (h.intervention.trans hcount.symm)⟩
    exact fun _ => ⟨htime ▸ hnow, hactive⟩

theorem faulted_running {recovery : Option PyError} {reason : AuthorityReason}
    (h : Running before startedNs now es t) (hnow : now ≤ e.clockNs) (hstate : t.state ≠ .faultHold) :
    (faulted recovery reason).Post e t fun _ => Within before startedNs stoppedNs e.clockNs := by
  simp only [faulted, Locked.post_bind, Locked.post_modify, Locked.post_get]
  refine post_timeline (Locked.post_mono
    (AuthorityTimeline.faultHold_emitted h.started h.active_sound) fun r tl hem => ?_)
  rcases hem with ⟨err, rfl, rfl, -⟩ | ⟨rfl, hle, ev, htype, htime, hem⟩
  · exact .inl ⟨es, h.congr hnow rfl rfl rfl⟩
  · refine .inl ⟨ev :: es, h.next htype (h.follows_faultHold hstate) hem (htime ▸ hle) htime.le hnow
      (by simp) (by simp) rfl ?_⟩
    show t.interventionId = tl.interventionCount
    rw [hem.count, htype, h.intervention]
    rfl

theorem takenOver_running (h : Running before startedNs now es t) (hnow : now ≤ now')
    (hstarted : startedNs ≤ ns) (hns : ns ≤ now) (hstate : t.state = .modelControl) :
    (takenOver ns).Post e t fun _ => Within before startedNs stoppedNs now' := by
  have hlast := h.last_modelControl hstate
  simp only [takenOver, Locked.post_bind, Locked.post_modify, Locked.post_get]
  refine post_timeline (Locked.post_mono
    (AuthorityTimeline.takeoverRequested_emitted h.started h.active_sound) fun r tl hem => ?_)
  rcases hem with ⟨err, rfl, rfl, hlt⟩ | ⟨rfl, hle, ev, htype, htime, hem⟩
  · exact absurd hstarted (not_le.2 hlt)
  · exact .inl ⟨ev :: es, h.next htype (by rw [hlast]; trivial) hem (htime ▸ hle)
      (htime.le.trans (hns.trans hnow)) hnow (by simp) (by simp) rfl rfl⟩

theorem resumed_running (h : Running before startedNs now es t) (hnow : now ≤ now')
    (hstarted : startedNs ≤ ns) (hns : ns ≤ now) (hstate : t.state = .humanActive) :
    (resumed ns).Post e t fun _ => Within before startedNs stoppedNs now' := by
  have hlast := h.last_humanActive hstate
  simp only [resumed, Locked.post_bind, Locked.post_modify, Locked.post_get]
  refine post_timeline (Locked.post_mono
    (AuthorityTimeline.resumeRequested_emitted h.started h.active_sound) fun r tl hem => ?_)
  rcases hem with ⟨err, rfl, rfl, hlt⟩ | ⟨rfl, hle, ev, htype, htime, hem⟩
  · exact absurd hstarted (not_le.2 hlt)
  · refine .inl ⟨ev :: es, h.next htype (by rw [hlast]; trivial) hem (htime ▸ hle)
      (htime.le.trans (hns.trans hnow)) hnow (by simp) (by simp) rfl ?_⟩
    show t.interventionId = tl.interventionCount
    rw [hem.count, htype, h.intervention]
    rfl

/-- The controller rests: nothing is emitted, and nothing is raised on behalf of the timeline. -/
theorem Over.congr {t' : Takeover} (h : Over before startedNs stoppedNs now es t) (hnow : now ≤ now')
    (htimeline : t'.timeline = t.timeline) (hstate : t'.state = t.state) :
    Over before startedNs stoppedNs now' es t' where
  toRecorded := by
    rw [htimeline]
    exact h.toRecorded.mono hnow
  finished := by rw [htimeline]; exact h.finished
  idle := hstate.trans h.idle

theorem faulted_over {recovery : Option PyError} {reason : AuthorityReason}
    (h : Over before startedNs stoppedNs now es t) (hnow : now ≤ now') :
    (faulted recovery reason).Post e t fun _ => Over before startedNs stoppedNs now' es := by
  simp only [faulted, Locked.post_bind, Locked.post_modify, Locked.post_get]
  refine post_timeline ?_
  rw [AuthorityTimeline.faultHold, Locked.post_bind, Locked.post_ask]
  dsimp only
  rw [Locked.post_bind]
  refine AuthorityTimeline.post_offsetS (fun startedNs' hs _ => ?_) fun _ err => ?_
  · rw [unrecovered_timeline, h.finished] at hs
    cases hs
  · exact h.congr hnow rfl rfl

theorem Within.mono (h : Within before startedNs stoppedNs now t) (hnow : now ≤ now') :
    Within before startedNs stoppedNs now' t := by
  rcases h with ⟨es, h⟩ | ⟨es, h⟩
  · exact .inl ⟨es, h.congr hnow rfl rfl rfl⟩
  · exact .inr ⟨es, h.congr hnow rfl rfl⟩

/-- Outside the sections of the timeline, a resting controller stays as it is. -/
theorem Within.running (h : Within before startedNs stoppedNs now t) (hstate : t.state ≠ .idle) :
    ∃ es, Running before startedNs now es t := by
  rcases h with h | ⟨es, h⟩
  · exact h
  · exact absurd h.idle hstate

theorem kept_within : Kept (clocked : ℤ → Witnessed L G → ℤ → Prop)
    (Within before startedNs stoppedNs) where
  mono := fun hnow h => h.mono hnow
  advanced := fun h => by
    rcases h with ⟨es, h⟩ | ⟨es, h⟩
    · exact .inl ⟨es, h.congr le_rfl rfl rfl rfl⟩
    · exact .inr ⟨es, h.congr le_rfl rfl rfl⟩
  activated := fun hs h hstate => by
    obtain ⟨es, h⟩ := h.running (by rw [hstate]; decide)
    rw [hs.2.2]
    exact activated_running h hs.2.1 hstate
  faulted := fun hs h hstate => by
    rw [hs.2.2]
    rcases h with ⟨es, h⟩ | ⟨es, h⟩
    · exact faulted_running h hs.2.1 hstate
    · exact Locked.post_mono (faulted_over h hs.2.1) fun _ _ h => .inr ⟨es, h⟩
  handedOver := fun hs h hstate => by
    obtain ⟨es, h⟩ := h.running (by rw [hstate]; decide)
    rw [hs.2.2]
    exact handedOver_running h hs.2.1 hstate

/-- What holds of the time goes on to hold. -/
theorem Kept.since {I : ℤ → Takeover → Prop} (hI : Kept (clocked : ℤ → Witnessed L G → ℤ → Prop) I) :
    Kept (clocked : ℤ → Witnessed L G → ℤ → Prop) fun now t => I now t ∧ ns ≤ now where
  mono := fun hnow h => ⟨hI.mono hnow h.1, h.2.trans hnow⟩
  advanced := fun h => ⟨hI.advanced h.1, h.2⟩
  activated := fun hs h hstate =>
    ⟨hI.activated hs h.1 hstate, h.2.trans (apart_clocked.le hs)⟩
  faulted := fun hs h hstate => ⟨hI.faulted hs h.1 hstate, h.2.trans (apart_clocked.le hs)⟩
  handedOver := fun hs h hstate => ⟨hI.handedOver hs h.1 hstate, h.2.trans (apart_clocked.le hs)⟩

theorem handles_within (hstarted : startedNs ≤ ns) :
    Handles (clocked : ℤ → Witnessed L G → ℤ → Prop)
      (fun now t => Within before startedNs stoppedNs now t ∧ ns ≤ now) ns where
  toKept := kept_within.since
  takenOver := fun hs h hstate => by
    obtain ⟨es, hrun⟩ := h.1.running (by rw [hstate]; decide)
    have hle := apart_clocked.le hs
    exact ⟨takenOver_running hrun hle hstarted h.2 hstate, h.2.trans hle⟩
  resumed := fun hs h hstate => by
    obtain ⟨es, hrun⟩ := h.1.running (by rw [hstate]; decide)
    have hle := apart_clocked.le hs
    exact ⟨resumed_running hrun hle hstarted h.2 hstate, h.2.trans hle⟩

/-- The Episode is over once its last segment is closed. -/
theorem over_of_closed {t' : Takeover} (h : Running before startedNs now es t) (hnow : now ≤ now')
    (hns : ns ≤ now') {closed : List ControlSegment}
    (hclosed : closed.map ControlSegment.data =
      (t.timeline.active.map fun a => a.closedAt (offset startedNs ns)).toList)
    (htimeline : t'.timeline = { t.timeline with
      segments := t.timeline.segments ++ closed, active := none, episodeStartedNs := none })
    (hidle : t'.state = .idle) : Over before startedNs (some ns) now' es t' := by
  have hends := h.closed_ended hns hnow hclosed
  have hsegments : closedSegments startedNs es = t.timeline.segments.map ControlSegment.data := by
    rw [h.segments]
    exact (List.append_nil _).symm
  refine ⟨?_, by rw [htimeline], hidle⟩
  rw [htimeline]
  exact
    { h.toRecorded.mono hnow with
      segments := by
        rw [List.map_append, ← hsegments, hclosed, h.closed_eq]
      ordered := h.ordered_closed hclosed
      ended := fun segment hmem => by
        rcases List.mem_append.1 hmem with hmem | hmem
        · exact (h.ended segment hmem).trans (offset_mono hnow)
        · exact (hends segment hmem).1
      interventions := fun segment hmem id hid => by
        rcases List.mem_append.1 hmem with hmem | hmem
        · exact h.interventions segment hmem id hid
        · exact (hends segment hmem).2.1 id hid }

theorem finished_running (h : Running before startedNs now es t) (hnow : now ≤ now')
    (hstarted : startedNs ≤ ns) (hns : ns ≤ now) :
    (finished ns).Post e t fun _ => Within before startedNs (some ns) now' := by
  rw [finished, Locked.post_bind]
  refine post_timeline ?_
  rw [AuthorityTimeline.finishEpisode, Locked.post_bind]
  refine AuthorityTimeline.post_requireActive (fun _ _ => ?_) fun hnone => ?_
  · refine AuthorityTimeline.post_closing h.started h.active_sound
      (fun hlt => absurd hstarted (not_le.2 hlt)) fun hle closed hclosed => ?_
    exact .inr ⟨es, over_of_closed h hnow (hns.trans hnow) hclosed rfl rfl⟩
  · rw [h.started] at hnone
    cases hnone

theorem begun_running {started : RecordingStarted} (h : Over before startedNs stoppedNs now es t) :
    (begun started).Post e t fun _ => Running t.timeline.events started.monotonicTimeNs now' [] := by
  simp only [begun, Locked.post_bind, Locked.post_get, Locked.post_ite, Locked.post_modify]
  refine ⟨fun hstate => absurd h.idle hstate, fun _ => post_timeline ?_⟩
  simp only [AuthorityTimeline.startEpisode, Locked.post_bind, Locked.post_get, Locked.post_ite,
    Locked.post_modify]
  refine ⟨fun hactive => absurd h.finished hactive, fun _ => ?_⟩
  exact
    { sequence := h.sequence
      numbered := h.numbered
      events := rfl
      word := trivial
      segments := rfl
      ordered := trivial
      ended := by simp
      times := by simp
      count := rfl
      humans := by simp
      interventions := by simp
      started := rfl
      active := rfl
      before_active := by simp
      state := rfl
      intervention := rfl }

/-- An Episode does not begin while another one runs. -/
theorem begun_active {started : RecordingStarted} (h : t.state ≠ .idle) :
    (begun started).Post e t fun _ t' => t' = t := by
  simp only [begun, Locked.post_bind, Locked.post_get, Locked.post_ite, Locked.post_raise]
  exact ⟨fun _ => trivial, fun hidle => absurd hidle (not_not.2 h)⟩

end Sections

/-! ### The operations -/

theorem finishes_over {es : List AuthorityEvent} :
    Finishes (clocked : ℤ → Witnessed L G → ℤ → Prop)
      (fun now t => Over before startedNs stoppedNs now es t) ns := by
  intro now l e f now' t hs h
  have hle : now ≤ now' := apart_clocked.le hs
  rw [finished, Locked.post_bind]
  refine post_timeline ?_
  rw [AuthorityTimeline.finishEpisode, Locked.post_bind]
  refine AuthorityTimeline.post_requireActive (fun startedNs' hs' => ?_) fun _ err => ?_
  · rw [h.finished] at hs'
    cases hs'
  · exact h.congr hle rfl rfl

theorem finishes_within (hstarted : startedNs ≤ ns) :
    Finishes (clocked : ℤ → Witnessed L G → ℤ → Prop)
      (fun now t => Within before startedNs (some ns) now t ∧ ns ≤ now) ns := by
  intro now l e f now' t hs h
  have hle : now ≤ now' := apart_clocked.le hs
  refine Locked.post_mono (Q := fun _ t => Within before startedNs (some ns) now' t) ?_
    fun _ _ h' => ⟨h', h.2.trans hle⟩
  rcases h.1 with ⟨es, hrun⟩ | ⟨es, hover⟩
  · exact finished_running hrun hle hstarted h.2
  · exact Locked.post_mono (finishes_over _ l e f _ _ hs hover) fun _ _ h' => .inr ⟨es, h'⟩

/-- A controller that rests goes on to rest. -/
theorem kept_over {es : List AuthorityEvent} :
    Kept (clocked : ℤ → Witnessed L G → ℤ → Prop)
      (fun now t => Over before startedNs stoppedNs now es t) where
  mono := fun hnow h => h.congr hnow rfl rfl
  advanced := fun h => h.congr le_rfl rfl rfl
  activated := fun _ h hstate => by
    rw [h.idle] at hstate
    cases hstate
  faulted := fun hs h _ => faulted_over h (apart_clocked.le hs)
  handedOver := fun _ h hstate => by
    rw [h.idle] at hstate
    cases hstate

theorem handles_over {es : List AuthorityEvent} :
    Handles (clocked : ℤ → Witnessed L G → ℤ → Prop)
      (fun now t => Over before startedNs stoppedNs now es t) ns where
  toKept := kept_over
  takenOver := fun _ h hstate => by
    rw [h.idle] at hstate
    cases hstate
  resumed := fun _ h hstate => by
    rw [h.idle] at hstate
    cases hstate

/-- While an Episode runs, the controller does not rest. -/
theorem state_ne_idle {es : List AuthorityEvent} (h : Running before startedNs now es t) :
    t.state ≠ .idle := by
  rw [h.state]
  rcases es.head?.map AuthorityEvent.eventType with _ | (_ | _ | _ | _ | _) <;> simp [stateAfter]

/-- The public operations of a controller. -/
inductive Operation
  | startEpisode (started : RecordingStarted)
  | pollPolicy
  | pollRuntime
  | toggleOwnership (monotonicTimeNs : ℤ)
  | stopEpisode (stopping : RecordingStopping)

/-- The program of an operation. -/
def Operation.program (gw : CommandGateway L G) : Operation → Program L G Unit
  | .startEpisode started => Takeover.startEpisode gw started
  | .pollPolicy => do let _ ← Takeover.pollPolicy gw
  | .pollRuntime => do let _ ← Takeover.pollRuntime gw
  | .toggleOwnership monotonicTimeNs => Takeover.toggleOwnership gw monotonicTimeNs
  | .stopEpisode stopping => Takeover.stopEpisode gw stopping

/-- The time of the trigger that the operation handles, if there is one. -/
def Operation.trigger : Operation → Option ℤ
  | .toggleOwnership monotonicTimeNs => some monotonicTimeNs
  | .stopEpisode stopping => some stopping.monotonicTimeNs
  | _ => none

/-- A Session at the time `now`. -/
structure Session (G : Type) where
  /-- The controller and its gateway. -/
  world : World G
  /-- The time. -/
  now : ℤ
  /-- The events of earlier Episodes. -/
  before : List AuthorityEvent := []
  /-- When the last Episode started. -/
  startedNs : ℤ := 0
  /-- When it was stopped. -/
  stoppedNs : Option ℤ := none

/-- The notes beside the controller, once an operation has led it to `world`. -/
def Session.after (k : Session G) (o : Operation) (world : World G) (now : ℤ) : Session G :=
  match o with
  | .startEpisode started =>
    if k.world.takeover.state = .idle then
      ⟨world, now, k.world.takeover.timeline.events, started.monotonicTimeNs, none⟩
    else { k with world := world, now := now }
  | .stopEpisode stopping =>
    if k.world.takeover.state ≠ .idle ∧ world.takeover.state = .idle then
      { k with world := world, now := now, stoppedNs := some stopping.monotonicTimeNs }
    else { k with world := world, now := now }
  | _ => { k with world := world, now := now }

/-- A step of a Session: time passes while the other threads work on the gateway, or an operation
is called.  A trigger is not handled before its time, and is not older than the Episode. -/
inductive Session.Step (gw : CommandGateway L G) : Session G → Session G → Prop
  | pass {k : Session G} (g : G) {now : ℤ} (h : k.now ≤ now) :
    Session.Step gw k { k with world := ⟨k.world.takeover, g⟩, now := now }
  | operate {k : Session G} (o : Operation) {tr : List (Witnessed L G)} {r : Except Failure Unit}
    {world : World G} {now : ℤ} (hnow : ∀ ns ∈ o.trigger, ns ≤ k.now)
    (hstarted : ∀ ns ∈ o.trigger, ∀ s ∈ k.world.takeover.timeline.episodeStartedNs, s ≤ ns)
    (hrun : (o.program gw).among.Run k.world tr r world) (hserved : Served clocked k.now tr now) :
    Session.Step gw k (k.after o world now)

/-- The states of a Session that begins at the time `now`. -/
def Session.Reachable (gw : CommandGateway L G) (k : Session G) : Prop :=
  ∃ g now, Relation.ReflTransGen (Session.Step gw) { world := ⟨{}, g⟩, now := now } k

namespace Session

variable {k k' : Session G} {o : Operation}

/-- The law of a Session. -/
def Law (k : Session G) : Prop :=
  (k.stoppedNs = none ∧ ∃ es, Running k.before k.startedNs k.now es k.world.takeover) ∨
    ∃ es, Over k.before k.startedNs k.stoppedNs k.now es k.world.takeover

section Keep

variable {κ : Type} [Preorder κ] {serve : κ → Witnessed L G → κ → Prop} {I : κ → Takeover → Prop}
  {w : World G} {c : κ} (hs : Apart serve) (hI : Kept serve I)
include hs hI

/-- The invariant holds once the Episode has begun, or has not. -/
theorem under_started {started : RecordingStarted}
    (h : ∀ l e f c', serve c (l, e, f) c' → (begun started).Post e w.takeover fun _ => I c') :
    (Takeover.startEpisode gw started).among.Under serve w c (Keeps I) := by
  have hstarted : (Takeover.startEpisode gw started).among.Under serve w c fun r w' c' =>
      I c' w'.takeover ∨ (∃ f, r = .error f) ∧ I c' w'.takeover := by
    refine under_startEpisode hs hI fun l e f c' hc => ?_
    refine Locked.post_mono (h l e f c' hc) fun r t ht => ?_
    cases r <;> exact ht
  exact hstarted.mono fun r w' c' h' => h'.elim id fun h' => h'.2

/-- What the sections of an operation keep is kept. -/
theorem under_operate
    (hstart : ∀ started, o = .startEpisode started → ∀ l e f c', serve c (l, e, f) c' →
      (begun started).Post e w.takeover fun _ => I c')
    (htoggle : ∀ ns, o = .toggleOwnership ns → Handles serve I ns)
    (hstop : ∀ stopping, o = .stopEpisode stopping → Finishes serve I stopping.monotonicTimeNs)
    (h : I c w.takeover) : (o.program gw).among.Under serve w c (Keeps I) := by
  cases o with
  | startEpisode started => exact under_started hs hI (hstart started rfl)
  | pollPolicy =>
    show (Takeover.pollPolicy gw >>= fun _ => pure ()).among.Under serve w c (Keeps I)
    rw [Prog.among_bind]
    refine Prog.under_bind ((under_pollPolicy hs hI h).mono fun r w' c' h' => ?_)
    cases r with
    | error f => exact h'
    | ok state => exact Prog.under_pure h'
  | pollRuntime =>
    show (Takeover.pollRuntime gw >>= fun _ => pure ()).among.Under serve w c (Keeps I)
    rw [Prog.among_bind]
    refine Prog.under_bind ((under_pollRuntime hs hI h).mono fun r w' c' h' => ?_)
    cases r with
    | error f => exact h'
    | ok state => exact Prog.under_pure h'
  | toggleOwnership ns => exact under_toggleOwnership hs (htoggle ns rfl) h
  | stopEpisode stopping => exact under_stopEpisode hs hI (hstop stopping rfl) h

end Keep

/-- What the notes are after an operation that neither starts nor ends an Episode. -/
theorem after_same {world : World G} (hstart : ∀ started, o = .startEpisode started →
      k.world.takeover.state ≠ .idle)
    (hstop : ∀ stopping, o = .stopEpisode stopping →
      ¬ (k.world.takeover.state ≠ .idle ∧ world.takeover.state = .idle)) :
    k.after o world now = { k with world := world, now := now } := by
  cases o with
  | startEpisode started => exact if_neg (hstart started rfl)
  | stopEpisode stopping => exact if_neg (hstop stopping rfl)
  | _ => rfl

section Operate

variable {es : List AuthorityEvent} {tr : List (Witnessed L G)} {r : Except Failure Unit}
  {world : World G}

/-- An operation of a controller that rests. -/
theorem over_operate (h : Over k.before k.startedNs k.stoppedNs k.now es k.world.takeover)
    (hrun : (o.program gw).among.Run k.world tr r world) (hserved : Served clocked k.now tr now) :
    (k.after o world now).Law := by
  by_cases ho : ∃ started, o = .startEpisode started
  · obtain ⟨started, rfl⟩ := ho
    have hwithin : Within k.world.takeover.timeline.events started.monotonicTimeNs none now
        world.takeover := under_started apart_clocked kept_within
      (fun l e f now' _ => Locked.post_mono (begun_running h) fun _ _ h' => .inl ⟨[], h'⟩)
      tr r world now hrun hserved
    unfold after
    dsimp only
    rw [if_pos h.idle]
    exact hwithin.imp (fun h' => ⟨rfl, h'⟩) id
  · have hover : Over k.before k.startedNs k.stoppedNs now es world.takeover :=
      under_operate apart_clocked kept_over
        (fun started hstarted => absurd ⟨started, hstarted⟩ ho) (fun _ _ => handles_over)
        (fun _ _ => finishes_over) h tr r world now hrun hserved
    rw [after_same (fun started hstarted => absurd ⟨started, hstarted⟩ ho)
      fun _ _ hstop => hstop.1 h.idle]
    exact .inr ⟨es, hover⟩

/-- An operation while an Episode runs. -/
theorem running_operate (hnone : k.stoppedNs = none)
    (h : Running k.before k.startedNs k.now es k.world.takeover)
    (hnow : ∀ ns ∈ o.trigger, ns ≤ k.now)
    (hstarted : ∀ ns ∈ o.trigger, ∀ s ∈ k.world.takeover.timeline.episodeStartedNs, s ≤ ns)
    (hrun : (o.program gw).among.Run k.world tr r world) (hserved : Served clocked k.now tr now) :
    (k.after o world now).Law := by
  have hidle : k.world.takeover.state ≠ .idle := state_ne_idle h
  by_cases ho : ∃ stopping, o = .stopEpisode stopping
  · obtain ⟨stopping, rfl⟩ := ho
    have hle : k.startedNs ≤ stopping.monotonicTimeNs := hstarted _ rfl _ h.started
    have hwithin : Within k.before k.startedNs (some stopping.monotonicTimeNs) now world.takeover :=
      (under_operate apart_clocked kept_within.since (by simp) (by simp)
        (fun stopping' heq => by cases heq; exact finishes_within hle) ⟨.inl ⟨es, h⟩, hnow _ rfl⟩
        tr r world now hrun hserved).1
    rcases hwithin with ⟨es', h'⟩ | ⟨es', h'⟩
    · rw [after_same (by simp) fun _ _ hstop => state_ne_idle h' hstop.2]
      exact .inl ⟨hnone, es', h'⟩
    · unfold after
      dsimp only
      rw [if_pos ⟨hidle, h'.idle⟩]
      exact .inr ⟨es', h'⟩
  · have hwithin : Within k.before k.startedNs none now world.takeover := by
      by_cases htoggle : ∃ ns, o = .toggleOwnership ns
      · obtain ⟨ns, rfl⟩ := htoggle
        have hle : k.startedNs ≤ ns := hstarted ns rfl _ h.started
        exact (under_operate apart_clocked kept_within.since (by simp)
          (fun ns' heq => by cases heq; exact handles_within hle) (by simp)
          ⟨.inl ⟨es, h⟩, hnow ns rfl⟩ tr r world now hrun hserved).1
      · refine under_operate apart_clocked kept_within (fun started _ l e f now' hs => ?_)
          (fun ns heq => absurd ⟨ns, heq⟩ htoggle) (fun stopping heq => absurd ⟨stopping, heq⟩ ho)
          (.inl ⟨es, h⟩) tr r world now hrun hserved
        refine Locked.post_mono (begun_active hidle) fun _ t ht => .inl ⟨es, ?_⟩
        exact ht ▸ h.congr (apart_clocked.le hs) rfl rfl rfl
    rw [after_same (fun _ _ => hidle) fun stopping hstop => absurd ⟨stopping, hstop⟩ ho]
    exact hwithin.imp (fun h' => ⟨hnone, h'⟩) fun ⟨es', h'⟩ => ⟨es', hnone ▸ h'⟩

end Operate

theorem Step.law (hs : Step gw k k') (h : k.Law) : k'.Law := by
  cases hs with
  | pass g hle =>
    rcases h with ⟨hnone, es, h⟩ | ⟨es, h⟩
    · exact .inl ⟨hnone, es, h.congr hle rfl rfl rfl⟩
    · exact .inr ⟨es, h.congr hle rfl rfl⟩
  | operate o hnow hstarted hrun hserved =>
    rcases h with ⟨hnone, es, h⟩ | ⟨es, h⟩
    · exact running_operate hnone h hnow hstarted hrun hserved
    · exact over_operate h hrun hserved

theorem Reachable.law (h : Reachable gw k) : k.Law := by
  obtain ⟨g, now, h⟩ := h
  induction h with
  | refl =>
    refine .inr ⟨[], ?_, rfl, rfl⟩
    exact ⟨rfl, rfl, rfl, trivial, rfl, trivial, by simp, by simp, rfl, by simp, by simp⟩
  | tail _ hs ih => exact hs.law ih

end Session

/-- The law of the authority timeline: the events of a Session are numbered from one, those of the
last Episode follow each other, and its segments are the ones that they amount to, which the
constructor of the metadata accepts. -/
theorem authority_timeline_law (gw : CommandGateway L G) {k : Session G}
    (h : Session.Reachable gw k) :
    k.world.takeover.timeline.events.map AuthorityEvent.sequence =
        (List.range' 1 k.world.takeover.timeline.events.length).reverse ∧
      ∃ es, k.world.takeover.timeline.events = es ++ k.before ∧
        Lawful (es.map AuthorityEvent.eventType) ∧
        k.world.takeover.timeline.segments.map ControlSegment.data =
          recordedSegments k.startedNs k.stoppedNs es ∧
        SegmentsOrdered 0 k.world.takeover.timeline.segments ∧
        ∀ sha256 : String, IsSha256 sha256.toLower → ∃ metadata, DaggerMetadata.make sha256
          k.world.takeover.timeline.interventionCount k.world.takeover.timeline.segments =
            .ok metadata := by
  obtain ⟨es, h⟩ : ∃ es, Recorded k.before k.startedNs k.stoppedNs k.now es
      k.world.takeover.timeline := by
    rcases h.law with ⟨hnone, es, h⟩ | ⟨es, h⟩
    · exact ⟨es, hnone ▸ h.toRecorded⟩
    · exact ⟨es, h.toRecorded⟩
  refine ⟨h.numbered, es, h.events, h.word, h.segments, h.ordered, fun sha256 hsha => ?_⟩
  unfold DaggerMetadata.make
  rw [dif_pos hsha, dif_pos h.ordered, dif_pos h.interventions]
  exact ⟨_, rfl⟩

end Takeover

/-! ### A Session without action output -/

namespace Takeover.Session.Station

/-- Call an operation at the time `now`; the other threads do nothing. -/
def operated (k : Session Unit) (o : Operation) (now : ℤ) : Option (Session Unit) :=
  ((o.program noActionGateway).among.exec
      (List.replicate 12 (({ clockNs := now } : Env), id)) k.world).bind fun x =>
    if x.1.isEmpty = false ∧ k.now ≤ now ∧ (∀ ns ∈ o.trigger, ns ≤ k.now) ∧
        ∀ ns ∈ o.trigger, ∀ s ∈ k.world.takeover.timeline.episodeStartedNs, s ≤ ns then
      some (k.after o x.2.2 now)
    else none

/-- One operation after the other. -/
def played : Session Unit → List (Operation × ℤ) → Option (Session Unit)
  | k, [] => some k
  | k, (o, now) :: rest => (operated k o now).bind fun k' => played k' rest

theorem operated_step {k k' : Session Unit} {o : Operation} {now : ℤ}
    (h : operated k o now = some k') : Step noActionGateway k k' := by
  obtain ⟨⟨tr, r, w⟩, hexec, h⟩ := Option.bind_eq_some_iff.1 h
  dsimp only at h
  split at h
  · rename_i hall
    cases h
    refine .operate o hall.2.2.1 hall.2.2.2 (Prog.run_of_exec hexec) (clocked_served ?_ hall.2.1 ?_)
    · rintro rfl
      exact absurd hall.1 (by simp)
    · exact fun x hx => List.eq_of_mem_replicate (Prog.exec_answers hexec x hx)
  · cases h

theorem played_reachable {k k' : Session Unit} {os : List (Operation × ℤ)}
    (h : played k os = some k') (hk : Reachable noActionGateway k) : Reachable noActionGateway k' := by
  induction os generalizing k with
  | nil =>
    cases h
    exact hk
  | cons x os ih =>
    obtain ⟨k₁, hx, hos⟩ := Option.bind_eq_some_iff.1 h
    obtain ⟨g, now, hreach⟩ := hk
    exact ih hos ⟨g, now, hreach.tail (operated_step hx)⟩

/-- The operator takes over and gives the arms back. -/
def operations : List (Operation × ℤ) :=
  [(.startEpisode ⟨"a", 1, by decide, by decide⟩, 2), (.toggleOwnership 2, 5),
    (.toggleOwnership 4, 7), (.stopEpisode ⟨.success, 7, by decide⟩, 9)]

end Takeover.Session.Station

open Takeover.Session.Station in
/-- The operator takes over and gives the arms back: there are three segments. -/
theorem authority_timeline_law_stopped : ∃ k : Takeover.Session Unit,
    Takeover.Session.Reachable noActionGateway k ∧
      k.world.takeover.timeline.segments.map ControlSegment.owner = [.model, .human, .model] ∧
      k.world.takeover.timeline.events.map AuthorityEvent.sequence =
        (List.range' 1 k.world.takeover.timeline.events.length).reverse ∧
      ∃ es, k.world.takeover.timeline.events = es ++ k.before ∧
        Lawful (es.map AuthorityEvent.eventType) ∧
        k.world.takeover.timeline.segments.map ControlSegment.data =
          recordedSegments k.startedNs k.stoppedNs es ∧
        SegmentsOrdered 0 k.world.takeover.timeline.segments ∧
        ∀ sha256 : String, IsSha256 sha256.toLower → ∃ metadata, DaggerMetadata.make sha256
          k.world.takeover.timeline.interventionCount k.world.takeover.timeline.segments =
            .ok metadata := by
  obtain ⟨k, hplayed, hsegments⟩ : ∃ k, played { world := ⟨{}, ()⟩, now := 0 } operations = some k ∧
      k.world.takeover.timeline.segments.map ControlSegment.owner = [.model, .human, .model] := by
    refine Option.map_eq_some_iff.1 (?_ : (played _ _).map (fun k =>
      k.world.takeover.timeline.segments.map ControlSegment.owner) = some _)
    decide +kernel
  have hreach : Takeover.Session.Reachable noActionGateway k :=
    played_reachable hplayed ⟨(), 0, .refl⟩
  exact ⟨k, hreach, hsegments, Takeover.authority_timeline_law noActionGateway hreach⟩

end DualCollection
