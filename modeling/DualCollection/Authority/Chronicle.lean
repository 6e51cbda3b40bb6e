import DualCollection.Authority.Stamps
import DualCollection.Authority.Outcome
import DualCollection.Episode.Phases

/-!
# The times of an Episode

The runtime of a takeover Session under a clock that does not run backwards: a trigger has happened
when the pedals return it, and the clock that the runtime reads is the one of the timeline.  Beside
the controller stand the start and the stop of the Episode, and what is committed: the segments of
the metadata and the duration.

The events of an Episode should be stamped in the order of their numbers, and a segment should lie
between the events that open and close it, within the Episode.  In `chronicle_of_timely` they are, if
no trigger is handled that is before the last event, and if the stop hook does not recover from a
fault.  The code does not see to it: in `chronicle_late` the poll of the runtime makes the policy
active after the pedal was pressed, and the segment ends after the Episode.
-/

namespace DualCollection

open Thread

/-- What was committed. -/
structure CommittedEpisode where
  /-- When the Episode started. -/
  startedNs : ℤ
  /-- When it was stopped. -/
  stoppedNs : ℤ
  /-- The duration in the metadata. -/
  durationS : ℚ
  /-- The segments in the metadata. -/
  segments : List ControlSegment
  /-- The events of the Episode, newest first. -/
  events : List AuthorityEvent

/-- The segment of an event that lasts until the time `ns`. -/
def AuthorityEvent.stretch (startedNs ns : ℤ) (ev : AuthorityEvent) : List SegmentData :=
  ((ev.opens startedNs).map fun a =>
    ⟨a.owner, a.startedOffsetS, offset startedNs ns, a.interventionId⟩).toList

/-- The segments between the events (newest first), of which the last lasts until the time `ns`. -/
def stretches (startedNs : ℤ) : ℤ → List AuthorityEvent → List SegmentData
  | _, [] => []
  | ns, ev :: earlier => stretches startedNs ev.monotonicTimeNs earlier ++ ev.stretch startedNs ns

/-- The segments lie between the events that open and close them, within the Episode. -/
structure CommittedEpisode.Timed (c : CommittedEpisode) : Prop where
  /-- Each segment begins and ends with an event, or with the stop. -/
  boundaries : c.segments.map ControlSegment.data = stretches c.startedNs c.stoppedNs c.events
  /-- The segments lie within the Episode. -/
  within : ∀ segment ∈ c.segments, 0 ≤ segment.startedOffsetS ∧
    segment.startedOffsetS ≤ segment.endedOffsetS ∧ segment.endedOffsetS ≤ c.durationS

/-- A controller under the runtime, at the time `now`. -/
structure Chronicle (G : Type) where
  /-- The controller and its gateway. -/
  world : World G
  /-- The time. -/
  now : ℤ
  /-- The events of earlier Episodes. -/
  before : List AuthorityEvent := []
  /-- When the Episode started. -/
  startedNs : ℤ := 0
  /-- When it was stopped. -/
  stoppedNs : ℤ := 0
  /-- The segments that were handed to the metadata. -/
  segments : List ControlSegment := []
  /-- The duration that was handed to the metadata. -/
  durationS : ℚ := 0
  /-- What was committed. -/
  commits : List CommittedEpisode := []

namespace Chronicle

variable {G : Type} (k : Chronicle G)

/-- What the controller has emitted, newest first. -/
def events : List AuthorityEvent := k.world.takeover.timeline.events

/-- What it has emitted since the Episode started. -/
def episode : List AuthorityEvent := k.events.take (k.events.length - k.before.length)

/-- What a call of the runtime says of the Episode. -/
def noted : EpisodeCall → Chronicle G
  | .recordingStartedHook started =>
    { k with before := k.events, startedNs := started.monotonicTimeNs }
  | .recordingStoppingHook stopping => { k with stoppedNs := stopping.monotonicTimeNs }
  | .metadataContextProvider => { k with segments := k.world.takeover.timeline.segments }
  | .buildMetadata result _ => { k with durationS := result.durationS }
  | .storeCommit _ _ =>
    { k with commits :=
        ⟨k.startedNs, k.stoppedNs, k.durationS, k.segments, k.episode⟩ :: k.commits }
  | _ => k

/-- The events of the Episode are stamped in the order of their numbers, and what was committed
keeps to the times. -/
structure Timed : Prop where
  /-- The events of the Episode, newest first. -/
  events : k.episode.Pairwise fun later earlier =>
    earlier.sequence < later.sequence ∧ earlier.monotonicTimeNs ≤ later.monotonicTimeNs
  /-- What was committed. -/
  commits : ∀ c ∈ k.commits, c.Timed

end Chronicle

section Serve

open Takeover (Program Witnessed startEpisode stopEpisode wait clocked Recovers Timely)

variable {L G : Type}

/-- What a call of the runtime does to the controller from the time `now` to the time `now'`.  If
`strict`, then only triggers in time and stop hooks that do not recover from a fault are
considered. -/
inductive Timekeeps (gw : CommandGateway L G) (text : AuthorityReason → String) (strict : Prop) :
    EpisodeCall → PortAnswer → World G → ℤ → World G → ℤ → Prop
  | start {started : RecordingStarted} {a : PortAnswer} {w w' : World G} {now now' : ℤ}
    {tr : List (Witnessed L G)} {r : Except Failure Unit}
    (hrun : (startEpisode gw started).among.Run w tr r w') (hserved : Served clocked now tr now')
    (hshows : a.Shows r fun _ => True) :
    Timekeeps gw text strict (.recordingStartedHook started) a w now w' now'
  | stop {stopping : RecordingStopping} {a : PortAnswer} {w w' : World G} {now now' : ℤ}
    {tr : List (Witnessed L G)} {r : Except Failure Unit}
    (hrun : (stopEpisode gw stopping).among.Run w tr r w') (hserved : Served clocked now tr now')
    (hshows : a.Shows r fun _ => True)
    (htimely : strict → Recovers gw w tr → now' ≤ stopping.monotonicTimeNs) :
    Timekeeps gw text strict (.recordingStoppingHook stopping) a w now w' now'
  /-- The pedals raise. -/
  | pedals {site : WaitSite} {a : PortAnswer} {w w' : World G} {now now' : ℤ} (h : a.raises ≠ none)
    (ht : w'.takeover = w.takeover) (hnow : now ≤ now') :
    Timekeeps gw text strict (.triggerWait site) a w now w' now'
  /-- The pedals return a trigger that has happened. -/
  | wait {site : WaitSite} {a : PortAnswer} {w w' : World G} {now returned now' : ℤ}
    {signal : Option DaggerTriggerSignal} {tr : List (Witnessed L G)}
    {r : Except Failure (Option TriggerSignal)} (hreturned : now ≤ returned)
    (hsignal : ∀ s ∈ signal, s.monotonicTimeNs ≤ returned)
    (hrun : (wait gw text signal).among.Run w tr r w') (hserved : Served clocked returned tr now')
    (hshows : a.Shows r fun s => a.signal = s) (htimely : strict → Timely gw signal w tr) :
    Timekeeps gw text strict (.triggerWait site) a w now w' now'
  | other {l : EpisodeCall} {a : PortAnswer} {w w' : World G} {now now' : ℤ}
    (hl : l.ofController = false) (ht : w'.takeover = w.takeover) (hnow : now ≤ now')
    (hclock : ∀ site, l = .monotonicClock site → a.raises = none →
      now ≤ a.monotonicNs ∧ a.monotonicNs ≤ now')
    (hfinal : l = .metadataContextProvider → a.raises = none →
      w.takeover.timeline.episodeStartedNs = none) :
    Timekeeps gw text strict l a w now w' now'

/-- What a call of the runtime does, with the notes beside it. -/
structure timekeep (gw : CommandGateway L G) (text : AuthorityReason → String) (strict : Prop)
    (k : Chronicle G) (x : EpisodeCall × PortAnswer) (k' : Chronicle G) : Prop where
  /-- What it does to the controller. -/
  world : Timekeeps gw text strict x.1 x.2 k.world k.now k'.world k'.now
  /-- What it says of the Episode. -/
  noted : k' = { k.noted x.1 with world := k'.world, now := k'.now }

end Serve

section Law

open Takeover (Chronicled Halted EndsAt StoppedAt)
open AuthorityTimeline (Sorted)

variable {L G : Type} {gw : CommandGateway L G} {text : AuthorityReason → String}
  {k k' : Chronicle G} {l : EpisodeCall} {a : PortAnswer} {startedNs ns : ℤ}

/-! ### Segments between events -/

/-- The times of the events do not decrease, and the last is not after `ns`. -/
def InOrder : ℤ → List AuthorityEvent → Prop
  | _, [] => True
  | ns, ev :: earlier => ev.monotonicTimeNs ≤ ns ∧ InOrder ev.monotonicTimeNs earlier

theorem inOrder_of_sorted {es : List AuthorityEvent} (hsorted : es.Pairwise fun later earlier =>
      earlier.sequence < later.sequence ∧ earlier.monotonicTimeNs ≤ later.monotonicTimeNs)
    (hlast : ∀ ev ∈ es, ev.monotonicTimeNs ≤ ns) : InOrder ns es := by
  induction es generalizing ns with
  | nil => trivial
  | cons ev earlier ih =>
    obtain ⟨hearlier, hsorted⟩ := List.pairwise_cons.1 hsorted
    exact ⟨hlast ev List.mem_cons_self, ih hsorted fun ev' hmem => (hearlier ev' hmem).2⟩

theorem InOrder.ended {es : List AuthorityEvent} (h : InOrder ns es) :
    ∀ data ∈ stretches startedNs ns es, data.endedOffsetS ≤ offset startedNs ns := by
  induction es generalizing ns with
  | nil => simp [stretches]
  | cons ev earlier ih =>
    intro data hdata
    rcases List.mem_append.1 hdata with hdata | hdata
    · exact (ih h.2 data hdata).trans (offset_mono h.1)
    · obtain ⟨a, -, rfl⟩ := Option.map_eq_some_iff.1 (Option.mem_toList.1 hdata)
      exact le_rfl

/-- A segment that is closed by a later event ends with it. -/
theorem segment_eq_stretch {ev : AuthorityEvent} (h : ev.monotonicTimeNs ≤ ns) :
    ev.segment startedNs ns = ev.stretch startedNs ns := by
  unfold AuthorityEvent.segment AuthorityEvent.stretch
  cases hopens : ev.opens startedNs with
  | none => rfl
  | some a =>
    have hle : a.startedOffsetS ≤ offset startedNs ns := by
      rw [opens_started hopens]
      exact offset_mono h
    simp [ActiveOwner.closedAt, max_eq_right hle]

/-- The recorded segments lie between the events. -/
theorem InOrder.recorded {es : List AuthorityEvent} (h : InOrder ns es) :
    recordedSegments startedNs (some ns) es = stretches startedNs ns es := by
  have hclosed : ∀ ev earlier, InOrder ev.monotonicTimeNs earlier →
      closedSegments startedNs (ev :: earlier) =
        stretches startedNs ev.monotonicTimeNs earlier := by
    intro ev earlier
    induction earlier generalizing ev with
    | nil => exact fun _ => rfl
    | cons ev' earlier ih =>
      intro h
      show closedSegments startedNs (ev' :: earlier) ++ _ = stretches startedNs _ earlier ++ _
      rw [ih ev' h.2, segment_eq_stretch h.1]
  cases es with
  | nil => rfl
  | cons ev earlier =>
    show closedSegments startedNs (ev :: earlier) ++ ev.segment startedNs ns = _
    rw [hclosed ev earlier h.2, segment_eq_stretch h.1]
    rfl

/-! ### The phases -/

namespace Chronicle

/-- What holds in any case. -/
structure Kept (k : Chronicle G) : Prop where
  /-- The events are sorted. -/
  sorted : Sorted k.now k.world.takeover.timeline
  /-- What was committed. -/
  commits : ∀ c ∈ k.commits, c.Timed

/-- No Episode is recorded. -/
def Rests (k : Chronicle G) : Prop :=
  ∃ before startedNs stoppedNs es, Takeover.Over before startedNs stoppedNs k.now es k.world.takeover

/-- The controller has been stopped at the end of the Episode. -/
structure Stopped (startedNs : ℤ) (ending : Ending) (k : Chronicle G) : Prop where
  /-- When the Episode started. -/
  started : k.startedNs = startedNs
  /-- When it was stopped. -/
  stopped : k.stoppedNs = ending.stoppingMonotonicNs
  /-- The controller. -/
  takeover : StoppedAt k.before startedNs ending.stoppingMonotonicNs k.now k.world.takeover

/-- What holds in a phase. -/
def Holds (k : Chronicle G) : Phase → Prop
  | .rest | .prepared _ => k.Rests
  | .recording startedNs =>
    k.startedNs = startedNs ∧ Chronicled k.before startedNs k.now k.world.takeover
  | .halted startedNs => k.startedNs = startedNs ∧ Halted k.before startedNs k.now k.world.takeover
  | .ended startedNs ending => k.startedNs = startedNs ∧
    EndsAt k.before startedNs ending.stoppingMonotonicNs k.now k.world.takeover
  | .stopped startedNs ending => k.Stopped startedNs ending
  | .described startedNs ending => k.Stopped startedNs ending ∧
    k.segments = k.world.takeover.timeline.segments
  | .built startedNs ending => k.Stopped startedNs ending ∧
    k.segments = k.world.takeover.timeline.segments ∧
    k.durationS = episodeDuration startedNs ending.stoppingMonotonicNs

/-- The phases of an Episode. -/
def phases (G : Type) : Phases (Chronicle G) where
  holds p k := k.Kept ∧ k.Holds p
  kept := Kept

end Chronicle

theorem Takeover.EndsAt.mono {before : List AuthorityEvent} {now now' : ℤ} {t : Takeover}
    (h : EndsAt before startedNs ns now t) (hnow : now ≤ now') : EndsAt before startedNs ns now' t where
  toHalted := h.toHalted.mono hnow
  le_now := h.le_now.trans hnow
  last := h.last

theorem Takeover.StoppedAt.mono {before : List AuthorityEvent} {now now' : ℤ} {t : Takeover}
    (h : StoppedAt before startedNs ns now t) (hnow : now ≤ now') :
    StoppedAt before startedNs ns now' t where
  finished := by
    obtain ⟨es, hover⟩ := h.finished
    exact ⟨es, hover.congr hnow rfl rfl⟩
  started := h.started
  last := h.last

namespace Chronicle

/-- Time passes, and what is said of the Episode stays. -/
structure Passed (k k' : Chronicle G) : Prop where
  /-- The controller is left alone. -/
  takeover : k'.world.takeover = k.world.takeover
  /-- The clock does not run backwards. -/
  now : k.now ≤ k'.now
  /-- The notes stay. -/
  noted : k' = { k with world := k'.world, now := k'.now }

theorem Kept.passed (h : k.Kept) (hp : Passed k k') : k'.Kept where
  sorted := by
    rw [hp.takeover]
    exact h.sorted.mono hp.now
  commits := by
    rw [hp.noted]
    exact h.commits

theorem Rests.passed (h : k.Rests) (hnow : k.now ≤ k'.now)
    (ht : k'.world.takeover = k.world.takeover) : k'.Rests := by
  obtain ⟨before, startedNs, stoppedNs, es, hover⟩ := h
  exact ⟨before, startedNs, stoppedNs, es, ht ▸ hover.congr hnow rfl rfl⟩

theorem Stopped.passed {ending : Ending} (h : k.Stopped startedNs ending) (hp : Passed k k') :
    k'.Stopped startedNs ending := by
  obtain ⟨hstarted, hstopped, htakeover⟩ := h
  rw [hp.noted]
  exact ⟨hstarted, hstopped, hp.takeover ▸ htakeover.mono hp.now⟩

theorem Holds.passed {p : Phase} (h : k.Holds p) (hp : Passed k k') : k'.Holds p := by
  have htakeover := hp.takeover
  have hnoted := hp.noted
  cases p with
  | rest | prepared => exact Rests.passed h hp.now htakeover
  | recording startedNs =>
    rw [hnoted]
    exact ⟨h.1, htakeover ▸ h.2.mono hp.now⟩
  | halted startedNs =>
    rw [hnoted]
    exact ⟨h.1, htakeover ▸ h.2.mono hp.now⟩
  | ended startedNs ending =>
    rw [hnoted]
    exact ⟨h.1, htakeover ▸ h.2.mono hp.now⟩
  | stopped startedNs ending => exact Stopped.passed h hp
  | described startedNs ending =>
    refine ⟨h.1.passed hp, ?_⟩
    rw [htakeover, hnoted]
    exact h.2
  | built startedNs ending =>
    refine ⟨h.1.passed hp, ?_⟩
    rw [htakeover, hnoted]
    exact h.2

end Chronicle

/-! ### The calls of the runtime -/

variable {strict : Prop}

namespace timekeep

theorem apart (h : timekeep gw text strict k (l, a) k') (hl : l.ofController = false) :
    k'.world.takeover = k.world.takeover ∧ k.now ≤ k'.now := by
  have hw := h.world
  cases hw with
  | other _ ht hnow _ _ => exact ⟨ht, hnow⟩
  | start | stop | pedals | wait => cases hl

theorem passed (h : timekeep gw text strict k (l, a) k') (hl : l.ofController = false)
    (hnoted : k.noted l = k) : Chronicle.Passed k k' where
  takeover := (h.apart hl).1
  now := (h.apart hl).2
  noted := by
    have hk := h.noted
    dsimp only at hk
    rwa [hnoted] at hk

theorem untold (h : timekeep gw text strict k (l, a) k') (hl : Untold l) : Chronicle.Passed k k' := by
  cases l with
  | triggerWait | recordingStartedHook | recordingStoppingHook | monotonicClock
  | metadataContextProvider | buildMetadata | storeCommit => cases hl
  | _ => exact h.passed rfl rfl

end timekeep

namespace Chronicle

theorem Kept.of_noted (h : k.Kept) (hs : timekeep gw text strict k (l, a) k')
    (hsorted : Sorted k'.now k'.world.takeover.timeline)
    (hcommits : (k.noted l).commits = k.commits) : k'.Kept where
  sorted := hsorted
  commits := by
    rw [hs.noted, hcommits]
    exact h.commits

theorem awaited_rests (h : k.Kept) (hrests : k.Rests)
    (hs : timekeep gw text strict k (.triggerWait .start, a) k') : k'.Kept ∧ k'.Rests := by
  have hw := hs.world
  cases hw with
  | pedals hne ht hnow =>
    have hp : Passed k k' := ⟨ht, hnow, hs.noted⟩
    exact ⟨h.passed hp, hrests.passed hnow ht⟩
  | wait hreturned hsignal hrun hserved hshows htimely =>
    obtain ⟨before, startedNs, stoppedNs, es, hover⟩ := hrests
    have hover' := (Takeover.under_wait Takeover.apart_clocked (fun _ => Takeover.handles_over)
      (hover.congr hreturned rfl rfl) _ _ _ _ hrun hserved).1
    have hevents : k'.world.takeover.timeline.events = k.world.takeover.timeline.events :=
      hover'.events.trans hover.events.symm
    have hnow : k.now ≤ k'.now := hreturned.trans (Served.invariant (J := fun now => _ ≤ now)
      (fun _ _ _ hk hx => hk.trans (Takeover.apart_clocked.le hx)) hserved le_rfl)
    refine ⟨h.of_noted hs ((h.sorted.mono hnow).congr hevents ?_) rfl, _, _, _, _, hover'⟩
    rw [hover'.sequence, hover.sequence, hevents]
  | other hl => cases hl

theorem started_recording {started : RecordingStarted} (h : k.Kept) (hrests : k.Rests)
    (hs : timekeep gw text strict k (.recordingStartedHook started, a) k') :
    k'.Kept ∧ (a.raises = none → k'.Kept ∧ k'.Holds (.recording started.monotonicTimeNs)) := by
  obtain ⟨before, startedNs, stoppedNs, es, hover⟩ := hrests
  have hw := hs.world
  cases hw with
  | @start _ _ _ _ _ _ tr r hrun hserved hshows =>
    obtain ⟨hsorted, hok⟩ := Takeover.start_chronicled hover h.sorted _ _ _ _ hrun hserved
    have hkept : k'.Kept := h.of_noted hs hsorted rfl
    refine ⟨hkept, fun hraises => ⟨hkept, ?_⟩⟩
    have hk := hs.noted
    cases r with
    | error f =>
      obtain ⟨err, herr, -⟩ := hshows
      rw [hraises] at herr
      cases herr
    | ok u =>
      have hchronicled := hok rfl
      rw [hk]
      exact ⟨rfl, hchronicled⟩
  | other hl => cases hl

/-- What a call of `wait` leads to while the Episode is recorded. -/
theorem waited_phase (h : k.Kept) (hrecording : k.Holds (.recording startedNs))
    (hs : timekeep gw text True k (.triggerWait .ending, a) k') :
    k'.Kept ∧ k'.Holds (.halted startedNs) ∧ (a.raises = none → match a.signal with
      | none => k'.Holds (.recording startedNs)
      | some signal => signal.event ≠ .conflict ∧ k'.startedNs = startedNs ∧
        EndsAt k'.before startedNs signal.monotonicTimeNs k'.now k'.world.takeover) := by
  obtain ⟨hstarted, hchronicled⟩ := hrecording
  have hw := hs.world
  have hk := hs.noted
  have hbefore : k'.before = k.before := by rw [hk]; rfl
  have hstartedNs : k'.startedNs = startedNs := by rw [hk]; exact hstarted
  cases hw with
  | pedals hne ht hnow =>
    have hhalted : Halted k'.before startedNs k'.now k'.world.takeover := by
      rw [hbefore, ht]
      exact (hchronicled.mono hnow).halted
    exact ⟨h.of_noted hs hhalted.sorted rfl, ⟨hstartedNs, hhalted⟩,
      fun hraises => absurd hraises hne⟩
  | wait hreturned hsignal hrun hserved hshows htimely =>
    rename_i r
    have hwaited := Takeover.wait_waited (hchronicled.mono hreturned) hsignal hrun hserved
      (htimely trivial)
    rw [← hbefore] at hwaited
    have hhalted : Halted k'.before startedNs k'.now k'.world.takeover := by
      match r, hwaited with
      | .ok none, hwaited => exact Chronicled.halted hwaited
      | .ok (some signal), hwaited => exact hwaited.2.toHalted
      | .error f, hwaited => exact hwaited
    refine ⟨h.of_noted hs hhalted.sorted rfl, ⟨hstartedNs, hhalted⟩, fun hraises => ?_⟩
    cases r with
    | error f =>
      obtain ⟨err, herr, -⟩ := hshows
      rw [hraises] at herr
      cases herr
    | ok signal =>
      rw [hshows.2]
      cases signal with
      | none => exact ⟨hstartedNs, hwaited⟩
      | some signal => exact ⟨hwaited.1, hstartedNs, hwaited.2⟩
  | other hl => cases hl

theorem interrupted_phase {site : ClockSite} (h : k.Kept) (hhalted : k.Holds (.halted startedNs))
    (hs : timekeep gw text strict k (.monotonicClock site, a) k') :
    (k'.Kept ∧ k'.Holds (.halted startedNs)) ∧ (a.raises = none → k'.startedNs = startedNs ∧
      EndsAt k'.before startedNs a.monotonicNs k'.now k'.world.takeover) := by
  have hp : Passed k k' := hs.passed rfl rfl
  have hhalted' : k'.Holds (.halted startedNs) := hhalted.passed hp
  refine ⟨⟨h.passed hp, hhalted'⟩, fun hraises => ?_⟩
  have hw := hs.world
  cases hw with
  | other _ ht _ hclock _ =>
    obtain ⟨hle, hle'⟩ := hclock site rfl hraises
    refine ⟨hhalted'.1, hhalted'.2, hle', fun _ ev hev => ?_⟩
    rw [ht] at hev
    exact (h.sorted.past ev hev).2.trans hle

theorem stopped_phase {ending : Ending} {stopping : RecordingStopping} (h : k.Kept)
    (hended : k.Holds (.ended startedNs ending))
    (hns : stopping.monotonicTimeNs = ending.stoppingMonotonicNs)
    (hs : timekeep gw text True k (.recordingStoppingHook stopping, a) k') :
    k'.Kept ∧ (a.raises = none → k'.Kept ∧ k'.Holds (.stopped startedNs ending)) := by
  obtain ⟨hstarted, hends⟩ := hended
  have hw := hs.world
  have hk := hs.noted
  cases hw with
  | stop hrun hserved hshows htimely =>
    rename_i r
    obtain ⟨hsorted, hok⟩ := Takeover.stop_stoppedAt (hns ▸ hends) hrun hserved (htimely trivial)
    have hkept : k'.Kept := h.of_noted hs hsorted rfl
    refine ⟨hkept, fun hraises => ⟨hkept, ?_⟩⟩
    cases r with
    | error f =>
      obtain ⟨err, herr, -⟩ := hshows
      rw [hraises] at herr
      cases herr
    | ok u =>
      have hstopped := hok rfl
      rw [hk]
      exact ⟨hstarted, hns, hns ▸ hstopped⟩
  | other hl => cases hl

/-- The episode is what was emitted since it started. -/
theorem episode_of_append {es : List AuthorityEvent} (h : k.events = es ++ k.before) :
    k.episode = es := by
  rw [episode, h, List.length_append, Nat.add_sub_cancel, List.take_left]

/-- What is committed keeps to the times. -/
theorem built_timed {ending : Ending} (h : k.Kept) (hbuilt : k.Holds (.built startedNs ending)) :
    CommittedEpisode.Timed ⟨k.startedNs, k.stoppedNs, k.durationS, k.segments, k.episode⟩ := by
  obtain ⟨⟨hstarted, hstopped, hat⟩, hsegments, hduration⟩ := hbuilt
  obtain ⟨es, hover⟩ := hat.finished
  have hepisode : k.episode = es := episode_of_append hover.events
  have hsub : ∀ ev ∈ es, ev ∈ k.world.takeover.timeline.events := fun ev hev => by
    rw [hover.events]
    exact List.mem_append_left _ hev
  have hsorted : es.Pairwise fun later earlier => earlier.sequence < later.sequence ∧
      earlier.monotonicTimeNs ≤ later.monotonicTimeNs := by
    have hall := h.sorted.events
    rw [hover.events] at hall
    exact (List.pairwise_append.1 hall).1
  have horder : InOrder ending.stoppingMonotonicNs es :=
    inOrder_of_sorted hsorted fun ev hev => hat.last ev (hsub ev hev)
  have hboundaries : k.segments.map ControlSegment.data =
      stretches startedNs ending.stoppingMonotonicNs es := by
    rw [hsegments, hover.segments, horder.recorded]
  refine ⟨?_, fun segment hmem => ⟨segment.started_nonneg, segment.started_le_ended, ?_⟩⟩
  · show k.segments.map ControlSegment.data = stretches k.startedNs k.stoppedNs k.episode
    rw [hstarted, hstopped, hepisode]
    exact hboundaries
  · show segment.endedOffsetS ≤ k.durationS
    have hdata : segment.data ∈ stretches startedNs ending.stoppingMonotonicNs es :=
      hboundaries ▸ List.mem_map_of_mem hmem
    rw [hduration]
    exact (horder.ended segment.data hdata).trans (le_max_right _ _)

theorem sound_phases : (phases G).Sound (timekeep gw text True) where
  kept := fun h => h.1
  untold := fun hl hs h => ⟨h.1.passed (hs.untold hl), h.2.passed (hs.untold hl)⟩
  untold_kept := fun hl hs h => h.passed (hs.untold hl)
  awaited := fun hs h => awaited_rests h.1 h.2 hs
  prepared := fun hs h => by
    have hp := hs.passed rfl rfl
    exact ⟨⟨h.1.passed hp, h.2.passed hp⟩, fun _ => ⟨h.1.passed hp, h.2.passed hp⟩⟩
  unprepared := fun h => h
  started := fun hs h => started_recording h.1 h.2 hs
  broken := fun hs h _ => ⟨(waited_phase h.1 h.2 hs).1, (waited_phase h.1 h.2 hs).2.1⟩
  waited := fun {startedNs a k k'} hs h hraises => by
    obtain ⟨hkept, -, hwaited⟩ := waited_phase h.1 h.2 hs
    have hwaited := hwaited hraises
    cases hsignal : a.signal with
    | none =>
      rw [hsignal] at hwaited
      exact ⟨hkept, hwaited⟩
    | some signal =>
      rw [hsignal] at hwaited
      refine ⟨fun hconflict => absurd hconflict hwaited.1, fun ending hns _ _ => ⟨hkept, ?_⟩⟩
      exact ⟨hwaited.2.1, hns ▸ hwaited.2.2⟩
  halted := fun h => ⟨h.1, h.2.1, h.2.2.halted⟩
  interrupted := fun hs h => by
    obtain ⟨hhalted, hends⟩ := interrupted_phase h.1 h.2 hs
    refine ⟨hhalted, fun hraises ending hns _ => ⟨hhalted.1, (hends hraises).1, ?_⟩⟩
    exact hns ▸ (hends hraises).2
  stopped := fun hs h _ hns => stopped_phase h.1 h.2 hns hs
  described := fun {startedNs ending a k k'} hs h => by
    have ht := hs.apart rfl
    have hkept : k'.Kept := h.1.of_noted hs (ht.1 ▸ h.1.sorted.mono ht.2) rfl
    refine ⟨hkept, fun _ => ⟨hkept, ?_⟩⟩
    obtain ⟨hstarted, hstopped, hat⟩ := h.2
    rw [hs.noted]
    exact ⟨⟨hstarted, hstopped, ht.1 ▸ hat.mono ht.2⟩, ht.1 ▸ rfl⟩
  built := fun {startedNs ending result extensions a k k'} hs h hduration => by
    have ht := hs.apart rfl
    have hkept : k'.Kept := h.1.of_noted hs (ht.1 ▸ h.1.sorted.mono ht.2) rfl
    refine ⟨hkept, fun _ => ⟨hkept, ?_⟩⟩
    obtain ⟨⟨hstarted, hstopped, hat⟩, hsegments⟩ := h.2
    rw [hs.noted]
    exact ⟨⟨hstarted, hstopped, ht.1 ▸ hat.mono ht.2⟩, ht.1 ▸ hsegments, hduration⟩
  committed := fun {startedNs ending pending a k k'} hs h => by
    have ht := hs.apart rfl
    have hk := hs.noted
    have hkept : k'.Kept := by
      refine ⟨ht.1 ▸ h.1.sorted.mono ht.2, ?_⟩
      rw [hk]
      exact List.forall_mem_cons.2 ⟨built_timed h.1 h.2, h.1.commits⟩
    obtain ⟨es, hover⟩ := h.2.1.takeover.finished
    exact ⟨hkept, fun _ => ⟨hkept, _, _, _, es, ht.1 ▸ hover.congr ht.2 rfl rfl⟩⟩

theorem Kept.timed (h : k.Kept) : k.Timed where
  events := h.sorted.events.sublist (List.take_sublist _ _)
  commits := h.commits

end Chronicle

/-- In any Session in which no trigger is handled that is before the last event, and in which no
stop hook recovers from a fault, the events of an Episode are stamped in the order of their numbers,
and the committed segments lie between the events that open and close them, within the Episode. -/
theorem chronicle_of_timely (gw : CommandGateway L G) (text : AuthorityReason → String)
    (rt : EpisodeRuntime) (hstart : rt.recordingStartedHook = true)
    (hstop : rt.recordingStoppingHook = true) (hcontext : rt.metadataContextProvider = true) (n : ℕ)
    (requests : List EpisodeRequest) (s : EpisodeState) (g : G) (now : ℤ) :
    (rt.session n requests).Under (timekeep gw text True) s { world := ⟨{}, g⟩, now := now }
      fun _ _ k => k.Timed := by
  have hrests : Chronicle.Rests ({ world := ⟨{}, g⟩, now := now } : Chronicle G) :=
    ⟨[], 0, none, [], ⟨rfl, rfl, rfl, trivial, rfl, trivial, by simp, by simp, rfl, by simp, by simp⟩,
      rfl, rfl⟩
  have hkept : Chronicle.Kept ({ world := ⟨{}, g⟩, now := now } : Chronicle G) :=
    ⟨⟨List.Pairwise.nil, by simp⟩, by simp⟩
  have hover : (Chronicle.phases G).Over s ({ world := ⟨{}, g⟩, now := now } : Chronicle G) :=
    ⟨hkept, fun _ => ⟨hkept, hrests⟩⟩
  refine (Chronicle.sound_phases.session hstart hstop (fun hnone => ?_) hover).mono
    fun _ _ k h => h.1.timed
  rw [hcontext] at hnone
  cases hnone

end Law

/-! ### A Session in which the policy is slow -/

namespace Chronicle.Station

open Takeover (Witnessed Program startEpisode stopEpisode pollRuntime wait Timely Recovers)
open Episode.Station (request prepared)

/-- A policy that is ready when it is asked for the second time. -/
def slow : CommandGateway Unit Bool where
  actionOutputEnabled := true
  closeGate := fun _ => pure ()
  clearPending := fun _ => pure ()
  preparePolicy := fun _ _ => pure ()
  policyReady := fun _ _ => .atomic () fun _ ready => (.ok ready, true)
  takeFault := pure none

/-- The texts do not matter here. -/
def text : AuthorityReason → String := fun _ => "fault"

/-- A runtime with both hooks and the context of the metadata. -/
def runtime : EpisodeRuntime := ⟨false, false, false, true, true, true, false, []⟩

/-- A pedal is pressed at the time `ns`. -/
def pedal (event : DaggerTriggerEvent) (ns : ℕ) : DaggerTriggerSignal :=
  ⟨event, ns, Int.natCast_nonneg ns⟩

/-- A call of the runtime returns. -/
structure Turn where
  /-- What it returns. -/
  answer : PortAnswer := {}
  /-- When it returns. -/
  now : ℤ
  /-- What the pedals return to a call that waits for a trigger. -/
  signal : Option DaggerTriggerSignal := none

/-- Run a program of the controller at the time `now'`; the other threads do nothing. -/
def respond {α : Type} (p : Program Unit Bool α) (w : World Bool) (now' : ℤ) :
    Option (List (Witnessed Unit Bool) × Except Failure α × World Bool) :=
  p.among.exec (List.replicate 24 (({ clockNs := now' } : Env), id)) w

/-- Whether the clock and the timeline answer as they do. -/
def answers (k : Chronicle Bool) (x : EpisodeCall × PortAnswer) (now' : ℤ) : Bool :=
  match x.1 with
  | .monotonicClock _ => k.now ≤ x.2.monotonicNs ∧ x.2.monotonicNs ≤ now'
  | .metadataContextProvider => k.world.takeover.timeline.episodeStartedNs.isNone
  | _ => true

/-- The poll of the runtime has emitted nothing that is after the trigger. -/
def inTime (w : World Bool) (signal : Option DaggerTriggerSignal) (now' : ℤ) : Bool :=
  (respond (pollRuntime slow) w now').all fun y =>
    y.2.2.takeover.timeline.events.head?.all fun ev =>
      signal.all fun s => ev.monotonicTimeNs ≤ s.monotonicTimeNs

/-- What a call does until the time `now'`; the pedals return at once. -/
def timekept (strict : Bool) (k : Chronicle Bool) (x : EpisodeCall × PortAnswer) (now' : ℤ)
    (signal : Option DaggerTriggerSignal) : Option (Chronicle Bool) :=
  match x.1 with
  | .recordingStartedHook started =>
    (respond (startEpisode slow started) k.world now').bind fun y =>
    if y.2.1.toOption.isSome ∧ x.2.raises = none ∧ k.now ≤ now' ∧ y.1.isEmpty = false then
      some { k.noted x.1 with world := y.2.2, now := now' }
    else none
  | .recordingStoppingHook stopping =>
    (respond (stopEpisode slow stopping) k.world now').bind fun y =>
    if y.2.1.toOption.isSome ∧ x.2.raises = none ∧ k.now ≤ now' ∧ y.1.isEmpty = false then
      some { k.noted x.1 with world := y.2.2, now := now' }
    else none
  | .triggerWait _ => (respond (wait slow text signal) k.world now').bind fun y =>
    if y.2.1.toOption = some x.2.signal ∧ x.2.raises = none ∧ k.now ≤ now' ∧ y.1.isEmpty = false ∧
        (∀ s ∈ signal, s.monotonicTimeNs ≤ k.now) ∧
        (strict = true → inTime k.world signal now' = true) then
      some { k.noted x.1 with world := y.2.2, now := now' }
    else none
  | l => if k.now ≤ now' ∧ answers k x now' = true then some { k.noted l with now := now' }
    else none

/-- What one call does after the other. -/
def timekeptAll (strict : Bool) : Chronicle Bool → List ((EpisodeCall × PortAnswer) × Turn) →
    Option (Chronicle Bool)
  | k, [] => some k
  | k, x :: tr => (timekept strict k x.1 x.2.now x.2.signal).bind fun k' => timekeptAll strict k' tr

variable {strict : Bool} {signal : Option DaggerTriggerSignal}

theorem respond_run {α : Type} {p : Program Unit Bool α} {w w' : World Bool} {now now' : ℤ}
    {tr : List (Witnessed Unit Bool)} {r : Except Failure α}
    (h : respond p w now' = some (tr, r, w')) (hne : tr.isEmpty = false) (hle : now ≤ now') :
    p.among.Run w tr r w' ∧ Served Takeover.clocked now tr now' := by
  refine ⟨Prog.run_of_exec h, Takeover.clocked_served (fun hnil => ?_) hle fun x hx =>
    List.eq_of_mem_replicate (Prog.exec_answers h x hx)⟩
  rw [hnil] at hne
  cases hne

theorem not_recovers {α : Type} {p : Program Unit Bool α} {w w' : World Bool} {now' : ℤ}
    {tr : List (Witnessed Unit Bool)} {r : Except Failure α}
    (h : respond p w now' = some (tr, r, w')) : ¬ Recovers slow w tr := by
  refine Takeover.not_recovers (fun _ => rfl) (fun _ => rfl) fun x hx => ?_
  rw [List.eq_of_mem_replicate (Prog.exec_answers h x hx)]

/-- What the poll has emitted can be read off its run. -/
theorem timely_of_inTime {w w' : World Bool} {now' : ℤ} {tr : List (Witnessed Unit Bool)}
    {r : Except Failure (Option TriggerSignal)}
    (h : respond (wait slow text signal) w now' = some (tr, r, w'))
    (hin : inTime w signal now' = true) : Timely slow signal w tr := by
  rintro s hs tr₁ tr₂ state w₁ rfl hpoll - - ev hev
  have hfirst : tr₁.map Prod.snd <+: (tr₁ ++ tr₂).map Prod.snd := by
    rw [List.map_append]
    exact List.prefix_append _ _
  have hexec : respond (pollRuntime slow) w now' = some (tr₁, .ok state, w₁) :=
    Prog.exec_of_run hpoll (hfirst.trans (Prog.exec_uses h))
  rw [Option.mem_def] at hs hev
  simpa [inTime, hexec, hs, hev] using hin

theorem shows_ok {α : Type} {a : PortAnswer} {r : Except Failure α} {read : α → Prop}
    (hraises : a.raises = none) (hr : ∀ v, r = .ok v → read v) (hok : r.toOption.isSome = true) :
    a.Shows r read := by
  cases r with
  | ok v => exact ⟨hraises, hr v rfl⟩
  | error f => cases hok

theorem timekept_timekeep {k k' : Chronicle Bool} {x : EpisodeCall × PortAnswer} {now' : ℤ}
    (h : timekept strict k x now' signal = some k') :
    timekeep slow text (strict = true) k x k' := by
  obtain ⟨l, a⟩ := x
  have hother : l.ofController = false → k.now ≤ now' ∧ answers k (l, a) now' = true →
      k' = { k.noted l with now := now' } → timekeep slow text (strict = true) k (l, a) k' := by
    rintro hl ⟨hle, hanswers⟩ rfl
    have hworld : (k.noted l).world = k.world := by cases l <;> rfl
    refine ⟨.other hl (congrArg World.takeover hworld) hle ?_ ?_, rfl⟩
    · rintro site rfl -
      exact of_decide_eq_true hanswers
    · rintro rfl -
      exact Option.isNone_iff_eq_none.1 hanswers
  cases l with
  | recordingStartedHook started =>
    obtain ⟨⟨tr, r, w⟩, hexec, h⟩ := Option.bind_eq_some_iff.1 h
    dsimp only at h
    split at h
    · rename_i hall
      cases h
      obtain ⟨hrun, hserved⟩ := respond_run hexec hall.2.2.2 hall.2.2.1
      exact ⟨.start hrun hserved (shows_ok hall.2.1 (fun _ _ => trivial) hall.1), rfl⟩
    · cases h
  | recordingStoppingHook stopping =>
    obtain ⟨⟨tr, r, w⟩, hexec, h⟩ := Option.bind_eq_some_iff.1 h
    dsimp only at h
    split at h
    · rename_i hall
      cases h
      obtain ⟨hrun, hserved⟩ := respond_run hexec hall.2.2.2 hall.2.2.1
      exact ⟨.stop hrun hserved (shows_ok hall.2.1 (fun _ _ => trivial) hall.1)
        fun _ hrecovers => absurd hrecovers (not_recovers hexec), rfl⟩
    · cases h
  | triggerWait site =>
    obtain ⟨⟨tr, r, w⟩, hexec, h⟩ := Option.bind_eq_some_iff.1 h
    dsimp only at h
    split at h
    · rename_i hall
      cases h
      obtain ⟨hrun, hserved⟩ := respond_run hexec hall.2.2.2.1 hall.2.2.1
      refine ⟨.wait le_rfl hall.2.2.2.2.1 hrun hserved (shows_ok hall.2.1 (fun v hv => ?_) ?_)
        (fun hstrict => timely_of_inTime hexec (hall.2.2.2.2.2 hstrict)), rfl⟩
      · have heq := hall.1
        rw [hv] at heq
        exact (Option.some.inj heq).symm
      · rw [hall.1]
        rfl
    · cases h
  | _ =>
    dsimp only [timekept] at h
    split at h
    · rename_i hall
      cases h
      exact hother rfl hall rfl
    · cases h

theorem timekeptAll_served {k k' : Chronicle Bool} {tr : List ((EpisodeCall × PortAnswer) × Turn)}
    (h : timekeptAll strict k tr = some k') :
    Served (timekeep slow text (strict = true)) k (tr.map Prod.fst) k' := by
  induction tr generalizing k with
  | nil =>
    cases h
    exact .nil _
  | cons x tr ih =>
    obtain ⟨k₁, hx, htr⟩ := Option.bind_eq_some_iff.1 h
    exact .cons (timekept_timekeep hx) (ih htr)

theorem activate_detail :
    TriggerEvent.activate = .fail → ∃ text, (none : Option String) = some text ∧ text ≠ "" := by
  simp

theorem activate_plain : TriggerEvent.activate ≠ .fail → (none : Option String) = none :=
  fun _ => rfl

/-- The pedal ends the wait at the time `ns`. -/
def pressed (ns : ℕ) : PortAnswer :=
  { signal := some ⟨.activate, ns, none, Int.natCast_nonneg ns, activate_detail, activate_plain⟩ }

/-- Calls that return nothing. -/
def silent (n : ℕ) (now : ℤ) : List Turn := List.replicate n { now := now }

/-- The Episode starts at the time 1, and its hook returns at the time 2. -/
def started : List Turn :=
  silent 2 0 ++ [{ answer := pressed 0, now := 0, signal := pedal .recordToggle 0 }] ++
    silent 2 0 ++ [{ answer := prepared, now := 0 }] ++ silent 1 0 ++
    [{ answer := { monotonicNs := 1 }, now := 1 }] ++ silent 3 1 ++ silent 1 2 ++ silent 1 3

/-- The pedal is pressed at the time 5, and the poll makes the policy active at the time 6. -/
def late : List Turn :=
  started ++ silent 1 5 ++ [{ answer := pressed 5, now := 6, signal := pedal .recordToggle 5 }] ++
    silent 12 7

/-- The policy is active from the time 6 on.  The operator takes over at the time 7, and ends the
Episode at the time 11; each pedal is answered a little later. -/
def handover : List Turn :=
  started ++ silent 1 5 ++ silent 1 6 ++ silent 1 8 ++
    [{ now := 9, signal := pedal .ownershipToggle 7 }] ++ silent 2 10 ++ silent 1 12 ++
    [{ answer := pressed 11, now := 13, signal := pedal .recordToggle 11 }] ++ silent 12 14

/-- What was committed: the durations, and the segments. -/
def stored (strict ready : Bool) (n : ℕ) (session : List Turn) :
    Option (List (ℚ × List SegmentData)) :=
  ((runtime.session n [request]).exec (session.map Turn.answer) .ready).bind fun x =>
    (timekeptAll strict { world := ⟨{}, ready⟩, now := 0 } (x.1.zip session)).map
      fun k => k.commits.map fun c => (c.durationS, c.segments.map ControlSegment.data)

theorem run_of_stored {ready : Bool} {n : ℕ} {session : List Turn}
    {commits : List (ℚ × List SegmentData)} (h : stored strict ready n session = some commits) :
    ∃ tr r s' k, (runtime.session n [request]).Run .ready tr r s' ∧
      Served (timekeep slow text (strict = true)) { world := ⟨{}, ready⟩, now := 0 } tr k ∧
      k.commits.map (fun c => (c.durationS, c.segments.map ControlSegment.data)) = commits := by
  obtain ⟨⟨tr, r, s'⟩, hexec, h⟩ := Option.bind_eq_some_iff.1 h
  obtain ⟨k, hkept, hcommits⟩ := Option.map_eq_some_iff.1 h
  have hserved := timekeptAll_served hkept
  rw [List.map_fst_zip (by simpa using Prog.exec_length hexec)] at hserved
  exact ⟨tr, r, s', k, Prog.run_of_exec hexec, hserved, hcommits⟩

end Chronicle.Station

open Chronicle.Station in
/-- The operator takes over and ends the Episode: the segments of the policy and of the operator lie
between their events, within the Episode of ten nanoseconds. -/
theorem chronicle_of_timely_stored : ∃ tr r s' k,
    (runtime.session 4 [Episode.Station.request]).Run .ready tr r s' ∧
      Served (timekeep slow text True) { world := ⟨{}, false⟩, now := 0 } tr k ∧
      k.commits.map (fun c => (c.durationS, c.segments.map ControlSegment.data)) =
        [(1 / 100000000, [⟨.model, 1 / 200000000, 3 / 500000000, none⟩,
          ⟨.human, 1 / 125000000, 1 / 100000000, some 1⟩])] ∧ k.Timed := by
  obtain ⟨tr, r, s', k, hrun, hserved, hcommits⟩ := run_of_stored (show
    stored true false 4 handover =
      some [(1 / 100000000, [⟨.model, 1 / 200000000, 3 / 500000000, none⟩,
        ⟨.human, 1 / 125000000, 1 / 100000000, some 1⟩])] by decide +kernel)
  have hstrict : (true = true) = True := eq_self true
  rw [hstrict] at hserved
  refine ⟨tr, r, s', k, hrun, hserved, hcommits, ?_⟩
  exact chronicle_of_timely slow text runtime rfl rfl rfl 4 _ .ready false 0 tr r s' k hrun hserved

open Chronicle.Station in
/-- The policy becomes active after the pedal was pressed, and its segment ends after the
Episode. -/
theorem chronicle_late :
    ¬ (runtime.session 1 [Episode.Station.request]).Under (timekeep slow text False) .ready
      { world := ⟨{}, false⟩, now := 0 } fun _ _ k => k.Timed := by
  intro h
  obtain ⟨tr, r, s', k, hrun, hserved, hcommits⟩ := run_of_stored (show stored false false 1 late =
    some [(1 / 250000000, [⟨.model, 1 / 200000000, 1 / 200000000, none⟩])] by decide +kernel)
  have hstrict : (false = true) = False := by simp
  rw [hstrict] at hserved
  obtain ⟨c, hc, heq⟩ := List.map_eq_singleton_iff.1 hcommits
  have htimed : c.Timed :=
    (h tr r s' k hrun hserved).commits c (by rw [hc]; exact List.mem_singleton_self c)
  obtain ⟨hduration, hsegments⟩ := Prod.mk.inj heq
  obtain ⟨segment, hsegment, hdata⟩ := List.map_eq_singleton_iff.1 hsegments
  have hended := (htimed.within segment (by rw [hsegment]; exact List.mem_singleton_self segment)).2.2
  have hends : segment.endedOffsetS = 1 / 200000000 := congrArg SegmentData.endedOffsetS hdata
  rw [hduration, hends] at hended
  norm_num at hended

end DualCollection
