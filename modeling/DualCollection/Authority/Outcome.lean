import DualCollection.Authority.Held
import DualCollection.Episode.Discipline

/-!
# The outcome of a faulted Episode

The runtime of a takeover Session: the controller's `start_episode` and `stop_episode` are the hooks
of `EpisodeRuntime`, and `TakeoverRecordTrigger` is its trigger.  `supervise` says what the runtime's
calls do to the controller; beside it stand what the controller has emitted since the Episode
started, and what the store was told to commit.

An Episode during which the controller has emitted `FAULT_HOLD` must not be stored as a success
(`docs/dagger/requirements.md`).  The trigger sees to it: it ends a faulted Episode before it looks
at the pedals.  What it cannot see is a fault of the stop hook itself, at whose time the outcome is
fixed.  `faulted_not_success` has that nothing else goes wrong; in `faulted_success` the stop hook
recovers from a fault, and the Episode is stored as a success.
-/

namespace DualCollection

open Thread

/-- The calls that are answered by the controller or its trigger. -/
def EpisodeCall.ofController : EpisodeCall → Bool
  | .recordingStartedHook _ | .recordingStoppingHook _ | .triggerWait _ => true
  | _ => false

/-- The outcome with which the store is told to commit. -/
def EpisodeCall.outcome : EpisodeCall → Option EpisodeOutcome
  | .storeCommit _ outcome => some outcome
  | _ => none

/-- A controller under the runtime. -/
structure Supervision (G : Type) where
  /-- The controller and its gateway. -/
  world : World G
  /-- How many events had been emitted when the Episode started. -/
  before : ℕ := 0
  /-- The outcomes with which the store was told to commit, and the events of these Episodes. -/
  commits : List (EpisodeOutcome × List AuthorityEvent) := []

namespace Supervision

variable {G : Type} (k : Supervision G)

/-- What the controller has emitted, newest first. -/
def events : List AuthorityEvent := k.world.takeover.timeline.events

/-- What it has emitted since the Episode started. -/
def episode : List AuthorityEvent := k.events.take (k.events.length - k.before)

/-- No Episode with `FAULT_HOLD` was committed as a success. -/
def Clean : Prop := ∀ c ∈ k.commits, c.1 = .success → ∀ ev ∈ c.2, ev.eventType ≠ .faultHold

end Supervision

section Supervise

open Takeover (Program Witnessed startEpisode stopEpisode wait alongside Recovers Held Unfaulted)

variable {L G : Type}

/-- What the caller of the controller sees of an outcome. -/
def PortAnswer.Shows {α : Type} (a : PortAnswer) (r : Except Failure α) (read : α → Prop) : Prop :=
  match r with
  | .ok v => a.raises = none ∧ read v
  | .error f => ∃ err, a.raises = some err ∧ err.cls = f.error.cls

/-- A call of the controller runs its program among the other threads. -/
def Answered {α : Type} (p : Program L G α) (admits : List (Witnessed L G) → Prop)
    (read : α → Prop) (w : World G) (a : PortAnswer) (w' : World G) : Prop :=
  ∃ tr r, p.among.Run w tr r w' ∧ Served alongside () tr () ∧ admits tr ∧ a.Shows r read

/-- What a call of the runtime does to the controller; `admits` restricts the stop hooks that are
considered. -/
inductive Controls (gw : CommandGateway L G) (text : AuthorityReason → String)
    (admits : RecordingStopping → World G → List (Witnessed L G) → Prop) :
    EpisodeCall → PortAnswer → World G → World G → Prop
  | start {started : RecordingStarted} {a : PortAnswer} {w w' : World G}
    (h : Answered (startEpisode gw started) (fun _ => True) (fun _ => True) w a w') :
    Controls gw text admits (.recordingStartedHook started) a w w'
  | stop {stopping : RecordingStopping} {a : PortAnswer} {w w' : World G}
    (h : Answered (stopEpisode gw stopping) (admits stopping w) (fun _ => True) w a w') :
    Controls gw text admits (.recordingStoppingHook stopping) a w w'
  /-- The pedals raise. -/
  | pedals {site : WaitSite} {a : PortAnswer} {w w' : World G} (h : a.raises ≠ none)
    (ht : w'.takeover = w.takeover) : Controls gw text admits (.triggerWait site) a w w'
  | wait {site : WaitSite} {a : PortAnswer} {w w' : World G} (signal : Option DaggerTriggerSignal)
    (h : Answered (wait gw text signal) (fun _ => True) (fun s => a.signal = s) w a w') :
    Controls gw text admits (.triggerWait site) a w w'
  | other {l : EpisodeCall} {a : PortAnswer} {w w' : World G} (hl : l.ofController = false)
    (ht : w'.takeover = w.takeover) : Controls gw text admits l a w w'

/-- What a call of the runtime does, with the notes beside it. -/
structure supervise (gw : CommandGateway L G) (text : AuthorityReason → String)
    (admits : RecordingStopping → World G → List (Witnessed L G) → Prop) (k : Supervision G)
    (x : EpisodeCall × PortAnswer) (k' : Supervision G) : Prop where
  /-- What it does to the controller. -/
  world : Controls gw text admits x.1 x.2 k.world k'.world
  /-- The Episode starts with the hook. -/
  before : k'.before = match x.1 with
    | .recordingStartedHook _ => k.events.length
    | _ => k.before
  /-- What the store is told. -/
  commits : k'.commits = (x.1.outcome.map fun outcome => (outcome, k.episode)).toList ++ k.commits

/-- The stop hook of an Episode that ends as a success does not recover from a fault. -/
def Lasting (gw : CommandGateway L G) (stopping : RecordingStopping) (w : World G)
    (tr : List (Witnessed L G)) : Prop :=
  stopping.outcome = .success → ¬ Recovers gw w tr

/-! ### The runs of the runtime -/

variable {gw : CommandGateway L G} {text : AuthorityReason → String}
  {admits : RecordingStopping → World G → List (Witnessed L G) → Prop} {k k' : Supervision G}
  {l : EpisodeCall} {a : PortAnswer} {rt : EpisodeRuntime} {s : EpisodeState}

namespace Supervision

/-- The notes and the controller's attributes are the same. -/
structure Same (k k' : Supervision G) : Prop where
  /-- The attributes of the controller. -/
  takeover : k'.world.takeover = k.world.takeover
  /-- The start of the Episode. -/
  before : k'.before = k.before
  /-- What was committed. -/
  commits : k'.commits = k.commits

theorem Same.episode (h : Same k k') : k'.episode = k.episode := by
  unfold Supervision.episode events
  rw [h.takeover, h.before]

theorem Same.clean (h : Same k k') (hk : k.Clean) : k'.Clean := by
  unfold Clean
  rw [h.commits]
  exact hk

/-- While the Episode is recorded, a fault is held. -/
structure Recording (k : Supervision G) : Prop where
  /-- Earlier Episodes. -/
  clean : k.Clean
  /-- What was emitted since the Episode started. -/
  held : ∃ before : List AuthorityEvent, before.length = k.before ∧ Held before k.world.takeover

/-- The recording has ended as it should: a success is not faulted. -/
structure Decided (outcome : EpisodeOutcome) (k : Supervision G) : Prop where
  /-- Earlier Episodes. -/
  clean : k.Clean
  /-- A success is not faulted. -/
  unfaulted : outcome = .success → ∀ ev ∈ k.episode, ev.eventType ≠ .faultHold

theorem Recording.same (h : k.Recording) (hs : Same k k') : k'.Recording where
  clean := hs.clean h.clean
  held := by rw [hs.takeover, hs.before]; exact h.held

theorem Decided.same {outcome : EpisodeOutcome} (h : k.Decided outcome) (hs : Same k k') :
    k'.Decided outcome where
  clean := hs.clean h.clean
  unfaulted := by rw [hs.episode]; exact h.unfaulted

theorem episode_of_append {new before : List AuthorityEvent} (h : k.events = new ++ before)
    (hbefore : before.length = k.before) : k.episode = new := by
  rw [episode, h, ← hbefore, List.length_append, Nat.add_sub_cancel, List.take_left]

/-- Where no fault is held, none was emitted. -/
theorem Recording.decided (h : k.Recording) {outcome : EpisodeOutcome}
    (hfree : outcome = .success → k.world.takeover.state ≠ .faultHold) : k.Decided outcome where
  clean := h.clean
  unfaulted := by
    obtain ⟨before, hbefore, new, hnew, hheld⟩ := h.held
    rw [episode_of_append hnew hbefore]
    exact fun hsuccess ev hev hfault => hfree hsuccess (hheld ⟨ev, hev, hfault⟩)

end Supervision

open Supervision (Same Recording Decided)

theorem supervise.same (hl : l.ofController = false) (ho : l.outcome = none)
    (h : supervise gw text admits k (l, a) k') : Same k k' where
  takeover := by
    have hw := h.world
    cases hw with
    | other _ ht => exact ht
    | start | stop | pedals | wait => cases hl
  before := by
    have hb := h.before
    cases l with
    | recordingStartedHook => cases hl
    | _ => exact hb
  commits := by
    have hc := h.commits
    rw [ho] at hc
    exact hc

theorem supervise.clean (ho : l.outcome = none) (h : supervise gw text admits k (l, a) k')
    (hk : k.Clean) : k'.Clean := by
  have hc := h.commits
  rw [ho] at hc
  unfold Supervision.Clean
  rw [hc]
  exact hk

/-- The calls that tell the store nothing. -/
abbrev Storeless (l : EpisodeCall) : Prop := l.outcome = none

/-- The calls that neither reach the controller nor tell the store anything. -/
abbrev Elsewhere (l : EpisodeCall) : Prop := l.ofController = false ∧ l.outcome = none

variable {α β : Type}

theorem under_same {q : EpisodeProg α} (hq : q.Only Elsewhere) :
    q.Under (supervise gw text admits) s k fun _ _ k' => Same k k' :=
  Prog.under_only hq (fun _ _ _ _ hl h hs =>
    have h' := hs.same hl.1 hl.2
    ⟨h'.takeover.trans h.takeover, h'.before.trans h.before, h'.commits.trans h.commits⟩)
    ⟨rfl, rfl, rfl⟩

theorem under_clean {q : EpisodeProg α} (hq : q.Only Storeless) (hk : k.Clean) :
    q.Under (supervise gw text admits) s k fun _ _ k' => k'.Clean :=
  Prog.under_only hq (fun _ _ _ _ hl h hs => hs.clean hl h) hk

/-- A part of `run_once` that tells the store nothing. -/
theorem clean_bind {q : EpisodeProg β} {g : β → EpisodeProg α} (hq : q.Only Storeless)
    (hk : k.Clean) (hg : ∀ b s k', k'.Clean →
      (g b).Under (supervise gw text admits) s k' fun _ _ k => k.Clean) :
    (q >>= g).Under (supervise gw text admits) s k fun _ _ k => k.Clean :=
  Prog.under_bind ((under_clean hq hk).mono fun r s' k' h => by
    cases r with
    | error err => exact h
    | ok b => exact hg b s' k' h)

/-- A part of `run_once` that neither reaches the controller nor tells the store anything. -/
theorem Decided.bind {outcome : EpisodeOutcome} {q : EpisodeProg β} {g : β → EpisodeProg α}
    (h : k.Decided outcome) (hq : q.Only Elsewhere) (hg : ∀ b s k', k'.Decided outcome →
      (g b).Under (supervise gw text admits) s k' fun _ _ k => k.Clean) :
    (q >>= g).Under (supervise gw text admits) s k fun _ _ k => k.Clean :=
  Prog.under_bind ((under_same hq).mono fun r s' k' hs => by
    cases r with
    | error err => exact hs.clean h.clean
    | ok b => exact hg b s' k' (h.same hs))

/-! ### The loop -/

theorem waited_recording {site : WaitSite} (h : k.Recording)
    (hs : supervise gw text admits k (.triggerWait site, a) k') :
    k'.Recording ∧ ∀ signal, a.raises = none → a.signal = some signal → signal.event = .activate →
      k'.world.takeover.state ≠ .faultHold := by
  have hclean : k'.Clean := hs.clean rfl h.clean
  have hbefore : k'.before = k.before := hs.before
  obtain ⟨before, hlen, hheld⟩ := h.held
  have hw := hs.world
  cases hw with
  | pedals hne ht =>
    refine ⟨⟨hclean, before, hlen.trans hbefore.symm, by rw [ht]; exact hheld⟩, ?_⟩
    exact fun _ hraises => absurd hraises hne
  | wait signal hwait =>
    obtain ⟨tr, r, hrun, hserved, -, hshows⟩ := hwait
    obtain ⟨hheld', hfree⟩ := Takeover.wait_held hheld _ _ _ _ hrun hserved
    refine ⟨⟨hclean, before, hlen.trans hbefore.symm, hheld'⟩, fun signal hraises hsignal => ?_⟩
    cases r with
    | error f =>
      obtain ⟨err, herr, -⟩ := hshows
      rw [hraises] at herr
      cases herr
    | ok v => exact hfree signal (by rw [← hshows.2, hsignal])
  | other hl => cases hl

/-- What `_wait_for_end` promises. -/
def Ended (r : Except PyError Ending) (k : Supervision G) : Prop :=
  k.Clean ∧ ∀ ending, r = .ok ending → k.Decided ending.outcome

/-- What a round of the loop promises. -/
def Rounded (r : Except PyError (Option Ending)) (k : Supervision G) : Prop :=
  k.Recording ∧ ∀ ending, r = .ok (some ending) → k.Decided ending.outcome

theorem Recording.round {r : Except PyError (Option Ending)} (h : k.Recording)
    (hsuccess : ∀ ending, r = .ok (some ending) → ending.outcome = .success →
      k.world.takeover.state ≠ .faultHold) : Rounded r k :=
  ⟨h, fun ending hr => h.decided (hsuccess ending hr)⟩

theorem endingOf_under {signal : TriggerSignal} (h : k.Recording)
    (hfree : signal.event = .activate → k.world.takeover.state ≠ .faultHold) :
    (EpisodeRuntime.endingOf signal).Under (supervise gw text admits) s k fun r _ k' =>
      Rounded r k' := by
  unfold EpisodeRuntime.endingOf
  cases hevent : signal.event with
  | activate => exact Prog.under_pure (Recording.round h fun _ _ _ => hfree hevent)
  | abort | taskFail =>
    refine Prog.under_pure (Recording.round h ?_)
    rintro ending ⟨⟩ hsuccess
    cases hsuccess
  | fail =>
    cases signal.detail with
    | none => exact Prog.under_raise (Recording.round h (by simp))
    | some detail =>
      refine Prog.under_pure (Recording.round h ?_)
      rintro ending ⟨⟩ hsuccess
      cases hsuccess
  | conflict => exact Prog.under_pure (Recording.round h (by simp))

theorem endRound_under (h : k.Recording) :
    rt.endRound.Under (supervise gw text admits) s k fun r _ k' => Rounded r k' := by
  unfold EpisodeRuntime.endRound
  refine Prog.under_bind ((under_same (only_callIf ⟨rfl, rfl⟩)).mono fun r s₁ k₁ hs₁ => ?_)
  have h₁ := h.same hs₁
  cases r with
  | error err => exact Recording.round h₁ (by simp)
  | ok u =>
    refine Prog.under_bind (under_port (fun a k₂ _ hs₂ => ?_) fun a err k₂ _ hs₂ => ?_)
    · have h₂ := h₁.same (hs₂.same rfl rfl)
      cases a.failure with
      | some failure =>
        refine Prog.under_bind ((under_same (Prog.only_atomic ⟨rfl, rfl⟩)).mono
          fun r s₃ k₃ hs₃ => ?_)
        have h₃ := h₂.same hs₃
        cases r with
        | error err => exact Recording.round h₃ (by simp)
        | ok ns =>
          refine Prog.under_pure (Recording.round h₃ ?_)
          rintro ending ⟨⟩ hsuccess
          cases hsuccess
      | none =>
        refine Prog.under_bind (under_port (fun a k₃ hraises hs₃ => ?_) fun a err k₃ _ hs₃ => ?_)
        · obtain ⟨h₃, hfree⟩ := waited_recording h₂ hs₃
          cases hsignal : a.signal with
          | none => exact Prog.under_pure (Recording.round h₃ (by simp))
          | some signal => exact endingOf_under h₃ (hfree signal hraises hsignal)
        · exact Recording.round (waited_recording h₂ hs₃).1 (by simp)
    · exact Recording.round (h₁.same (hs₂.same rfl rfl)) (by simp)

theorem endHandler_under {err : PyError} (h : k.Recording) :
    (EpisodeRuntime.endHandler err).Under (supervise gw text admits) s k fun r _ k' =>
      Ended r k' := by
  have hclock : ∀ site outcome errors blocked, outcome ≠ .success →
      (do
        let stoppingNs ← EpisodeRuntime.monotonicNs site
        pure ⟨outcome, errors, stoppingNs, blocked⟩ : EpisodeProg Ending).Under
        (supervise gw text admits) s k fun r _ k' => Ended r k' := by
    intro site outcome errors blocked hne
    refine Prog.under_bind ((under_same (Prog.only_atomic ⟨rfl, rfl⟩)).mono fun r s₁ k₁ hs₁ => ?_)
    have h₁ := h.same hs₁
    cases r with
    | error err => exact ⟨h₁.clean, by simp⟩
    | ok ns =>
      refine Prog.under_pure ⟨h₁.clean, ?_⟩
      rintro ending ⟨⟩
      exact h₁.decided fun hsuccess => absurd hsuccess hne
  unfold EpisodeRuntime.endHandler
  split_ifs
  · exact hclock _ _ _ _ (by decide)
  · exact hclock _ _ _ _ (by decide)
  · exact Prog.under_raise ⟨h.clean, by simp⟩

theorem waitForEnd_under {n : ℕ} (h : k.Recording) :
    (rt.waitForEnd n).Under (supervise gw text admits) s k fun r _ k' => Ended r k' := by
  unfold EpisodeRuntime.waitForEnd
  refine Prog.under_bind ((under_same (Prog.only_atomic ⟨rfl, rfl⟩)).mono fun r s₁ k₁ hs₁ => ?_)
  have h₁ := h.same hs₁
  cases r with
  | error err => exact ⟨h₁.clean, by simp⟩
  | ok u =>
    have hloop : (Prog.loop n rt.endRound).Under (supervise gw text admits) s₁ k₁ fun r _ k' =>
        k'.Recording ∧ ∀ ending, r = .ok ending → k'.Decided ending.outcome := by
      refine Prog.under_loop (J := fun _ => Recording) h₁ fun s k hk =>
        (endRound_under hk).mono fun r s₂ k₂ h₂ => ?_
      match r with
      | .ok (some ending) => exact ⟨h₂.1, fun _ hr => h₂.2 _ (by rw [Except.ok.inj hr])⟩
      | .ok none => exact h₂.1
      | .error err => exact ⟨h₂.1, by simp⟩
    have hcaught : (Prog.tryCatch (Prog.loop n rt.endRound) EpisodeRuntime.endHandler).Under
        (supervise gw text admits) s₁ k₁ fun r _ k' => Ended r k' := by
      refine Prog.under_tryCatch (hloop.mono fun r s₂ k₂ h₂ => ?_)
      cases r with
      | ok ending => exact ⟨h₂.1.clean, h₂.2⟩
      | error err => exact endHandler_under h₂.1
    refine Prog.under_tryFinally (hcaught.mono fun r s₃ k₃ h₃ =>
      (under_same (Prog.only_atomic ⟨rfl, rfl⟩)).mono fun r' s₄ k₄ hs₄ => ?_)
    cases r' with
    | error err => exact ⟨hs₄.clean h₃.1, by simp⟩
    | ok u => exact ⟨hs₄.clean h₃.1, fun ending hr => (h₃.2 ending hr).same hs₄⟩

/-! ### The hooks and the store -/

theorem started_recording {started : RecordingStarted} (h : k.Clean)
    (hs : supervise gw text admits k (.recordingStartedHook started, a) k')
    (hraises : a.raises = none) : k'.Recording := by
  refine ⟨hs.clean rfl h, k.events, hs.before.symm, ?_⟩
  have hw := hs.world
  cases hw with
  | start hstart =>
    obtain ⟨tr, r, hrun, hserved, -, hshows⟩ := hstart
    cases r with
    | ok u => exact Takeover.startEpisode_held _ _ _ _ hrun hserved rfl
    | error f =>
      obtain ⟨err, herr, -⟩ := hshows
      rw [hraises] at herr
      cases herr
  | other hl => cases hl

theorem startController_under {pending : PendingEpisode} {startedNs : ℤ}
    (hhook : rt.recordingStartedHook = true) (h : k.Clean) :
    (rt.startController pending startedNs).Under (supervise gw text admits) s k fun r _ k' =>
      k'.Clean ∧ (r = .ok () → k'.Recording) := by
  have hstop : ∀ (err : PyError) s₁ k₁, k₁.Clean →
      (do let _ ← EpisodeRuntime.stopComponents; .raise err : EpisodeProg Unit).Under
        (supervise gw text admits) s₁ k₁ fun r _ k' => k'.Clean ∧ (r = .ok () → k'.Recording) := by
    intro err s₁ k₁ h₁
    refine Prog.under_bind ((under_clean (EpisodeRuntime.stopComponents_only rfl rfl) h₁).mono
      fun r s₂ k₂ h₂ => ?_)
    cases r with
    | error err => exact ⟨h₂, by simp⟩
    | ok metrics => exact Prog.under_raise ⟨h₂, by simp⟩
  unfold EpisodeRuntime.startController
  rw [if_pos hhook]
  refine Prog.under_tryCatch (Prog.under_andThen (Prog.under_ret ?_))
  cases RecordingStarted.make pending.episodeId startedNs with
  | error err => exact Prog.under_ret (hstop err s k h)
  | ok started =>
    refine under_port (fun a k₁ hraises hs => ?_) fun a err k₁ hraises hs => ?_
    · exact ⟨hs.clean rfl h, fun _ => started_recording h hs hraises⟩
    · exact hstop err s k₁ (hs.clean rfl h)

/-- A stop hook that returns leaves a success unfaulted. -/
theorem stopped_decided {stopping : RecordingStopping} (h : k.Decided stopping.outcome)
    (hs : supervise gw text (Lasting gw) k (.recordingStoppingHook stopping, a) k')
    (hraises : a.raises = none) : k'.Decided stopping.outcome := by
  refine ⟨hs.clean rfl h.clean, fun hsuccess => ?_⟩
  have hw := hs.world
  cases hw with
  | stop hstop =>
    obtain ⟨tr, r, hrun, hserved, hlasting, hshows⟩ := hstop
    cases r with
    | ok u =>
      have hevents : k'.events = k.events :=
        Takeover.stop_events hrun hserved (hlasting hsuccess)
      have hepisode : k'.episode = k.episode := by
        unfold Supervision.episode
        rw [hevents, hs.before]
      rw [hepisode]
      exact h.unfaulted hsuccess
    | error f =>
      obtain ⟨err, herr, -⟩ := hshows
      rw [hraises] at herr
      cases herr
  | other hl => cases hl

theorem stopController_under {ending : Ending} (hhook : rt.recordingStoppingHook = true)
    (h : k.Decided ending.outcome) :
    (rt.stopController ending).Under (supervise gw text (Lasting gw)) s k fun r _ k' =>
      k'.Clean ∧ (r = .ok none → k'.Decided ending.outcome) := by
  unfold EpisodeRuntime.stopController
  rw [if_pos hhook]
  refine Prog.under_tryCatch (Prog.under_andThen (Prog.under_ret ?_))
  cases hmake : RecordingStopping.make ending.outcome ending.stoppingMonotonicNs with
  | error err => exact Prog.under_ret (Prog.under_pure ⟨h.clean, by simp⟩)
  | ok stopping =>
    have houtcome : stopping.outcome = ending.outcome := by
      unfold RecordingStopping.make at hmake
      split_ifs at hmake
      cases hmake
      rfl
    refine Prog.under_bind (under_port (fun a k₁ hraises hs => ?_) fun a err k₁ hraises hs => ?_)
    · have h₁ : k₁.Decided stopping.outcome := stopped_decided (houtcome ▸ h) hs hraises
      exact Prog.under_pure ⟨h₁.clean, fun _ => houtcome ▸ h₁⟩
    · exact Prog.under_pure ⟨hs.clean rfl h.clean, by simp⟩

/-- A success that is committed is unfaulted. -/
theorem stored_clean {pending : PendingEpisode} {outcome : EpisodeOutcome} (h : k.Decided outcome)
    (hs : supervise gw text admits k (.storeCommit pending outcome, a) k') : k'.Clean := by
  unfold Supervision.Clean
  rw [hs.commits]
  intro c hc
  rcases List.mem_cons.1 hc with rfl | hc
  · exact h.unfaulted
  · exact h.clean c hc

theorem finalize_under {request : EpisodeRequest} {pending : PendingEpisode} {startedAt endedAt : ℤ}
    {durationS : ℚ} {ending : Ending} {metrics : List StreamMetrics}
    (h : k.Decided ending.outcome) :
    (rt.finalize request pending startedAt endedAt durationS ending metrics).Under
      (supervise gw text admits) s k fun _ _ k' => k'.Clean := by
  unfold EpisodeRuntime.finalize
  refine Decided.bind h (EpisodeRuntime.finalizationExtensions_only fun _ _ _ => ⟨rfl, rfl⟩)
    fun extensions s₁ k₁ h₁ => ?_
  dsimp only
  split_ifs with hoverlap hid
  · exact Prog.under_raise h₁.clean
  · refine Decided.bind h₁ (Prog.only_atomic ⟨rfl, rfl⟩) fun _ s₂ k₂ h₂ => ?_
    refine Decided.bind h₂ (only_callIf ⟨rfl, rfl⟩) fun _ s₃ k₃ h₃ => ?_
    refine Decided.bind h₃ (Prog.only_atomic ⟨rfl, rfl⟩) fun _ s₄ k₄ h₄ => ?_
    refine Decided.bind h₄ (Prog.only_atomic ⟨rfl, rfl⟩) fun _ s₅ k₅ h₅ => ?_
    refine Prog.under_bind (under_port (fun a k₆ _ hs => ?_) fun a err k₆ _ hs => ?_)
    · exact clean_bind (Prog.only_atomic rfl) (stored_clean h₅ hs) fun _ _ _ h₇ =>
        Prog.under_pure h₇
    · exact stored_clean h₅ hs
  · exact Prog.under_raise h₁.clean

theorem finish_under {request : EpisodeRequest} {pending : PendingEpisode} {startedAt endedAt : ℤ}
    {durationS : ℚ} {ending : Ending} (hhook : rt.recordingStoppingHook = true)
    (h : k.Decided ending.outcome) :
    (rt.finish request pending startedAt endedAt durationS ending).Under
      (supervise gw text (Lasting gw)) s k fun _ _ k' => k'.Clean := by
  unfold EpisodeRuntime.finish
  refine Prog.under_bind ((stopController_under hhook h).mono fun r s₁ k₁ h₁ => ?_)
  cases r with
  | error err => exact h₁.1
  | ok hookError =>
    have hstop : (Prog.tryCatch EpisodeRuntime.stopComponents fun stopError =>
        .raise (hookError.getD stopError)).Only Elsewhere :=
      Prog.only_tryCatch (EpisodeRuntime.stopComponents_only ⟨rfl, rfl⟩ ⟨rfl, rfl⟩) fun _ => trivial
    refine Prog.under_bind ((under_same hstop).mono fun r s₂ k₂ hs₂ => ?_)
    have hclean : k₂.Clean := hs₂.clean h₁.1
    cases r with
    | error err => exact hclean
    | ok metrics =>
      cases hookError with
      | some err => exact Prog.under_raise hclean
      | none => exact finalize_under ((h₁.2 rfl).same hs₂)

theorem record_under {request : EpisodeRequest} {pending : PendingEpisode} {n : ℕ}
    {startedAt startedNs : ℤ} (hstart : rt.recordingStartedHook = true)
    (hstop : rt.recordingStoppingHook = true) (h : k.Clean) :
    (rt.record n request pending startedAt startedNs).Under (supervise gw text (Lasting gw)) s k
      fun _ _ k' => k'.Clean := by
  unfold EpisodeRuntime.record
  refine clean_bind (Prog.only_atomic rfl) h fun _ s₁ k₁ h₁ => ?_
  refine clean_bind (only_callIf rfl) h₁ fun _ s₂ k₂ h₂ => ?_
  refine Prog.under_bind ((startController_under hstart h₂).mono fun r s₃ k₃ h₃ => ?_)
  cases r with
  | error err => exact h₃.1
  | ok u =>
    refine Prog.under_bind ((waitForEnd_under (h₃.2 rfl)).mono fun r s₄ k₄ h₄ => ?_)
    cases r with
    | error err => exact h₄.1
    | ok ending =>
      have hdecided : k₄.Decided ending.outcome := h₄.2 ending rfl
      refine Decided.bind hdecided (Prog.only_atomic ⟨rfl, rfl⟩) fun endedAt s₅ k₅ h₅ => ?_
      refine Decided.bind h₅ (Prog.only_atomic ⟨rfl, rfl⟩) fun _ s₆ k₆ h₆ => ?_
      refine Decided.bind h₆ (only_callIf ⟨rfl, rfl⟩) fun _ s₇ k₇ h₇ => ?_
      exact finish_under hstop h₇

theorem runOnce_under {request : EpisodeRequest} {n : ℕ} (hstart : rt.recordingStartedHook = true)
    (hstop : rt.recordingStoppingHook = true) (h : k.Clean) :
    (rt.runOnce n request).Under (supervise gw text (Lasting gw)) s k fun _ _ k' => k'.Clean := by
  unfold EpisodeRuntime.runOnce
  refine clean_bind (Prog.only_atomic rfl) h fun state s₁ k₁ h₁ => ?_
  split_ifs
  · exact Prog.under_raise h₁
  refine clean_bind (EpisodeRuntime.waitForStart_only rfl rfl rfl) h₁ fun _ s₂ k₂ h₂ => ?_
  refine clean_bind (only_callIf rfl) h₂ fun _ s₃ k₃ h₃ => ?_
  refine clean_bind (Prog.only_atomic rfl) h₃ fun episodeId s₄ k₄ h₄ => ?_
  refine clean_bind (Prog.only_atomic rfl) h₄ fun pending s₅ k₅ h₅ => ?_
  refine clean_bind (Prog.only_atomic rfl) h₅ fun startedAt s₆ k₆ h₆ => ?_
  refine clean_bind (Prog.only_atomic rfl) h₆ fun startedNs s₇ k₇ h₇ => ?_
  refine clean_bind (Prog.only_atomic rfl) h₇ fun _ s₈ k₈ h₈ => ?_
  have hmonitor : (Prog.tryCatch (callPort (.monitorStart request.streams)) fun err => do
      callPort (.backendStop .monitorFailed)
      .raise err).Only Storeless :=
    Prog.only_tryCatch (Prog.only_atomic rfl) fun err =>
      Prog.only_bind (Prog.only_atomic rfl) fun _ => trivial
  exact clean_bind hmonitor h₈ fun _ s₉ k₉ h₉ => record_under hstart hstop h₉

/-- No faulted Episode is committed as a success, in any Session whose stop hooks do not recover
from a fault once the outcome is fixed as a success. -/
theorem faulted_not_success (gw : CommandGateway L G) (text : AuthorityReason → String)
    (rt : EpisodeRuntime) (hstart : rt.recordingStartedHook = true)
    (hstop : rt.recordingStoppingHook = true) (n : ℕ) (requests : List EpisodeRequest)
    (s : EpisodeState) (w : World G) :
    (rt.session n requests).Under (supervise gw text (Lasting gw)) s { world := w }
      fun _ _ k => ∀ c ∈ k.commits, c.1 = .success → ∀ ev ∈ c.2, ev.eventType ≠ .faultHold := by
  suffices h : ∀ s (k : Supervision G), k.Clean →
      (rt.session n requests).Under (supervise gw text (Lasting gw)) s k fun _ _ k' => k'.Clean from
    h s _ fun c hc => by cases hc
  induction requests with
  | nil => exact fun s k h => Prog.under_pure h
  | cons request requests ih =>
    intro s k h
    exact Prog.under_andThen ((runOnce_under hstart hstop h).mono fun _ s₁ k₁ h₁ => ih s₁ k₁ h₁)

end Supervise

namespace Takeover

variable {L G : Type} {gw : CommandGateway L G} {w w' : World G}

theorem ends_perform {α : Type} {l : WorldSection L} {body : Locked Takeover α}
    {Q : List (Witnessed L G) → Except Failure α → World G → Prop}
    (h : ∀ e f, body.Post e (f w).takeover fun r t =>
      Q [(l, e, f)] (markEpoch (f w).takeover.controlEpoch r) ⟨t, (f w).gateway⟩) :
    (perform l body : Program L G α).among.Ends w Q :=
  Prog.ends_atomic fun e => h e.1 e.2

/-- If the gateway does nothing, the release fails only if the arms do not answer. -/
theorem release_raises (hclose : ∀ epoch, gw.closeGate epoch = pure ())
    (hclear : ∀ epoch, gw.clearPending epoch = pure ()) {tr : List (Witnessed L G)} {f : Failure}
    (h : (release gw).among.Run w tr (.error f) w') :
    ∃ x ∈ tr, x.2.1.raises .enableGravityCompensation ≠ none := by
  have hends : (release gw).among.Ends w fun tr r _ =>
      (∃ f, r = .error f) → ∃ x ∈ tr, x.2.1.raises .enableGravityCompensation ≠ none := by
    simp only [release, hclose, hclear]
    rw [Prog.among_bind]
    refine Prog.ends_bind (ends_perform fun e₁ f₁ => ?_)
    rw [Locked.post_get, markEpoch_ok]
    dsimp only
    rw [Prog.among_bind]
    refine Prog.ends_bind (Prog.ends_ret ?_)
    dsimp only
    rw [Prog.among_bind]
    refine Prog.ends_bind (ends_perform fun e₂ f₂ => ?_)
    rw [Locked.post_modify, markEpoch_ok]
    dsimp only
    rw [Prog.among_bind]
    refine Prog.ends_bind (Prog.ends_ret (ends_perform fun e₃ f₃ => ?_))
    rintro ⟨f, hf⟩
    refine ⟨(.gravity, e₃, f₃), by simp, fun hnone => ?_⟩
    rw [Locked.call_run, hnone] at hf
    cases hf
  exact hends tr _ w' h ⟨f, rfl⟩

/-- If the arms answer, then there is nothing to recover from. -/
theorem not_recovers (hclose : ∀ epoch, gw.closeGate epoch = pure ())
    (hclear : ∀ epoch, gw.clearPending epoch = pure ()) {tr : List (Witnessed L G)}
    (harms : ∀ x ∈ tr, x.2.1.raises .enableGravityCompensation = none) : ¬ Recovers gw w tr := by
  intro hrecovers
  cases hrecovers with
  | intro _ hrelease =>
    obtain ⟨x, hx, hraises⟩ := release_raises hclose hclear hrelease
    exact hraises (harms x (List.mem_append_right _ (List.mem_append_left _ hx)))

end Takeover

/-! ### A Session without action output -/

namespace Takeover.Station

open Episode.Station (runtime request pressed prepared)

/-- The texts do not matter here. -/
def text : AuthorityReason → String := fun _ => "fault"

theorem pedal_time : (0 : ℤ) ≤ 2 := by decide

/-- A pedal is pressed. -/
def pedal (event : DaggerTriggerEvent) : DaggerTriggerSignal := ⟨event, 2, pedal_time⟩

/-- A call of the runtime returns. -/
structure Turn where
  /-- What it returns. -/
  answer : PortAnswer := {}
  /-- What the pedals return to a call that waits for a trigger. -/
  signal : Option DaggerTriggerSignal := none
  /-- What the arms answer meanwhile. -/
  arms : List Env := List.replicate 16 {}

/-- Run a program of the controller; the other threads do nothing. -/
def respond {α : Type} (p : Program Empty Unit α) (es : List Env) (w : World Unit) :
    Option (List (Witnessed Empty Unit) × Except Failure α × World Unit) :=
  p.among.exec (es.map fun e => (e, id)) w

theorem respond_answered {α : Type} {p : Program Empty Unit α} {es : List Env} {w w' : World Unit}
    {tr : List (Witnessed Empty Unit)} {v : α} {a : PortAnswer} {read : α → Prop}
    {admits : List (Witnessed Empty Unit) → Prop}
    (h : respond p es w = some (tr, .ok v, w')) (hadmits : (∀ x ∈ tr, x.2.1 ∈ es) → admits tr)
    (hraises : a.raises = none) (hread : read v) : Answered p admits read w a w' := by
  have hmem : ∀ x ∈ tr, x.2.1 ∈ es ∧ x.2.2 = id := by
    intro x hx
    obtain ⟨e, he, heq⟩ := List.mem_map.1 (Prog.exec_answers h x hx)
    rw [← heq]
    exact ⟨he, rfl⟩
  refine ⟨tr, .ok v, Prog.run_of_exec h, ?_, hadmits fun x hx => (hmem x hx).1, hraises, hread⟩
  clear h hadmits
  induction tr with
  | nil => exact .nil _
  | cons x tr ih =>
    refine .cons (fun w => ?_) (ih fun y hy => hmem y (List.mem_cons_of_mem _ hy))
    rw [(hmem x List.mem_cons_self).2]
    rfl

/-- What the controller does for a call of the runtime; `stop` are the answers of the stop hook. -/
def supervised (stop : List Env) (k : Supervision Unit) :
    EpisodeCall × PortAnswer → Turn → Option (Supervision Unit)
  | (.recordingStartedHook started, a), _ =>
    (respond (startEpisode noActionGateway started) (List.replicate 8 {}) k.world).bind fun x =>
      match x.2.1 with
      | .ok _ => if a.raises = none then
          some { k with world := x.2.2, before := k.events.length } else none
      | .error _ => none
  | (.recordingStoppingHook stopping, a), _ =>
    (respond (stopEpisode noActionGateway stopping) stop k.world).bind fun x => match x.2.1 with
      | .ok _ => if a.raises = none then some { k with world := x.2.2 } else none
      | .error _ => none
  | (.triggerWait _, a), turn =>
    (respond (wait noActionGateway text turn.signal) turn.arms k.world).bind fun x =>
      match x.2.1 with
      | .ok signal => if a.raises = none ∧ a.signal = signal then
          some { k with world := x.2.2 } else none
      | .error _ => none
  | (.storeCommit _ outcome, _), _ => some { k with commits := (outcome, k.episode) :: k.commits }
  | (_, _), _ => some k

/-- What it does for one call after the other. -/
def supervisedAll (stop : List Env) :
    Supervision Unit → List ((EpisodeCall × PortAnswer) × Turn) → Option (Supervision Unit)
  | k, [] => some k
  | k, x :: tr => (supervised stop k x.1 x.2).bind fun k' => supervisedAll stop k' tr

variable {stop : List Env}
  {admits : RecordingStopping → World Unit → List (Witnessed Empty Unit) → Prop}
  (hadmits : ∀ stopping w tr, (∀ x ∈ tr, x.2.1 ∈ stop) → admits stopping w tr)
include hadmits

theorem supervised_supervise {k k' : Supervision Unit} {x : EpisodeCall × PortAnswer} {turn : Turn}
    (h : supervised stop k x turn = some k') : supervise noActionGateway text admits k x k' := by
  obtain ⟨l, a⟩ := x
  cases l with
  | recordingStartedHook started =>
    obtain ⟨⟨tr, r, w⟩, hexec, h⟩ := Option.bind_eq_some_iff.1 h
    cases r with
    | error f => cases h
    | ok u =>
      dsimp only at h
      split at h
      · rename_i hraises
        cases h
        exact ⟨.start (respond_answered hexec (fun _ => trivial) hraises trivial), rfl, rfl⟩
      · cases h
  | recordingStoppingHook stopping =>
    obtain ⟨⟨tr, r, w⟩, hexec, h⟩ := Option.bind_eq_some_iff.1 h
    cases r with
    | error f => cases h
    | ok u =>
      dsimp only at h
      split at h
      · rename_i hraises
        cases h
        exact ⟨.stop (respond_answered hexec (hadmits _ _ _) hraises trivial), rfl, rfl⟩
      · cases h
  | triggerWait site =>
    obtain ⟨⟨tr, r, w⟩, hexec, h⟩ := Option.bind_eq_some_iff.1 h
    cases r with
    | error f => cases h
    | ok signal =>
      dsimp only at h
      split at h
      · rename_i ha
        cases h
        exact ⟨.wait _ (respond_answered hexec (fun _ => trivial) ha.1 ha.2), rfl, rfl⟩
      · cases h
  | storeCommit pending outcome =>
    cases h
    exact ⟨.other rfl rfl, rfl, rfl⟩
  | _ =>
    cases h
    exact ⟨.other rfl rfl, rfl, rfl⟩

theorem supervisedAll_served {k k' : Supervision Unit}
    {tr : List ((EpisodeCall × PortAnswer) × Turn)} (h : supervisedAll stop k tr = some k') :
    Served (supervise noActionGateway text admits) k (tr.map Prod.fst) k' := by
  induction tr generalizing k with
  | nil =>
    cases h
    exact .nil _
  | cons x tr ih =>
    obtain ⟨k₁, hx, htr⟩ := Option.bind_eq_some_iff.1 h
    exact .cons (supervised_supervise hadmits hx) (ih htr)

omit hadmits

/-- Calls that return nothing. -/
def silent (n : ℕ) : List Turn := List.replicate n {}

/-- The Episode starts, and the runtime waits for its end. -/
def started : List Turn :=
  silent 2 ++ [{ answer := pressed, signal := pedal .recordToggle }] ++ silent 2 ++
    [{ answer := prepared }] ++ silent 8

/-- The Episode is recorded and committed as a success. -/
def success : List Turn :=
  started ++ [{ answer := pressed, signal := pedal .recordToggle }] ++ silent 11

/-- The arms do not answer after `n` sections, and then they do. -/
def unanswered (n : ℕ) : List Env :=
  List.replicate n ({} : Env) ++
    { raises := fun _ => some ⟨.runtimeError, "no answer"⟩ } :: List.replicate 12 ({} : Env)

theorem fault_detail :
    TriggerEvent.fail = .fail → ∃ detail, some "fault" = some detail ∧ detail ≠ "" :=
  fun _ => ⟨"fault", rfl, by decide⟩

theorem fault_plain : TriggerEvent.fail ≠ .fail → some "fault" = none := fun h => absurd rfl h

theorem fault_time : (0 : ℤ) ≤ 0 := le_rfl

/-- The trigger reports a fault. -/
def faulted : PortAnswer :=
  { signal := some ⟨.fail, 0, some "fault", fault_time, fault_detail, fault_plain⟩ }

/-- The operator takes over, and the arms do not answer. -/
def unansweredTakeover : List Turn :=
  started ++ [{ answer := faulted, signal := pedal .ownershipToggle, arms := unanswered 8 }] ++
    silent 11

/-- What was committed. -/
def stored (stop : List Env) (requests : List EpisodeRequest) (session : List Turn) :
    Option (List (EpisodeOutcome × List AuthorityEventType)) :=
  ((runtime.session 1 requests).exec (session.map Turn.answer) .ready).bind fun x =>
    (supervisedAll stop { world := ⟨{}, ()⟩ } (x.1.zip session)).map fun k =>
      k.commits.map fun c => (c.1, c.2.map AuthorityEvent.eventType)

theorem run_of_stored (hadmits : ∀ stopping w tr, (∀ x ∈ tr, x.2.1 ∈ stop) → admits stopping w tr)
    {requests : List EpisodeRequest} {session : List Turn}
    {commits : List (EpisodeOutcome × List AuthorityEventType)}
    (h : stored stop requests session = some commits) :
    ∃ tr r s' k, (runtime.session 1 requests).Run .ready tr r s' ∧
      Served (supervise noActionGateway text admits) { world := ⟨{}, ()⟩ } tr k ∧
      k.commits.map (fun c => (c.1, c.2.map AuthorityEvent.eventType)) = commits := by
  obtain ⟨⟨tr, r, s'⟩, hexec, h⟩ := Option.bind_eq_some_iff.1 h
  obtain ⟨k, hkept, hcommits⟩ := Option.map_eq_some_iff.1 h
  have hserved := supervisedAll_served hadmits hkept
  rw [List.map_fst_zip (by simpa using Prog.exec_length hexec)] at hserved
  exact ⟨tr, r, s', k, Prog.run_of_exec hexec, hserved, hcommits⟩

end Takeover.Station

open Takeover.Station in
/-- An Episode with a fault is committed as a failure, and the next one as a success. -/
theorem faulted_not_success_stored : ∃ tr r s' k,
    (Episode.Station.runtime.session 1 [Episode.Station.request, Episode.Station.request]).Run
        .ready tr r s' ∧
      Served (supervise noActionGateway text (Lasting noActionGateway)) { world := ⟨{}, ()⟩ } tr k ∧
      k.commits.map (fun c => (c.1, c.2.map AuthorityEvent.eventType)) =
        [(.success, [.policyActive]), (.fail, [.faultHold, .takeoverRequested, .policyActive])] ∧
      ∀ c ∈ k.commits, c.1 = .success → ∀ ev ∈ c.2, ev.eventType ≠ .faultHold := by
  have hlasting : ∀ stopping w tr, (∀ x ∈ tr, x.2.1 ∈ List.replicate 8 ({} : Env)) →
      Lasting noActionGateway stopping w tr := by
    rintro stopping w tr hanswers -
    refine Takeover.not_recovers (fun _ => rfl) (fun _ => rfl) fun x hx => ?_
    rw [List.eq_of_mem_replicate (hanswers x hx)]
  obtain ⟨tr, r, s', k, hrun, hserved, hcommits⟩ := run_of_stored hlasting
    (show stored _ [Episode.Station.request, Episode.Station.request]
        (unansweredTakeover ++ success) =
      some [(.success, [.policyActive]), (.fail, [.faultHold, .takeoverRequested, .policyActive])]
      by decide +kernel)
  refine ⟨tr, r, s', k, hrun, hserved, hcommits, ?_⟩
  exact faulted_not_success noActionGateway text _ rfl rfl _ _ _ _ tr r s' k hrun hserved

open Takeover.Station in
/-- The stop hook recovers from a fault, and the Episode is committed as a success. -/
theorem faulted_success :
    ¬ (Episode.Station.runtime.session 1 [Episode.Station.request]).Under
      (supervise noActionGateway text fun _ _ _ => True) .ready { world := ⟨{}, ()⟩ }
      fun _ _ k => ∀ c ∈ k.commits, c.1 = .success → ∀ ev ∈ c.2, ev.eventType ≠ .faultHold := by
  intro h
  have hadmits : ∀ stopping w tr, (∀ x ∈ tr, x.2.1 ∈ unanswered 3) →
      (fun _ _ _ => True : RecordingStopping → World Unit → List (Takeover.Witnessed Empty Unit) →
        Prop) stopping w tr := fun _ _ _ _ => trivial
  obtain ⟨tr, r, s', k, hrun, hserved, hcommits⟩ := run_of_stored hadmits
    (show stored _ [Episode.Station.request] success =
      some [(.success, [.faultHold, .policyActive])] by decide +kernel)
  have hk := h tr r s' k hrun hserved
  obtain ⟨c, hc, heq⟩ : ∃ c ∈ k.commits, (c.1, c.2.map AuthorityEvent.eventType) =
      (.success, [.faultHold, .policyActive]) := List.mem_map.1 (by rw [hcommits]; simp)
  obtain ⟨hsuccess, hevents⟩ := Prod.mk.inj heq
  obtain ⟨ev, hev, hfault⟩ : ∃ ev ∈ c.2, ev.eventType = .faultHold :=
    List.mem_map.1 (by rw [hevents]; simp)
  exact hk c hc hsuccess ev hev hfault

end DualCollection
