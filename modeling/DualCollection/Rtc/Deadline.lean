import DualCollection.Expo.Settings
import DualCollection.Rtc.Pace

/-!
# The deadline of a request

The settings compare the time that a request may take, and the margin for submitting it, with the
time that the window still covers when the request is submitted: `max_delay_steps` commands.  The
scheduler counts commands and not seconds, so the comparison says something about it only through
the schedule: `Ahead` ties the time at which the request in flight was submitted to
`_next_command_s` and to the commands that were issued since.

`deadline_rules_out_underrun` is the consequence.  If every request is submitted within the margin
after the command that triggered it, and every response is there in time, then the queue is never
found empty.
-/

namespace DualCollection

open Thread Timing

namespace Rtc

/-- The section submitted a request that overlaps with execution, less than `slack` after the
scheduled time of the command that triggered it. -/
def SubmittedWithin (slack : ℚ) (x : Executed Role RtcSection Env Rtc Failure) : Prop :=
  x.before.pending = none → ∀ pending ∈ x.after.pending, pending.bootstrap = false →
    ∀ due ∈ x.before.nextCommandS, pending.submittedAtS < due + slack

instance (slack : ℚ) (x : Executed Role RtcSection Env Rtc Failure) :
    Decidable (SubmittedWithin slack x) := by
  unfold SubmittedWithin
  infer_instance

/-- While the gate is open there is a schedule, and a request in flight was submitted less than
`slack` after the command that triggered it was due: as many periods before the next command as
commands were issued since, and one more. -/
def Ahead (P slack : ℚ) (s : Rtc) : Prop :=
  s.gateOpen = true → ∃ due, s.nextCommandS = some due ∧
    ∀ pending, s.pending = some pending → pending.bootstrap = false →
      pending.submittedAtS + (s.issuedTotal - pending.issuedAtSubmit + 1) * P < due + slack

variable {p : RtcParameters} {P W slack now : ℚ} {s s' : Rtc} {r : Option Failure} {w : ℕ}

theorem Ahead.of_closed (h : s.gateOpen = false) : Ahead P slack s := fun hgate => by
  rw [h] at hgate
  cases hgate

/-- Changes that leave the schedule and the request alone. -/
theorem Ahead.congr (h : Ahead P slack s) (hg : s'.gateOpen = s.gateOpen)
    (hp : s'.pending = s.pending) (hi : s'.issuedTotal = s.issuedTotal)
    (hn : s'.nextCommandS = s.nextCommandS) : Ahead P slack s' := by
  intro hgate
  rw [hg] at hgate
  rw [hp, hi, hn]
  exact h hgate

/-- Every section that does not publish keeps the request ahead of the schedule. -/
theorem Ahead.quiet {l : RtcSection} (h : Ahead P slack s) (hl : l ≠ .publish)
    (hc : Changes p l s r s') : Ahead P slack s' := by
  cases l with
  | closeGate =>
    rcases hc with ⟨-, rfl⟩ | ⟨-, rfl⟩
    · exact h
    · exact .of_closed rfl
  | clearPending e =>
    rcases hc with ⟨-, rfl⟩ | ⟨-, -, rfl⟩
    · exact h
    · exact .of_closed rfl
  | prepare =>
    cases hc with
    | refused hr => rw [hr.2]; exact h
    | identified episodeId hs => exact .of_closed hs.gateOpen
    | submitted episodeId hs => exact .of_closed hs.gateOpen
  | takeFault =>
    rw [hc.2]
    exact h.congr rfl rfl rfl rfl
  | gateCheck =>
    rcases hc with ⟨-, rfl | ⟨hgate, rfl⟩⟩
    · exact h
    · exact .of_closed hgate
  | reject f =>
    rw [hc.2]
    exact .of_closed rfl
  | splice c =>
    cases hc with
    | refused hr => rw [hr.2]; exact h
    | bootstrap nowS => exact fun _ => ⟨nowS, rfl, by rintro _ ⟨⟩⟩
    | overlap =>
      intro hgate
      obtain ⟨due, hdue, -⟩ := h hgate
      exact ⟨due, hdue, by rintro _ ⟨⟩⟩
  | clearFinishing =>
    rw [show s' = _ from hc]
    exact h.congr rfl rfl rfl rfl
  | finished =>
    rw [show s' = _ from hc]
    exact h.congr rfl rfl rfl rfl
  | publish => exact absurd rfl hl
  | fail f =>
    rcases hc with ⟨hgate, -, rfl⟩ | ⟨-, rfl⟩
    · exact .of_closed hgate
    · exact .of_closed rfl
  | complete =>
    obtain ⟨-, future, result, rfl⟩ := hc
    unfold completed
    split
    · exact h.congr rfl rfl rfl rfl
    · exact h
  | checkResponse window snap => rw [hc.2]; exact h
  | beginEpoch | emitReset | poll | clock | finishCheck | acceptRead | stateRead =>
    rw [show s' = s from hc]
    exact h

/-- A command leaves the request as far ahead of the schedule as it was. -/
theorem Ahead.issued (h : Ahead P slack s) {due : ℚ} (hgate : s.gateOpen = true)
    (hdue : s.nextCommandS.getD now = due) (hi : s'.issuedTotal = s.issuedTotal + 1)
    (hn : s'.nextCommandS = some (due + P))
    (hp : ∀ pending', s'.pending = some pending' → ∃ pending, s.pending = some pending ∧
      pending' = { pending with future := pending'.future }) : Ahead P slack s' := by
  intro _
  obtain ⟨d, hd, hlt⟩ := h hgate
  obtain rfl : d = due := by rw [← hdue, hd, Option.getD_some]
  refine ⟨d + P, hn, fun pending' hpending' hb => ?_⟩
  obtain ⟨pending, hpending, hsame⟩ := hp pending' hpending'
  rw [hsame] at hb
  have := hlt pending hpending hb
  rw [hsame, hi]
  push_cast
  linarith

/-- The publishing section keeps the request ahead of the schedule, as long as a new one is
submitted in time. -/
theorem Ahead.publish (h : Ahead P slack s) (hi : Inv p w s) (hc : PublishStep p s r s')
    (hd : Due W P now s s')
    (hs : s.pending = none → ∀ pending ∈ s'.pending, pending.bootstrap = false →
      ∀ due ∈ s.nextCommandS, pending.submittedAtS < due + slack) :
    Ahead P slack s' := by
  cases hd with
  | idle hissued hkept =>
    cases hc with
    | idle | dropped =>
      intro hgate
      obtain ⟨due, hdue, hlt⟩ := h hgate
      exact ⟨due, hkept due hgate hdue, hlt⟩
    | issued | requested | finishing => exact absurd hissued (Nat.succ_ne_self _)
  | issued due hgate hdue _ _ hissued hn =>
    cases hc with
    | idle | dropped => exact absurd hissued (Nat.succ_ne_self _).symm
    | issued => exact h.issued hgate hdue hissued hn fun pending hp => ⟨pending, hp, rfl⟩
    | @requested _ _ _ pending _ _ _ _ _ hprefetch hsubmit hboot =>
      -- the request is new, so that it was submitted right after this command
      intro _
      refine ⟨due + P, hn, fun last hlast hb => ?_⟩
      obtain rfl : pending = last := Option.some.inj hlast
      have hnone : s.pending = none := hi.pending_none hgate (by omega)
      obtain ⟨d, hd, -⟩ := h hgate
      obtain rfl : d = due := by rw [← hdue, hd, Option.getD_some]
      have hlt := hs hnone pending rfl hb d hd
      have hcount : ((s.issuedTotal + 1 : ℕ) : ℚ) = pending.issuedAtSubmit := by rw [hsubmit]
      show pending.submittedAtS + (((s.issuedTotal + 1 : ℕ) : ℚ) - pending.issuedAtSubmit + 1) * P
        < d + P + slack
      rw [hcount]
      linarith
    | @finishing _ _ _ pending _ _ _ _ hp =>
      refine h.issued hgate hdue hissued hn fun last hlast => ⟨pending, hp, ?_⟩
      obtain rfl := Option.some.inj hlast
      rfl

/-- When the queue is empty, the window was exhausted while a request was in flight. -/
theorem Good.exhausted (hg : Good p w s) (hi : Inv p w s) (hw : w = p.safeWindowSteps)
    (hgate : s.gateOpen = true) (hq : s.queue = []) :
    ∃ pending, s.pending = some pending ∧ pending.bootstrap = false ∧
      pending.issuedAtSubmit + p.checkpoint.maxDelaySteps = s.issuedTotal + 1 := by
  have hlen := hg.window_length hi hgate
  have hmax := p.valid.initialDelay
  rw [hq, List.length_nil, hw, RtcParameters.safeWindowSteps,
    RtcRolloutProfile.safeWindowSteps] at hlen
  cases hp : s.pending with
  | none =>
    obtain ⟨a, -, hl⟩ := hg hgate
    have := hl.request hp
    omega
  | some pending =>
    have hb := hi.not_bootstrap hgate hp
    have hover := (hi.overlap pending hp hb).2.2.1
    exact ⟨pending, rfl, hb, by omega⟩

/-- A request that is ahead of the schedule and not late leaves the queue something to issue. -/
theorem Ahead.not_exhausted {T : ℚ} (h : Ahead P slack s) (hg : Good p w s) (hi : Inv p w s)
    (hw : w = p.safeWindowSteps) (hbound : T + slack ≤ p.checkpoint.maxDelaySteps * P)
    (hlate : NotLate T now s) : ¬ Exhausted now s := by
  rintro ⟨hgate, hq, hdue⟩
  obtain ⟨pending, hp, hb, hcount⟩ := hg.exhausted hi hw hgate hq
  obtain ⟨due, hnext, hahead⟩ := h hgate
  have hlt := hahead pending hp hb
  rw [hnext, Option.getD_some] at hdue
  have hnow := hlate pending hp hb
  have hcast : (s.issuedTotal : ℚ) - pending.issuedAtSubmit + 1 = p.checkpoint.maxDelaySteps := by
    have : (pending.issuedAtSubmit : ℚ) + p.checkpoint.maxDelaySteps = s.issuedTotal + 1 := by
      exact_mod_cast hcount
    linarith
  rw [hcast] at hlt
  linarith

/-! ### Runs -/

/-- Along a run in which the requests were submitted in time, the request in flight is ahead of
the schedule, and no publishing section has found the queue empty. -/
structure Supplied (P slack : ℚ) (x : Rtc × Record) : Prop where
  /-- The request in flight is ahead of the schedule. -/
  ahead : Ahead P slack x.1
  /-- The queue was never found empty. -/
  noUnderrun : ∀ y ∈ x.2, y.name = .publish → ∀ f, y.raised = some f → f.error ≠ underrun

theorem supplied_recorded {T : ℚ} (hbound : T + slack ≤ p.checkpoint.maxDelaySteps * p.periodS)
    {c : Config Role RtcSection Env (Rtc × Record) Failure}
    (hc : (system p).recorded.Reachable (fun _ _ e x => Answered T e x.1) (.init (init p, [])) c)
    (hs : ∀ y ∈ c.shared.2, SubmittedWithin slack y) : Supplied p.periodS slack c.shared := by
  have hS := timed_sound p False (some T)
  have h₀ : ((outline p p.safeWindowSteps False).extend
      (timing p (fun _ record => stepClock record) (some T))).inv (init p, ([] : Record)) :=
    ⟨inv_init, trivial⟩
  have hid : ∀ t, ((outline p p.safeWindowSteps False).extend
      (timing p (fun _ record => stepClock record) (some T))).idle t (init p, ([] : Record)) :=
    fun t => ⟨idle_init t, trivial⟩
  refine hS.keeps (J := fun x => (∀ y ∈ x.2, SubmittedWithin slack y) →
    Supplied p.periodS slack x) (fun _ _ _ _ h => ⟨admits_free, ?_⟩) h₀ hid
    (fun _ => ⟨.of_closed rfl, by simp⟩) (fun t sec e x r x' hi hpre _ hg ih hsubmitted => ?_) hc hs
  · rintro bound ⟨⟩
    exact h
  obtain ⟨⟨hchanges, -⟩, e', hrec, hdue⟩ := hg
  rw [hrec] at hsubmitted
  have hih := ih fun y hy => hsubmitted y (List.mem_cons_of_mem _ hy)
  have hnew := hsubmitted _ List.mem_cons_self
  by_cases hsec : sec = .publish
  · subst hsec
    have ht : t = .scheduler := by
      cases t with
      | controller => exact hpre.1.elim
      | scheduler => rfl
      | policy => exact hpre.1.elim
    obtain ⟨hdue, hexhausted⟩ := hdue ht rfl
    refine ⟨hih.ahead.publish hi.1 hchanges hdue hnew, fun y hy hname f hf herr => ?_⟩
    rw [hrec, List.mem_cons] at hy
    rcases hy with rfl | hy
    · have hlate := hpre.2 ht rfl T rfl
      exact hih.ahead.not_exhausted hpre.1.publish hi.1 rfl hbound hlate (hexhausted f hf herr)
    · exact hih.noUnderrun y hy hname f hf herr
  · refine ⟨hih.ahead.quiet hsec hchanges, fun y hy hname => ?_⟩
    rw [hrec, List.mem_cons] at hy
    rcases hy with rfl | hy
    · exact absurd hname hsec
    · exact hih.noUnderrun y hy hname

end Rtc

namespace DaggerCollectorSettings

/-- What the settings guarantee of the timeout and the margin. -/
theorem deadline_bound {payload : PolicyPayload} {settings : DaggerCollectorSettings}
    (hload : load payload = .ok settings) {bootstrapTimeoutS : Option ℚ} {p : RtcParameters}
    (hp : settings.Configured bootstrapTimeoutS p) :
    p.policyWaitTimeoutS + (settings.control.rtcDeadlineMarginS - 1 / 1000000000) ≤
      p.checkpoint.maxDelaySteps * p.periodS := by
  have hchecked := (load_ok_iff.1 hload).2
  have htype : settings.checkpointProfile.policyType = .trainingTimeRtc := by
    rw [← hp.checkpoint]
    exact p.valid.policyType
  have hdeadline := (validateRtcDeadline_ok htype hchecked.deadline).2
  rw [hp.policyWaitTimeoutS, hp.checkpoint, RtcParameters.periodS, hp.checkpoint, mul_one_div]
  rw [hardDeadlineS] at hdeadline
  linarith

end DaggerCollectorSettings

/-- Settings that were loaded rule out that the queue is found empty, if every request is submitted
within the margin after the scheduled time of the command that triggered it, and every response is
there within the timeout. -/
theorem deadline_rules_out_underrun {payload : PolicyPayload} {settings : DaggerCollectorSettings}
    (hload : DaggerCollectorSettings.load payload = .ok settings) {bootstrapTimeoutS : Option ℚ}
    {p : RtcParameters} (hopen : settings.openScheduler bootstrapTimeoutS = .ok p)
    {c : Config Rtc.Role RtcSection Env (Rtc × Rtc.Record) Failure}
    (hc : (Rtc.system p).recorded.Reachable
      (fun _ _ e x => Rtc.Answered p.policyWaitTimeoutS e x.1) (.init (Rtc.init p, [])) c)
    (hs : ∀ y ∈ c.shared.2,
      Rtc.SubmittedWithin (settings.control.rtcDeadlineMarginS - 1 / 1000000000) y) :
    ∀ y ∈ c.shared.2, y.name = .publish → ∀ f, y.raised = some f →
      f.error ≠ .scheduler .queueUnderrun :=
  (Rtc.supplied_recorded (DaggerCollectorSettings.deadline_bound hload
    (DaggerCollectorSettings.openScheduler_ok hopen)) hc hs).noUnderrun

/-! ### A station

The configuration of the EXPO station without its `[expo]`: windows of eight rows, of which the
first four are executed before the next request. -/

namespace Rtc.Station

/-- The configuration. -/
def loaded : PolicyPayload := { Expo.Station.payload 12 with expo := false }

/-- The contract of the settings. -/
def loadedContract (settings : DaggerCollectorSettings) : Pi05JointActionContract :=
  ⟨Expo.Station.sha, settings.grippers, settings.control.safety, settings.gripperActionOffset⟩

/-- What `openScheduler` makes of the settings. -/
def loadedScheduler (settings : DaggerCollectorSettings) : Except String RtcParameters :=
  match settings.rtcRollout with
  | none => .error "RTC checkpoint has no rollout profile"
  | some rollout =>
    RtcParameters.create (loadedContract settings) settings.checkpointProfile rollout
      settings.control.policyWaitTimeoutS settings.control.commandWatchdogS none

theorem loaded_openScheduler {settings : DaggerCollectorSettings}
    (h : DaggerCollectorSettings.assemble loaded = .ok settings) :
    settings.openScheduler none = loadedScheduler settings := by
  have hsha : settings.checkpointSha256 = Expo.Station.sha :=
    (DaggerCollectorSettings.assemble_ok h).checkpointSha256.trans Expo.Station.sha_valid.toLower
  unfold DaggerCollectorSettings.openScheduler Pi05JointActionContract.create
  rw [hsha, Expo.Station.sha_valid.toLower, if_pos Expo.Station.sha_valid]
  rfl

/-- A response of zeros. -/
def zeros (p : RtcParameters) : InferenceTicket where
  inferenceId := "id"
  controlEpoch := 0
  checkpointSha256 := Expo.Station.sha
  actionChunk := List.replicate p.checkpoint.execution.actionChunkSize
    (List.replicate p.checkpoint.execution.actionDimension 0)
  execution := p.checkpoint.execution
  actionChunk_length := List.length_replicate
  actionChunk_row := fun row hrow => by
    rw [List.eq_of_mem_replicate hrow, List.length_replicate]

/-- A response is there when the time that it may take has passed. -/
def answered (p : RtcParameters) : Role → RtcSection → Env → Rtc × Record → Bool :=
  fun _ _ e x => decide (∀ pending ∈ x.1.pending, pending.bootstrap = false →
    pending.submittedAtS + p.policyWaitTimeoutS < e.clock →
      (x.1.futures pending.future).isSome = true)

/-- A command that is published `step` periods after the first one. -/
def publishAt (step : ℕ) (sections : ℕ) : List (Move Role Op Env) :=
  run .scheduler .step sections { clock := step / 30, clockAgain := step / 30 }

/-- Four commands, after which the next request is submitted; its response arrives after another
one, and its window is spliced before the sixth. -/
def ahead (p : RtcParameters) : List (Move Role Op Env) :=
  openLease 0 0 (zeros p) ++ publishAt 0 3 ++ publishAt 1 3 ++ publishAt 2 3 ++ publishAt 3 3 ++
    publishAt 4 3 ++ answer 1 (zeros p) ++ publishAt 5 7

/-- The run of the station. -/
def supplied (settings : DaggerCollectorSettings) (p : RtcParameters) : Bool :=
  ((system p).recorded.play (answered p) (.init (init p, [])) (ahead p)).any fun c =>
    decide (c.shared.1.issuedTotal = 6 ∧ c.shared.1.pending = none ∧
      ∀ y ∈ c.shared.2,
        SubmittedWithin (settings.control.rtcDeadlineMarginS - 1 / 1000000000) y)

/-- A run that the settings show is one of their scheduler. -/
theorem supplied_shows {settings : DaggerCollectorSettings} {p : RtcParameters}
    (h : supplied settings p = true) :
    ∃ c, (system p).recorded.Reachable (fun _ _ e x => Answered p.policyWaitTimeoutS e x.1)
        (.init (init p, [])) c ∧ (c.shared.1.issuedTotal = 6 ∧ c.shared.1.pending = none) ∧
      ∀ y ∈ c.shared.2,
        SubmittedWithin (settings.control.rtcDeadlineMarginS - 1 / 1000000000) y := by
  have hok : ∀ t l e x, answered p t l e x = true → Answered p.policyWaitTimeoutS e x.1 := by
    intro t l e x h pending hp
    simp only [answered, decide_eq_true_eq] at h
    exact h pending hp
  obtain ⟨c, hc, ht⟩ := System.play_shows (fun _ _ _ => trivial) hok _ h
  obtain ⟨hissued, hpending, hs⟩ := of_decide_eq_true ht
  exact ⟨c, hc, ⟨hissued, hpending⟩, hs⟩

end Rtc.Station

/-- A run of the station in which a window was spliced. -/
theorem deadline_rules_out_underrun_spliced :
    ∃ settings p c, DaggerCollectorSettings.load Rtc.Station.loaded = .ok settings ∧
      settings.openScheduler none = .ok p ∧
      (Rtc.system p).recorded.Reachable
        (fun _ _ e x => Rtc.Answered p.policyWaitTimeoutS e x.1) (.init (Rtc.init p, [])) c ∧
      c.shared.1.issuedTotal = 6 ∧ ∀ y ∈ c.shared.2, y.name = .publish → ∀ f, y.raised = some f →
        f.error ≠ .scheduler .queueUnderrun := by
  obtain ⟨settings, hload⟩ := Expo.Station.loads (n := 12) (by decide +kernel)
  obtain ⟨hassemble, hchecked⟩ := DaggerCollectorSettings.load_ok_iff.1 hload
  have hloaded : DaggerCollectorSettings.load Rtc.Station.loaded = .ok settings :=
    DaggerCollectorSettings.load_ok_iff.2 ⟨hassemble,
      { hchecked with bootstrapTimeout := fun h => by cases h.1 }⟩
  have hrun : (DaggerCollectorSettings.assemble Rtc.Station.loaded).toOption.any (fun settings =>
      (Rtc.Station.loadedScheduler settings).toOption.any (Rtc.Station.supplied settings)) = true := by
    decide +kernel
  rw [show DaggerCollectorSettings.assemble Rtc.Station.loaded = .ok settings from hassemble] at hrun
  change (Rtc.Station.loadedScheduler settings).toOption.any (Rtc.Station.supplied settings) = true
    at hrun
  obtain ⟨p, hp, hrun⟩ := (Option.any_eq_true _ _).1 hrun
  have hopen : settings.openScheduler none = .ok p := by
    rw [Rtc.Station.loaded_openScheduler hassemble]
    cases hscheduler : Rtc.Station.loadedScheduler settings with
    | error text => rw [hscheduler] at hp; cases hp
    | ok q => rw [hscheduler] at hp; exact congrArg _ (Option.some.inj hp)
  obtain ⟨c, hc, hissued, hs⟩ := Rtc.Station.supplied_shows hrun
  exact ⟨settings, p, c, hloaded, hopen, hc, hissued.1, deadline_rules_out_underrun hloaded hopen hc hs⟩

end DualCollection
