import DualCollection.Rtc.Threads
import DualCollection.Thread.Recorded
import DualCollection.Timing.Pacing

/-!
# Times of a scheduler

The record of a run (`Thread.Recorded`) tells when the scheduler did what.  `sendings` lists the
commands of a control epoch, each with its due time and with the reading of the clock that was
compared with it; `stepClock` is the reading with which the current step began.  The sink is called
after the clock was read, and may be called later if the thread has to wait for the lock.

What a publishing section does to the schedule is `Due`.  `timing` is the outline of the recorded
programs that keeps track of the clock; with a bound `T` on how long a response takes, it also says
that a step never publishes while a response is late (`NotLate`), since a step first reads the
clock and then looks whether the response is there.
-/

namespace DualCollection

open Thread Timing

namespace Rtc

/-- The record of a run of a scheduler. -/
abbrev Record := List (Executed Role RtcSection Env Rtc Failure)

/-- The reading of the clock with which the last step of the scheduler began.  A command is
published later than that, once the step has the lock. -/
def stepClock : Record → ℚ
  | [] => 0
  | x :: record => match x.name with
    | .clock => x.answers.clock
    | _ => stepClock record

/-- The command that a section published in the control epoch; `now` is the reading of the clock
that was compared with its due time. -/
def sent (now : ℚ) (epoch : ℕ) (x : Executed Role RtcSection Env Rtc Failure) :
    Option (Sending ℚ) :=
  match x.name with
  | .publish =>
    if x.before.controlEpoch = epoch ∧ x.before.issuedTotal < x.after.issuedTotal then
      some ⟨x.before.nextCommandS.getD now, now⟩
    else none
  | _ => none

/-- The commands published in a control epoch, oldest first; `clock` is the reading that a
publishing section compares with the schedule. -/
def sendings (clock : Env → Record → ℚ) (epoch : ℕ) : Record → List (Sending ℚ)
  | [] => []
  | x :: record =>
    sendings clock epoch record ++ (sent (clock x.answers record) epoch x).toList

/-- The commands of an RTC scheduler.  The time of a command is the reading with which its step
began, before the step took the lock; the sink is called after it. -/
def commands (epoch : ℕ) (record : Record) : List (Sending ℚ) :=
  sendings (fun _ record => stepClock record) epoch record

variable {p : RtcParameters} {e : Env} {s s' : Rtc} {r : Option Failure} {now : ℚ}

theorem sent_of_ne {epoch : ℕ} {x : Executed Role RtcSection Env Rtc Failure}
    (hx : x.name ≠ .publish) : sent now epoch x = none := by
  unfold sent
  split
  · rename_i h
    exact absurd h hx
  · rfl

theorem stepClock_of_ne {x : Executed Role RtcSection Env Rtc Failure} {record : Record}
    (hx : x.name ≠ .clock) : stepClock (x :: record) = stepClock record := by
  rw [stepClock]
  split
  · rename_i h
    exact absurd h hx
  · rfl

/-! ### The schedule in the publishing section -/

/-- What the publishing section of a scheduler does to the schedule: `P` is the period, `W` the
watchdog and `now` the time of the section. -/
inductive Due (W P now : ℚ) (s s' : Rtc) : Prop
  | idle : s'.issuedTotal = s.issuedTotal →
      (∀ d, s.gateOpen = true → s.nextCommandS = some d → s'.nextCommandS = some d) →
      Due W P now s s'
  | issued (d : ℚ) : s.gateOpen = true → s.nextCommandS.getD now = d → d ≤ now → now ≤ d + W →
      s'.issuedTotal = s.issuedTotal + 1 → s'.nextCommandS = some (d + P) → Due W P now s s'

/-- The queue was found empty when a command was due. -/
def Exhausted (now : ℚ) (s : Rtc) : Prop :=
  s.gateOpen = true ∧ s.queue = [] ∧ s.nextCommandS.getD now ≤ now

/-- The exception of an empty queue. -/
def underrun : Exc := .scheduler .queueUnderrun

/-- What submitting a request leaves alone. -/
theorem submitLocked_schedule {bootstrap : Bool} {context : Option RtcPolicyContext} :
    (submitLocked bootstrap context).Post e s fun r s' => s'.issuedTotal = s.issuedTotal ∧
      s'.nextCommandS = s.nextCommandS ∧ r ≠ .error underrun := by
  refine submitLocked_post (fun _ => ⟨rfl, rfl, by rintro ⟨⟩⟩) (fun err => ⟨rfl, rfl, by rintro ⟨⟩⟩)
    fun r hr pending _ _ _ _ => ⟨rfl, rfl, ?_⟩
  rintro rfl
  obtain h | ⟨event, err, h⟩ := hr <;> cases h

theorem prefetch_schedule :
    (prefetch p).Post e s fun r s' => s'.issuedTotal = s.issuedTotal ∧
      s'.nextCommandS = s.nextCommandS ∧ r ≠ .error underrun := by
  rw [prefetch, Locked.post_bind, Locked.post_get]
  dsimp only
  rw [Locked.post_ite, Locked.post_ite]
  refine ⟨fun _ => ⟨fun _ => ⟨rfl, rfl, by rintro ⟨⟩⟩, fun _ => ?_⟩,
    fun _ => ⟨rfl, rfl, by rintro ⟨⟩⟩⟩
  cases hmake : RtcPolicyContext.make s.delay.estimate
      ((s.queue.take s.delay.estimate).map (·.modelAction)) with
  | error err =>
    refine ⟨rfl, rfl, ?_⟩
    rcases RtcPolicyContext.make_error hmake with rfl | rfl <;> rintro ⟨⟩
  | ok context => exact submitLocked_schedule

/-- The publishing section of an RTC scheduler. -/
theorem publishDue_due :
    (publishDue p now).Post e s fun r s' => Due p.commandWatchdogS p.periodS now s s' ∧
      (r = .error underrun → Exhausted now s) := by
  rw [publishDue, Locked.post_bind, Locked.post_get]
  dsimp only
  rw [Locked.post_ite]
  refine ⟨fun hclosed => ⟨.idle rfl fun d hgate _ => absurd hgate hclosed, by rintro ⟨⟩⟩,
    fun hopen => ?_⟩
  have hgate : s.gateOpen = true := not_not.1 hopen
  simp only [Locked.post_bind, Locked.post_modify]
  generalize hdue : s.nextCommandS.getD now = due
  have hidle : ∀ d, s.gateOpen = true → s.nextCommandS = some d → some due = some d :=
    fun d _ hd => by rw [← hdue, hd, Option.getD_some]
  rw [Locked.post_ite, Locked.post_ite]
  refine ⟨fun _ => ⟨.idle rfl hidle, by rintro ⟨⟩⟩,
    fun hlt => ⟨fun _ => ⟨.idle rfl hidle, by rintro ⟨⟩⟩, fun hwatch => ?_⟩⟩
  have hle : due ≤ now := not_lt.1 hlt
  rw [Locked.post_bind, issue, Locked.post_bind, Locked.post_get]
  simp only [scheduled_queue]
  cases hq : s.queue with
  | nil => exact ⟨.idle rfl hidle, fun _ => ⟨hgate, hq, by rw [hdue]; exact hle⟩⟩
  | cons queued rest =>
    simp only [Locked.post_bind, Locked.post_modify]
    refine Locked.post_call ?_ fun err => ⟨.idle rfl hidle, by rintro ⟨⟩⟩
    have hissued : ∀ s' : Rtc, s'.issuedTotal = s.issuedTotal + 1 →
        s'.nextCommandS = some (due + p.periodS) →
        Due p.commandWatchdogS p.periodS now s s' := fun s' hi hn =>
      .issued due hgate hdue hle (by linarith [not_lt.1 hwatch]) hi hn
    refine Locked.post_emit ?_ fun err => ⟨hissued _ rfl rfl, by rintro ⟨⟩⟩
    refine Locked.post_mono prefetch_schedule fun r s' h => ?_
    exact ⟨hissued s' h.1 h.2.1, fun hr => absurd hr h.2.2⟩

/-! ### The outline of the recorded programs -/

/-- A response that has to be complete within `T` is there when that time has passed. -/
def Answered (T : ℚ) (e : Env) (s : Rtc) : Prop :=
  ∀ pending, s.pending = some pending → pending.bootstrap = false →
    pending.submittedAtS + T < e.clock → (s.futures pending.future).isSome = true

/-- At the time `now`, no response is late. -/
def NotLate (T now : ℚ) (s : Rtc) : Prop :=
  ∀ pending, s.pending = some pending → pending.bootstrap = false → now ≤ pending.submittedAtS + T

/-- What the other threads do to what a step of the scheduler has seen. -/
structure Undisturbed (x x' : Rtc × Record) : Prop where
  /-- The clock was read by the step. -/
  clock : stepClock x'.2 = stepClock x.2
  /-- Requests that overlap with execution are the scheduler's. -/
  pending : ∀ pending, x'.1.pending = some pending → pending.bootstrap = false →
    x.1.pending = some pending
  /-- A future that is done keeps its result. -/
  futures : ∀ n result, x.1.futures n = some result → x'.1.futures n = some result

/-- The outline of the recorded programs: `clock` is when a publishing section publishes, and `T`
bounds how long a response takes, if anything is known of it. -/
def timing (p : RtcParameters) (clock : Env → Record → ℚ) (T : Option ℚ) :
    Outline Role RtcSection Env (Rtc × Record) Failure where
  inv := fun _ => True
  admits := fun _ _ e x => ∀ bound ∈ T, Answered bound e x.1
  pre := fun t l x => t = .scheduler → l = .publish →
    ∀ bound ∈ T, NotLate bound (stepClock x.2) x.1
  rely := fun t x x' => t = .scheduler → Undisturbed x x'
  guar := fun t l x r x' => ∃ e, x'.2 = ⟨t, l, e, x.1, r, x'.1⟩ :: x.2 ∧
    (t = .scheduler → l = .publish →
      Due p.commandWatchdogS p.periodS (clock e x.2) x.1 x'.1 ∧
        ∀ f, r = some f → f.error = underrun → Exhausted (clock e x.2) x.1)

section Timing

variable {clock : Env → Record → ℚ} {T : Option ℚ} {t : Role} {x x' : Rtc × Record} {w : ℕ}
  {strict : Prop} {α : Type}

theorem Undisturbed.refl : Undisturbed x x := ⟨rfl, fun _ h _ => h, fun _ _ h => h⟩

theorem Undisturbed.trans {x'' : Rtc × Record} (h : Undisturbed x x') (h' : Undisturbed x' x'') :
    Undisturbed x x'' where
  clock := h'.clock.trans h.clock
  pending := fun pending hp hb => h.pending pending (h'.pending pending hp hb) hb
  futures := fun n result hf => h'.futures n result (h.futures n result hf)

/-- Only the scheduler submits a request that overlaps with execution. -/
theorem Changes.pending {l : RtcSection} (ht : t ≠ .scheduler) (hpre : Pre p w strict t l s)
    (hc : Changes p l s r s') {pending : PendingRtcInference} (hp : s'.pending = some pending)
    (hb : pending.bootstrap = false) : s.pending = some pending := by
  cases l with
  | closeGate =>
    rcases hc with hc | ⟨-, rfl⟩
    · rw [← hc.2]; exact hp
    · exact hp
  | clearPending e =>
    rcases hc with hc | ⟨-, -, rfl⟩
    · rw [← hc.2]; exact hp
    · cases hp
  | prepare =>
    cases hc with
    | refused hr => rw [← hr.2]; exact hp
    | identified => exact hp
    | submitted _ _ _ _ hboot =>
      obtain rfl := Option.some.inj hp
      rw [hboot] at hb
      cases hb
  | takeFault => rw [hc.2] at hp; exact hp
  | reject f => rw [hc.2] at hp; cases hp
  | splice c =>
    cases hc with
    | refused hr => rw [← hr.2]; exact hp
    | bootstrap | overlap => cases hp
  | clearFinishing => rw [show s' = _ from hc] at hp; exact hp
  | complete =>
    obtain ⟨-, future, result, rfl⟩ := hc
    unfold completed at hp
    split at hp <;> exact hp
  | checkResponse window snap => rw [← hc.2]; exact hp
  | gateCheck | finished | publish | fail f =>
    cases t with
    | controller => exact hpre.elim
    | scheduler => exact absurd rfl ht
    | policy => exact hpre.elim
  | beginEpoch | emitReset | poll | clock | finishCheck | acceptRead | stateRead =>
    rw [← show s' = s from hc]; exact hp

/-- The other threads leave alone what a step of the scheduler has seen. -/
theorem timing_compat {t' : Role} {l : RtcSection} (ht : t ≠ t') (hpre : Pre p w strict t l x.1)
    (hg : (outline p w strict).guar t l x.1 r x'.1) (hg' : (timing p clock T).guar t l x r x') :
    (timing p clock T).rely t' x x' := by
  rintro rfl
  obtain ⟨e, hrec, -⟩ := hg'
  refine ⟨?_, fun pending hp hb => hg.1.pending ht hpre hp hb, (hg.2.2.1 ht).futures⟩
  rw [hrec]
  refine stepClock_of_ne ?_
  rintro rfl
  cases t with
  | controller => exact hpre
  | scheduler => exact ht rfl
  | policy => exact hpre

/-- The programs of the other threads. -/
theorem wp_timing {q : Program α} (ht : t ≠ .scheduler) :
    wp (timing p clock T) t (fun _ _ => True) (q.recorded t) x :=
  wp_recorded Prog.only_true (fun _ _ _ h => absurd h ht)
    fun _ e _ _ _ _ _ _ => ⟨trivial, e, rfl, fun h => absurd h ht⟩

/-- Programs of the scheduler that do not publish. -/
theorem wp_timing_only {q : Program α} (hq : q.Only (· ≠ .publish)) :
    wp (timing p clock T) .scheduler (fun _ _ => True) (q.recorded .scheduler) x :=
  wp_recorded hq (fun _ _ hl _ h => absurd h hl)
    fun _ e _ _ _ hl _ _ => ⟨trivial, e, rfl, fun _ h => absurd h hl⟩

/-- Accepting a response publishes nothing. -/
theorem only_acceptPending {begun : ℕ} {b : Bool} :
    (acceptPending p w begun b).Only (· ≠ .publish) := by
  refine Prog.only_bind (Prog.only_atomic (by simp)) fun snap => ?_
  refine Prog.only_bind (Prog.only_atomic (by simp)) fun response => ?_
  refine Prog.only_bind (Prog.only_atomic (by simp)) fun measured => ?_
  split
  · exact Prog.only_atomic (by simp)
  · exact Prog.only_atomic (by simp)

/-- The rule of a section that does not publish. -/
theorem wp_timed {l : RtcSection} {epoch : Rtc → ℕ} {body : Locked Rtc α}
    {Q : Except Failure α → Rtc × Record → Prop} (hl : l ≠ .publish)
    (h : ∀ y, Undisturbed x y → ∀ e, (∀ bound ∈ T, Answered bound e y.1) →
      body.Post e y.1 fun r s' => Q (markEpoch (epoch y.1) r)
        (s', ⟨.scheduler, l, e, y.1, raised (markEpoch (epoch y.1) r), s'⟩ :: y.2)) :
    wp (timing p clock T) .scheduler Q ((locked epoch l body).recorded .scheduler) x :=
  fun y hr _ => ⟨fun _ h => absurd h hl, fun e hadm =>
    ⟨trivial, ⟨e, rfl, fun _ h => absurd h hl⟩, h y (hr rfl) e hadm⟩⟩

/-- The rule of the publishing section. -/
theorem wp_timed_publish {epoch : Rtc → ℕ} {body : Locked Rtc α}
    (hpre : ∀ y, Undisturbed x y → ∀ bound ∈ T, NotLate bound (stepClock y.2) y.1)
    (h : ∀ y, Undisturbed x y → ∀ e, body.Post e y.1 fun r s' =>
      Due p.commandWatchdogS p.periodS (clock e y.2) y.1 s' ∧
        (r = .error underrun → Exhausted (clock e y.2) y.1)) :
    wp (timing p clock T) .scheduler (fun _ _ => True)
      ((locked epoch .publish body).recorded .scheduler) x := by
  intro y hr _
  refine ⟨fun _ _ => hpre y (hr rfl), fun e _ => ⟨trivial, ⟨e, rfl, fun _ _ => ?_⟩, trivial⟩⟩
  obtain ⟨hdue, hexhausted⟩ := h y (hr rfl) e
  refine ⟨hdue, fun f hf herr => hexhausted ?_⟩
  rw [show _ = raised (markEpoch (epoch y.1) (body e y.1).1) from rfl, raised_markEpoch,
    Option.map_eq_some_iff] at hf
  obtain ⟨err, hraised, rfl⟩ := hf
  rw [raised_eq_some.1 hraised]
  exact congrArg _ herr

/-- Sections that neither publish nor read the clock of the step. -/
theorem wp_timed_keep {l : RtcSection} {epoch : Rtc → ℕ} {body : Locked Rtc α} (hl : l ≠ .publish)
    (hl' : l ≠ .clock) (hx : stepClock x.2 = now) :
    wp (timing p clock T) .scheduler (fun _ y => stepClock y.2 = now)
      ((locked epoch l body).recorded .scheduler) x :=
  wp_timed hl fun y hy e _ => by
    show stepClock (_ :: y.2) = now
    rw [stepClock_of_ne hl', hy.clock, hx]

/-- What a step that began at the time `now` knows before it publishes. -/
def Awaited (T : Option ℚ) (now : ℚ) (x : Rtc × Record) : Prop :=
  stepClock x.2 = now ∧ ∀ bound ∈ T, NotLate bound now x.1

theorem Awaited.stable (h : Awaited T now x) (hr : Undisturbed x x') : Awaited T now x' :=
  ⟨hr.clock.trans h.1, fun bound hb pending hp hboot =>
    h.2 bound hb pending (hr.pending pending hp hboot) hboot⟩

/-- When a window was spliced, no request is pending. -/
theorem splice_pending {c : Candidate} {saturated : Bool} :
    (splice c saturated).Post e s fun r s' => r = .ok () → s'.pending = none := by
  rw [splice, Locked.post_bind, Locked.post_get]
  dsimp only
  rw [Locked.post_ite, Locked.post_ite]
  have hrest : ∀ s₁ : Rtc, (do
      .modify (·.spliced c)
      .emit "inference_accepted"
      if saturated then .emit "gripper_saturated" : Locked Rtc Unit).Post e s₁
        fun r s' => r = .ok () → s'.pending = none := fun s₁ => by
    rw [Locked.post_bind, Locked.post_modify]
    exact report_post fun r _ _ => rfl
  refine ⟨fun _ => by rintro ⟨⟩, fun _ => ⟨fun _ => ?_, fun _ => ?_⟩⟩
  · rw [Locked.post_bind]
    refine Locked.post_call ?_ fun err => by rintro ⟨⟩
    simp only [Locked.post_bind, Locked.post_ask, Locked.post_modify]
    exact Locked.post_bind.1 (Locked.post_bind.1 (hrest _))
  · cases s.delay.observe c.response.actualDelay with
    | error err => rintro ⟨⟩
    | ok delay =>
      simp only [Locked.post_bind, Locked.post_modify]
      exact Locked.post_bind.1 (Locked.post_bind.1 (hrest _))

/-- When a response was accepted, none is late. -/
theorem wp_acceptPending_timed {begun : ℕ} {b : Bool} (hx : stepClock x.2 = now) :
    wp (timing p clock T) .scheduler (fun r y => r = .ok () → Awaited T now y)
      ((acceptPending p w begun b).recorded .scheduler) x := by
  rw [acceptPending, Prog.recorded_bind, wp_bind]
  refine wp_mono (wp_timed_keep (by simp) (by simp) hx) fun r x₁ hx₁ => ?_
  cases r with
  | error f => rintro ⟨⟩
  | ok snap =>
    dsimp only
    rw [Prog.recorded_bind, wp_bind]
    refine wp_mono (wp_timed_keep (by simp) (by simp) hx₁) fun r x₂ hx₂ => ?_
    cases r with
    | error f => rintro ⟨⟩
    | ok response =>
      dsimp only
      rw [Prog.recorded_bind, wp_bind]
      refine wp_mono (wp_timed_keep (by simp) (by simp) hx₂) fun r x₃ hx₃ => ?_
      cases r with
      | error f => rintro ⟨⟩
      | ok measured =>
        dsimp only
        split
        · exact wp_timed (by simp) fun y _ e _ => by rintro ⟨⟩
        · refine wp_timed (by simp) fun y hy e _ =>
            Locked.post_mono splice_pending fun r s' hp hr => ?_
          have hnone : s'.pending = none := hp (by cases r with
            | ok u => rfl
            | error err => cases hr)
          refine ⟨?_, fun bound _ pending hpending => ?_⟩
          · rw [stepClock_of_ne (by simp), hy.clock, hx₃]
          · rw [hnone] at hpending
            cases hpending

/-- A step of an RTC scheduler publishes at the time at which it began, while no response is
late. -/
theorem wp_step_timed :
    wp (timing p (fun _ record => stepClock record) T) .scheduler (fun _ _ => True)
      ((step p).recorded .scheduler) x := by
  rw [step, Prog.recorded_tryCatch, wp_tryCatch]
  suffices h : wp (timing p (fun _ record => stepClock record) T) .scheduler (fun _ _ => True)
      ((stepBody p).recorded .scheduler) x by
    refine wp_mono h fun r y _ => ?_
    cases r with
    | ok u => trivial
    | error f => exact wp_timing_only (Prog.only_atomic (by simp))
  rw [stepBody, Prog.recorded_bind, wp_bind]
  refine wp_timed (by simp) fun x₁ _ e₁ hanswered => ?_
  simp only [Locked.post_bind, Locked.post_ask, Locked.post_pure, markEpoch_ok]
  generalize hnow : e₁.clock = now
  rw [Prog.recorded_bind, wp_bind]
  -- a response that is late is there when the step looks for it
  refine wp_timed (by simp) fun x₂ hx₂ e₂ _ => ?_
  have hclock : ∀ y : Executed Role RtcSection Env Rtc Failure, y.name ≠ .clock →
      stepClock (y :: x₂.2) = now := fun y hy => by
    rw [stepClock_of_ne hy, hx₂.clock, stepClock]
    exact hnow
  simp only [gateCheck, Locked.post_bind, Locked.post_get, Locked.post_ite, Locked.post_pure,
    Locked.post_modify, markEpoch_ok]
  refine ⟨fun _ => trivial, fun _ => ?_⟩
  have hpublish : ∀ y, Awaited T now y → wp (timing p (fun _ record => stepClock record) T)
      .scheduler (fun _ _ => True) ((perform .publish (publishDue p now)).recorded .scheduler) y :=
    fun y hy => by
      refine wp_timed_publish (fun z hz => ?_) fun z hz e => ?_
      · rw [(hy.stable hz).1]
        exact (hy.stable hz).2
      · show (publishDue p now).Post e z.1 fun r s' =>
          Due p.commandWatchdogS p.periodS (stepClock z.2) z.1 s' ∧
            (r = .error underrun → Exhausted (stepClock z.2) z.1)
        rw [(hy.stable hz).1]
        exact publishDue_due
  cases hdone : x₂.1.pending.any fun pending => (x₂.1.futures pending.future).isSome with
  | true =>
    rw [if_pos rfl, Prog.recorded_bind, wp_bind]
    refine wp_mono (wp_acceptPending_timed (hclock _ (by simp))) fun r y hy => ?_
    cases r with
    | error f => trivial
    | ok u => exact hpublish y (hy rfl)
  | false =>
    refine hpublish _ ⟨hclock _ (by simp), fun bound hb pending hp hboot => ?_⟩
    by_contra hlate
    have hseen := hx₂.pending pending hp hboot
    have hfuture := hanswered bound hb pending hseen hboot (by rw [hnow]; exact not_le.1 hlate)
    obtain ⟨result, hresult⟩ := Option.isSome_iff_exists.1 hfuture
    have := hx₂.futures _ result hresult
    simp [show x₂.1.pending = some pending from hp, this] at hdone

/-- The outline of the recorded programs of a scheduler whose steps meet it. -/
theorem timing_sound {S : System Role Op RtcSection Env Rtc Failure}
    (hS : (outline p w strict).Sound S)
    (hstep : ∀ o x, wp (timing p clock T) .scheduler (fun _ _ => True)
      ((S.op .scheduler o).recorded .scheduler) x) :
    ((outline p w strict).extend (timing p clock T)).Sound S.recorded :=
  hS.extend (fun _ _ _ => .refl) (fun _ _ _ _ h h' ht => (h ht).trans (h' ht))
    (fun hne _ hpre hg _ hg' => timing_compat hne hpre hg hg') (fun _ _ => trivial)
    fun t o x _ _ => by
      by_cases ht : t = .scheduler
      · subst ht
        exact hstep o x
      · exact wp_timing ht

/-- The outline of the recorded programs of an RTC scheduler. -/
theorem timed_sound (p : RtcParameters) (strict : Prop) (T : Option ℚ) :
    ((outline p p.safeWindowSteps strict).extend
      (timing p (fun _ record => stepClock record) T)).Sound (system p).recorded :=
  timing_sound (sound p strict) fun o x => by
    cases o with
    | step => exact wp_step_timed
    | _ => trivial

end Timing

end Rtc

end DualCollection
