import DualCollection.Sequential.Sticky
import DualCollection.Sequential.Timed

/-!
# The pace of the sequential executor

The executor bases its schedule anew when it enters a control epoch, when a chunk was accepted and
after it found the gate closed.  None of this makes two commands of one epoch come closer than a
period: the next chunk is asked for only when the next command is due, and a gate that was closed
is not opened again in the same epoch once the executor is idle (`Barred`).

`Rested` is what holds of the executor's attributes between two steps, `Stepping` what a step knows
from the moment on at which it has entered its control epoch, and `Failing` what is left when it
fails.  `pacing` is the outline of the recorded programs.
-/

namespace DualCollection

open Thread Timing

namespace Sequential

variable {p : SequentialParameters} {P W now : ℚ} {epoch : ℕ} {t : Role} {l : Section} {e : Env}
  {x x' : Sequential × Record}

/-! ### What the executor knows -/

/-- If the gate is opened again, then in a control epoch without commands. -/
structure Barred (x : Sequential × Record) : Prop where
  /-- Later control epochs have no commands. -/
  later : ∀ epoch, x.1.controlEpoch < epoch → commands epoch x.2 = []
  /-- The current one has none, or its gate was closed for good. -/
  current : commands x.1.controlEpoch x.2 = [] ∨
    x.1.gateOpen = false ∧ Granted x.1.controlEpoch x.1.log

/-- The executor between two steps. -/
structure Rested (P : ℚ) (x : Sequential × Record) : Prop where
  /-- The next command comes a period after those of the epoch. -/
  next : ∀ e, x.1.activeEpoch = some e → e ≤ x.1.controlEpoch ∧
    ∃ d, x.1.nextCommandS = some d ∧ After P e x.2 d
  /-- Later control epochs have no commands. -/
  later : ∀ epoch, x.1.controlEpoch < epoch → commands epoch x.2 = []
  /-- A control epoch that the executor may enter has no commands. -/
  barred : x.1.activeEpoch ≠ some x.1.controlEpoch → Barred x
  /-- The request was submitted when the next command was due. -/
  waited : ¬ Unasked x.1 → ∀ e w, x.1.activeEpoch = some e → x.1.policyWaitStartedS = some w →
    After P e x.2 w ∧ Passed w x.2

/-- A step of the executor after it has read its control epoch. -/
structure Failing (epoch : ℕ) (x : Sequential × Record) : Prop where
  /-- The control epoch was reached. -/
  reached : epoch ≤ x.1.controlEpoch
  /-- Later control epochs have no commands. -/
  future : ∀ epoch', epoch < epoch' → commands epoch' x.2 = []

/-- A step of the executor after it has entered its control epoch. -/
structure Stepping (P : ℚ) (epoch : ℕ) (x : Sequential × Record) : Prop
    extends Failing epoch x where
  /-- The executor is in its control epoch. -/
  active : x.1.activeEpoch = some epoch
  /-- The next command comes a period after those of the epoch. -/
  next : ∃ d, x.1.nextCommandS = some d ∧ After P epoch x.2 d

/-- The request for which a step waits was submitted when the next command was due. -/
def Waited (P now : ℚ) (epoch : ℕ) (x : Sequential × Record) : Prop :=
  ∀ w, x.1.policyWaitStartedS = some w → Granted epoch x.1.log ∧
    (¬ Unasked x.1 → After P epoch x.2 w ∧ w ≤ now ∧ Passed w x.2)

theorem After.mono {d d' : ℚ} {record : Record} (h : After P epoch record d) (hd : d ≤ d') :
    After P epoch record d' := fun y hy => (h y hy).trans hd

theorem After.spares {d : ℚ} (h : After P epoch x.2 d) (hs : Spares x x') :
    After P epoch x'.2 d := by
  rw [After, hs.commands]
  exact h

theorem After.of_nil {d : ℚ} {record : Record} (h : commands epoch record = []) :
    After P epoch record d := by
  rw [After, h]
  intro y hy
  cases hy

theorem Passed.spares {w : ℚ} (h : Passed w x.2) (hs : Spares x x') : Passed w x'.2 := by
  obtain ⟨y, hy, hname, hle⟩ := h
  exact ⟨y, hs.record y hy, hname, hle⟩

/-- A gate that is found closed is barred. -/
theorem PaceInv.barred (h : PaceInv P W x) (hgate : x.1.gateOpen = false) : Barred x where
  later := h.past
  current := by
    by_cases hc : commands x.1.controlEpoch x.2 = []
    · exact .inl hc
    · exact .inr ⟨hgate, h.granted _ hc⟩

theorem Failing.barred (h : Failing epoch x) (hne : x.1.controlEpoch ≠ epoch) : Barred x where
  later := fun epoch' hlt => h.future epoch' (h.reached.trans_lt hlt)
  current := .inl (h.future _ (lt_of_le_of_ne h.reached hne.symm))

theorem Barred.spares (h : Barred x) (hs : Spares x x') : Barred x' where
  later := fun epoch hlt => by
    rw [hs.commands]
    exact h.later epoch (hs.epoch.trans_lt hlt)
  current := by
    rw [hs.commands]
    rcases hs.epoch.eq_or_lt with heq | hlt
    · rw [← heq]
      exact h.current.imp_right fun ⟨hgate, hg⟩ => ⟨hs.shut hgate hg heq.symm, hs.granted _ hg⟩
    · exact .inl (h.later _ hlt)

theorem Failing.spares (h : Failing epoch x) (hs : Spares x x') : Failing epoch x' where
  reached := h.reached.trans hs.epoch
  future := fun epoch' hlt => by
    rw [hs.commands]
    exact h.future epoch' hlt

/-- Changes that leave the schedule and the commands alone. -/
theorem Stepping.of (h : Stepping P epoch x) (he : x.1.controlEpoch ≤ x'.1.controlEpoch)
    (ha : x'.1.activeEpoch = x.1.activeEpoch) (hn : x'.1.nextCommandS = x.1.nextCommandS)
    (hc : ∀ epoch, commands epoch x'.2 = commands epoch x.2) : Stepping P epoch x' where
  reached := h.reached.trans he
  future := fun epoch' hlt => by
    rw [hc]
    exact h.future epoch' hlt
  active := ha.trans h.active
  next := by
    obtain ⟨d, hd, hafter⟩ := h.next
    exact ⟨d, hn.trans hd, by rwa [After, hc]⟩

theorem Stepping.spares (h : Stepping P epoch x) (hs : Spares x x') : Stepping P epoch x' :=
  h.of hs.epoch hs.active hs.next hs.commands

theorem Waited.spares (h : Waited P now epoch x) (hs : Spares x x') :
    Waited P now epoch x' := fun w hw => by
  obtain ⟨hg, hafter⟩ := h w (hs.waiting ▸ hw)
  refine ⟨hs.granted _ hg, fun hu => ?_⟩
  obtain ⟨hafter, hle, hpassed⟩ := hafter fun hx => hu (hs.unasked hx)
  exact ⟨hafter.spares hs, hle, hpassed.spares hs⟩

theorem Rested.spares (h : Rested P x) (hs : Spares x x') : Rested P x' where
  next := fun e he => by
    obtain ⟨hle, d, hd, hafter⟩ := h.next e (hs.active ▸ he)
    exact ⟨hle.trans hs.epoch, d, hs.next.trans hd, hafter.spares hs⟩
  later := fun epoch hlt => by
    rw [hs.commands]
    exact h.later epoch (hs.epoch.trans_lt hlt)
  barred := fun hne => by
    rw [hs.active] at hne
    by_cases hsame : x.1.activeEpoch = some x.1.controlEpoch
    · -- the executor was in the current control epoch, which is over
      have hlt : x.1.controlEpoch < x'.1.controlEpoch :=
        lt_of_le_of_ne hs.epoch fun heq => hne (heq ▸ hsame)
      refine ⟨fun epoch hlt' => ?_, .inl ?_⟩
      · rw [hs.commands]
        exact h.later epoch (hlt.trans hlt')
      · rw [hs.commands]
        exact h.later _ hlt
    · exact (h.barred hsame).spares hs
  waited := fun hu e w he hw => by
    obtain ⟨hafter, hpassed⟩ := h.waited (fun hx => hu (hs.unasked hx)) e w (hs.active ▸ he)
      (hs.waiting ▸ hw)
    exact ⟨hafter.spares hs, hpassed.spares hs⟩

theorem Stepping.rest (h : Stepping P epoch x) (hw : ¬ Unasked x.1 → ∀ w,
    x.1.policyWaitStartedS = some w → After P epoch x.2 w ∧ Passed w x.2) : Rested P x where
  next := fun e he => by
    obtain rfl := Option.some.inj (h.active.symm.trans he)
    exact ⟨h.reached, h.next⟩
  later := fun epoch' hlt => h.future epoch' (h.reached.trans_lt hlt)
  barred := fun hne => h.barred fun heq => hne (heq ▸ h.active)
  waited := fun hu e w he hw' => by
    obtain rfl := Option.some.inj (h.active.symm.trans he)
    exact hw hu w hw'

theorem Stepping.rested (h : Stepping P epoch x) (hw : Waited P now epoch x) : Rested P x :=
  h.rest fun hu w hw' => by
    obtain ⟨hafter, -, hpassed⟩ := (hw w hw').2 hu
    exact ⟨hafter, hpassed⟩

/-! ### The outline -/

/-- The proof outline of the recorded programs. -/
def pacing (P W : ℚ) : Outline Role Section Env (Sequential × Record) Failure where
  inv := PaceInv P W
  admits := fun _ l e x => Content l x.1 ∧ Ordered l e x.2
  pre := PacePre
  rely := fun
    | .controller, x, x' => Leaves x x'
    | .executor, x, x' => Spares x x'
    | .policy, _, _ => True
  guar := fun t _ x _ x' => (t ≠ .executor → Spares x x') ∧ (t ≠ .controller → Leaves x x')
  idle := fun
    | .executor, x => Rested P x
    | _, _ => True

/-- The rule of a section that does not publish. -/
theorem wp_paced {α : Type} {body : Locked Sequential α} {begun : Sequential → ℕ}
    {Q : Except Failure α → Sequential × Record → Prop} (hl : l ≠ .publishNext)
    (h : ∀ x', (pacing P W).rely t x x' → PaceInv P W x' → PacePre t l x' ∧
      ∀ e, Content l x'.1 → Ordered l e x'.2 → body.Post e x'.1 fun r s' =>
        Changes l x'.1 (raised (markEpoch (begun x'.1) r)) s' ∧
          ∀ y : Executed Role Section Env Sequential Failure, y.name = l → y.answers = e →
            PaceInv P W (s', y :: x'.2) → Q (markEpoch (begun x'.1) r) (s', y :: x'.2)) :
    wp (pacing P W) t Q ((locked begun l body).recorded t) x := by
  intro x' hr hi
  obtain ⟨hpre, hpost⟩ := h x' hr hi
  refine ⟨hpre, fun e hadm => ?_⟩
  obtain ⟨hc, hQ⟩ := hpost e hadm.1 hadm.2
  have hi' := hc.paceInv (y := entry t l (fun e s =>
    (markEpoch (begun s) (body e s).1, (body e s).2)) e x'.1) hl rfl hpre hadm.1 hi
  exact ⟨hi', ⟨fun ht => hc.spares ht rfl hpre, fun ht => hc.leaves ht hpre⟩, hQ _ rfl rfl hi'⟩

/-- A section that leaves the state alone disturbs nobody. -/
theorem rely_neutral {y : Executed Role Section Env Sequential Failure}
    (hy : y.name ≠ .publishNext ∧ y.name ≠ .clock) (h : (pacing P W).rely t x x') :
    (pacing P W).rely t x (x'.1, y :: x'.2) := by
  cases t with
  | controller => exact Leaves.trans h ⟨rfl, fun _ h => h, id⟩
  | executor =>
    exact Spares.trans h (.of hy.1 hy.2 ⟨rfl, rfl, rfl⟩ le_rfl (fun _ h => h) (fun h _ _ => h) id)
  | policy => trivial

/-- The rule of a section of the executor that reads. -/
theorem wp_paced_read {α : Type} {property : Sequential → α}
    {Q : Except Failure α → Sequential × Record → Prop}
    (h : ∀ x', Spares x x' → PaceInv P W x' → Q (.ok (property x'.1)) x') :
    wp (pacing P W) .executor Q ((read property).recorded .executor) x := by
  refine wp_paced (by simp) fun x' hr _ => ⟨(by simp [PacePre]), fun e _ _ =>
    ⟨rfl, fun y hy _ hi => h _ ?_ hi⟩⟩
  exact rely_neutral (P := P) (W := W) (t := .executor) (by rw [hy]; simp) hr

/-- The rule of a section of the executor that assigns its attributes. -/
theorem wp_paced_schedule {f : Sequential → Sequential}
    {Q : Except Failure Unit → Sequential × Record → Prop}
    (h : ∀ x', Spares x x' → PaceInv P W x' →
      (∃ a n w, f x'.1 = x'.1.scheduled a n w ∧ ∀ e, a = some e → e ≤ x'.1.controlEpoch) ∧
        ∀ record, (∀ epoch, commands epoch record = commands epoch x'.2) →
          stepClock record = stepClock x'.2 → (∀ y ∈ x'.2, y ∈ record) →
            Q (.ok ()) (f x'.1, record)) :
    wp (pacing P W) .executor Q ((schedule f).recorded .executor) x := by
  refine wp_paced (by simp) fun x' hr hi => ⟨rfl, fun e _ _ => ?_⟩
  obtain ⟨⟨a, n, w, heq, ha⟩, hQ⟩ := h x' hr hi
  refine ⟨⟨rfl, a, n, w, heq, ha⟩, fun y hy _ _ => hQ _ (fun epoch => ?_) ?_ fun z hz => ?_⟩
  · exact commands_of_ne (by rw [hy]; simp)
  · exact stepClock_of_ne (by rw [hy]; simp)
  · exact List.mem_cons_of_mem _ hz

/-! ### The executor's thread -/

/-- Where the gate is barred the executor may forget its schedule. -/
theorem wp_paced_reset {α : Type} {a : α} (h : Barred x) :
    wp (pacing P W) .executor (fun _ x => Rested P x)
      ((do resetSchedule; pure a : Program α).recorded .executor) x := by
  rw [Prog.recorded_bind, wp_bind]
  refine wp_paced_schedule fun x' hs _ => ⟨⟨none, none, none, rfl, (by simp)⟩,
    fun record hc _ _ => ?_⟩
  have hbarred : Barred ((x'.1.scheduled none none none : Sequential), record) := by
    refine ⟨fun epoch hlt => ?_, ?_⟩
    · rw [hc]
      exact (h.spares hs).later epoch hlt
    · rw [hc]
      exact (h.spares hs).current
  exact ⟨(by rintro _ ⟨⟩), hbarred.later, fun _ => hbarred, fun _ _ _ he => by cases he⟩

/-- `_fail` leaves a gate that is barred. -/
theorem wp_paced_fail {f : Failure} (h : Failing f.epoch x) :
    wp (pacing P W) .executor (fun _ x => Rested P x) ((fail f).recorded .executor) x := by
  rw [fail, Prog.recorded_bind, wp_bind]
  refine wp_paced_read fun x₁ hs₁ _ => ?_
  dsimp only
  split_ifs with hepoch
  · -- the control epoch was left, and nothing was published in the new one
    exact wp_paced_reset ((h.spares hs₁).barred hepoch)
  rw [Prog.recorded_bind, wp_bind]
  refine wp_paced_read fun x₂ _ hi₂ => ?_
  dsimp only
  split_ifs with hopen
  swap
  · exact wp_paced_reset (hi₂.barred (by simpa using hopen))
  rw [Prog.recorded_andThen, wp_andThen]
  refine wp_paced (by simp) fun x₃ _ _ => ⟨⟨rfl, (by simp)⟩, fun e _ _ =>
    Locked.post_mono (closeGate_changes f.epoch) fun r s₃ hc => ⟨hc, fun y₃ _ _ _ => ?_⟩⟩
  rw [Prog.recorded_bind, wp_bind]
  refine wp_paced (by simp) fun x₄ _ _ => ⟨rfl, fun e _ _ => ⟨⟨rfl, rfl⟩, fun y _ _ hi => ?_⟩⟩
  exact wp_paced_reset (hi.barred rfl)

/-- A response is taken in its control epoch, or nothing happens. -/
def Takes (controlEpoch : ℕ) (s : Sequential) (r : Except Exc (Option Taken))
    (s' : Sequential) : Prop :=
  (∀ taken, r ≠ .ok (some taken)) ∧ s' = s ∨
    (∃ taken, r = .ok (some taken)) ∧ controlEpoch = s.controlEpoch ∧ s.pending ≠ none ∧
      s' = s.taken

/-- What the first lock section of `policy_ready` takes. -/
theorem poll_takes {episodeId : String} {controlEpoch : ℕ} {s : Sequential} :
    (pollLocked episodeId controlEpoch).Post e s (Takes controlEpoch s) := by
  simp only [pollLocked, Locked.post_bind, Locked.post_get, Locked.post_ite]
  have hidle : ∀ r, (∀ taken, r ≠ .ok (some taken)) → Takes controlEpoch s r s := fun r hr =>
    .inl ⟨hr, rfl⟩
  refine ⟨fun _ => hidle _ (by simp), fun he => ⟨fun _ => hidle _ (by simp), fun _ => ?_⟩⟩
  cases hp : s.pending with
  | none => exact hidle _ (by simp)
  | some pending =>
    dsimp only
    cases s.futures pending with
    | none => exact hidle _ (by simp)
    | some result => exact .inr ⟨⟨_, rfl⟩, not_not.1 he, by simp [hp], rfl⟩

/-- The rule of `policy_ready`: `B` holds from the moment on at which the response is taken. -/
theorem wp_paced_policyReady {episodeId : String} {controlEpoch : ℕ}
    (B : Sequential × Record → Prop) {Q : Except Failure Bool → Sequential × Record → Prop}
    (ht : t ≠ .policy) (hstab : ∀ {x x'}, B x → (pacing P W).rely t x x' → B x')
    (hidle : ∀ r x', (pacing P W).rely t x x' → r ≠ .ok true → Q r x')
    (htake : ∀ x' y, (pacing P W).rely t x x' → PaceInv P W x' → y.name = .poll t controlEpoch →
      controlEpoch = x'.1.controlEpoch → x'.1.pending ≠ none →
        Content (.poll t controlEpoch) x'.1 → B (x'.1.taken, y :: x'.2))
    (hpre : ∀ x' lease, B x' → lease.controlEpoch = controlEpoch →
      PacePre t (.activate t lease) x')
    (hraise : ∀ f x', B x' → Q (.error f) x')
    (hok : ∀ x' y lease, B x' → y.name = .activate t lease →
      Q (.ok true) (x'.1.activated t lease.commands, y :: x'.2)) :
    wp (pacing P W) t Q ((policyReady p t episodeId controlEpoch).recorded t) x := by
  rw [policyReady, Prog.recorded_bind, wp_bind]
  refine wp_paced (by simp) fun x₁ hr₁ hi₁ => ⟨by cases t <;> exact ⟨rfl, ht⟩, fun e hadm _ => ?_⟩
  have hboth : (pollLocked episodeId controlEpoch).Post e x₁.1 fun r s' =>
      Changes (.poll t controlEpoch) x₁.1 (raised (markEpoch controlEpoch r)) s' ∧
        Takes controlEpoch x₁.1 r s' :=
    ⟨@poll_changes e x₁.1 controlEpoch t episodeId controlEpoch, poll_takes⟩
  refine Locked.post_mono hboth fun r s₂ h => ⟨h.1, fun y hy _ _ => ?_⟩
  have hneutral : (pacing P W).rely t x (x₁.1, y :: x₁.2) := rely_neutral (by rw [hy]; simp) hr₁
  obtain ⟨hne, rfl⟩ | ⟨⟨⟨result, needs⟩, rfl⟩, he, hp, rfl⟩ := h.2
  · rcases r with err | _ | taken
    · exact hidle _ _ hneutral (by simp)
    · exact hidle _ _ hneutral (by simp)
    · exact absurd rfl (hne taken)
  · -- the response is taken
    have hB := htake x₁ y hr₁ hi₁ hy he hp hadm
    simp only [markEpoch_ok]
    rw [Prog.recorded_bind, wp_bind]
    cases result with
    | error err => exact hraise _ _ hB
    | ok result =>
      rw [accept, Prog.recorded_bind, wp_bind]
      refine wp_paced (by simp) fun x₃ hr₃ _ => ⟨by cases t <;> exact ht, fun e _ _ => ?_⟩
      have hB₃ := hstab hB hr₃
      have hB₄ : ∀ y, y.name = .stateRead → B (x₃.1, y :: x₃.2) := fun y hy =>
        hstab hB (rely_neutral (by rw [hy]; simp) hr₃)
      rw [Locked.post_bind]
      refine Locked.post_call ?_ fun err => ⟨rfl, fun y hy _ _ => hraise _ _ (hB₄ y hy)⟩
      simp only [Locked.post_bind, Locked.post_ask, Locked.post_pure, markEpoch_ok]
      refine ⟨rfl, fun y hy _ _ => ?_⟩
      cases result with
      | prepared => exact hraise _ _ (hB₄ y hy)
      | ticket ticket =>
        dsimp only
        cases p.contract.validate ticket e.jointState controlEpoch with
        | error err => exact hraise _ _ (hB₄ y hy)
        | ok rows =>
          refine wp_paced (by simp) fun x₅ hr₅ _ => ⟨hpre x₅ _ (hstab (hB₄ y hy) hr₅) rfl,
            fun e _ _ => Locked.post_mono (activate_changes controlEpoch) fun r s₆ h =>
              ⟨h.1, fun y' hy' _ _ => ?_⟩⟩
          have hB₅ := hstab (hB₄ y hy) hr₅
          cases r with
          | error err =>
            rcases h.1 with hrefused | ⟨hnone, -⟩
            · rw [show s₆ = x₅.1 from hrefused.2]
              refine hraise _ _ (hstab (hB₄ y hy) (rely_neutral ?_ hr₅))
              rw [hy']
              simp
            · cases hnone
          | ok u =>
            rcases h.1 with hrefused | ⟨-, -, rfl⟩
            · cases hrefused.1
            · exact hok x₅ y' _ hB₅ hy'

/-- A step that waits for a response accepts it when the next command is due. -/
theorem wp_paced_wait {episodeId : String} (h : Stepping P epoch x) (hw : Waited P now epoch x)
    (hnow : Passed now x.2) :
    wp (pacing P W) .executor (fun _ x => Rested P x)
      ((waitForPolicy p episodeId epoch now).recorded .executor) x := by
  rw [waitForPolicy, Prog.recorded_bind, wp_bind]
  refine wp_paced_read fun x₁ hs₁ _ => ?_
  have h₁ := h.spares hs₁
  have hw₁ := hw.spares hs₁
  have hnow₁ := hnow.spares hs₁
  cases hstarted : x₁.1.policyWaitStartedS with
  | none => exact wp_paced_fail h₁.toFailing
  | some startedS =>
    dsimp only
    split_ifs
    · exact wp_paced_fail h₁.toFailing
    rw [Prog.recorded_andThen, wp_andThen]
    obtain ⟨hgranted, -⟩ := hw₁ startedS hstarted
    refine wp_paced_policyReady
      (fun x => Stepping P epoch x ∧ After P epoch x.2 now ∧ Granted epoch x.1.log) (by simp)
      (fun hB hs => ⟨hB.1.spares hs, hB.2.1.spares hs, hs.granted _ hB.2.2⟩)
      (fun r x₂ hs₂ hr => ?_) (fun x₂ y hs₂ hi₂ hy he hp _ => ?_)
      (fun x₂ lease hB he => ⟨rfl, by rw [he]; exact hB.2.2⟩)
      (fun f x₂ hB => wp_paced_fail hB.1.toFailing) fun x₂ y lease hB hy => ?_
    · rcases r with f | _ | _
      · exact wp_paced_fail (h₁.spares hs₂).toFailing
      · exact (h₁.spares hs₂).rested (hw₁.spares hs₂)
      · exact absurd rfl hr
    · -- the gate was opened in this control epoch, so the request is the executor's
      have h₂ := h₁.spares hs₂
      have hg₂ := hs₂.granted _ hgranted
      have hasked := hi₂.asked hp (he ▸ hg₂)
      have hun : ¬ Unasked x₂.1 := by
        rintro (hnone | hne)
        · exact hp hnone
        · exact hne hasked
      obtain ⟨hafter, hle, -⟩ := (hw₁.spares hs₂ startedS (hs₂.waiting.trans hstarted)).2 hun
      have hcommands : ∀ epoch, commands epoch (y :: x₂.2) = commands epoch x₂.2 := fun _ =>
        commands_of_ne (by rw [hy]; simp)
      refine ⟨h₂.of le_rfl rfl rfl hcommands, ?_, hg₂⟩
      rw [After, hcommands]
      exact hafter.mono hle
    · have hcommands : ∀ epoch, commands epoch (y :: x₂.2) = commands epoch x₂.2 := fun _ =>
        commands_of_ne (by rw [hy]; simp)
      have hB' : Stepping P epoch (x₂.1.activated .executor lease.commands, y :: x₂.2) ∧
          After P epoch (y :: x₂.2) now :=
        ⟨hB.1.of le_rfl rfl rfl hcommands, by rw [After, hcommands]; exact hB.2.1⟩
      rw [Prog.recorded_bind, wp_bind]
      refine wp_paced_schedule fun x₃ hs₃ _ => ?_
      obtain ⟨h₃, ha₃⟩ : Stepping P epoch x₃ ∧ After P epoch x₃.2 now :=
        ⟨hB'.1.spares hs₃, After.spares hB'.2 hs₃⟩
      refine ⟨⟨_, _, _, rfl, fun e he => ?_⟩, fun record hc _ _ => ?_⟩
      · obtain rfl := Option.some.inj (h₃.active.symm.trans he)
        exact h₃.reached
      · have h₄ : Stepping P epoch
            ((x₃.1.scheduled x₃.1.activeEpoch (some now) none : Sequential), record) :=
          ⟨⟨h₃.reached, fun epoch' hlt => by rw [hc]; exact h₃.future epoch' hlt⟩, h₃.active,
            now, rfl, by rwa [After, hc]⟩
        exact h₄.rest fun _ w hw => by cases hw

/-- The next chunk is asked for when the next command is due. -/
theorem wp_paced_request {episodeId : String} (h : Stepping P epoch x)
    (hw : Waited P now epoch x) (hnow : Passed now x.2) :
    wp (pacing P W) .executor (fun _ x => Rested P x)
      ((requestChunk episodeId epoch now).recorded .executor) x := by
  rw [requestChunk, Prog.recorded_bind, wp_bind]
  refine wp_paced_read fun x₁ hs₁ _ => ?_
  have h₁ := h.spares hs₁
  dsimp only
  split_ifs with hearly
  · exact h₁.rested (hw.spares hs₁)
  have hafter₁ : After P epoch x₁.2 now := by
    obtain ⟨d, hd, hafter⟩ := h₁.next
    rw [hd] at hearly
    exact hafter.mono (by simpa using hearly)
  rw [Prog.recorded_andThen, wp_andThen]
  refine wp_paced (by simp) fun x₂ (hs₂ : Spares x₁ x₂) _ => ⟨⟨rfl, (by simp)⟩, fun e _ _ =>
    Locked.post_mono (preparePolicy_changes epoch) fun r s₃ hc => ⟨hc, fun y hy _ _ => ?_⟩⟩
  have hcommands : ∀ epoch, commands epoch (y :: x₂.2) = commands epoch x₂.2 := fun _ =>
    commands_of_ne (by rw [hy]; simp)
  have hown : s₃.controlEpoch = x₂.1.controlEpoch ∧ s₃.activeEpoch = x₂.1.activeEpoch ∧
      s₃.nextCommandS = x₂.1.nextCommandS := by
    generalize raised (markEpoch _ r) = outcome at hc
    cases hc with
    | refused hr => rw [hr.2]; exact ⟨rfl, rfl, rfl⟩
    | identified | submitted => exact ⟨rfl, rfl, rfl⟩
  have h₃ : Stepping P epoch (s₃, y :: x₂.2) :=
    (h₁.spares hs₂).of hown.1.ge hown.2.1 hown.2.2 hcommands
  have hafter₃ : After P epoch (y :: x₂.2) now := by
    rw [After, hcommands]
    exact hafter₁.spares hs₂
  have hnow₃ : Passed now (y :: x₂.2) := by
    obtain ⟨z, hz, hname, hle⟩ := (hnow.spares hs₁).spares hs₂
    exact ⟨z, List.mem_cons_of_mem _ hz, hname, hle⟩
  cases r with
  | error f => exact wp_paced_fail h₃.toFailing
  | ok u =>
    simp only [markEpoch_ok]
    rw [Prog.recorded_bind, wp_bind]
    refine wp_paced_schedule fun x₄ hs₄ _ => ?_
    have h₄ := h₃.spares hs₄
    refine ⟨⟨_, _, _, rfl, fun e he => ?_⟩, fun record hc _ hmem => ?_⟩
    · obtain rfl := Option.some.inj (h₄.active.symm.trans he)
      exact h₄.reached
    · have h₅ : Stepping P epoch ((x₄.1.scheduled x₄.1.activeEpoch x₄.1.nextCommandS (some now) :
          Sequential), record) := h₄.of le_rfl rfl rfl hc
      have hafter₄ : After P epoch record now := by
        rw [After, hc]
        exact After.spares hafter₃ hs₄
      have hnow₄ : Passed now record := by
        obtain ⟨z, hz, hname, hle⟩ := Passed.spares hnow₃ hs₄
        exact ⟨z, hmem z hz, hname, hle⟩
      refine h₅.rest fun _ w hw => ?_
      obtain rfl := Option.some.inj hw
      exact ⟨hafter₄, hnow₄⟩

/-- The publishing section sends the command that is due. -/
theorem wp_paced_publishNext {d : ℚ} {Q : Except Failure Unit → Sequential × Record → Prop}
    (h : Stepping P epoch x) (hd : x.1.nextCommandS = some d)
    (hafter : After P epoch x.2 d) (hdue : d ≤ stepClock x.2) (hlate : stepClock x.2 ≤ d + W)
    (hP : 0 ≤ P) (hunasked : Unasked x.1)
    (hQ : ∀ r x', Failing epoch x' → x'.1.activeEpoch = some epoch → Unasked x'.1 →
      After P epoch x'.2 (d + P) → Q r x') :
    wp (pacing P W) .executor Q ((publishNext epoch).recorded .executor) x := by
  intro x₁ (hs : Spares x x₁) hi
  refine ⟨rfl, fun e _ => ?_⟩
  have hsends : (publishNextLocked epoch).Post e x₁.1 fun _ s' => s' = x₁.1 ∨
      epoch = x₁.1.controlEpoch ∧ x₁.1.gateOpen = true ∧
        ∃ command rest, s' = x₁.1.published command rest := publishNext_sends
  have h₁ := h.spares hs
  have hd₁ : x₁.1.nextCommandS = some d := hs.next.trans hd
  have hafter₁ := hafter.spares hs
  have hunasked₁ := hs.unasked hunasked
  rw [← hs.clock] at hdue hlate
  show PaceInv P W (_, _) ∧ _ ∧ Q _ _
  simp only [entry]
  unfold Locked.Post at hsends
  generalize hrun : publishNextLocked epoch e x₁.1 = outcome at hsends ⊢
  obtain ⟨r, s'⟩ := outcome
  dsimp only at hsends ⊢
  rcases hsends with rfl | ⟨rfl, hgate, command, rest, rfl⟩
  · have hc : ∀ epoch', commands epoch' (⟨.executor, .publishNext, e, x₁.1,
        raised (markEpoch epoch r), x₁.1⟩ :: x₁.2) = commands epoch' x₁.2 := fun epoch' => by
      rw [commands, sent_refused]
      exact List.append_nil _
    refine ⟨hi.congr hc rfl rfl id id, ⟨fun ht => absurd rfl ht, fun _ => ⟨rfl, fun _ h => h, id⟩⟩,
      hQ _ _ ⟨h₁.reached, fun epoch' hlt => ?_⟩ h₁.active hunasked₁ ?_⟩
    · rw [hc]
      exact h₁.future epoch' hlt
    · rw [After, hc]
      exact hafter₁.mono (by linarith)
  · refine ⟨hi.publish hgate hd₁ hdue hlate hafter₁, ⟨fun ht => absurd rfl ht, fun _ =>
      ⟨rfl, fun _ hg => (granted_cons (by simp)).1 hg, id⟩⟩,
      hQ _ _ ⟨le_rfl, fun epoch' hlt => ?_⟩ h₁.active hunasked₁ ?_⟩
    · rw [commands, sent_published hd₁, if_neg (Nat.ne_of_lt hlt)]
      simpa using h₁.future epoch' hlt
    · rw [After, commands, sent_published hd₁, if_pos rfl]
      intro z hz
      rcases List.mem_append.1 hz with hz | hz
      · exact (hafter₁ z hz).trans (by linarith)
      · rw [List.mem_singleton.1 hz]

/-- The part of a step that publishes. -/
theorem wp_paced_publishDue (h : Stepping P epoch x) (hw : Waited P now epoch x)
    (hunasked : Unasked x.1) (hnow : stepClock x.2 = now) (hP : 0 ≤ P) (hperiod : p.periodS = P)
    (hwatch : p.commandWatchdogS = W) :
    wp (pacing P W) .executor (fun _ x => Rested P x)
      ((publishDue p epoch now).recorded .executor) x := by
  rw [publishDue, Prog.recorded_bind, wp_bind]
  refine wp_paced_read fun x₁ hs₁ _ => ?_
  have h₁ := h.spares hs₁
  have hrested := h₁.rested (hw.spares hs₁)
  obtain ⟨d, hd, hafter⟩ := h₁.next
  rw [hd]
  dsimp only
  split_ifs with hearly hlate
  · exact hrested
  · exact wp_paced_fail h₁.toFailing
  rw [Prog.recorded_andThen, wp_andThen]
  rw [← hs₁.clock] at hnow
  refine wp_paced_publishNext h₁ hd hafter (by linarith) (by linarith) hP (hs₁.unasked hunasked)
    fun r x₂ hfailing hactive hunasked₂ hafter₂ => ?_
  cases r with
  | error f => exact wp_paced_fail hfailing
  | ok u =>
    dsimp only
    rw [Prog.recorded_bind, wp_bind]
    refine wp_paced_schedule fun x₃ hs₃ _ => ?_
    have hfailing₃ := hfailing.spares hs₃
    have hactive₃ := hs₃.active.trans hactive
    refine ⟨⟨_, _, _, rfl, fun e he => ?_⟩, fun record hc _ _ => ?_⟩
    · obtain rfl := Option.some.inj (hactive₃.symm.trans he)
      exact hfailing₃.reached
    · have h₄ : Stepping P epoch ((x₃.1.scheduled x₃.1.activeEpoch (some (d + p.periodS))
          x₃.1.policyWaitStartedS : Sequential), record) := by
        refine ⟨⟨hfailing₃.reached, fun epoch' hlt => ?_⟩, hactive₃, _, rfl, ?_⟩
        · rw [hc]
          exact hfailing₃.future epoch' hlt
        · rw [After, hc, hperiod]
          exact hafter₂.spares hs₃
      exact h₄.rest fun hu => absurd (hs₃.unasked hunasked₂) hu

/-- The control epoch that a step enters has no commands, unless the executor was in it. -/
theorem Rested.enter (h : Rested P x) (hgate : x.1.gateOpen = true) (hs : Spares x x')
    (hne : x'.1.activeEpoch ≠ some x'.1.controlEpoch) : commands x'.1.controlEpoch x'.2 = [] := by
  rw [hs.commands]
  rw [hs.active] at hne
  rcases hs.epoch.eq_or_lt with heq | hlt
  · rw [← heq] at hne ⊢
    refine (h.barred hne).current.resolve_right fun ⟨hclosed, _⟩ => ?_
    rw [hgate] at hclosed
    cases hclosed
  · exact h.later _ hlt

/-- The reading of the clock with which a step begins. -/
theorem Rested.clock {y : Executed Role Section Env Sequential Failure} (h : Rested P x)
    (hy : y.name = .clock) : Rested P (x.1, y :: x.2) := by
  have hcommands : ∀ epoch, commands epoch (y :: x.2) = commands epoch x.2 := fun _ =>
    commands_of_ne (by rw [hy]; simp)
  refine ⟨fun e he => ?_, fun epoch hlt => ?_, fun hne => ⟨fun epoch hlt => ?_, ?_⟩,
    fun hu e w he hw => ?_⟩
  · obtain ⟨hle, d, hd, hafter⟩ := h.next e he
    exact ⟨hle, d, hd, by rwa [After, hcommands]⟩
  · rw [hcommands]
    exact h.later epoch hlt
  · rw [hcommands]
    exact (h.barred hne).later epoch hlt
  · rw [hcommands]
    exact (h.barred hne).current
  · obtain ⟨hafter, z, hz, hname, hle⟩ := h.waited hu e w he hw
    exact ⟨by rwa [After, hcommands], z, List.mem_cons_of_mem _ hz, hname, hle⟩

/-- A step that enters the control epoch that it has read. -/
theorem wp_paced_enter {Q : Except Failure Unit → Sequential × Record → Prop}
    (hfailing : Failing epoch x)
    (hnew : x.1.activeEpoch ≠ some epoch → commands epoch x.2 = [])
    (hold : x.1.activeEpoch = some epoch → Stepping P epoch x ∧ Waited P now epoch x)
    (hQ : ∀ x', Stepping P epoch x' → Waited P now epoch x' → stepClock x'.2 = stepClock x.2 →
      (∀ y ∈ x.2, y ∈ x'.2) → Q (.ok ()) x') :
    wp (pacing P W) .executor Q ((schedule fun s => s.enter epoch now).recorded .executor) x := by
  refine wp_paced_schedule fun x' hs _ => ?_
  have hfailing' := hfailing.spares hs
  by_cases hactive : x.1.activeEpoch = some epoch
  · obtain ⟨h, hw⟩ := hold hactive
    have h' := h.spares hs
    have hw' := hw.spares hs
    have heq : x'.1.enter epoch now = x'.1 := by
      rw [enter, if_neg (not_not.2 h'.active)]
    refine ⟨⟨x'.1.activeEpoch, x'.1.nextCommandS, x'.1.policyWaitStartedS, heq, fun e he => ?_⟩,
      fun record hc hclock hmem => ?_⟩
    · obtain rfl := Option.some.inj (h'.active.symm.trans he)
      exact h'.reached
    · rw [heq]
      refine hQ _ (h'.of le_rfl rfl rfl hc) (fun w hw'' => ?_) (hclock.trans hs.clock)
        fun y hy => hmem y (hs.record y hy)
      obtain ⟨hg, hafter⟩ := hw' w hw''
      refine ⟨hg, fun hu => ?_⟩
      obtain ⟨hafter, hle, z, hz, hname, hz'⟩ := hafter hu
      exact ⟨by rwa [After, hc], hle, z, hmem z hz, hname, hz'⟩
  · have heq : x'.1.enter epoch now = x'.1.scheduled (some epoch) (some now) none := by
      rw [enter, if_pos (by rwa [hs.active])]
    refine ⟨⟨_, _, _, heq, fun e he => ?_⟩, fun record hc hclock hmem => ?_⟩
    · obtain rfl := Option.some.inj he
      exact hfailing'.reached
    · rw [heq]
      refine hQ _ ⟨⟨hfailing'.reached, fun epoch' hlt => ?_⟩, rfl, now, rfl, ?_⟩
        (by rintro _ ⟨⟩) (hclock.trans hs.clock) fun y hy => hmem y (hs.record y hy)
      · rw [hc]
        exact hfailing'.future epoch' hlt
      · refine .of_nil ?_
        rw [hc, hs.commands]
        exact hnew hactive

/-- A step may be interrupted anywhere. -/
theorem wp_paced_step (h : Rested P x) (hP : 0 ≤ P) (hperiod : p.periodS = P)
    (hwatch : p.commandWatchdogS = W) :
    wp (pacing P W) .executor (fun _ x => Rested P x) ((step p).recorded .executor) x := by
  rw [step, Prog.recorded_bind, wp_bind]
  refine wp_paced (by simp) fun x₁ (hs₁ : Spares x x₁) _ => ⟨rfl, fun e _ hordered =>
    ⟨rfl, fun y hy he _ => ?_⟩⟩
  simp only [Locked.bind_run, Locked.ask_run, Locked.pure_run, markEpoch_ok]
  have h₁ : Rested P (x₁.1, y :: x₁.2) := (h.spares hs₁).clock hy
  have hnow : stepClock (y :: x₁.2) = e.clock := by
    rw [stepClock, hy]
    exact congrArg Env.clock he
  have hpassed : Passed e.clock (y :: x₁.2) := 
    ⟨y, List.mem_cons_self, by rw [hy]; rfl, by rw [he]⟩
  -- the executor has waited since an earlier reading
  have hsince : ¬ Unasked x₁.1 → ∀ w, x₁.1.policyWaitStartedS = some w → ∀ e',
      x₁.1.activeEpoch = some e' → w ≤ e.clock := fun hu w hw e' he' => by
    obtain ⟨-, z, hz, hname, hle⟩ := (h.spares hs₁).waited hu e' w he' hw
    exact hle.trans (hordered rfl z hz hname)
  rw [Prog.recorded_bind, wp_bind]
  refine wp_paced_read fun x₂ hs₂ hi₂ => ?_
  have h₂ := h₁.spares hs₂
  dsimp only
  split_ifs with hgate
  swap
  · exact wp_paced_reset (hi₂.barred (by simpa using hgate))
  rw [Prog.recorded_bind, wp_bind]
  refine wp_paced_read fun x₃ hs₃ hi₃ => ?_
  have hfailing₃ : Failing x₃.1.controlEpoch x₃ := ⟨le_rfl, hi₃.past⟩
  have hnew₃ := h₂.enter hgate hs₃
  dsimp only
  rw [Prog.recorded_bind, wp_bind]
  refine wp_paced_read fun x₄ hs₄ _ => ?_
  have hfailing₄ := hfailing₃.spares hs₄
  have h₄ := (h₂.spares hs₃).spares hs₄
  dsimp only
  split_ifs
  · exact wp_paced_fail hfailing₄
  rw [Prog.recorded_bind, wp_bind]
  refine wp_paced_enter hfailing₄ (fun hne => ?_) (fun hactive => ?_)
    fun x₅ h₅ hw₅ hclock₅ hmem₅ => ?_
  · rw [hs₄.commands]
    exact hnew₃ (by rwa [← hs₄.active])
  · -- the executor was in this control epoch before, and the gate was open
    have hactive₂ : x₂.1.activeEpoch = some x₃.1.controlEpoch := by
      rw [← hs₃.active, ← hs₄.active]
      exact hactive
    have hsame : x₂.1.controlEpoch = x₃.1.controlEpoch :=
      le_antisymm hs₃.epoch (h₂.next _ hactive₂).1
    have hgranted : Granted x₃.1.controlEpoch x₂.1.log := hsame ▸ hi₂.gate hgate
    refine ⟨⟨hfailing₄, hactive, (h₄.next _ hactive).2⟩, fun w hw =>
      ⟨hs₄.granted _ (hs₃.granted _ hgranted), fun hu => ?_⟩⟩
    obtain ⟨hafter, hpass⟩ := h₄.waited hu _ w hactive hw
    refine ⟨hafter, hsince (fun hx => hu ?_) w ?_ x₃.1.controlEpoch ?_, hpass⟩
    · exact hs₄.unasked (hs₃.unasked (hs₂.unasked hx))
    · rw [← hw, hs₄.waiting, hs₃.waiting, hs₂.waiting]
    · rw [← hactive₂, hs₂.active]
  · have hpassed₅ : Passed e.clock x₅.2 := by
      obtain ⟨z, hz, hname, hle⟩ := ((Passed.spares hpassed hs₂).spares hs₃).spares hs₄
      exact ⟨z, hmem₅ z hz, hname, hle⟩
    have hnow₅ : stepClock x₅.2 = e.clock := by
      rw [hclock₅, hs₄.clock, hs₃.clock, hs₂.clock]
      exact hnow
    dsimp only
    rw [Prog.recorded_bind, wp_bind]
    refine wp_paced_read fun x₆ hs₆ _ => ?_
    dsimp only
    split_ifs with hpending
    · exact wp_paced_wait (h₅.spares hs₆) (hw₅.spares hs₆) (hpassed₅.spares hs₆)
    have hunasked : Unasked x₆.1 := .inl (by simpa using hpending)
    rw [Prog.recorded_bind, wp_bind]
    refine wp_paced_read fun x₇ hs₇ _ => ?_
    have h₇ := (h₅.spares hs₆).spares hs₇
    have hw₇ := (hw₅.spares hs₆).spares hs₇
    dsimp only
    split_ifs
    · exact wp_paced_request h₇ hw₇ ((hpassed₅.spares hs₆).spares hs₇)
    · refine wp_paced_publishDue h₇ hw₇ (hs₇.unasked hunasked) ?_ hP hperiod hwatch
      rw [hs₇.clock, hs₆.clock]
      exact hnow₅

/-! ### The controller and the policy -/

theorem wp_paced_closeGate {controlEpoch : ℕ} :
    wp (pacing P W) .controller (fun _ _ => True)
      ((closeGate .controller controlEpoch).recorded .controller) x :=
  wp_paced (by simp) fun _ _ _ => ⟨⟨rfl, (by simp)⟩, fun _ _ _ =>
    Locked.post_mono (closeGate_changes controlEpoch) fun _ _ h => ⟨h, fun _ _ _ _ => trivial⟩⟩

theorem wp_paced_clearPending {controlEpoch : ℕ} :
    wp (pacing P W) .controller (fun _ _ => True)
      ((clearPending controlEpoch).recorded .controller) x := by
  rw [clearPending, Prog.recorded_bind]
  refine wp_bind_true (wp_paced (by simp) fun _ _ _ => ⟨rfl, fun _ _ _ =>
    Locked.post_mono (clearPending_changes controlEpoch) fun _ _ h =>
      ⟨h, fun _ _ _ _ => trivial⟩⟩) fun _ _ => ?_
  exact wp_paced (by simp) fun _ _ _ => ⟨rfl, fun _ _ _ =>
    Locked.post_call ⟨rfl, fun _ _ _ _ => trivial⟩ fun _ => ⟨rfl, fun _ _ _ _ => trivial⟩⟩

theorem wp_paced_preparePolicy {episodeId : String} {controlEpoch : ℕ} :
    wp (pacing P W) .controller (fun _ _ => True)
      ((preparePolicy .controller episodeId controlEpoch).recorded .controller) x :=
  wp_paced (by simp) fun _ _ _ => ⟨⟨rfl, (by simp)⟩, fun _ _ _ =>
    Locked.post_mono (preparePolicy_changes controlEpoch) fun _ _ h => ⟨h, fun _ _ _ _ => trivial⟩⟩

/-- A response that the controller takes is for its own request. -/
theorem wp_paced_policyReady_controller {episodeId : String} {controlEpoch : ℕ} :
    wp (pacing P W) .controller (fun _ _ => True)
      ((policyReady p .controller episodeId controlEpoch).recorded .controller) x :=
  wp_paced_policyReady (fun x => ¬ Granted controlEpoch x.1.log ∧ Answered x.1) (by simp)
    (fun hB hs => ⟨fun h => hB.1 (hs.granted _ h), hs.answered hB.2⟩) (fun _ _ _ _ => trivial)
    (fun x' y _ _ _ _ _ hcontent => ⟨hcontent, .inl rfl⟩)
    (fun x' lease hB he => ⟨rfl, by rw [he]; exact hB.1, hB.2⟩) (fun _ _ _ => trivial)
    fun _ _ _ _ _ => trivial

theorem wp_paced_takeFault :
    wp (pacing P W) .controller (fun _ _ => True) (takeFault.recorded .controller) x :=
  wp_paced (by simp) fun _ _ _ => ⟨rfl, fun _ _ _ => ⟨⟨rfl, rfl⟩, fun _ _ _ _ => trivial⟩⟩

theorem wp_paced_complete {future : ℕ} {result : Except PyError PolicyResult} :
    wp (pacing P W) .policy (fun _ _ => True) ((complete future result).recorded .policy) x :=
  wp_paced (by simp) fun _ _ _ => ⟨rfl, fun _ _ _ =>
    ⟨⟨rfl, future, result, rfl⟩, fun _ _ _ _ => trivial⟩⟩

theorem periodS_pos (p : SequentialParameters) : 0 < p.periodS := one_div_pos.2 p.positive.1

/-- The outline is sound for the recorded system. -/
theorem pacing_sound (p : SequentialParameters) :
    (pacing p.periodS p.commandWatchdogS).Sound (system p).recorded where
  refl := fun t x => by
    cases t with
    | controller => exact Leaves.refl
    | executor => exact Spares.refl
    | policy => trivial
  trans := fun t {a b c} h h' => by
    cases t with
    | controller => exact Leaves.trans h h'
    | executor => exact Spares.trans h h'
    | policy => trivial
  compat := fun {t t'} {l x r x'} hne _ _ _ hg => by
    cases t' with
    | controller => exact hg.2 hne
    | executor => exact hg.1 hne
    | policy => trivial
  idle_stable := fun {t x x'} h hr => by
    cases t with
    | executor => exact Rested.spares h hr
    | controller | policy => trivial
  op := fun t o x _ hidle _ => by
    cases t with
    | controller =>
      cases o with
      | closeGate e => exact wp_paced_closeGate
      | clearPending e => exact wp_paced_clearPending
      | preparePolicy episodeId e => exact wp_paced_preparePolicy
      | policyReady episodeId e =>
        show wp _ _ _ (Prog.recorded _ (do let _ ← _)) _
        rw [Prog.recorded_bind]
        exact wp_bind_true wp_paced_policyReady_controller fun _ _ => trivial
      | takeFault =>
        show wp _ _ _ (Prog.recorded _ (do let _ ← _)) _
        rw [Prog.recorded_bind]
        exact wp_bind_true wp_paced_takeFault fun _ _ => trivial
      | step | complete => trivial
    | executor =>
      cases o with
      | step =>
        show wp _ _ _ (Prog.recorded _ (do let _ ← step p)) _
        rw [Prog.recorded_bind, wp_bind]
        refine wp_mono (wp_paced_step hidle (periodS_pos p).le rfl rfl) fun r x' h => ?_
        cases r <;> exact h
      | _ => exact hidle
    | policy =>
      cases o with
      | complete future result => exact wp_paced_complete
      | _ => trivial

theorem rested_init : Rested P (({} : Sequential), ([] : Record)) where
  next := by rintro _ ⟨⟩
  later := fun _ _ => rfl
  barred := fun _ => ⟨fun _ _ => rfl, .inl rfl⟩
  waited := fun h => absurd (.inl rfl) h

/-- In every run with controllers like those of the source, the commands of the sequential executor
are paced within each control epoch, wherever it enters the epoch, waits for a response or finds
the gate closed.  The times are the readings of the clock that its steps compared with the
schedule. -/
theorem executor_commands_paced {p : SequentialParameters}
    {c : Config Role Section Env (Sequential × Record) Failure}
    (hc : (system p).recorded.Reachable (fun _ l e x => Content l x.1 ∧ Ordered l e x.2)
      (.init ({}, [])) c) (epoch : ℕ) :
    Paced p.periodS p.commandWatchdogS (commands epoch c.shared.2) := by
  have hi := (pacing_sound p).inv paceInv_init (fun t => ?_) hc
  · exact (hi.spaced epoch).paced (periodS_pos p) p.positive.2.2.le (hi.inTime epoch)
  · cases t with
    | executor => exact rested_init
    | controller | policy => trivial

/-- What a schedule shows of a recorded run. -/
theorem Station.shows_recorded (schedule : List (Move Role Op Env))
    (test : Config Role Section Env (Sequential × Record) Failure → Bool)
    (h : ((system Station.parameters).recorded.play
      (fun _ l e x => decide (Content l x.1 ∧ Ordered l e x.2)) (.init ({}, [])) schedule).any
        test = true) :
    ∃ c, (system Station.parameters).recorded.Reachable
        (fun _ l e x => Content l x.1 ∧ Ordered l e x.2) (.init ({}, [])) c ∧ test c = true :=
  System.play_shows (fun _ _ _ => trivial) (fun _ _ _ _ h => of_decide_eq_true h) test h

/-- The second chunk is accepted late, and its command is due a period after the first one. -/
theorem executor_commands_paced_second :
    ∃ c, (system Station.parameters).recorded.Reachable
        (fun _ l e x => Content l x.1 ∧ Ordered l e x.2) (.init ({}, [])) c ∧
      commands 0 c.shared.2 = [⟨0, 0⟩, ⟨5 / 4, 3 / 2⟩] ∧
        Paced Station.parameters.periodS Station.parameters.commandWatchdogS
          (commands 0 c.shared.2) := by
  obtain ⟨c, hc, ht⟩ := Station.shows_recorded
    (Station.openLease 0 0 ++ Station.publish 0 ++ Station.run .executor .step 10 1 ++
      Station.answer 1 0 ++ Station.run .executor .step 11 (5 / 4) ++ Station.publish (3 / 2))
    (fun c => decide (commands 0 c.shared.2 = [⟨0, 0⟩, ⟨5 / 4, 3 / 2⟩])) (by decide +kernel)
  exact ⟨c, hc, of_decide_eq_true ht, executor_commands_paced hc 0⟩

end Sequential

end DualCollection
