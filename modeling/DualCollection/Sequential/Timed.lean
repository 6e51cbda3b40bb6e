import DualCollection.Sequential.Sections
import DualCollection.Thread.Recorded
import DualCollection.Timing.Pacing

/-!
# The commands of the sequential executor

`commands` reads from the record of a run which commands the executor published in a control epoch,
each with the reading of the clock that its step compared with the due time; the sink is called
after that, and later if the executor has to wait for the lock.  `PaceInv` says that they are paced;
every section of every thread keeps it, the publishing one as long as its command is due
(`PaceInv.publish`).

The gate is opened in a control epoch by the controller first, and by the executor after that.
`Content` are the controllers that ask for nothing more in an epoch in which their `policy_ready`
has opened the gate, as the controllers of the source do.
-/

namespace DualCollection

open Thread Timing

namespace Sequential

/-- The record of a run. -/
abbrev Record := List (Executed Role Section Env Sequential Failure)

/-- The reading of the clock with which the last step of the executor began. -/
def stepClock : Record → ℚ
  | [] => 0
  | x :: record => match x.name with
    | .clock => x.answers.clock
    | _ => stepClock record

/-- The command that a section published in the control epoch; `now` is the reading of the clock
that was compared with its due time. -/
def sent (now : ℚ) (epoch : ℕ) (x : Executed Role Section Env Sequential Failure) :
    Option (Sending ℚ) :=
  match x.name with
  | .publishNext =>
    if x.before.controlEpoch = epoch ∧ x.before.log.length < x.after.log.length then
      some ⟨x.before.nextCommandS.getD now, now⟩
    else none
  | _ => none

/-- The commands published in a control epoch, oldest first.  The time of a command is the reading
with which its step began; the sink is called after it. -/
def commands (epoch : ℕ) : Record → List (Sending ℚ)
  | [] => []
  | x :: record => commands epoch record ++ (sent (stepClock record) epoch x).toList

/-- The section with which a step reads the clock. -/
def Section.isClock : Section → Bool
  | .clock => true
  | _ => false

/-- The executor has read the clock at the time `w` or later. -/
def Passed (w : ℚ) (record : Record) : Prop :=
  ∃ y ∈ record, y.name.isClock = true ∧ w ≤ y.answers.clock

/-- The clock does not go backwards. -/
def Ordered (l : Section) (e : Env) (record : Record) : Prop :=
  l.isClock = true → ∀ y ∈ record, y.name.isClock = true → y.answers.clock ≤ e.clock

/-- The controller has opened the gate in the control epoch. -/
def Granted (epoch : ℕ) (log : List Event) : Prop := .opened .controller epoch ∈ log

/-- The controller asks for nothing more in a control epoch in which it has opened the gate. -/
def Content : Section → Sequential → Prop
  | .prepare .controller, s => ¬ Granted s.controlEpoch s.log
  | .poll .controller epoch, s => ¬ Granted epoch s.log
  | _, _ => True

/-- `Content` can be evaluated. -/
def decideContent : (l : Section) → (s : Sequential) → Decidable (Content l s)
  | .prepare .controller, s =>
    inferInstanceAs (Decidable (¬ .opened .controller s.controlEpoch ∈ s.log))
  | .poll .controller e, s => inferInstanceAs (Decidable (¬ .opened .controller e ∈ s.log))
  | .prepare .executor, _ | .prepare .policy, _ | .poll .executor _, _ | .poll .policy _, _
  | .closeGate _ _, _ | .clearPending _, _ | .beginEpoch, _ | .stateRead, _ | .activate _ _, _
  | .publishNext, _ | .latchFault _, _ | .takeFault, _ | .read, _ | .clock, _ | .schedule, _
  | .complete, _ => isTrue trivial

instance (l : Section) (s : Sequential) : Decidable (Content l s) := decideContent l s

instance (l : Section) (e : Env) (record : Record) : Decidable (Ordered l e record) :=
  inferInstanceAs (Decidable (l.isClock = true → ∀ y ∈ record, y.name.isClock = true →
    y.answers.clock ≤ e.clock))

/-- The thread that submitted the last request. -/
def preparer : List Event → Option Role
  | [] => none
  | .prepared caller _ :: _ => some caller
  | _ :: log => preparer log

/-- No request of the executor is pending. -/
def Unasked (s : Sequential) : Prop := s.pending = none ∨ preparer s.log ≠ some .executor

/-- A command due at `d` comes a period after all commands of the epoch. -/
def After (P : ℚ) (epoch : ℕ) (record : Record) (d : ℚ) : Prop :=
  ∀ y ∈ commands epoch record, y.due + P ≤ d

variable {P W now : ℚ} {epoch : ℕ} {record : Record} {s s' : Sequential} {r : Option Failure}
  {l : Section} {e : Env} {t : Role} {x x' x'' : Sequential × Record}

theorem commands_of_ne {y : Executed Role Section Env Sequential Failure}
    (hy : y.name ≠ .publishNext) : commands epoch (y :: record) = commands epoch record := by
  have hnone : sent (stepClock record) epoch y = none := by
    unfold sent
    split
    · rename_i h
      exact absurd h hy
    · rfl
  rw [commands, hnone]
  exact List.append_nil _

theorem stepClock_of_ne {y : Executed Role Section Env Sequential Failure}
    (hy : y.name ≠ .clock) : stepClock (y :: record) = stepClock record := by
  rw [stepClock]
  split
  · rename_i h
    exact absurd h hy
  · rfl

/-! ### The invariant -/

/-- The invariant of the recorded runs: `P` is the period and `W` the watchdog. -/
structure PaceInv (P W : ℚ) (x : Sequential × Record) : Prop where
  /-- The executor opens the gate only in a control epoch in which the controller has opened it. -/
  second : ∀ epoch, .opened .executor epoch ∈ x.1.log → Granted epoch x.1.log
  /-- The gate is open only after the controller has opened it. -/
  gate : x.1.gateOpen = true → Granted x.1.controlEpoch x.1.log
  /-- Commands are published only after the controller has opened the gate. -/
  granted : ∀ epoch, commands epoch x.2 ≠ [] → Granted epoch x.1.log
  /-- A control epoch that was not reached has no commands. -/
  past : ∀ epoch, x.1.controlEpoch < epoch → commands epoch x.2 = []
  /-- After the controller has opened the gate, only the executor asks. -/
  asked : x.1.pending ≠ none → Granted x.1.controlEpoch x.1.log →
    preparer x.1.log = some .executor
  /-- The due times of an epoch are a period apart. -/
  spaced : ∀ epoch, Spaced P (commands epoch x.2)
  /-- No command was published before it was due, or too late. -/
  inTime : ∀ epoch, ∀ y ∈ commands epoch x.2, y.InTime W

theorem paceInv_init : PaceInv P W ({}, []) where
  second := fun _ h => by cases h
  gate := fun h => by cases h
  granted := fun _ h => absurd rfl h
  past := fun _ _ => rfl
  asked := fun h => absurd rfl h
  spaced := fun _ => .nil
  inTime := fun _ _ h => by cases h

/-! ### The threads -/

/-- What the controller and the policy do to what the executor knows. -/
structure Spares (x x' : Sequential × Record) : Prop where
  /-- The control epoch does not move backwards. -/
  epoch : x.1.controlEpoch ≤ x'.1.controlEpoch
  /-- The attributes of the executor are its own. -/
  active : x'.1.activeEpoch = x.1.activeEpoch
  /-- The attributes of the executor are its own. -/
  next : x'.1.nextCommandS = x.1.nextCommandS
  /-- The attributes of the executor are its own. -/
  waiting : x'.1.policyWaitStartedS = x.1.policyWaitStartedS
  /-- Only the executor publishes. -/
  commands : ∀ epoch, commands epoch x'.2 = commands epoch x.2
  /-- The clock was read by the step. -/
  clock : stepClock x'.2 = stepClock x.2
  /-- Nothing is taken out of the record. -/
  record : ∀ y ∈ x.2, y ∈ x'.2
  /-- Nothing is taken out of the log. -/
  granted : ∀ epoch, Granted epoch x.1.log → Granted epoch x'.1.log
  /-- A gate that was closed stays so, once the controller has opened it in the epoch. -/
  shut : x.1.gateOpen = false → Granted x.1.controlEpoch x.1.log →
    x'.1.controlEpoch = x.1.controlEpoch → x'.1.gateOpen = false
  /-- The requests of the others are not the executor's. -/
  unasked : Unasked x.1 → Unasked x'.1

/-- The pending request is not the controller's. -/
def Answered (s : Sequential) : Prop := s.pending = none ∨ preparer s.log = some .executor

/-- What the executor and the policy do to what the controller knows. -/
structure Leaves (x x' : Sequential × Record) : Prop where
  /-- The control epoch is the controller's. -/
  epoch : x'.1.controlEpoch = x.1.controlEpoch
  /-- So is the first time that the gate is opened. -/
  granted : ∀ epoch, Granted epoch x'.1.log → Granted epoch x.1.log
  /-- The requests of the others are not the controller's. -/
  answered : Answered x.1 → Answered x'.1

theorem Spares.refl : Spares x x :=
  ⟨le_rfl, rfl, rfl, rfl, fun _ => rfl, rfl, fun _ h => h, fun _ h => h, fun h _ _ => h, id⟩

theorem Spares.trans (h : Spares x x') (h' : Spares x' x'') : Spares x x'' where
  epoch := h.epoch.trans h'.epoch
  active := h'.active.trans h.active
  next := h'.next.trans h.next
  waiting := h'.waiting.trans h.waiting
  commands := fun epoch => (h'.commands epoch).trans (h.commands epoch)
  clock := h'.clock.trans h.clock
  record := fun y hy => h'.record y (h.record y hy)
  granted := fun epoch hg => h'.granted epoch (h.granted epoch hg)
  shut := fun hgate hg he => by
    have h₁ := h.epoch
    have h₂ := h'.epoch
    have he₁ : x'.1.controlEpoch = x.1.controlEpoch := by omega
    refine h'.shut (h.shut hgate hg he₁) ?_ (by omega)
    rw [he₁]
    exact h.granted _ hg
  unasked := fun hu => h'.unasked (h.unasked hu)

theorem Leaves.refl : Leaves x x := ⟨rfl, fun _ h => h, id⟩

theorem Leaves.trans (h : Leaves x x') (h' : Leaves x' x'') : Leaves x x'' where
  epoch := h'.epoch.trans h.epoch
  granted := fun epoch hg => h.granted epoch (h'.granted epoch hg)
  answered := fun ha => h'.answered (h.answered ha)

/-- What holds when a thread is about to execute a section. -/
def PacePre : Role → Section → Sequential × Record → Prop
  | t, .closeGate caller _, _ | t, .prepare caller, _ | t, .poll caller _, _ =>
    caller = t ∧ t ≠ .policy
  | .controller, .activate caller lease, x => caller = .controller ∧
      ¬ Granted lease.controlEpoch x.1.log ∧ Answered x.1
  | .executor, .activate caller lease, x => caller = .executor ∧
      Granted lease.controlEpoch x.1.log
  | .policy, .activate _ _, _ => False
  | t, .clearPending _, _ | t, .beginEpoch, _ | t, .takeFault, _ => t = .controller
  | t, .publishNext, _ | t, .latchFault _, _ | t, .schedule, _ | t, .clock, _ => t = .executor
  | t, .stateRead, _ | t, .read, _ => t ≠ .policy
  | t, .complete, _ => t = .policy

/-! ### What the sections do -/

theorem granted_cons {y : Event} {log : List Event} (hy : y ≠ .opened .controller epoch) :
    Granted epoch (y :: log) ↔ Granted epoch log := by
  simp [Granted, hy.symm]

/-- Changes that publish nothing. -/
theorem PaceInv.of (h : PaceInv P W x) (hc : ∀ epoch, commands epoch x'.2 = commands epoch x.2)
    (he : x.1.controlEpoch ≤ x'.1.controlEpoch)
    (hs : ∀ epoch, .opened .executor epoch ∈ x'.1.log →
      .opened .executor epoch ∈ x.1.log ∨ Granted epoch x'.1.log)
    (hm : ∀ epoch, Granted epoch x.1.log → Granted epoch x'.1.log)
    (hg : x'.1.gateOpen = true → Granted x'.1.controlEpoch x'.1.log)
    (ha : x'.1.pending ≠ none → Granted x'.1.controlEpoch x'.1.log →
      preparer x'.1.log = some .executor) : PaceInv P W x' where
  second := fun epoch ho => (hs epoch ho).elim (fun ho => hm epoch (h.second epoch ho)) id
  gate := hg
  granted := fun epoch hne => hm epoch (h.granted epoch (by rwa [hc epoch] at hne))
  past := fun epoch hlt => by rw [hc epoch]; exact h.past epoch (he.trans_lt hlt)
  asked := ha
  spaced := fun epoch => by rw [hc epoch]; exact h.spaced epoch
  inTime := fun epoch => by rw [hc epoch]; exact h.inTime epoch

/-- Changes that leave the log, the gate, the control epoch and the request alone. -/
theorem PaceInv.congr (h : PaceInv P W x) (hc : ∀ epoch, commands epoch x'.2 = commands epoch x.2)
    (he : x'.1.controlEpoch = x.1.controlEpoch) (hl : x'.1.log = x.1.log)
    (hg : x'.1.gateOpen = true → x.1.gateOpen = true)
    (hp : x'.1.pending ≠ none → x.1.pending ≠ none) : PaceInv P W x' := by
  refine h.of hc he.ge (fun epoch ho => .inl (by rwa [hl] at ho)) (fun epoch hg => by rwa [hl])
    (fun hopen => ?_) fun hpending hgranted => ?_
  · rw [he, hl]
    exact h.gate (hg hopen)
  · rw [hl]
    rw [he, hl] at hgranted
    exact h.asked (hp hpending) hgranted

/-- An event that neither asks nor opens. -/
theorem PaceInv.logged (h : PaceInv P W x) {y : Event}
    (hc : ∀ epoch, commands epoch x'.2 = commands epoch x.2)
    (he : x.1.controlEpoch ≤ x'.1.controlEpoch) (hl : x'.1.log = y :: x.1.log)
    (hy : ∀ caller epoch, y ≠ .prepared caller epoch ∧ y ≠ .opened caller epoch)
    (hg : x'.1.gateOpen = true → x'.1.controlEpoch = x.1.controlEpoch ∧ x.1.gateOpen = true)
    (hp : x'.1.pending ≠ none → x'.1.controlEpoch = x.1.controlEpoch ∧ x.1.pending ≠ none) :
    PaceInv P W x' := by
  have hgranted : ∀ epoch, Granted epoch x'.1.log ↔ Granted epoch x.1.log := fun epoch => by
    rw [hl]
    exact granted_cons (hy .controller epoch).2
  have hpreparer : preparer x'.1.log = preparer x.1.log := by
    rw [hl, preparer]
    intro caller epoch heq
    exact (hy caller epoch).1 heq
  refine h.of hc he (fun epoch ho => .inl ?_) (fun epoch hg => (hgranted epoch).2 hg)
    (fun hopen => ?_) fun hpending hg => ?_
  · rw [hl] at ho
    exact (List.mem_cons.1 ho).resolve_left (hy .executor epoch).2.symm
  · rw [hgranted, (hg hopen).1]
    exact h.gate (hg hopen).2
  · rw [hpreparer]
    rw [hgranted, (hp hpending).1] at hg
    exact h.asked (hp hpending).2 hg

section Sections

variable {y : Executed Role Section Env Sequential Failure}

/-- Every section that does not publish keeps the invariant. -/
theorem Changes.paceInv (hl : l ≠ .publishNext) (hy : y.name = l) (hpre : PacePre t l x)
    (hadm : Content l x.1) (h : PaceInv P W x) (hc : Changes l x.1 r s') :
    PaceInv P W (s', y :: x.2) := by
  have hcmd : ∀ epoch, commands epoch (y :: x.2) = commands epoch x.2 := fun epoch =>
    commands_of_ne (by rw [hy]; exact hl)
  have hsame : s' = x.1 → PaceInv P W (s', y :: x.2) := fun heq =>
    h.congr hcmd (by rw [heq]) (by rw [heq]) (by rw [heq]; exact id) (by rw [heq]; exact id)
  cases l with
  | closeGate caller e =>
    rcases hc with hc | ⟨-, -, rfl⟩
    · exact hsame hc.2
    · exact h.logged hcmd le_rfl rfl (fun _ _ => ⟨(by simp), (by simp)⟩)
        (fun hg => by cases hg) fun hp => ⟨rfl, hp⟩
  | clearPending e =>
    rcases hc with hc | ⟨-, hle, rfl⟩
    · exact hsame hc.2
    · exact h.logged hcmd hle rfl (fun _ _ => ⟨(by simp), (by simp)⟩)
        (fun hg => by cases hg) fun hp => absurd rfl hp
  | prepare caller =>
    cases hc with
    | refused hr => exact hsame hr.2
    | identified episodeId => exact h.congr hcmd rfl rfl id id
    | submitted episodeId =>
      have hgranted : ∀ epoch, Granted epoch (.prepared caller x.1.controlEpoch :: x.1.log) ↔
          Granted epoch x.1.log := fun epoch => granted_cons (by simp)
      refine h.of hcmd le_rfl (fun epoch ho => .inl ?_) (fun epoch => (hgranted epoch).2)
        (fun hopen => (hgranted _).2 (h.gate hopen)) fun _ hg => ?_
      · exact (List.mem_cons.1 ho).resolve_left (by simp)
      · cases caller with
        | controller => exact absurd ((hgranted _).1 hg) hadm
        | executor => rfl
        | policy => exact absurd hpre.1.symm (by cases t <;> simp_all [PacePre])
  | poll caller e =>
    rcases hc with heq | rfl
    · exact hsame heq
    · exact h.congr hcmd rfl rfl id fun hp => absurd rfl hp
  | activate caller lease =>
    rcases hc with hc | ⟨-, hepoch, rfl⟩
    · exact hsame hc.2
    · have hmono : ∀ epoch, Granted epoch x.1.log →
          Granted epoch (.opened caller x.1.controlEpoch :: x.1.log) := fun epoch hg =>
        List.mem_cons_of_mem _ hg
      have hopen : Granted x.1.controlEpoch (.opened caller x.1.controlEpoch :: x.1.log) := by
        cases t with
        | controller =>
          rw [hpre.1]
          exact List.mem_cons_self
        | executor =>
          refine hmono _ ?_
          rw [← hepoch]
          exact hpre.2
        | policy => exact hpre.elim
      refine h.of hcmd le_rfl (fun epoch ho => ?_) hmono (fun _ => hopen) fun hp hg => ?_
      · rcases List.mem_cons.1 ho with ho | ho
        · cases ho
          exact .inr hopen
        · exact .inl ho
      · cases t with
        | controller => exact hpre.2.2.resolve_left hp
        | executor => exact h.asked hp (hepoch ▸ hpre.2)
        | policy => exact hpre.elim
  | publishNext => exact absurd rfl hl
  | latchFault f =>
    rw [hc.2]
    exact h.congr hcmd rfl rfl (fun hg => by cases hg) id
  | takeFault =>
    rw [hc.2]
    cases hf : x.1.fault with
    | none => exact h.congr hcmd rfl (by simp [faultTaken_log, hf]) id id
    | some f =>
      exact h.logged (y := .faultTaken f) hcmd le_rfl (by simp [faultTaken_log, hf])
        (fun _ _ => ⟨(by simp), (by simp)⟩) (fun hg => ⟨rfl, hg⟩) fun hp => ⟨rfl, hp⟩
  | schedule =>
    obtain ⟨-, a, n, w, rfl, -⟩ := hc
    exact h.congr hcmd rfl rfl id id
  | complete =>
    obtain ⟨-, future, result, rfl⟩ := hc
    unfold completed
    split
    · exact h.congr hcmd rfl rfl id id
    · exact h.congr hcmd rfl rfl id id
  | beginEpoch | stateRead | read | clock => exact hsame hc

/-- What is left to show of a section that neither publishes nor reads the clock. -/
theorem Spares.of (hpublish : y.name ≠ .publishNext) (hclock : y.name ≠ .clock)
    (hown : s'.activeEpoch = x.1.activeEpoch ∧ s'.nextCommandS = x.1.nextCommandS ∧
      s'.policyWaitStartedS = x.1.policyWaitStartedS)
    (he : x.1.controlEpoch ≤ s'.controlEpoch)
    (hm : ∀ epoch, Granted epoch x.1.log → Granted epoch s'.log)
    (hshut : x.1.gateOpen = false → Granted x.1.controlEpoch x.1.log →
      s'.controlEpoch = x.1.controlEpoch → s'.gateOpen = false)
    (hu : Unasked x.1 → Unasked s') : Spares x (s', y :: x.2) where
  epoch := he
  active := hown.1
  next := hown.2.1
  waiting := hown.2.2
  commands := fun _ => commands_of_ne hpublish
  clock := stepClock_of_ne hclock
  record := fun _ hmem => List.mem_cons_of_mem _ hmem
  granted := hm
  shut := hshut
  unasked := hu

/-- What the controller and the policy do leaves the executor its schedule. -/
theorem Changes.spares (ht : t ≠ .executor) (hy : y.name = l) (hpre : PacePre t l x)
    (hc : Changes l x.1 r s') : Spares x (s', y :: x.2) := by
  have hl : l ≠ .publishNext ∧ l ≠ .clock := by
    constructor
    · rintro rfl
      cases t <;> first | exact ht rfl | cases hpre
    · rintro rfl
      cases t <;> first | exact ht rfl | cases hpre
  have hpublish : y.name ≠ .publishNext := by rw [hy]; exact hl.1
  have hclock : y.name ≠ .clock := by rw [hy]; exact hl.2
  have hmono : ∀ ev epoch, Granted epoch x.1.log → Granted epoch (ev :: x.1.log) := fun _ _ h =>
    List.mem_cons_of_mem _ h
  have hsame : s' = x.1 → Spares x (s', y :: x.2) := by
    rintro rfl
    exact Spares.of hpublish hclock ⟨rfl, rfl, rfl⟩ le_rfl (fun _ h => h) (fun h _ _ => h) id
  cases l with
  | closeGate caller e =>
    rcases hc with hc | ⟨-, -, rfl⟩
    · exact hsame hc.2
    · exact Spares.of hpublish hclock ⟨rfl, rfl, rfl⟩ le_rfl (hmono _) (fun _ _ _ => rfl) id
  | clearPending e =>
    rcases hc with hc | ⟨-, hle, rfl⟩
    · exact hsame hc.2
    · exact Spares.of hpublish hclock ⟨rfl, rfl, rfl⟩ hle (hmono _) (fun _ _ _ => rfl)
        fun _ => .inl rfl
  | prepare caller =>
    cases hc with
    | refused hr => exact hsame hr.2
    | identified episodeId =>
      exact Spares.of hpublish hclock ⟨rfl, rfl, rfl⟩ le_rfl (fun _ h => h) (fun h _ _ => h) id
    | submitted episodeId =>
      refine Spares.of hpublish hclock ⟨rfl, rfl, rfl⟩ le_rfl (hmono _) (fun h _ _ => h)
        fun _ => .inr ?_
      -- the caller is the controller
      have hcaller : caller ≠ .executor := by
        rw [show caller = t by cases t <;> exact hpre.1]
        exact ht
      exact fun heq => hcaller (Option.some.inj heq)
  | poll caller e =>
    rcases hc with heq | rfl
    · exact hsame heq
    · exact Spares.of hpublish hclock ⟨rfl, rfl, rfl⟩ le_rfl (fun _ h => h) (fun h _ _ => h)
        fun _ => .inl rfl
  | activate caller lease =>
    rcases hc with hc | ⟨-, hepoch, rfl⟩
    · exact hsame hc.2
    · refine Spares.of hpublish hclock ⟨rfl, rfl, rfl⟩ le_rfl (hmono _) (fun _ hg _ => ?_) id
      cases t with
      | controller => exact absurd (hepoch ▸ hg) hpre.2.1
      | executor => exact absurd rfl ht
      | policy => exact hpre.elim
  | takeFault =>
    rw [hc.2]
    cases hf : x.1.fault with
    | none =>
      refine Spares.of hpublish hclock ⟨rfl, rfl, rfl⟩ le_rfl
        (fun _ h => ?_) (fun h _ _ => h) fun h => ?_
      · rwa [faultTaken_log, hf]
      · rwa [Unasked, faultTaken_log, hf]
    | some f =>
      refine Spares.of hpublish hclock ⟨rfl, rfl, rfl⟩ le_rfl
        (fun _ h => ?_) (fun h _ _ => h) fun h => ?_
      · rw [faultTaken_log, hf]
        exact hmono _ _ h
      · rw [Unasked, faultTaken_log, hf]
        exact h
  | complete =>
    obtain ⟨-, future, result, rfl⟩ := hc
    unfold completed
    split
    · exact Spares.of hpublish hclock ⟨rfl, rfl, rfl⟩ le_rfl
        (fun _ h => h) (fun h _ _ => h) id
    · exact Spares.of hpublish hclock ⟨rfl, rfl, rfl⟩ le_rfl
        (fun _ h => h) (fun h _ _ => h) id
  | latchFault f | schedule =>
    cases t <;> first | exact absurd rfl ht | cases hpre
  | publishNext => exact absurd rfl hl.1
  | clock => exact absurd rfl hl.2
  | beginEpoch | stateRead | read => exact hsame hc

/-- What the executor and the policy do leaves the controller its requests. -/
theorem Changes.leaves (ht : t ≠ .controller) (hpre : PacePre t l x) (hc : Changes l x.1 r s') :
    Leaves x (s', y :: x.2) := by
  have hsame : s' = x.1 → Leaves x (s', y :: x.2) := by
    rintro rfl
    exact ⟨rfl, fun _ h => h, id⟩
  have hfewer : ∀ {ev : Event}, (∀ epoch, ev ≠ .opened .controller epoch) → ∀ epoch,
      Granted epoch (ev :: x.1.log) → Granted epoch x.1.log := fun hev epoch h =>
    (granted_cons (hev epoch)).1 h
  cases l with
  | closeGate caller e =>
    rcases hc with hc | ⟨-, -, rfl⟩
    · exact hsame hc.2
    · exact ⟨rfl, hfewer (by simp), id⟩
  | clearPending e | beginEpoch | takeFault =>
    cases t <;> first | exact absurd rfl ht | cases hpre
  | prepare caller =>
    cases hc with
    | refused hr => exact hsame hr.2
    | identified episodeId => exact ⟨rfl, fun _ h => h, id⟩
    | submitted episodeId =>
      refine ⟨rfl, hfewer (by simp), fun _ => .inr ?_⟩
      cases t with
      | controller => exact absurd rfl ht
      | executor =>
        rw [show caller = .executor from hpre.1]
        rfl
      | policy => exact absurd rfl hpre.2
  | poll caller e =>
    rcases hc with heq | rfl
    · exact hsame heq
    · exact ⟨rfl, fun _ h => h, fun _ => .inl rfl⟩
  | activate caller lease =>
    rcases hc with hc | ⟨-, hepoch, rfl⟩
    · exact hsame hc.2
    · cases t with
      | controller => exact absurd rfl ht
      | executor =>
        rw [show caller = .executor from hpre.1]
        exact ⟨rfl, hfewer (by simp), id⟩
      | policy => exact hpre.elim
  | publishNext =>
    rcases hc with hc | ⟨-, command, rest, -, rfl⟩
    · exact hsame hc.2
    · exact ⟨rfl, hfewer (by simp), id⟩
  | latchFault f =>
    rw [hc.2]
    exact ⟨rfl, fun _ h => h, id⟩
  | schedule =>
    obtain ⟨-, a, n, w, rfl, -⟩ := hc
    exact ⟨rfl, fun _ h => h, id⟩
  | complete =>
    obtain ⟨-, future, result, rfl⟩ := hc
    unfold completed
    split
    · exact ⟨rfl, fun _ h => h, id⟩
    · exact ⟨rfl, fun _ h => h, id⟩
  | stateRead | read | clock => exact hsame hc

/-! ### Publishing -/

/-- What `publish_next` does for the control epoch `epoch`. -/
theorem publishNext_sends :
    (publishNextLocked epoch).Post e s fun _ s' => s' = s ∨
      epoch = s.controlEpoch ∧ s.gateOpen = true ∧
        ∃ command rest, s' = s.published command rest := by
  simp only [publishNextLocked, Locked.post_bind, Locked.post_get, Locked.post_ite]
  refine ⟨fun _ => .inl rfl, fun h => ?_⟩
  rw [not_or, not_not, not_not] at h
  cases hq : s.queue with
  | nil => exact .inl rfl
  | cons command rest =>
    rw [Locked.post_bind, Locked.post_modify]
    exact Locked.post_call (.inr ⟨h.1, h.2, command, rest, rfl⟩)
      fun err => .inr ⟨h.1, h.2, command, rest, rfl⟩

/-- A section that published a command. -/
theorem sent_published {command : DualArmJointCommand} {rest : List DualArmJointCommand} {d : ℚ}
    (hd : s.nextCommandS = some d) :
    sent now epoch ⟨t, .publishNext, e, s, r, s.published command rest⟩ =
      if s.controlEpoch = epoch then some ⟨d, now⟩ else none := by
  simp [sent, hd]

/-- A section that published nothing. -/
theorem sent_refused : sent now epoch ⟨t, .publishNext, e, s, r, s⟩ = none := by
  simp [sent]

/-- A command that is due keeps the invariant. -/
theorem PaceInv.publish (h : PaceInv P W x) {command : DualArmJointCommand}
    {rest : List DualArmJointCommand} {d : ℚ} (hgate : x.1.gateOpen = true)
    (hd : x.1.nextCommandS = some d) (hdue : d ≤ stepClock x.2) (hlate : stepClock x.2 ≤ d + W)
    (hafter : After P x.1.controlEpoch x.2 d) :
    PaceInv P W (x.1.published command rest,
      ⟨t, .publishNext, e, x.1, r, x.1.published command rest⟩ :: x.2) := by
  have hother : ∀ epoch, x.1.controlEpoch ≠ epoch → commands epoch
      (⟨t, .publishNext, e, x.1, r, x.1.published command rest⟩ :: x.2) = commands epoch x.2 :=
    fun epoch hne => by
      rw [commands, sent_published hd, if_neg hne]
      exact List.append_nil _
  have hcurrent : commands x.1.controlEpoch
      (⟨t, .publishNext, e, x.1, r, x.1.published command rest⟩ :: x.2) =
        commands x.1.controlEpoch x.2 ++ [⟨d, stepClock x.2⟩] := by
    rw [commands, sent_published hd, if_pos rfl]
    rfl
  have hgranted : ∀ epoch, Granted epoch (.published command :: x.1.log) ↔
      Granted epoch x.1.log := fun epoch => granted_cons (by simp)
  have hopen := h.gate hgate
  refine ⟨fun epoch ho => ?_, fun _ => (hgranted _).2 hopen, fun epoch hne => ?_,
    fun epoch hlt => ?_, fun hp _ => h.asked hp hopen, fun epoch => ?_, fun epoch => ?_⟩
  · exact (hgranted epoch).2 (h.second epoch ((List.mem_cons.1 ho).resolve_left (by simp)))
  · refine (hgranted epoch).2 ?_
    by_cases hepoch : x.1.controlEpoch = epoch
    · rw [← hepoch]
      exact hopen
    · rw [hother epoch hepoch] at hne
      exact h.granted epoch hne
  · rw [hother epoch (Nat.ne_of_lt hlt)]
    exact h.past epoch hlt
  · by_cases hepoch : x.1.controlEpoch = epoch
    · subst hepoch
      rw [hcurrent]
      exact spaced_snoc.2 ⟨h.spaced _, hafter⟩
    · rw [hother epoch hepoch]
      exact h.spaced epoch
  · by_cases hepoch : x.1.controlEpoch = epoch
    · subst hepoch
      rw [hcurrent]
      intro z hz
      rcases List.mem_append.1 hz with hz | hz
      · exact h.inTime _ z hz
      · rw [List.mem_singleton.1 hz]
        exact ⟨hdue, hlate⟩
    · rw [hother epoch hepoch]
      exact h.inTime epoch

end Sections

end Sequential

end DualCollection
