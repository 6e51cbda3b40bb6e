import DualCollection.Rtc.Threads
import DualCollection.Sequential.Threads

/-!
# After `close_gate` has returned

`StickyClose` is what a controller that has closed the gate relies on: no command is published and
the gate is not seen open, until the gate was opened for a later control epoch that the controller
itself prepared.  `closeGate_sticky` has it for all runs in which no lease is activated in the very
control epoch in which the controller closed the gate; `closeGate_reopened` is a run with such an
activation, by the executor that took the response before the gate was closed.
-/

namespace DualCollection

open Thread

namespace Sequential

/-- Since the control epoch `e` was closed, `later` happened: the controller prepared a later control
epoch, and the gate was opened for it. -/
def Reopened (e : ℕ) (later : List Event) : Prop :=
  ∃ caller e' newer older, e < e' ∧ later = newer ++ .opened caller e' :: older ∧
    .prepared .controller e' ∈ older

/-- Closing the gate is sticky. -/
structure StickyClose (s : Sequential) : Prop where
  /-- The gate is not open after the controller closed it. -/
  gate : ∀ later earlier e, s.log = later ++ .closed .controller e :: earlier →
    s.gateOpen = true → Reopened e later
  /-- No command is published after the controller closed the gate. -/
  published : ∀ command later earlier e,
    (.published command :: (later ++ .closed .controller e :: earlier)) <:+ s.log →
      Reopened e later

variable {e : ℕ} {later earlier : List Event} {s : Sequential}

theorem Reopened.cons (h : Reopened e later) (x : Event) : Reopened e (x :: later) := by
  obtain ⟨caller, e', newer, older, hlt, rfl, hp⟩ := h
  exact ⟨caller, e', x :: newer, older, hlt, rfl, hp⟩

/-- Only what the controller prepared after it closed the gate counts. -/
theorem PreparedSince.mem {e' : ℕ}
    (h : PreparedSince e' (later ++ .closed .controller e :: earlier)) :
    .prepared .controller e' ∈ later := by
  induction later with
  | nil => exact h.elim
  | cons x later ih =>
    cases x with
    | closed caller _ =>
      cases caller with
      | controller => exact h.elim
      | executor => exact List.mem_cons_of_mem _ (ih h)
      | policy => exact List.mem_cons_of_mem _ (ih h)
    | prepared caller _ =>
      cases caller with
      | controller =>
        rcases h with rfl | h
        · exact List.mem_cons_self
        · exact List.mem_cons_of_mem _ (ih h)
      | executor => exact List.mem_cons_of_mem _ (ih h)
      | policy => exact List.mem_cons_of_mem _ (ih h)
    | cleared _ | opened _ _ | published _ | faultTaken _ => exact List.mem_cons_of_mem _ (ih h)

/-- Until it is opened for a later control epoch, a gate that the controller closed stays closed for
good. -/
theorem sealedAt_or_reopened
    (h : Throughout Expected (later ++ .closed .controller e :: earlier)) :
    Reopened e later ∨
      ∃ e₀, sealedAt (later ++ .closed .controller e :: earlier) = some e₀ ∧ e ≤ e₀ := by
  induction later with
  | nil => exact .inr ⟨e, rfl, le_rfl⟩
  | cons x later ih =>
    obtain ⟨hx, h⟩ := h
    rcases ih h with hr | ⟨e₀, hs, hle⟩
    · exact .inl (hr.cons x)
    cases x with
    | closed caller e₁ =>
      have hle₁ : e ≤ e₁ := hx .controller e (List.mem_append_right _ List.mem_cons_self)
      cases caller with
      | controller => exact .inr ⟨e₁, rfl, hle₁⟩
      | executor => exact .inr ⟨e₀, hs, hle⟩
      | policy => exact .inr ⟨e₀, hs, hle⟩
    | opened caller e₁ =>
      by_cases hop : e₀ < e₁ ∧ PreparedSince e₁ (later ++ .closed .controller e :: earlier)
      · exact .inl ⟨caller, e₁, [], later, hle.trans_lt hop.1, rfl, hop.2.mem⟩
      · refine .inr ⟨e₀, ?_, hle⟩
        simp only [List.cons_append, sealedAt, hs, Option.filter_some, hop, not_false_eq_true,
          decide_true, if_true]
    | cleared _ | prepared _ _ | published _ | faultTaken _ => exact .inr ⟨e₀, hs, hle⟩

theorem Inv.stickyClose (h : Inv True s) : StickyClose s where
  gate := fun later earlier e hlog hgate => by
    have hopen := h.gate trivial hgate
    rw [hlog] at hopen
    have hhist := (h.log trivial).history
    rw [hlog] at hhist
    refine (sealedAt_or_reopened hhist).resolve_right ?_
    rintro ⟨e₀, hs, -⟩
    rw [hopen] at hs
    cases hs
  published := fun command later earlier e hsuf => by
    obtain ⟨hopen, hhist⟩ := (h.log trivial).history.past hsuf
    refine (sealedAt_or_reopened hhist).resolve_right ?_
    rintro ⟨e₀, hs, -⟩
    rw [show sealedAt _ = none from hopen] at hs
    cases hs

/-! ### Runs -/

variable {p : SequentialParameters} {c : Config Role Section Env Sequential Failure}

/-- As long as no lease is activated in the control epoch in which the controller closed the gate,
closing is sticky. -/
theorem closeGate_sticky (hc : (system p).Reachable (fun _ => Admits) (.init {}) c) :
    StickyClose c.shared := by
  have hc' := hc.mono fun _ _ _ _ h (_ : True) => h
  refine ((sound p True).inv inv_init (fun t => ?_) hc').stickyClose
  cases t <;> trivial

/-! ### A small station -/

/-- `Disciplined` can be evaluated. -/
def decideDisciplined : (l : Section) → (s : Sequential) → Decidable (Disciplined l s)
  | .poll .controller e, s => inferInstanceAs (Decidable (.prepared .controller e ∈ s.log))
  | .poll .executor _, _ | .poll .policy _, _ | .closeGate _ _, _ | .clearPending _, _
  | .beginEpoch, _ | .prepare _, _ | .stateRead, _ | .activate _ _, _ | .publishNext, _
  | .latchFault _, _ | .takeFault, _ | .read, _ | .clock, _ | .schedule, _ | .complete, _ =>
    isTrue trivial

instance (l : Section) (s : Sequential) : Decidable (Disciplined l s) := decideDisciplined l s

instance (lease : Lease) (e : Env) (s : Sequential) : Decidable (Activates lease e s) :=
  decidable_of_iff (lease.controlEpoch = s.controlEpoch ∧ some lease.episodeId = s.episodeId ∧
      (lease.needsPolicyEnable = true → e.raises .enablePolicyControl = none))
    ⟨fun ⟨h₁, h₂, h₃⟩ => ⟨h₁, h₂, h₃⟩, fun ⟨h₁, h₂, h₃⟩ => ⟨h₁, h₂, h₃⟩⟩

/-- `Unsealed` can be evaluated. -/
def decideUnsealed : (l : Section) → (e : Env) → (s : Sequential) → Decidable (Unsealed l e s)
  | .activate _ lease, e, s =>
    inferInstanceAs (Decidable (Activates lease e s → sealedAt s.log ≠ some s.controlEpoch))
  | .poll _ _, _, _ | .closeGate _ _, _, _ | .clearPending _, _, _ | .beginEpoch, _, _
  | .prepare _, _, _ | .stateRead, _, _ | .publishNext, _, _ | .latchFault _, _, _
  | .takeFault, _, _ | .read, _, _ | .clock, _, _ | .schedule, _, _ | .complete, _, _ =>
    isTrue trivial

instance (l : Section) (e : Env) (s : Sequential) : Decidable (Unsealed l e s) :=
  decideUnsealed l e s

namespace Station

/-- One command per second. -/
def parameters : SequentialParameters where
  contract := Rtc.Station.contract
  controlRateHz := 1
  policyWaitTimeoutS := 5
  commandWatchdogS := 1
  positive := by decide

/-- Begin an operation and execute `n` of its sections. -/
def run (t : Role) (o : Op) (n : ℕ) (clock : ℚ) : List (Move Role Op Env) :=
  Move.run t o n { clock := clock }

/-- The policy answers the request with a chunk of one row. -/
def answer (future controlEpoch : ℕ) : List (Move Role Op Env) :=
  run .policy (.complete future (.ok (.ticket (Rtc.Station.ticket 1 Nat.one_pos controlEpoch 0))))
    1 0

/-- The controller opens a lease. -/
def openLease (controlEpoch future : ℕ) : List (Move Role Op Env) :=
  run .controller (.preparePolicy "episode" controlEpoch) 1 0 ++ answer future controlEpoch ++
    run .controller (.policyReady "episode" controlEpoch) 3 0

/-- The executor publishes a command. -/
def publish (clock : ℚ) : List (Move Role Op Env) := run .executor .step 10 clock

/-- What a schedule shows is shown by a reachable configuration. -/
theorem shows (p : SequentialParameters) (admits : Section → Env → Sequential → Prop)
    [∀ l e s, Decidable (admits l e s)] (schedule : List (Move Role Op Env))
    (test : Config Role Section Env Sequential Failure → Bool)
    (h : ((system p).play (fun _ l e s => decide (admits l e s)) (.init {}) schedule).any
      test = true) :
    ∃ c, (system p).Reachable (fun _ => admits) (.init {}) c ∧ test c = true :=
  System.play_shows (fun _ _ _ => trivial) (fun _ _ _ _ h => of_decide_eq_true h) test h

end Station

/-- The gate is closed, and opened again for the next control epoch. -/
theorem closeGate_sticky_reopened :
    ∃ c, (system Station.parameters).Reachable (fun _ => Admits) (.init {}) c ∧
      (c.shared.gateOpen = true ∧ .closed .controller 0 ∈ c.shared.log) ∧
        StickyClose c.shared := by
  obtain ⟨c, hc, ht⟩ := Station.shows Station.parameters Admits
    (Station.openLease 0 0 ++ Station.publish 0 ++ Station.run .controller (.closeGate 0) 1 0 ++
      Station.run .controller (.clearPending 1) 2 0 ++ Station.openLease 1 1 ++ Station.publish 0)
    (fun c => decide (c.shared.gateOpen = true ∧ .closed .controller 0 ∈ c.shared.log))
    (by decide +kernel)
  exact ⟨c, hc, of_decide_eq_true ht, closeGate_sticky hc⟩

/-- A command is published in the control epoch `0` that the controller has closed. -/
def PublishedLate (log : List Event) : Prop :=
  ∃ command later earlier, log = .published command :: (later ++ .closed .controller 0 :: earlier) ∧
    ∀ caller e, .opened caller e ∈ later → e = 0

/-- What shows a late command. -/
def publishedLate : List Event → Bool
  | .published _ :: log => decide (.closed .controller 0 ∈ log) && log.all fun
    | .opened _ e => decide (e = 0)
    | _ => true
  | _ => false

theorem publishedLate_spec {log : List Event} (h : publishedLate log = true) :
    PublishedLate log := by
  unfold publishedLate at h
  split at h
  · rename_i command log
    simp only [Bool.and_eq_true, decide_eq_true_eq, List.all_eq_true] at h
    obtain ⟨later, earlier, rfl⟩ := List.append_of_mem h.1
    exact ⟨command, later, earlier, rfl, fun caller e he =>
      of_decide_eq_true (h.2 _ (List.mem_append_left _ he))⟩
  · cases h

/-- The executor took the response of its next request before the controller closed the gate, and
activates the lease after that: the gate is open again, and the command is published. -/
theorem closeGate_reopened :
    ∃ c, (system Station.parameters).Reachable (fun _ l _ s => Disciplined l s) (.init {}) c ∧
      ¬ StickyClose c.shared := by
  obtain ⟨c, hc, ht⟩ := Station.shows Station.parameters (fun l _ s => Disciplined l s)
    (Station.openLease 0 0 ++ Station.publish 0 ++ Station.run .executor .step 10 1 ++
      Station.answer 1 0 ++ Station.run .executor .step 9 1 ++
        Station.run .controller (.closeGate 0) 1 1 ++
          List.replicate 2 (.go .executor { clock := 1 }) ++ Station.publish 1)
    (fun c => publishedLate c.shared.log) (by decide +kernel)
  refine ⟨c, hc, fun h => ?_⟩
  obtain ⟨command, later, earlier, hlog, hopened⟩ := publishedLate_spec ht
  obtain ⟨caller, e, newer, older, hlt, rfl, -⟩ :=
    h.published command later earlier 0 (hlog ▸ List.suffix_refl _)
  have := hopened caller e (by simp)
  omega

end Sequential

end DualCollection
