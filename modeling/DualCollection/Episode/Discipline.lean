import DualCollection.Episode.Runtime
import DualCollection.Thread.Run

/-!
# What `run_once` starts, it stops

`Disciplined` says that the recorder, the stream monitor and the controller are stopped exactly once
if they were started, and the controller before the recorder.  Whether `run_once` keeps to it depends
on where an exception is raised: `Escapes` lists the places between the start and the stop where
nothing catches it, and `disciplined_iff` says that these places, and a clock that runs below zero,
are what can go wrong.
-/

namespace DualCollection

open Thread

/-- The calls of a run with their answers. -/
abbrev EpisodeTrace := List (EpisodeCall × PortAnswer)

/-! ### Resources -/

/-- What is started and stopped. -/
inductive Resource
  /-- The recorder. -/
  | backend
  /-- The stream monitor. -/
  | monitor
  /-- The controller, by the two hooks. -/
  | policy
  deriving DecidableEq

/-- A call that starts or stops something. -/
inductive ResourceEvent
  /-- The call that starts a resource, and whether it returned. -/
  | start (r : Resource) (returned : Bool)
  /-- The call that stops a resource. -/
  | stop (r : Resource)
  deriving DecidableEq

/-- What a call starts or stops. -/
def resourceEvent : EpisodeCall × PortAnswer → Option ResourceEvent
  | (.backendStart _ _, a) => some (.start .backend a.raises.isNone)
  | (.monitorStart _, a) => some (.start .monitor a.raises.isNone)
  | (.recordingStartedHook _, a) => some (.start .policy a.raises.isNone)
  | (.recordingStoppingHook _, _) => some (.stop .policy)
  | (.backendStop _, _) => some (.stop .backend)
  | (.monitorStop, _) => some (.stop .monitor)
  | _ => none

/-- What is started and stopped during a run, in order. -/
def events (tr : EpisodeTrace) : List ResourceEvent := tr.filterMap resourceEvent

/-- What was started has been stopped, exactly once. -/
def Released (evs : List ResourceEvent) (r : Resource) : Prop :=
  .start r true ∈ evs → evs.count (.stop r) = 1

/-- The hook that starts the controller has returned. -/
def ControllerStarted (evs : List ResourceEvent) : Prop := .start .policy true ∈ evs

instance : DecidablePred ControllerStarted := fun evs =>
  inferInstanceAs (Decidable (.start .policy true ∈ evs))

/-- The resource discipline of a run. -/
structure EpisodeRuntime.Disciplined (rt : EpisodeRuntime) (tr : EpisodeTrace) : Prop where
  /-- The recorder is stopped exactly once. -/
  backend : Released (events tr) .backend
  /-- The monitor is stopped exactly once. -/
  monitor : Released (events tr) .monitor
  /-- The controller is stopped exactly once, if there is a hook for it. -/
  policy : rt.recordingStoppingHook = true → Released (events tr) .policy
  /-- The controller is stopped before the recorder. -/
  order : ControllerStarted (events tr) → rt.recordingStoppingHook = true →
    (events tr).Pairwise fun a b => a = .stop .backend → b ≠ .stop .policy

/-! ### Exceptions -/

/-- `_wait_for_end` catches `KeyboardInterrupt` and `Exception`. -/
def PyError.caught (err : PyError) : Bool := err.cls.isException || err.cls = .keyboardInterrupt

/-- Nothing between the start and the stop of the components catches what is raised here. -/
def EpisodeCall.escapes : EpisodeCall → PyError → Bool
  | .stateSink _, _ => true
  | .triggerArm .ending, _ => true
  | .triggerDisarm .ending, _ => true
  | .wallClock .ended, _ => true
  -- in the exception handlers
  | .monotonicClock .interrupted, _ => true
  | .monotonicClock .failed, _ => true
  -- in the loop
  | .runtimeCheck, err => !err.caught
  | .requiredFailure, err => !err.caught
  | .monotonicClock .requiredFailure, err => !err.caught
  | .triggerWait .ending, err => !err.caught
  -- `monitor.stop` is skipped
  | .backendStop .stopComponents, err => !err.cls.isException
  | _, _ => false

/-- The clock is read to say when the recording ended. -/
def EpisodeCall.isEndingClock : EpisodeCall → Bool
  | .monotonicClock .requiredFailure => true
  | .monotonicClock .interrupted => true
  | .monotonicClock .failed => true
  | _ => false

/-- No exception escapes. -/
def NoEscape (tr : EpisodeTrace) : Prop :=
  ∀ x ∈ tr, ∀ err, x.2.raises = some err → x.1.escapes err = false

/-- The recording does not end at a negative time. -/
def NonNeg (tr : EpisodeTrace) : Prop :=
  ∀ x ∈ tr, x.1.isEndingClock = true → x.2.raises = none → 0 ≤ x.2.monotonicNs

instance : DecidablePred NoEscape := fun tr =>
  decidable_of_iff (∀ x ∈ tr, (x.2.raises.all fun err => !x.1.escapes err) = true) <|
    forall_congr' fun x => forall_congr' fun _ => by simp [Option.all_eq_true]

instance : DecidablePred NonNeg := fun tr => inferInstanceAs (Decidable (∀ x ∈ tr,
  x.1.isEndingClock = true → x.2.raises = none → 0 ≤ x.2.monotonicNs))

/-- Every exception is raised where the code is prepared for it, and the stopping hook can be
told when the recording ended. -/
structure EpisodeRuntime.Contained (rt : EpisodeRuntime) (tr : EpisodeTrace) : Prop where
  /-- No exception escapes. -/
  noEscape : NoEscape tr
  /-- If there is something to stop, the time is not negative. -/
  nonNeg : ControllerStarted (events tr) → rt.recordingStoppingHook = true → NonNeg tr

section Rules

variable {α β : Type} {a b tr : EpisodeTrace} {s : EpisodeState}

@[simp] theorem events_nil : events [] = [] := rfl

theorem events_append : events (a ++ b) = events a ++ events b := List.filterMap_append

theorem noEscape_nil : NoEscape [] := by simp [NoEscape]

theorem noEscape_append : NoEscape (a ++ b) ↔ NoEscape a ∧ NoEscape b := by
  simp only [NoEscape, List.forall_mem_append]

theorem nonNeg_nil : NonNeg [] := by simp [NonNeg]

theorem nonNeg_append : NonNeg (a ++ b) ↔ NonNeg a ∧ NonNeg b := by
  simp only [NonNeg, List.forall_mem_append]

/-- A part of a run that neither starts nor stops anything.  No exception escapes exactly if it ends
with a value, or with an exception in `P`, and `V` says of its value whether the recording ended at a
negative time. -/
structure Settled (P : PyError → Prop) (V : α → Prop) (tr : EpisodeTrace) (r : Except PyError α) :
    Prop where
  quiet : events tr = []
  contained : NoEscape tr ↔ ∀ err, r = .error err → P err
  clock : ∀ x, r = .ok x → (NonNeg tr ↔ V x)
  clock_error : ∀ err, r = .error err → P err → NonNeg tr

/-- Every run of the program is settled. -/
def Settles (p : EpisodeProg α) (P : PyError → Prop) (V : α → Prop) : Prop :=
  ∀ s, p.Ends s fun tr r _ => Settled P V tr r

variable {P : PyError → Prop} {V : α → Prop}

theorem error_forall {err : PyError} :
    (∀ e, (.error err : Except PyError α) = .error e → P e) ↔ P err := by
  simp

theorem settles_ok {x : α} (h : V x) : Settles (.ret (.ok x)) P V := fun _ =>
  Prog.ends_ret
    { quiet := rfl
      contained := ⟨(by simp), fun _ => noEscape_nil⟩
      clock := by
        rintro _ ⟨⟩
        exact ⟨fun _ => h, fun _ => nonNeg_nil⟩
      clock_error := (by simp) }

theorem settles_raise {err : PyError} (h : P err) : Settles (.raise err : EpisodeProg α) P V :=
  fun _ => Prog.ends_ret
    { quiet := rfl
      contained := by
        rw [error_forall]
        exact ⟨fun _ => h, fun _ => noEscape_nil⟩
      clock := (by simp)
      clock_error := fun _ _ _ => nonNeg_nil }

/-- A call that neither starts nor stops anything. -/
theorem settles_port {l : EpisodeCall} {read : PortAnswer → α}
    (hl : ∀ e, resourceEvent (l, e) = none) (hP : ∀ err, l.escapes err = false ↔ P err)
    (hV : ∀ e, (l.isEndingClock = true → 0 ≤ e.monotonicNs) ↔ V (read e)) :
    Settles (port l read) P V := by
  intro s
  refine Prog.ends_atomic fun e => ?_
  have hquiet : events [(l, e)] = [] := by
    simp only [events, List.filterMap_cons, hl, List.filterMap_nil]
  cases hr : e.raises with
  | none =>
    refine ⟨hquiet, ?_, ?_, (by simp)⟩
    · simp [NoEscape, hr]
    · rintro _ ⟨⟩
      rw [← hV]
      simp [NonNeg, hr]
  | some err =>
    refine ⟨hquiet, ?_, (by simp), ?_⟩
    · simp [NoEscape, hr, hP]
    · rintro _ ⟨⟩ -
      simp [NonNeg, hr]

theorem settles_bind {p : EpisodeProg α} {f : α → EpisodeProg β} {V : β → Prop}
    (hp : Settles p P fun _ => True) (hf : ∀ x, Settles (f x) P V) : Settles (p >>= f) P V := by
  intro s
  refine Prog.ends_bind ((hp s).mono fun tr r s' h => ?_)
  cases r with
  | ok x =>
    refine (hf x s').mono fun tr' r' s'' h' => ?_
    have hne : NoEscape tr := h.contained.2 (by simp)
    have hnn : NonNeg tr := (h.clock x rfl).2 trivial
    refine ⟨?_, ?_, ?_, ?_⟩
    · rw [events_append, h.quiet, h'.quiet, List.nil_append]
    · rw [noEscape_append, and_iff_right hne, h'.contained]
    · intro y hy
      rw [nonNeg_append, and_iff_right hnn, h'.clock y hy]
    · exact fun err hr hP => nonNeg_append.2 ⟨hnn, h'.clock_error err hr hP⟩
  | error err =>
    refine ⟨h.quiet, ?_, (by simp), ?_⟩
    · rw [h.contained, error_forall, error_forall]
    · rintro _ ⟨⟩ hP
      exact h.clock_error err rfl hP

theorem settles_map {p : EpisodeProg α} {g : α → β} {V : β → Prop}
    (hp : Settles p P fun x => V (g x)) : Settles (p >>= fun x => pure (g x)) P V := by
  intro s
  refine Prog.ends_bind ((hp s).mono fun tr r s' h => ?_)
  cases r with
  | ok x =>
    refine Prog.ends_ret ?_
    rw [List.append_nil]
    refine ⟨h.quiet, ⟨(by simp), fun _ => h.contained.2 (by simp)⟩, ?_, (by simp)⟩
    rintro _ ⟨⟩
    exact h.clock x rfl
  | error err =>
    refine ⟨h.quiet, ?_, (by simp), ?_⟩
    · rw [h.contained, error_forall, error_forall]
    · rintro _ ⟨⟩ hP
      exact h.clock_error err rfl hP

theorem settles_callIf {given : Bool} {l : EpisodeCall} (hl : ∀ e, resourceEvent (l, e) = none)
    (hP : ∀ err, l.escapes err = false ↔ P err) (hc : l.isEndingClock = false) :
    Settles (callIf given l) P fun _ => True := by
  unfold callIf
  split_ifs
  · exact settles_port hl hP (by simp [hc])
  · exact settles_ok trivial

theorem settles_loop {body : EpisodeProg (Option α)} {n : ℕ}
    (hbody : Settles body P fun o => ∀ x, o = some x → V x) : Settles (Prog.loop n body) P V := by
  intro s
  refine Prog.ends_loop (J := fun tr => events tr = [] ∧ NoEscape tr ∧ NonNeg tr)
    ⟨rfl, noEscape_nil, nonNeg_nil⟩ ?_
  rintro tr s ⟨hq, hne, hnn⟩
  refine (hbody s).mono fun tr' r s' h => ?_
  have hquiet : events (tr ++ tr') = [] := by rw [events_append, hq, h.quiet, List.nil_append]
  match r, h with
  | .ok (some x), h =>
    refine ⟨hquiet, ?_, ?_, (by simp)⟩
    · rw [noEscape_append, and_iff_right hne, h.contained]
      exact ⟨(by simp), (by simp)⟩
    · rintro _ ⟨⟩
      rw [nonNeg_append, and_iff_right hnn, h.clock _ rfl]
      simp
  | .ok none, h =>
    exact ⟨hquiet, noEscape_append.2 ⟨hne, h.contained.2 (by simp)⟩,
      nonNeg_append.2 ⟨hnn, (h.clock _ rfl).2 (by simp)⟩⟩
  | .error err, h =>
    refine ⟨hquiet, ?_, (by simp), ?_⟩
    · rw [noEscape_append, and_iff_right hne, h.contained, error_forall, error_forall]
    · rintro _ ⟨⟩ hP
      exact nonNeg_append.2 ⟨hnn, h.clock_error err rfl hP⟩

theorem settles_tryCatch {Q : PyError → Prop} {p : EpisodeProg α}
    {handler : PyError → EpisodeProg α} (hp : Settles p P V) (hcaught : ∀ err, P err → Settles (handler err) Q V)
    (hraise : ∀ err, ¬ P err → handler err = .raise err ∧ ¬ Q err) :
    Settles (p.tryCatch handler) Q V := by
  intro s
  refine Prog.ends_tryCatch ((hp s).mono fun tr r s' h => ?_)
  cases r with
  | ok x =>
    have hne : NoEscape tr := h.contained.2 (by simp)
    exact ⟨h.quiet, ⟨(by simp), fun _ => hne⟩, h.clock, (by simp)⟩
  | error err =>
    by_cases hP : P err
    · have hne : NoEscape tr := h.contained.2 (error_forall.2 hP)
      have hnn : NonNeg tr := h.clock_error err rfl hP
      refine (hcaught err hP s').mono fun tr' r' s'' h' => ⟨?_, ?_, ?_, ?_⟩
      · rw [events_append, h.quiet, h'.quiet, List.nil_append]
      · rw [noEscape_append, and_iff_right hne, h'.contained]
      · intro y hy
        rw [nonNeg_append, and_iff_right hnn, h'.clock y hy]
      · exact fun err hr hQ => nonNeg_append.2 ⟨hnn, h'.clock_error err hr hQ⟩
    · obtain ⟨hh, hQ⟩ := hraise err hP
      dsimp only
      rw [hh]
      refine Prog.ends_ret ?_
      rw [List.append_nil]
      refine ⟨h.quiet, ?_, (by simp), ?_⟩
      · rw [h.contained, error_forall, error_forall]
        exact iff_of_false hP hQ
      · rintro _ ⟨⟩ hQ'
        exact absurd hQ' hQ

theorem settles_tryFinally {p : EpisodeProg α} {fin : EpisodeProg Unit}
    (hp : Settles p (fun _ => False) V) (hfin : Settles fin (fun _ => False) fun _ => True) :
    Settles (p.tryFinally fin) (fun _ => False) V := by
  intro s
  refine Prog.ends_tryFinally ((hp s).mono fun tr r s' h => (hfin s').mono fun tr' r' s'' h' => ?_)
  have hquiet : events (tr ++ tr') = [] := by rw [events_append, h.quiet, h'.quiet, List.nil_append]
  cases r' with
  | ok _ =>
    have hne : NoEscape tr' := h'.contained.2 (by simp)
    have hnn : NonNeg tr' := (h'.clock _ rfl).2 trivial
    refine ⟨hquiet, ?_, ?_, fun _ _ => False.elim⟩
    · rw [noEscape_append, and_iff_left hne, h.contained]
    · intro x hx
      rw [nonNeg_append, and_iff_left hnn, h.clock x hx]
  | error err =>
    refine ⟨hquiet, ?_, (by simp), fun _ _ => False.elim⟩
    rw [noEscape_append, h'.contained, error_forall, error_forall, and_false]

/-! ### Waiting for the end -/

theorem endingOf_settles {signal : TriggerSignal} :
    Settles (EpisodeRuntime.endingOf signal) (fun err => err.caught = true)
      fun o => ∀ ending, o = some ending → 0 ≤ ending.stoppingMonotonicNs := by
  have hns : ∀ (outcome : EpisodeOutcome) errors blocked,
      ∀ ending, some (Ending.mk outcome errors signal.monotonicTimeNs blocked) = some ending →
        0 ≤ ending.stoppingMonotonicNs := by
    rintro outcome errors blocked _ ⟨⟩
    exact signal.monotonicTimeNs_nonneg
  unfold EpisodeRuntime.endingOf
  cases signal.event with
  | abort => exact settles_ok (hns _ _ _)
  | activate => exact settles_ok (hns _ _ _)
  | taskFail => exact settles_ok (hns _ _ _)
  | conflict => exact settles_ok (by simp)
  | fail =>
    cases signal.detail with
    | none => exact settles_raise rfl
    | some detail => exact settles_ok (hns _ _ _)

/-- In the loop, an exception escapes if it is not caught. -/
theorem endRound_settles {rt : EpisodeRuntime} :
    Settles rt.endRound (fun err => err.caught = true)
      fun o => ∀ ending, o = some ending → 0 ≤ ending.stoppingMonotonicNs := by
  have hcaught : ∀ err : PyError, (!err.caught) = false ↔ err.caught = true := by simp
  refine settles_bind (settles_callIf (fun _ => rfl) hcaught rfl) fun _ => ?_
  refine settles_bind (settles_port (fun _ => rfl) hcaught
    fun _ => by simp [EpisodeCall.isEndingClock]) fun failure => ?_
  cases failure with
  | some failure =>
    refine settles_map (settles_port (fun _ => rfl) hcaught fun e => ?_)
    simp [EpisodeCall.isEndingClock]
  | none =>
    refine settles_bind (settles_port (fun _ => rfl) hcaught
      fun _ => by simp [EpisodeCall.isEndingClock]) fun signal => ?_
    cases signal with
    | none => exact settles_ok (by simp)
    | some signal => exact endingOf_settles

theorem endHandler_settles {err : PyError} (h : err.caught = true) :
    Settles (EpisodeRuntime.endHandler err) (fun _ => False)
      fun ending => 0 ≤ ending.stoppingMonotonicNs := by
  unfold EpisodeRuntime.endHandler
  split_ifs with hk he
  · refine settles_map (settles_port (fun _ => rfl) (fun _ => by simp [EpisodeCall.escapes])
      fun e => ?_)
    simp [EpisodeCall.isEndingClock]
  · refine settles_map (settles_port (fun _ => rfl) (fun _ => by simp [EpisodeCall.escapes])
      fun e => ?_)
    simp [EpisodeCall.isEndingClock]
  · simp [PyError.caught, hk, he] at h

theorem waitForEnd_settles {rt : EpisodeRuntime} {n : ℕ} :
    Settles (rt.waitForEnd n) (fun _ => False) fun ending => 0 ≤ ending.stoppingMonotonicNs := by
  refine settles_bind (settles_port (fun _ => rfl) (fun _ => by simp [EpisodeCall.escapes])
    fun _ => by simp [EpisodeCall.isEndingClock]) fun _ => ?_
  refine settles_tryFinally (settles_tryCatch (settles_loop endRound_settles)
    (fun err h => endHandler_settles h) fun err h => ⟨?_, (by simp)⟩) ?_
  · simp only [PyError.caught, Bool.or_eq_true, decide_eq_true_eq, not_or] at h
    rw [EpisodeRuntime.endHandler, if_neg h.2, if_neg h.1]
  · exact settles_port (fun _ => rfl) (fun _ => by simp [EpisodeCall.escapes])
      fun _ => by simp [EpisodeCall.isEndingClock]

/-! ### Stopping -/

theorem ends_port {l : EpisodeCall} {read : PortAnswer → α}
    {Q : EpisodeTrace → Except PyError α → EpisodeState → Prop}
    (hok : ∀ e, e.raises = none → Q [(l, e)] (.ok (read e)) s)
    (herr : ∀ e err, e.raises = some err → Q [(l, e)] (.error err) s) : (port l read).Ends s Q := by
  refine Prog.ends_atomic fun e => ?_
  cases h : e.raises with
  | none => exact hok e h
  | some err => exact herr e err h

/-- The recorder is asked to stop once; it may raise an exception that skips the monitor. -/
theorem stopBackend_ends :
    EpisodeRuntime.stopBackend.Ends s fun tr r _ => events tr = [.stop .backend] ∧ NonNeg tr ∧
      (NoEscape tr ↔ ∃ o, r = .ok o) := by
  refine Prog.ends_tryCatch (Prog.ends_bind (ends_port (fun e he => ?_) fun e err he => ?_))
  · refine Prog.ends_ret ⟨rfl, by simp [NonNeg, EpisodeCall.isEndingClock], ?_⟩
    simp [NoEscape, he]
  · dsimp only
    split_ifs with hexc
    · refine Prog.ends_ret ⟨rfl, by simp [NonNeg, EpisodeCall.isEndingClock], ?_⟩
      simp [NoEscape, he, EpisodeCall.escapes, hexc]
    · refine Prog.ends_ret ⟨rfl, by simp [NonNeg, EpisodeCall.isEndingClock], ?_⟩
      simp [NoEscape, he, EpisodeCall.escapes, hexc]

theorem stopMonitor_ends {backendError : Option PyError} :
    (EpisodeRuntime.stopMonitor backendError).Ends s fun tr _ _ => events tr = [.stop .monitor] ∧
      NonNeg tr ∧ NoEscape tr := by
  have hone : ∀ e, events [(.monitorStop, e)] = [.stop .monitor] ∧ NonNeg [(.monitorStop, e)] ∧
      NoEscape [(.monitorStop, e)] := by
    intro e
    refine ⟨rfl, ?_, ?_⟩
    · simp [NonNeg, EpisodeCall.isEndingClock]
    · simp [NoEscape, EpisodeCall.escapes]
  refine Prog.ends_bind (Prog.ends_tryCatch (ends_port (fun e _ => ?_) fun e err _ => ?_))
  · cases backendError with
    | none => exact Prog.ends_ret (hone e)
    | some err => exact Prog.ends_ret (hone e)
  · dsimp only
    split_ifs
    · exact Prog.ends_ret (hone e)
    · exact Prog.ends_ret (hone e)

/-- `_stop_components` stops the recorder, and the monitor unless an exception escapes. -/
theorem stopComponents_ends :
    EpisodeRuntime.stopComponents.Ends s fun tr r _ => NonNeg tr ∧
      ((NoEscape tr ∧ events tr = [.stop .backend, .stop .monitor]) ∨
        (¬ NoEscape tr ∧ events tr = [.stop .backend] ∧ ∃ err, r = .error err)) := by
  refine Prog.ends_bind (stopBackend_ends.mono fun tr r s' h => ?_)
  obtain ⟨hev, hnn, hne⟩ := h
  cases r with
  | ok backendError =>
    refine stopMonitor_ends.mono fun tr' r' s'' h' => ?_
    obtain ⟨hev', hnn', hne'⟩ := h'
    refine ⟨nonNeg_append.2 ⟨hnn, hnn'⟩, .inl ⟨noEscape_append.2 ⟨hne.2 ⟨_, rfl⟩, hne'⟩, ?_⟩⟩
    rw [events_append, hev, hev']
    rfl
  | error err =>
    refine ⟨hnn, .inr ⟨?_, hev, err, rfl⟩⟩
    rw [hne]
    rintro ⟨o, ⟨⟩⟩

/-! ### The hooks -/

/-- What is stopped when the controller was not started. -/
def Abandoned (tr : EpisodeTrace) : Prop :=
  ∃ evs, (evs = [] ∨ evs = [.start .policy false]) ∧
    ((NoEscape tr ∧ events tr = evs ++ [.stop .backend, .stop .monitor]) ∨
      (¬ NoEscape tr ∧ events tr = evs ++ [.stop .backend]))

theorem abandon_ends (tr : EpisodeTrace) {err : PyError} (hnn : NonNeg tr) (hne : NoEscape tr)
    (hev : events tr = [] ∨ events tr = [.start .policy false]) :
    (do
      let _ ← EpisodeRuntime.stopComponents
      Prog.raise err : EpisodeProg Unit).Ends s fun tr' r _ =>
        NonNeg (tr ++ tr') ∧ (∃ err, r = .error err) ∧ Abandoned (tr ++ tr') := by
  refine Prog.ends_bind (stopComponents_ends.mono fun tr' r s' h => ?_)
  obtain ⟨hnn', h⟩ := h
  have hnn'' : NonNeg (tr ++ tr') := nonNeg_append.2 ⟨hnn, hnn'⟩
  have habandoned : Abandoned (tr ++ tr') := by
    refine ⟨events tr, hev, ?_⟩
    rw [events_append, noEscape_append, and_iff_right hne]
    rcases h with ⟨hne', hev'⟩ | ⟨hne', hev', -⟩
    · exact .inl ⟨hne', by rw [hev']⟩
    · exact .inr ⟨hne', by rw [hev']⟩
  cases r with
  | ok metrics =>
    refine Prog.ends_ret ?_
    rw [List.append_nil]
    exact ⟨hnn'', ⟨err, rfl⟩, habandoned⟩
  | error err => exact ⟨hnn'', ⟨err, rfl⟩, habandoned⟩

/-- The controller has been told that the recording has started, or everything was stopped. -/
theorem startController_ends {rt : EpisodeRuntime} {pending : PendingEpisode} {startedNs : ℤ} :
    (rt.startController pending startedNs).Ends s fun tr r _ => NonNeg tr ∧
      ((r = .ok () ∧ NoEscape tr ∧ (events tr = [] ∨ events tr = [.start .policy true])) ∨
        (∃ err, r = .error err) ∧ Abandoned tr) := by
  unfold EpisodeRuntime.startController
  split_ifs
  · refine Prog.ends_tryCatch (Prog.ends_bind (Prog.ends_ret ?_))
    cases RecordingStarted.make pending.episodeId startedNs with
    | error err =>
      refine (abandon_ends [] nonNeg_nil noEscape_nil (.inl rfl)).mono fun tr r s' h => ?_
      exact ⟨h.1, .inr h.2⟩
    | ok started =>
      refine ends_port (fun e he => ?_) fun e err he => ?_
      · refine ⟨by simp [NonNeg, EpisodeCall.isEndingClock], .inl ⟨rfl, ?_, .inr ?_⟩⟩
        · simp [NoEscape, he]
        · simp [events, resourceEvent, he]
      · refine (abandon_ends [(.recordingStartedHook started, e)] ?_ ?_ (.inr ?_)).mono
          fun tr r s' h => ⟨h.1, .inr h.2⟩
        · simp [NonNeg, EpisodeCall.isEndingClock]
        · simp [NoEscape, EpisodeCall.escapes]
        · simp [events, resourceEvent, he]
  · exact Prog.ends_ret ⟨nonNeg_nil, .inl ⟨rfl, noEscape_nil, .inl rfl⟩⟩

/-- The controller has been told that the recording is about to stop, unless that time is negative. -/
theorem stopController_ends {rt : EpisodeRuntime} {ending : Ending} :
    (rt.stopController ending).Ends s fun tr r _ => (∃ hookError, r = .ok hookError) ∧ NonNeg tr ∧
      NoEscape tr ∧ events tr =
        if rt.recordingStoppingHook = true ∧ 0 ≤ ending.stoppingMonotonicNs then [.stop .policy]
        else [] := by
  unfold EpisodeRuntime.stopController
  by_cases hhook : rt.recordingStoppingHook = true
  · rw [if_pos hhook]
    refine Prog.ends_tryCatch (Prog.ends_bind (Prog.ends_ret ?_))
    by_cases hns : 0 ≤ ending.stoppingMonotonicNs
    · rw [RecordingStopping.make, dif_pos hns]
      have hone : ∀ stopping e, NonNeg [(.recordingStoppingHook stopping, e)] ∧
          NoEscape [(.recordingStoppingHook stopping, e)] := by
        intro stopping e
        simp [NonNeg, NoEscape, EpisodeCall.isEndingClock, EpisodeCall.escapes]
      refine Prog.ends_bind (ends_port (fun e he => ?_) fun e err he => ?_)
      · refine Prog.ends_ret ⟨⟨none, rfl⟩, (hone _ e).1, (hone _ e).2, ?_⟩
        rw [if_pos ⟨hhook, hns⟩]
        rfl
      · refine Prog.ends_ret ⟨⟨some err, rfl⟩, (hone _ e).1, (hone _ e).2, ?_⟩
        rw [if_pos ⟨hhook, hns⟩]
        rfl
    · rw [RecordingStopping.make, dif_neg hns]
      refine Prog.ends_ret ⟨⟨_, rfl⟩, nonNeg_nil, noEscape_nil, ?_⟩
      rw [if_neg fun h => hns h.2]
      rfl
  · rw [if_neg hhook]
    refine Prog.ends_ret ⟨⟨none, rfl⟩, nonNeg_nil, noEscape_nil, ?_⟩
    rw [if_neg fun h => hhook h.1]
    rfl

/-! ### Before and after -/

/-- Calls that neither start nor stop anything, and before the start or after the stop of the
components. -/
def EpisodeCall.isBackground : EpisodeCall → Bool
  | .getState | .setState _ | .preEpisodeCheck | .episodeIdFactory | .storePrepare _ => true
  | .triggerArm .start | .triggerWait .start | .triggerDisarm .start => true
  | .wallClock .started | .monotonicClock .started => true
  | .finalize _ _ _ | .loadStation _ | .metadataContextProvider | .buildMetadata _ _ => true
  | .writeMetadata _ | .storeCommit _ _ => true
  | _ => false

theorem isBackground_spec {l : EpisodeCall} (h : l.isBackground = true) :
    (∀ e, resourceEvent (l, e) = none) ∧ (∀ err, l.escapes err = false) ∧
      l.isEndingClock = false := by
  unfold EpisodeCall.isBackground at h
  split at h <;> first | exact ⟨fun _ => rfl, fun _ => rfl, rfl⟩ | cases h

/-- A program in the background, however it ends. -/
theorem background_ends {p : EpisodeProg α} (hp : p.Only fun l => l.isBackground = true) :
    p.Ends s fun tr _ _ => events tr = [] ∧ NoEscape tr ∧ NonNeg tr := by
  intro tr r s' hrun
  have hone : ∀ x ∈ tr, _ := fun x hx => isBackground_spec (hrun.only hp x hx)
  refine ⟨List.filterMap_eq_nil_iff.2 fun x hx => (hone x hx).1 x.2,
    fun x hx err _ => (hone x hx).2.1 err, fun x hx hclock => ?_⟩
  rw [(hone x hx).2.2] at hclock
  cases hclock

theorem finalize_background {rt : EpisodeRuntime} {request : EpisodeRequest}
    {pending : PendingEpisode} {startedAt endedAt : ℤ} {durationS : ℚ} {ending : Ending}
    {metrics : List StreamMetrics} :
    (rt.finalize request pending startedAt endedAt durationS ending metrics).Only
      fun l => l.isBackground = true := by
  unfold EpisodeRuntime.finalize
  refine Prog.only_bind ?_ fun extensions => ?_
  · unfold EpisodeRuntime.finalizationExtensions
    split_ifs
    · exact Prog.only_atomic rfl
    · trivial
  dsimp only
  split_ifs
  · trivial
  · refine Prog.only_bind (Prog.only_atomic rfl) fun _ => ?_
    refine Prog.only_bind (only_callIf rfl) fun _ => ?_
    refine Prog.only_bind (Prog.only_atomic rfl) fun _ => ?_
    refine Prog.only_bind (Prog.only_atomic rfl) fun _ => ?_
    refine Prog.only_bind (Prog.only_atomic rfl) fun _ => ?_
    exact Prog.only_bind (Prog.only_atomic rfl) fun _ => trivial
  · trivial

/-! ### The recording -/

/-- What was started is stopped, where `controlled` says that the controller was started. -/
structure Closed (rt : EpisodeRuntime) (controlled : Prop) (evs : List ResourceEvent) : Prop where
  backend : evs.count (.stop .backend) = 1
  monitor : evs.count (.stop .monitor) = 1
  policy : controlled → rt.recordingStoppingHook = true → evs.count (.stop .policy) = 1 ∧
    evs.Pairwise fun a b => a = .stop .backend → b ≠ .stop .policy

/-- A part of a run closes what was started exactly if no exception escapes, and the recording does
not end at a negative time; `U` says that it has not done so yet, and `controlled` tells from what is
started and stopped whether the controller was started. -/
def Balanced (rt : EpisodeRuntime) (controlled : List ResourceEvent → Prop) (U : Prop)
    (tr : EpisodeTrace) : Prop :=
  Closed rt (controlled (events tr)) (events tr) ↔
    NoEscape tr ∧ (controlled (events tr) → rt.recordingStoppingHook = true → U ∧ NonNeg tr)

theorem balanced_bind {rt : EpisodeRuntime} {controlled : List ResourceEvent → Prop} {U : Prop}
    {W : α → Prop} {p : EpisodeProg α} {f : α → EpisodeProg β} (hp : Settles p (fun _ => False) V)
    (hW : ∀ x, W x ↔ U ∧ V x)
    (hf : ∀ x s, (f x).Ends s fun tr _ _ => Balanced rt controlled (W x) tr) :
    (p >>= f).Ends s fun tr _ _ => Balanced rt controlled U tr := by
  refine Prog.ends_bind ((hp s).mono fun tr r s' h => ?_)
  cases r with
  | ok x =>
    refine (hf x s').mono fun tr' r' s'' h' => ?_
    have hne : NoEscape tr := h.contained.2 (by simp)
    unfold Balanced at h' ⊢
    rw [events_append, h.quiet, List.nil_append, h', noEscape_append, and_iff_right hne,
      nonNeg_append, h.clock x rfl, hW, and_assoc]
  | error err =>
    have hne : ¬ NoEscape tr := fun hne => error_forall.1 (h.contained.1 hne)
    refine iff_of_false (fun hclosed => ?_) fun hboth => hne hboth.1
    have hcount := hclosed.backend
    rw [h.quiet] at hcount
    cases hcount

theorem closed_stopped {rt : EpisodeRuntime} {controlled c : Prop} [Decidable c] :
    Closed rt controlled ((if c then [.stop .policy] else []) ++ [.stop .backend, .stop .monitor]) ↔
      (controlled → rt.recordingStoppingHook = true → c) := by
  by_cases h : c
  · rw [if_pos h]
    refine ⟨fun _ _ _ => h, fun _ => ⟨by decide, by decide, fun _ _ => ⟨by decide, by decide⟩⟩⟩
  · rw [if_neg h]
    constructor
    · intro hclosed hcontrolled hhook
      have := (hclosed.policy hcontrolled hhook).1
      exact absurd this (by decide)
    · intro himp
      exact ⟨by decide, by decide, fun hcontrolled hhook => absurd (himp hcontrolled hhook) h⟩

theorem not_closed_escaped {rt : EpisodeRuntime} {controlled : Prop} {evs : List ResourceEvent}
    (h : evs.count (.stop .monitor) = 0) : ¬ Closed rt controlled (evs ++ [.stop .backend]) := by
  intro hclosed
  have hcount := hclosed.monitor
  rw [List.count_append, h] at hcount
  cases hcount

/-- Once the recording has ended, everything is stopped, unless stopping the recorder raises what
escapes, or the controller cannot be told when the recording ended. -/
theorem finish_balanced {rt : EpisodeRuntime} {request : EpisodeRequest} {pending : PendingEpisode}
    {startedAt endedAt : ℤ} {durationS : ℚ} {ending : Ending}
    {controlled : List ResourceEvent → Prop} :
    (rt.finish request pending startedAt endedAt durationS ending).Ends s fun tr _ _ =>
      Balanced rt controlled (0 ≤ ending.stoppingMonotonicNs) tr := by
  refine Prog.ends_bind (stopController_ends.mono fun tr r s' h => ?_)
  obtain ⟨⟨hookError, rfl⟩, hnn, hne, hev⟩ := h
  refine Prog.ends_bind (Prog.ends_tryCatch (stopComponents_ends.mono fun tr' r' s'' h' => ?_))
  obtain ⟨hnn', h'⟩ := h'
  -- what is stopped has been stopped by now, and what follows is in the background
  have hbalanced : ∀ tr'' : EpisodeTrace, events tr'' = [] → NoEscape tr'' → NonNeg tr'' →
      Balanced rt controlled (0 ≤ ending.stoppingMonotonicNs) (tr ++ (tr' ++ tr'')) := by
    intro tr'' hev'' hne'' hnn''
    unfold Balanced
    rw [noEscape_append, and_iff_right hne, noEscape_append, and_iff_left hne'', nonNeg_append,
      and_iff_right hnn, nonNeg_append, and_iff_right hnn', and_iff_left hnn'', events_append,
      events_append, hev'', List.append_nil, hev]
    rcases h' with ⟨hne', hev'⟩ | ⟨hne', hev', -⟩
    · rw [hev', closed_stopped, and_iff_right hne']
      exact forall_congr' fun _ => forall_congr' fun hhook => and_iff_right hhook
    · rw [hev']
      refine iff_of_false (not_closed_escaped ?_) fun hboth => hne' hboth.1
      split_ifs <;> decide
  cases r' with
  | ok metrics =>
    cases hookError with
    | some err => exact Prog.ends_ret (hbalanced [] rfl noEscape_nil nonNeg_nil)
    | none =>
      refine (background_ends finalize_background).mono fun tr'' _ _ h'' => ?_
      exact hbalanced tr'' h''.1 h''.2.1 h''.2.2
  | error err => exact Prog.ends_ret (hbalanced [] rfl noEscape_nil nonNeg_nil)

theorem settles_setState {state : EpisodeState} :
    Settles (setState state) P fun _ => True := fun _ =>
  Prog.ends_atomic fun _ =>
    { quiet := rfl
      contained := by simp [NoEscape, EpisodeCall.escapes]
      clock := by simp [NonNeg, EpisodeCall.isEndingClock]
      clock_error := (by simp) }

/-- A call that is not guarded. -/
theorem settles_unguarded {given : Bool} {l : EpisodeCall} (hl : ∀ e, resourceEvent (l, e) = none)
    (hescapes : ∀ err, l.escapes err = true) (hclock : l.isEndingClock = false) :
    Settles (callIf given l) (fun _ => False) fun _ => True :=
  settles_callIf hl (by simp [hescapes]) hclock

theorem closed_start {rt : EpisodeRuntime} {controlled : Prop} {r : Resource} {returned : Bool}
    {evs : List ResourceEvent} :
    Closed rt controlled (.start r returned :: evs) ↔ Closed rt controlled evs := by
  have hcount : ∀ r', (ResourceEvent.start r returned :: evs).count (.stop r') =
      evs.count (.stop r') := fun r' => List.count_cons_of_ne (by simp)
  have hpair : (ResourceEvent.start r returned :: evs).Pairwise
      (fun a b => a = .stop .backend → b ≠ .stop .policy) ↔
        evs.Pairwise fun a b => a = .stop .backend → b ≠ .stop .policy := by
    rw [List.pairwise_cons, and_iff_right]
    exact fun _ _ => (by simp)
  constructor
  · rintro ⟨hb, hm, hp⟩
    rw [hcount] at hb hm hp
    exact ⟨hb, hm, fun hc hh => ⟨(hp hc hh).1, hpair.1 (hp hc hh).2⟩⟩
  · rintro ⟨hb, hm, hp⟩
    refine ⟨?_, ?_, fun hc hh => ⟨?_, hpair.2 (hp hc hh).2⟩⟩
    · rwa [hcount]
    · rwa [hcount]
    · rw [hcount]
      exact (hp hc hh).1

/-- The controller was not started, and the components were stopped. -/
theorem abandoned_balanced {rt : EpisodeRuntime} (hnn : NonNeg tr) (h : Abandoned tr) :
    Balanced rt ControllerStarted True tr := by
  obtain ⟨evs, hevs, ⟨hne, hev⟩ | ⟨hne, hev⟩⟩ := h
  · refine iff_of_true ?_ ⟨hne, fun _ _ => ⟨trivial, hnn⟩⟩
    rw [hev]
    rcases hevs with rfl | rfl <;>
      exact ⟨by decide, by decide, fun hmem => absurd hmem (by decide)⟩
  · refine iff_of_false ?_ fun hboth => hne hboth.1
    rw [hev]
    exact not_closed_escaped (by rcases hevs with rfl | rfl <;> decide)

theorem record_balanced {rt : EpisodeRuntime} {n : ℕ} {request : EpisodeRequest}
    {pending : PendingEpisode} {startedAt startedNs : ℤ} :
    (rt.record n request pending startedAt startedNs).Ends s fun tr _ _ =>
      Balanced rt ControllerStarted True tr := by
  refine balanced_bind settles_setState (fun _ => (and_true True).symm.to_iff) fun _ s => ?_
  refine balanced_bind (settles_unguarded (fun _ => rfl) (fun _ => rfl) rfl)
    (fun _ => (and_true True).symm.to_iff) fun _ s => ?_
  refine Prog.ends_bind (startController_ends.mono fun tr r s' h => ?_)
  obtain ⟨hnn, ⟨rfl, hne, hev⟩ | ⟨⟨err, rfl⟩, habandoned⟩⟩ := h
  · -- what follows does not start anything
    have hrest : (do
        let ending ← rt.waitForEnd n
        let endedAt ← port (.wallClock .ended) PortAnswer.wallTime
        let durationS : ℚ := max 0 (((ending.stoppingMonotonicNs - startedNs : ℤ) : ℚ) / 10 ^ 9)
        setState .finalizing
        callIf rt.stateSink (.stateSink .finalizing)
        rt.finish request pending startedAt endedAt durationS ending).Ends s' fun tr' _ _ =>
          Balanced rt (fun evs => ControllerStarted (events tr) ∨ ControllerStarted evs) True
            tr' := by
      refine balanced_bind waitForEnd_settles (fun _ => (true_and _).symm.to_iff) fun ending s => ?_
      refine balanced_bind (settles_port (fun _ => rfl) (fun _ => by simp [EpisodeCall.escapes])
        fun _ => by simp [EpisodeCall.isEndingClock]) (fun _ => (and_true _).symm.to_iff)
        fun endedAt s => ?_
      refine balanced_bind settles_setState (fun _ => (and_true _).symm.to_iff) fun _ s => ?_
      refine balanced_bind (settles_unguarded (fun _ => rfl) (fun _ => rfl) rfl)
        (fun _ => (and_true _).symm.to_iff) fun _ s => ?_
      exact finish_balanced
    refine hrest.mono fun tr' r' s'' h' => ?_
    unfold Balanced at h' ⊢
    have hclosed : ∀ c, Closed rt c (events (tr ++ tr')) ↔ Closed rt c (events tr') := by
      intro c
      rw [events_append]
      rcases hev with hev | hev
      · rw [hev, List.nil_append]
      · rw [hev]
        exact closed_start
    have hstarted : ControllerStarted (events (tr ++ tr')) ↔
        ControllerStarted (events tr) ∨ ControllerStarted (events tr') := by
      rw [events_append]
      exact List.mem_append
    rw [hclosed, hstarted, h', noEscape_append, and_iff_right hne, nonNeg_append,
      and_iff_right hnn]
  · exact abandoned_balanced hnn habandoned

/-! ### `run_once` -/

/-- Where nothing is started, nothing has to be stopped. -/
theorem disciplined_quiet {rt : EpisodeRuntime} (h : ∀ r, .start r true ∉ events tr) :
    rt.Disciplined tr where
  backend hstart := absurd hstart (h _)
  monitor hstart := absurd hstart (h _)
  policy _ hstart := absurd hstart (h _)
  order hstart := absurd hstart (h _)

theorem contained_quiet {rt : EpisodeRuntime} (h : ∀ r, .start r true ∉ events tr)
    (hne : NoEscape tr) : rt.Contained tr := ⟨hne, fun hstart => absurd hstart (h _)⟩

theorem background_bind {rt : EpisodeRuntime} {p : EpisodeProg α} {f : α → EpisodeProg β}
    (hp : p.Only fun l => l.isBackground = true)
    (hf : ∀ x s, (f x).Ends s fun tr _ _ => rt.Disciplined tr ↔ rt.Contained tr) :
    (p >>= f).Ends s fun tr _ _ => rt.Disciplined tr ↔ rt.Contained tr := by
  refine Prog.ends_bind ((background_ends hp).mono fun tr r s' h => ?_)
  obtain ⟨hev, hne, hnn⟩ := h
  cases r with
  | ok x =>
    refine (hf x s').mono fun tr' r' s'' h' => ?_
    have hevents : events (tr ++ tr') = events tr' := by rw [events_append, hev, List.nil_append]
    have hd : rt.Disciplined (tr ++ tr') ↔ rt.Disciplined tr' := by
      constructor <;> rintro ⟨hb, hm, hp, ho⟩
      · rw [hevents] at hb hm hp ho
        exact ⟨hb, hm, hp, ho⟩
      · exact ⟨by rwa [hevents], by rwa [hevents], by rwa [hevents], by rwa [hevents]⟩
    have hc : rt.Contained (tr ++ tr') ↔ rt.Contained tr' := by
      constructor <;> rintro ⟨hne', hnn'⟩
      · rw [hevents] at hnn'
        exact ⟨(noEscape_append.1 hne').2, fun hs hh => (nonNeg_append.1 (hnn' hs hh)).2⟩
      · refine ⟨noEscape_append.2 ⟨hne, hne'⟩, fun hs hh => nonNeg_append.2 ⟨hnn, hnn' ?_ hh⟩⟩
        rwa [hevents] at hs
    rw [hd, hc, h']
  | error err =>
    have hquiet : ∀ r, .start r true ∉ events tr := by simp [hev]
    exact iff_of_true (disciplined_quiet hquiet) (contained_quiet hquiet hne)

/-- The recorder and the monitor were started. -/
theorem disciplined_iff_contained {rt : EpisodeRuntime} {b m : PortAnswer}
    {mcapPath : String} {streams : List StreamSpec} (hb : b.raises = none) (hm : m.raises = none)
    (h : Balanced rt ControllerStarted True tr) :
    rt.Disciplined ((.backendStart mcapPath streams, b) :: (.monitorStart streams, m) :: tr) ↔
      rt.Contained ((.backendStart mcapPath streams, b) :: (.monitorStart streams, m) :: tr) := by
  let start : EpisodeTrace := [(.backendStart mcapPath streams, b), (.monitorStart streams, m)]
  have hevents : events (start ++ tr) =
      .start .backend true :: .start .monitor true :: events tr := by
    rw [events_append]
    simp [start, events, resourceEvent, hb, hm]
  have hne : NoEscape start := by simp [start, NoEscape, hb, hm]
  have hnn : NonNeg start := by simp [start, NonNeg, EpisodeCall.isEndingClock]
  have hstarted : ControllerStarted (events (start ++ tr)) ↔ ControllerStarted (events tr) := by
    rw [hevents, ControllerStarted, ControllerStarted]
    simp
  have hclosed : Closed rt (ControllerStarted (events (start ++ tr))) (events (start ++ tr)) ↔
      Closed rt (ControllerStarted (events tr)) (events tr) := by
    rw [hstarted, hevents, closed_start, closed_start]
  have hd : rt.Disciplined (start ++ tr) ↔
      Closed rt (ControllerStarted (events (start ++ tr))) (events (start ++ tr)) := by
    constructor
    · rintro ⟨hbackend, hmonitor, hpolicy, horder⟩
      exact ⟨hbackend (by simp [hevents]), hmonitor (by simp [hevents]),
        fun hs hh => ⟨hpolicy hh hs, horder hs hh⟩⟩
    · rintro ⟨hbackend, hmonitor, hpolicy⟩
      exact ⟨fun _ => hbackend, fun _ => hmonitor, fun hh hs => (hpolicy hs hh).1,
        fun hs hh => (hpolicy hs hh).2⟩
  have hc : rt.Contained (start ++ tr) ↔ NoEscape tr ∧
      (ControllerStarted (events tr) → rt.recordingStoppingHook = true → True ∧ NonNeg tr) := by
    constructor
    · rintro ⟨hne', hnn'⟩
      exact ⟨(noEscape_append.1 hne').2,
        fun hs hh => ⟨trivial, (nonNeg_append.1 (hnn' (hstarted.2 hs) hh)).2⟩⟩
    · rintro ⟨hne', hnn'⟩
      exact ⟨noEscape_append.2 ⟨hne, hne'⟩,
        fun hs hh => nonNeg_append.2 ⟨hnn, (hnn' (hstarted.1 hs) hh).2⟩⟩
  exact hd.trans (hclosed.trans (h.trans hc.symm))

/-- The monitor has not started, and the recorder is stopped. -/
theorem monitorFailed_ends (rt : EpisodeRuntime) (mcapPath : String) (streams : List StreamSpec)
    {b m : PortAnswer} {err : PyError} (hb : b.raises = none)
    (hm : m.raises = some err) :
    (do
      callPort (.backendStop .monitorFailed)
      Prog.raise err : EpisodeProg Unit).Ends s fun tr r _ => (∃ err, r = .error err) ∧
        rt.Disciplined ((.backendStart mcapPath streams, b) :: (.monitorStart streams, m) :: tr) ∧
        rt.Contained ((.backendStart mcapPath streams, b) :: (.monitorStart streams, m) :: tr) := by
  have hone : ∀ e : PortAnswer,
      rt.Disciplined [(.backendStart mcapPath streams, b), (.monitorStart streams, m),
        (.backendStop .monitorFailed, e)] ∧
      rt.Contained [(.backendStart mcapPath streams, b), (.monitorStart streams, m),
        (.backendStop .monitorFailed, e)] := by
    intro e
    have hevents : events [(.backendStart mcapPath streams, b), (.monitorStart streams, m),
        (.backendStop .monitorFailed, e)] =
        [.start .backend true, .start .monitor false, .stop .backend] := by
      simp [events, resourceEvent, hb, hm]
    refine ⟨⟨fun _ => ?_, fun hs => ?_, fun _ hs => ?_, fun hs => ?_⟩, ⟨?_, fun hs => ?_⟩⟩
    · rw [hevents]
      decide
    · rw [hevents] at hs
      exact absurd hs (by decide)
    · rw [hevents] at hs
      exact absurd hs (by decide)
    · rw [hevents] at hs
      exact absurd hs (by decide)
    · simp [NoEscape, EpisodeCall.escapes]
    · rw [hevents] at hs
      exact absurd hs (by decide)
  refine Prog.ends_bind (ends_port (fun e _ => ?_) fun e err _ => ?_)
  · exact Prog.ends_ret ⟨⟨_, rfl⟩, hone e⟩
  · exact ⟨⟨_, rfl⟩, hone e⟩

/-- What `run_once` starts is stopped exactly once, and the controller before the recorder, exactly
in the runs in which every exception is raised where the code is prepared for it. -/
theorem runOnce_disciplined_iff {rt : EpisodeRuntime} {n : ℕ} {request : EpisodeRequest}
    {s s' : EpisodeState} {tr : EpisodeTrace} {r : Except PyError EpisodeResult}
    (h : (rt.runOnce n request).Run s tr r s') : rt.Disciplined tr ↔ rt.Contained tr := by
  suffices hends : (rt.runOnce n request).Ends s fun tr _ _ => rt.Disciplined tr ↔ rt.Contained tr
    from hends tr r s' h
  refine background_bind (Prog.only_atomic rfl) fun state s => ?_
  split_ifs
  · have hquiet : ∀ r, .start r true ∉ events [] := fun _ => List.not_mem_nil
    exact Prog.ends_ret (iff_of_true (disciplined_quiet hquiet) (contained_quiet hquiet noEscape_nil))
  refine background_bind (EpisodeRuntime.waitForStart_only rfl rfl rfl) fun _ s => ?_
  refine background_bind (only_callIf rfl) fun _ s => ?_
  refine background_bind (Prog.only_atomic rfl) fun episodeId s => ?_
  refine background_bind (Prog.only_atomic rfl) fun pending s => ?_
  refine background_bind (Prog.only_atomic rfl) fun startedAt s => ?_
  refine background_bind (Prog.only_atomic rfl) fun startedNs s => ?_
  refine Prog.ends_bind (ends_port (fun b hb => ?_) fun b err hb => ?_)
  · refine Prog.ends_bind (Prog.ends_tryCatch (ends_port (fun m hm => ?_) fun m err hm => ?_))
    · exact record_balanced.mono fun tr r s' h => disciplined_iff_contained hb hm h
    · refine (monitorFailed_ends rt pending.mcapPath request.streams hb hm).mono
        fun tr r s' h => ?_
      obtain ⟨⟨err, rfl⟩, hd, hc⟩ := h
      exact iff_of_true hd hc
  · have hquiet : ∀ r, ResourceEvent.start r true ∉
        events [(.backendStart pending.mcapPath request.streams, b)] := by
      simp [events, resourceEvent, hb]
    refine iff_of_true (disciplined_quiet hquiet) (contained_quiet hquiet ?_)
    simp [NoEscape, EpisodeCall.escapes]

end Rules

/-! ### A small station -/

namespace Episode.Station

/-- A runtime with both hooks. -/
def runtime : EpisodeRuntime := ⟨false, false, false, false, true, true, false, []⟩

/-- A request without streams. -/
def request : EpisodeRequest := ⟨"task", "description", "station", [], by decide, by decide,
  by decide, by decide⟩

/-- The operator presses the pedal. -/
def pressed : PortAnswer :=
  { signal := some ⟨.activate, 2, none, by decide, (by simp), fun _ => rfl⟩ }

/-- The Episode is prepared. -/
def prepared : PortAnswer := { pending := ⟨"id", "partial", "final", "mcap", "metadata"⟩ }

/-- An exception is raised. -/
def raising (text : String) : PortAnswer := { raises := some ⟨.runtimeError, text⟩ }

/-- The Episode starts, up to the return of the hook. -/
def started : List PortAnswer :=
  [{}, {}, pressed, {}, {}, prepared, {}, { monotonicNs := 1 }, {}, {}, {}, {}]

end Episode.Station

/-- The recorder cannot be stopped; the controller and the monitor are stopped nonetheless. -/
theorem runOnce_disciplined_closeFailed :
    ∃ tr r s', (Episode.Station.runtime.runOnce 1 Episode.Station.request).Run .ready tr r s' ∧
      .stop .backend ∈ events tr ∧ Episode.Station.runtime.Disciplined tr := by
  obtain ⟨tr, r, s', hrun, hstop, hne, hnn⟩ := Prog.run_of_exec_any
    (P := fun tr => .stop .backend ∈ events tr ∧ NoEscape tr ∧ NonNeg tr)
    (show (((Episode.Station.runtime.runOnce 1 Episode.Station.request).exec
      (Episode.Station.started ++ [{}, {}, Episode.Station.pressed, {}, {}, {}, {},
        Episode.Station.raising "close failed", {}]) .ready).any _) = true by decide +kernel)
  exact ⟨tr, r, s', hrun, hstop, (runOnce_disciplined_iff hrun).2 ⟨hne, fun _ _ => hnn⟩⟩

/-- The pedal is disconnected when the trigger is armed for the end of the recording: the recorder,
the monitor and the controller are left running. -/
theorem runOnce_pedalDisconnected :
    ∃ tr r s', (Episode.Station.runtime.runOnce 1 Episode.Station.request).Run .ready tr r s' ∧
      ¬ Episode.Station.runtime.Disciplined tr := by
  obtain ⟨tr, r, s', hrun, hevents⟩ := Prog.run_of_exec_any
    (P := fun tr => events tr = [.start .backend true, .start .monitor true, .start .policy true])
    (show (((Episode.Station.runtime.runOnce 1 Episode.Station.request).exec
      (Episode.Station.started ++ [Episode.Station.raising "pedal disconnected"]) .ready).any _) = true
      by decide +kernel)
  refine ⟨tr, r, s', hrun, fun h => ?_⟩
  have hstopped := h.backend
  rw [hevents] at hstopped
  exact absurd (hstopped (by decide)) (by decide)

end DualCollection
