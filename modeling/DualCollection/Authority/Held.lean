import DualCollection.Authority.Operations

/-!
# Held faults

From the moment at which it emits `FAULT_HOLD` a controller holds the fault, until the Episode is
stopped: `Held` is an invariant of the operations, and the trigger gives the signal that ends an
Episode as a success only where no fault is held (`wait_held`).

The stop hook itself emits `FAULT_HOLD` if the release of the gateway and the arms fails.  It raises
if the arms could not be brought to a safe mode, and only records a fault from which it has
recovered: `stop_events` says that this is the one way in which a hook that returns has emitted
something.
-/

namespace DualCollection

open Thread

/-! ### Events -/

/-- At most one event is emitted, of the given type; what raises emits none. -/
def AuthorityTimeline.Emits {α : Type} (eventType : AuthorityEventType) (tl : AuthorityTimeline)
    (r : Except Exc α) (tl' : AuthorityTimeline) : Prop :=
  ((∃ err, r = .error err) ∧ tl'.events = tl.events) ∨
    (∃ a, r = .ok a) ∧ ∃ ev : AuthorityEvent, ev.eventType = eventType ∧
      tl'.events = ev :: tl.events

namespace AuthorityTimeline

variable {e : Env} {tl : AuthorityTimeline} {ns : ℤ} {interventionId controlEpoch : ℕ}
  {reason : AuthorityReason}

theorem offsetS_same : (offsetS ns).Post e tl fun _ tl' => tl' = tl :=
  post_offsetS (fun _ _ _ => rfl) fun _ _ => rfl

theorem closeActive_events {at' : ℚ} :
    (closeActive at').Post e tl fun _ tl' => tl'.events = tl.events :=
  post_closeActive (fun _ => rfl) (fun _ _ _ _ => rfl) fun _ _ _ _ => rfl

/-- The open segment is closed before something else is done. -/
theorem post_close {α : Type} {body : Locked AuthorityTimeline α}
    {Q : Except Exc α → AuthorityTimeline → Prop}
    (herr : ∀ err closed, closed.events = tl.events → Q (.error err) closed)
    (h : ∀ closed, closed.events = tl.events → body.Post e closed Q) :
    (do
      let atS ← offsetS ns
      closeActive atS
      body).Post e tl Q := by
  rw [Locked.post_bind]
  refine Locked.post_mono offsetS_same fun r tl' htl' => ?_
  subst htl'
  cases r with
  | error err => exact herr err _ rfl
  | ok atS =>
    dsimp only
    rw [Locked.post_bind]
    refine Locked.post_mono closeActive_events fun r tl' htl' => ?_
    cases r with
    | error err => exact herr err _ htl'
    | ok u => exact h tl' htl'

theorem takeoverRequested_emits :
    (takeoverRequested controlEpoch reason ns).Post e tl (Emits .takeoverRequested tl) := by
  rw [takeoverRequested, Locked.post_bind]
  refine post_requireActive (fun _ _ => ?_) fun _ err => .inl ⟨⟨err, rfl⟩, rfl⟩
  refine post_close (fun err _ h => .inl ⟨⟨err, rfl⟩, h⟩) fun _ h => ?_
  exact .inr ⟨⟨_, rfl⟩, _, rfl, congrArg _ h⟩

theorem resumeRequested_emits :
    (resumeRequested interventionId controlEpoch ns).Post e tl (Emits .resumeRequested tl) :=
  post_close (fun err _ h => .inl ⟨⟨err, rfl⟩, h⟩) fun _ h =>
    .inr ⟨⟨_, rfl⟩, _, rfl, congrArg _ h⟩

theorem faultHold_emits :
    (faultHold interventionId controlEpoch reason).Post e tl (Emits .faultHold tl) := by
  rw [faultHold, Locked.post_bind, Locked.post_ask]
  exact post_close (fun err _ h => .inl ⟨⟨err, rfl⟩, h⟩) fun tl' h =>
    .inr ⟨⟨_, rfl⟩, _, rfl, congrArg _ h⟩

theorem humanActive_emits :
    (humanActive interventionId controlEpoch).Post e tl (Emits .humanActive tl) := by
  rw [humanActive, Locked.post_bind, Locked.post_ask]
  dsimp only
  rw [Locked.post_bind]
  refine Locked.post_mono offsetS_same fun r tl' htl' => ?_
  subst htl'
  cases r with
  | error err => exact .inl ⟨⟨err, rfl⟩, rfl⟩
  | ok atS => exact .inr ⟨⟨_, rfl⟩, _, rfl, rfl⟩

theorem policyActive_emits :
    (policyActive interventionId controlEpoch reason).Post e tl (Emits .policyActive tl) := by
  rw [policyActive, Locked.post_bind, Locked.post_ask]
  dsimp only
  rw [Locked.post_bind]
  refine Locked.post_mono offsetS_same fun r tl' htl' => ?_
  subst htl'
  cases r with
  | error err => exact .inl ⟨⟨err, rfl⟩, rfl⟩
  | ok atS => exact .inr ⟨⟨_, rfl⟩, _, rfl, rfl⟩

theorem finishEpisode_events :
    (finishEpisode ns).Post e tl fun _ tl' => tl'.events = tl.events := by
  rw [finishEpisode, Locked.post_bind]
  refine post_requireActive (fun _ _ => ?_) fun _ _ => rfl
  exact post_close (fun _ _ => id) fun _ => id

end AuthorityTimeline

namespace Takeover

variable {L G : Type} {gw : CommandGateway L G} {text : AuthorityReason → String} {e : Env}
  {t t' : Takeover} {before : List AuthorityEvent}

/-- A fault that was emitted after the events `before` is still held. -/
def Held (before : List AuthorityEvent) (t : Takeover) : Prop :=
  ∃ new, t.timeline.events = new ++ before ∧
    ((∃ ev ∈ new, ev.eventType = .faultHold) → t.state = .faultHold)

theorem Held.same (h : Held before t) (hevents : t'.timeline.events = t.timeline.events)
    (hstate : t.state = .faultHold → t'.state = .faultHold) : Held before t' := by
  obtain ⟨new, hnew, hheld⟩ := h
  exact ⟨new, hevents.trans hnew, fun hev => hstate (hheld hev)⟩

/-- Where no fault is held, another event may be emitted. -/
theorem Held.emitted {α : Type} {eventType : AuthorityEventType} {r : Except Exc α}
    (h : Held before t) (hstate : t.state ≠ .faultHold) (htype : eventType ≠ .faultHold)
    (hem : AuthorityTimeline.Emits eventType t.timeline r t'.timeline) : Held before t' := by
  obtain ⟨new, hnew, hheld⟩ := h
  rcases hem with ⟨-, hevents⟩ | ⟨-, ev, hev, hevents⟩
  · exact ⟨new, hevents.trans hnew, fun hev => absurd (hheld hev) hstate⟩
  · refine ⟨ev :: new, by rw [hevents, hnew, List.cons_append], ?_⟩
    rintro ⟨ev', hmem, hev'⟩
    rcases List.mem_cons.1 hmem with rfl | hmem
    · exact absurd (hev.symm.trans hev') htype
    · exact absurd (hheld ⟨ev', hmem, hev'⟩) hstate

theorem activated_held {reason : AuthorityReason} (h : Held before t)
    (hstate : t.state = .resumePending) : (activated reason).Post e t fun _ => Held before := by
  have hfree : t.state ≠ .faultHold := by rw [hstate]; decide
  rw [activated, Locked.post_bind, Locked.post_get]
  dsimp only
  rw [Locked.post_bind]
  refine post_timeline (Locked.post_mono AuthorityTimeline.policyActive_emits fun r tl hem => ?_)
  cases r with
  | error err => exact h.emitted hfree (by decide) hem
  | ok u => exact h.emitted hfree (by decide) hem

theorem handedOver_held (h : Held before t) (hstate : t.state = .handoverPending) :
    handedOver.Post e t fun _ => Held before := by
  have hfree : t.state ≠ .faultHold := by rw [hstate]; decide
  rw [handedOver, Locked.post_bind, Locked.post_get]
  dsimp only
  rw [Locked.post_bind]
  refine post_timeline (Locked.post_mono AuthorityTimeline.humanActive_emits fun r tl hem => ?_)
  cases r with
  | error err => exact h.emitted hfree (by decide) hem
  | ok u => exact h.emitted hfree (by decide) hem

theorem takenOver_held {ns : ℤ} (h : Held before t) (hstate : t.state = .modelControl) :
    (takenOver ns).Post e t fun _ => Held before := by
  have hfree : t.state ≠ .faultHold := by rw [hstate]; decide
  simp only [takenOver, Locked.post_bind, Locked.post_modify, Locked.post_get]
  refine post_timeline (Locked.post_mono AuthorityTimeline.takeoverRequested_emits fun r tl hem => ?_)
  cases r with
  | error err => exact h.emitted hfree (by decide) hem
  | ok u => exact h.emitted hfree (by decide) hem

theorem resumed_held {ns : ℤ} (h : Held before t) (hstate : t.state = .humanActive) :
    (resumed ns).Post e t fun _ => Held before := by
  have hfree : t.state ≠ .faultHold := by rw [hstate]; decide
  simp only [resumed, Locked.post_bind, Locked.post_modify, Locked.post_get]
  refine post_timeline (Locked.post_mono AuthorityTimeline.resumeRequested_emits fun r tl hem => ?_)
  exact h.emitted hfree (by decide) hem

theorem faulted_held {recovery : Option PyError} {reason : AuthorityReason} (h : Held before t)
    (hfree : t.state ≠ .faultHold) : (faulted recovery reason).Post e t fun _ => Held before := by
  simp only [faulted, Locked.post_bind, Locked.post_modify, Locked.post_get]
  refine post_timeline (Locked.post_mono AuthorityTimeline.faultHold_emits fun r tl hem => ?_)
  obtain ⟨new, hnew, hheld⟩ := h
  rcases hem with ⟨⟨err, rfl⟩, hevents⟩ | ⟨⟨faultTimeNs, rfl⟩, ev, -, hevents⟩
  · exact ⟨new, hevents.trans hnew, fun hev => absurd (hheld hev) hfree⟩
  · exact ⟨ev :: new, hevents.trans (congrArg _ hnew), fun _ => rfl⟩

/-! ### Calls of the controller -/

/-- The other threads work on the gateway only. -/
def alongside : Unit → Witnessed L G → Unit → Prop :=
  fun _ x _ => ∀ w, (x.2.2 w).takeover = w.takeover

theorem apart_alongside : Apart (alongside : Unit → Witnessed L G → Unit → Prop) where
  takeover := fun h => h
  le := fun _ => le_rfl

theorem kept_held : Kept (alongside : Unit → Witnessed L G → Unit → Prop) (fun _ => Held before) where
  mono := fun _ h => h
  advanced := fun h => h.same rfl id
  activated := fun _ => activated_held
  faulted := fun _ => faulted_held
  handedOver := fun _ => handedOver_held

theorem handles_held {ns : ℤ} :
    Handles (alongside : Unit → Witnessed L G → Unit → Prop) (fun _ => Held before) ns where
  toKept := kept_held
  takenOver := fun _ => takenOver_held
  resumed := fun _ => resumed_held

variable {w w' : World G}

theorem startEpisode_held {started : RecordingStarted} :
    (startEpisode gw started).among.Under alongside w () fun r w' _ =>
      r = .ok () → Held w.takeover.timeline.events w'.takeover := by
  refine (under_startEpisode apart_alongside kept_held
    (I := fun _ => Held w.takeover.timeline.events) (E := fun _ _ => True)
    fun _ e f k' _ => ?_).mono fun r w' _ hr hok => ?_
  · rw [begun, Locked.post_bind, Locked.post_get]
    dsimp only
    rw [Locked.post_ite]
    refine ⟨fun _ => trivial, fun _ => ?_⟩
    simp only [Locked.post_bind, Locked.post_modify]
    refine post_timeline ?_
    rw [AuthorityTimeline.startEpisode, Locked.post_bind, Locked.post_get]
    dsimp only
    rw [Locked.post_ite]
    exact ⟨fun _ => trivial, fun _ => ⟨[], rfl, by simp⟩⟩
  · rcases hr with hr | ⟨⟨f, rfl⟩, -⟩
    · exact hr
    · cases hok

/-- `episode_fault_signal` only reads, and only a held fault has a signal, with its time. -/
theorem post_episodeFaultSignal {Q : Except Exc (Option TriggerSignal) → Takeover → Prop}
    (hnone : t.state ≠ .faultHold → Q (.ok none) t)
    (hsome : ∀ s : TriggerSignal, s.event = .fail → t.state = .faultHold →
      t.faultTimeNs = some s.monotonicTimeNs → Q (.ok (some s)) t)
    (herr : ∀ err, Q (.error err) t) : (episodeFaultSignal text).Post e t Q := by
  rw [episodeFaultSignal, Locked.post_bind, Locked.post_get]
  dsimp only
  rw [Locked.post_ite]
  refine ⟨hnone, fun hheld => ?_⟩
  split
  · rename_i timeNs hdetail htime
    unfold signalled
    split
    · rename_i signal hmake
      refine hsome signal (TriggerSignal.event_of_make hmake) (not_not.1 hheld) ?_
      rw [htime, TriggerSignal.time_of_make hmake]
    · exact herr _
  · exact herr _

/-- What `wait` promises of its signal. -/
def Unfaulted (r : Except Failure (Option TriggerSignal)) (t : Takeover) : Prop :=
  ∀ signal, r = .ok (some signal) → signal.event = .activate → t.state ≠ .faultHold

theorem unfaulted_error {f : Failure} : Unfaulted (.error f) t := by
  rintro signal ⟨⟩

theorem unfaulted_none : Unfaulted (.ok none) t := by
  rintro signal ⟨⟩

theorem unfaulted_some {s : TriggerSignal} (h : s.event = .activate → t.state ≠ .faultHold) :
    Unfaulted (.ok (some s)) t := by
  rintro signal ⟨⟩
  exact h

section Wait

variable {κ : Type} [Preorder κ] {serve : κ → Witnessed L G → κ → Prop} {I : κ → Takeover → Prop}
  {k : κ} (hs : Apart serve)
include hs

/-- `episode_fault_signal` as the end of `wait`. -/
theorem under_faultSignal (hmono : ∀ {k k' t}, k ≤ k' → I k t → I k' t) (h : I k w.takeover) :
    (perform .own (episodeFaultSignal text) : Program L G _).among.Under serve w k
      fun r w' k' => I k' w'.takeover ∧ Unfaulted r w'.takeover := by
  refine under_perform hs fun e f k' hk' => ?_
  have h' : I k' w.takeover := hmono (hs.le hk') h
  refine post_episodeFaultSignal (fun _ _ => ?_) (fun s hs _ _ _ => ?_) fun _ _ => ?_
  · exact ⟨h', unfaulted_none⟩
  · exact ⟨h', unfaulted_some fun hs' => by rw [hs] at hs'; cases hs'⟩
  · exact ⟨h', unfaulted_error⟩

/-- A signal as the end of `wait`, where no fault is held. -/
theorem under_signalled (hmono : ∀ {k k' t}, k ≤ k' → I k t → I k' t) {event : TriggerEvent} {ns : ℤ}
    (h : I k w.takeover) (hfree : w.takeover.state ≠ .faultHold) :
    (perform .own (signalled event ns none) : Program L G _).among.Under serve w k
      fun r w' k' => I k' w'.takeover ∧ Unfaulted r w'.takeover := by
  refine under_perform hs fun e f k' hk' => ?_
  have h' : I k' w.takeover := hmono (hs.le hk') h
  unfold signalled
  split
  · exact fun _ => ⟨h', unfaulted_some fun _ => hfree⟩
  · exact fun _ => ⟨h', unfaulted_error⟩

/-- What the operations keep is kept by `wait`. -/
theorem under_wait {signal : Option DaggerTriggerSignal}
    (hI : ∀ ns, Handles serve I ns) (h : I k w.takeover) :
    (wait gw text signal).among.Under serve w k fun r w' k' =>
      I k' w'.takeover ∧ Unfaulted r w'.takeover := by
  have hkept : Kept serve I := (hI 0).toKept
  unfold wait
  rw [Prog.among_bind]
  refine Prog.under_bind ((under_pollRuntime hs hkept h).mono fun r w₁ k₁ h₁ => ?_)
  cases r with
  | error f => exact ⟨h₁, unfaulted_error⟩
  | ok state =>
    dsimp only
    rw [Prog.among_bind]
    refine Prog.under_bind (under_perform hs fun e₂ f₂ k₂ hk₂ => ?_)
    have h₂ : I k₂ w₁.takeover := hkept.mono (hs.le hk₂) h₁
    refine post_episodeFaultSignal (fun hfree g₂ => ?_) (fun s hs' _ _ g₂ => ?_) fun err g₂ => ?_
    · dsimp only [markEpoch_ok]
      rw [if_neg (by simp)]
      cases signal with
      | none => exact Prog.under_pure ⟨h₂, unfaulted_none⟩
      | some signal =>
        dsimp only
        cases signal.event with
        | recordToggle => exact under_signalled (I := I) (w := ⟨_, g₂⟩) hs hkept.mono h₂ hfree
        | abort => exact under_signalled (I := I) (w := ⟨_, g₂⟩) hs hkept.mono h₂ hfree
        | ownershipToggle =>
          refine under_attributes hs fun g₃ k₃ hk₃ => ?_
          have h₃ : I k₃ w₁.takeover := hkept.mono hk₃ h₂
          dsimp only
          rw [Prog.among_ite]
          split_ifs
          · rw [Prog.among_bind]
            refine Prog.under_bind (under_report hs fun r g₄ k₄ hk₄ => ?_)
            have h₄ : I k₄ w₁.takeover := hkept.mono hk₄ h₃
            cases r with
            | error f => exact ⟨h₄, unfaulted_error⟩
            | ok u => exact Prog.under_pure ⟨h₄, unfaulted_none⟩
          · rw [Prog.among_bind]
            refine Prog.under_bind ((under_toggleOwnership (w := ⟨_, g₃⟩) hs (hI _) h₃).mono
              fun r w₄ k₄ h₄ => ?_)
            cases r with
            | error f => exact ⟨h₄, unfaulted_error⟩
            | ok u => exact under_faultSignal hs hkept.mono h₄
    · exact Prog.under_pure ⟨h₂, unfaulted_some fun hs'' => by rw [hs'] at hs''; cases hs''⟩
    · exact ⟨h₂, unfaulted_error⟩

end Wait

theorem wait_held {signal : Option DaggerTriggerSignal} (h : Held before w.takeover) :
    (wait gw text signal).among.Under alongside w () fun r w' _ =>
      Held before w'.takeover ∧ Unfaulted r w'.takeover :=
  under_wait apart_alongside (fun _ => handles_held) h

/-! ### The stop hook -/

/-- The branch that goes wrong in the stop hook: the release of the gateway and the arms raises an
`Exception`, and `_fault` handles it and leaves no safety failure behind. -/
inductive Recovers (gw : CommandGateway L G) (w : World G) : List (Witnessed L G) → Prop
  | intro {tr₀ tr₁ tr₂ tr₃ : List (Witnessed L G)} {w₀ w₁ w₂ : World G} {f : Failure}
    (hbegin : (attributes : Program L G _).among.Run w tr₀ (.ok w₀.takeover) w₀)
    (hrelease : (release gw).among.Run w₀ tr₁ (.error f) w₁) (hf : f.error.isException = true)
    (hfault : (fault gw f).among.Run w₁ tr₂ (.ok ()) w₂)
    (hsafe : w₂.takeover.safetyFailure = none) :
    Recovers gw w (tr₀ ++ (tr₁ ++ (tr₂ ++ tr₃)))

/-- The end of `stop_episode` emits nothing, and returns only without a safety failure. -/
theorem finish_events {k : Unit} {ns : ℤ} {epoch : ℕ} :
    (do
      let failure ← perform .own (finished ns)
      match failure with
      | some failure => .raise ⟨failure, epoch⟩
      | none => pure () : Program L G Unit).among.Under alongside w k fun r w' _ =>
        w'.takeover.timeline.events = w.takeover.timeline.events ∧
          (r = .ok () → w.takeover.safetyFailure = none) := by
  rw [Prog.among_bind]
  refine Prog.under_bind (under_perform apart_alongside fun e f k' _ => ?_)
  rw [finished, Locked.post_bind]
  refine post_timeline (Locked.post_mono AuthorityTimeline.finishEpisode_events fun r tl h => ?_)
  cases r with
  | error err => exact fun _ => ⟨h, by simp⟩
  | ok u =>
    simp only [Locked.post_bind, Locked.post_get, Locked.post_modify, Locked.post_pure]
    intro g
    cases hsafe : w.takeover.safetyFailure with
    | none =>
      simp only [markEpoch_ok, timed_safetyFailure, hsafe]
      exact Prog.under_pure ⟨h, fun _ => trivial⟩
    | some failure =>
      simp only [markEpoch_ok, timed_safetyFailure, hsafe]
      exact Prog.under_raise ⟨h, by simp⟩

theorem attributes_same :
    (attributes : Program L G _).among.Under alongside w () fun r w' _ =>
      r = .ok w'.takeover ∧ w'.takeover = w.takeover :=
  under_perform apart_alongside fun _ _ _ _ _ => ⟨rfl, rfl⟩

/-- Unless it recovers from a fault, a stop hook that returns has emitted nothing. -/
theorem stop_events {stopping : RecordingStopping} {tr : List (Witnessed L G)}
    (hrun : (stopEpisode gw stopping).among.Run w tr (.ok ()) w')
    (hserved : Served alongside () tr ()) (hrecovers : ¬ Recovers gw w tr) :
    w'.takeover.timeline.events = w.takeover.timeline.events := by
  unfold stopEpisode at hrun
  rw [Prog.among_bind, Prog.bind_eq] at hrun
  obtain ⟨tr₀, tr', r₀, w₀, hbegin, hrun, rfl⟩ := Prog.run_andThen.1 hrun
  obtain ⟨⟨⟩, hs₀, hserved⟩ := served_append.1 hserved
  obtain ⟨rfl, ht₀⟩ := attributes_same _ _ _ _ hbegin hs₀
  rw [← ht₀]
  dsimp only at hrun
  by_cases hidle : w₀.takeover.state = .idle
  · rw [if_pos hidle] at hrun
    cases hrun
    rfl
  rw [if_neg hidle] at hrun
  by_cases hheld : w₀.takeover.state ≠ .faultHold
  · rw [if_pos hheld, Prog.among_bind, Prog.bind_eq] at hrun
    obtain ⟨tr₁₂, tr₃, r, w₂, hexcept, hfinish, rfl⟩ := Prog.run_andThen.1 hrun
    obtain ⟨⟨⟩, hs₁₂, hs₃⟩ := served_append.1 hserved
    rw [exceptException, Prog.among_tryCatch, Prog.tryCatch] at hexcept
    obtain ⟨tr₁, tr₂, r₁, w₁, hrelease, hhandler, rfl⟩ := Prog.run_andThen.1 hexcept
    obtain ⟨⟨⟩, hs₁, hs₂⟩ := served_append.1 hs₁₂
    have h₁ : w₁.takeover.timeline.events = w₀.takeover.timeline.events := by
      rcases (under_release apart_alongside _ _ _ _ hrelease hs₁).2 with ht | ht
      · rw [ht]
      · rw [ht, advanced_timeline]
    cases r₁ with
    | ok u =>
      obtain ⟨-, rfl, rfl⟩ := Prog.run_ret.1 hhandler
      exact (finish_events _ _ _ _ hfinish hs₃).1.trans h₁
    | error f =>
      dsimp only at hhandler
      by_cases hf : f.error.isException = true
      · rw [if_pos hf] at hhandler
        cases r with
        | error f' => cases hfinish
        | ok u =>
          have hsafe := (finish_events _ _ _ _ hfinish hs₃).2 rfl
          rw [List.append_assoc] at hrecovers
          exact absurd (.intro hbegin hrelease hf hhandler hsafe) hrecovers
      · rw [if_neg hf] at hhandler
        obtain ⟨-, rfl, rfl⟩ := Prog.run_ret.1 hhandler
        cases hfinish
  · rw [if_neg hheld] at hrun
    exact (finish_events _ _ _ _ hrun hserved).1

end Takeover

end DualCollection
