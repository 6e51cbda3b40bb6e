import DualCollection.Authority.Trigger

/-!
# What the operations of a controller keep

Between two calls of its gateway a controller works on its own attributes, in the sections that are
named here.  `Kept` and `Handles` say what an invariant of these attributes has to meet: one clause
for each section, in the state in which the controller reaches it.  The rest of the module follows
the operations through every outcome of their calls, once for all invariants.
-/

namespace DualCollection

open Thread

namespace Takeover

/-! ### The sections of the controller -/

/-- `start_episode`, up to its first call of the gateway. -/
def begun (started : RecordingStarted) : Locked Takeover Unit := do
  let t ← .get
  if t.state ≠ .idle then .raise (.authority .cannotStart)
  .modify (·.identified started.episodeId)
  onTimeline (AuthorityTimeline.startEpisode started.monotonicTimeNs)
  .modify (·.entered .resumePending)

/-- The policy becomes active. -/
def activated (reason : AuthorityReason) : Locked Takeover Unit := do
  let t ← .get
  onTimeline (AuthorityTimeline.policyActive t.interventionId t.controlEpoch reason)
  .modify (·.entered .modelControl)

/-- A fault is held. -/
def faulted (recovery : Option PyError) (reason : AuthorityReason) : Locked Takeover Unit := do
  .modify (·.unrecovered recovery)
  let t ← .get
  let faultTimeNs ← onTimeline (AuthorityTimeline.faultHold t.interventionId t.controlEpoch reason)
  .modify (·.held reason faultTimeNs)

/-- The operator takes over. -/
def takenOver (monotonicTimeNs : ℤ) : Locked Takeover Unit := do
  .modify (·.entered .handoverPending)
  let t ← .get
  let interventionId ← onTimeline
    (AuthorityTimeline.takeoverRequested t.controlEpoch .operatorOwnershipToggle monotonicTimeNs)
  .modify (·.intervened interventionId)

/-- The operator has the arms. -/
def handedOver : Locked Takeover Unit := do
  let t ← .get
  onTimeline (AuthorityTimeline.humanActive t.interventionId t.controlEpoch)
  .modify (·.entered .humanActive)

/-- The operator gives the arms back. -/
def resumed (monotonicTimeNs : ℤ) : Locked Takeover Unit := do
  .modify (·.entered .resumePending)
  let t ← .get
  onTimeline (AuthorityTimeline.resumeRequested t.interventionId t.controlEpoch monotonicTimeNs)

/-- The Episode is over. -/
def finished (monotonicTimeNs : ℤ) : Locked Takeover (Option Exc) := do
  onTimeline (AuthorityTimeline.finishEpisode monotonicTimeNs)
  let t ← .get
  .modify stopped
  pure t.safetyFailure

variable {L G κ : Type} [Preorder κ] {serve : κ → Witnessed L G → κ → Prop}
  {I : κ → Takeover → Prop} {gw : CommandGateway L G} {text : AuthorityReason → String}
  {w : World G} {k : κ}

/-- What an invariant has to meet in the sections of an operation that handles no trigger. -/
structure Kept (serve : κ → Witnessed L G → κ → Prop) (I : κ → Takeover → Prop) : Prop where
  /-- What is kept of the answers may grow. -/
  mono : ∀ {k k' t}, k ≤ k' → I k t → I k' t
  /-- The control epoch advances. -/
  advanced : ∀ {k t}, I k t → I k t.advanced
  /-- The policy becomes active. -/
  activated : ∀ {k l e f k' t reason}, serve k (l, e, f) k' → I k t → t.state = .resumePending →
    (activated reason).Post e t fun _ => I k'
  /-- A fault is held. -/
  faulted : ∀ {k l e f k' t recovery reason}, serve k (l, e, f) k' → I k t →
    t.state ≠ .faultHold → (faulted recovery reason).Post e t fun _ => I k'
  /-- The operator has the arms. -/
  handedOver : ∀ {k l e f k' t}, serve k (l, e, f) k' → I k t → t.state = .handoverPending →
    handedOver.Post e t fun _ => I k'

/-- What an invariant has to meet where faults are handled. -/
structure Faulting (serve : κ → Witnessed L G → κ → Prop) (I : κ → Takeover → Prop) : Prop where
  /-- What is kept of the answers may grow. -/
  mono : ∀ {k k' t}, k ≤ k' → I k t → I k' t
  /-- The control epoch advances. -/
  advanced : ∀ {k t}, I k t → I k t.advanced
  /-- A fault is held. -/
  faulted : ∀ {k l e f k' t recovery reason}, serve k (l, e, f) k' → I k t →
    t.state ≠ .faultHold → (faulted recovery reason).Post e t fun _ => I k'

theorem Kept.faulting (hI : Kept serve I) : Faulting serve I := ⟨hI.mono, hI.advanced, hI.faulted⟩

/-- What an invariant has to meet where a toggle of the time `ns` is handled. -/
structure Handles (serve : κ → Witnessed L G → κ → Prop) (I : κ → Takeover → Prop) (ns : ℤ) :
    Prop extends Kept serve I where
  /-- The operator takes over. -/
  takenOver : ∀ {k l e f k' t}, serve k (l, e, f) k' → I k t → t.state = .modelControl →
    (takenOver ns).Post e t fun _ => I k'
  /-- The operator gives the arms back. -/
  resumed : ∀ {k l e f k' t}, serve k (l, e, f) k' → I k t → t.state = .humanActive →
    (resumed ns).Post e t fun _ => I k'

/-- What an invariant has to meet where an Episode ends at the time `ns`. -/
def Finishes (serve : κ → Witnessed L G → κ → Prop) (I : κ → Takeover → Prop) (ns : ℤ) : Prop :=
  ∀ k l e f k' t, serve k (l, e, f) k' → I k t → (finished ns).Post e t fun _ => I k'

/-- The invariant holds of the controller of a world. -/
abbrev Keeps (I : κ → Takeover → Prop) {α : Type} : Except Failure α → World G → κ → Prop :=
  fun _ w k => I k w.takeover

/-! ### The operations -/

/-- The gateway is released; the controller only advances its control epoch. -/
theorem under_release (hs : Apart serve) :
    (release gw).among.Under serve w k fun _ w' k' =>
      k ≤ k' ∧ (w'.takeover = w.takeover ∨ w'.takeover = w.takeover.advanced) := by
  refine under_attributes hs fun g₁ k₁ hk₁ => ?_
  rw [Prog.among_bind]
  refine Prog.under_bind (under_call hs fun r g₂ k₂ hk₂ => ?_)
  have hle₂ : k ≤ k₂ := hk₁.trans hk₂
  cases r with
  | error f => exact ⟨hle₂, .inl rfl⟩
  | ok u =>
    dsimp only
    rw [Prog.among_bind]
    refine Prog.under_bind (under_perform hs fun e₃ f₃ k₃ hk₃ g₃ => ?_)
    dsimp only [markEpoch_ok]
    rw [Prog.among_bind]
    refine Prog.under_bind (under_call hs fun r g₄ k₄ hk₄ => ?_)
    have hle₄ : k ≤ k₄ := (hle₂.trans (hs.le hk₃)).trans hk₄
    cases r with
    | error f => exact ⟨hle₄, .inr rfl⟩
    | ok u =>
      refine under_perform hs fun e₅ f₅ k₅ hk₅ => ?_
      have hle₅ : k ≤ k₅ := hle₄.trans (hs.le hk₅)
      exact Locked.post_call (fun _ => ⟨hle₅, .inr rfl⟩) fun _ _ => ⟨hle₅, .inr rfl⟩

theorem Faulting.released (hI : Faulting serve I) {k' : κ} {t t' : Takeover} (h : I k t) (hk : k ≤ k')
    (ht : t' = t ∨ t' = t.advanced) : I k' t' := by
  rcases ht with rfl | rfl
  · exact hI.mono hk h
  · exact hI.advanced (hI.mono hk h)

section Faults

variable (hs : Apart serve) (hI : Faulting serve I)
include hs hI

theorem under_fault {f : Failure} (h : I k w.takeover) :
    (fault gw f).among.Under serve w k (Keeps I) := by
  refine under_attributes hs fun g₁ k₁ hk₁ => ?_
  have h₁ : I k₁ w.takeover := hI.mono hk₁ h
  rw [Prog.among_ite]
  split_ifs with hstate
  · exact Prog.under_pure h₁
  rw [Prog.among_bind]
  refine Prog.under_bind (under_cleanup hs fun closeNotes g₂ k₂ hk₂ => ?_)
  dsimp only
  rw [Prog.among_bind]
  refine Prog.under_bind (under_perform hs fun e₃ f₃ k₃ hk₃ g₃ => ?_)
  have h₃ : I k₃ w.takeover.advanced := hI.advanced (hI.mono (hk₂.trans (hs.le hk₃)) h₁)
  dsimp only [markEpoch_ok]
  rw [Prog.among_bind]
  refine Prog.under_bind (under_cleanup hs fun clearNotes g₄ k₄ hk₄ => ?_)
  dsimp only
  rw [Prog.among_bind]
  refine Prog.under_bind (under_perform hs fun e₅ f₅ k₅ hk₅ g₅ => ?_)
  have h₅ : I k₅ w.takeover.advanced := hI.mono (hk₄.trans (hs.le hk₅)) h₃
  dsimp only [Locked.attempt, markEpoch_ok]
  rw [Prog.among_bind]
  refine Prog.under_bind (under_perform hs fun e₆ f₆ k₆ hk₆ => ?_)
  refine Locked.post_mono (hI.faulted hk₆ h₅ hstate) fun r t h₆ g₆ => ?_
  cases r with
  | error err => exact h₆
  | ok u => exact under_report hs fun r g k' hk' => hI.mono hk' h₆

/-- `except Exception as error: self._fault(error)` -/
theorem under_exceptFault {p : Program L G Unit} (h : p.among.Under serve w k (Keeps I)) :
    (exceptException p (fault gw)).among.Under serve w k (Keeps I) :=
  under_exceptException (h.mono fun r w' k' hr => by
    cases r with
    | ok u => exact hr
    | error f => exact ⟨fun _ => under_fault hs hI hr, fun _ => hr⟩)

end Faults

section Operations

variable (hs : Apart serve) (hI : Kept serve I)
include hs hI

theorem under_pollPolicy (h : I k w.takeover) :
    (pollPolicy gw).among.Under serve w k (Keeps I) := by
  refine under_attributes hs fun g₁ k₁ hk₁ => ?_
  have h₁ : I k₁ w.takeover := hI.mono hk₁ h
  by_cases hstate : w.takeover.state ≠ .resumePending
  · rw [if_pos hstate]
    exact Prog.under_pure h₁
  rw [if_neg hstate]
  cases w.takeover.episodeId with
  | none => exact Prog.under_raise h₁
  | some episodeId =>
    dsimp only
    rw [Prog.among_bind]
    refine Prog.under_bind ((under_exceptFault hs hI.faulting ?_).mono fun r w' k' hr => ?_)
    · rw [Prog.among_bind]
      refine Prog.under_bind (under_call hs fun r g₂ k₂ hk₂ => ?_)
      have h₂ : I k₂ w.takeover := hI.mono hk₂ h₁
      match r with
      | .error f => exact h₂
      | .ok false => exact Prog.under_pure h₂
      | .ok true =>
        dsimp only
        rw [if_pos rfl, Prog.among_bind]
        refine Prog.under_bind (under_perform hs fun e₃ f₃ k₃ hk₃ => ?_)
        refine Locked.post_mono (hI.activated hk₃ h₂ (not_not.1 hstate)) fun r t h₃ g₃ => ?_
        cases r with
        | error err => exact h₃
        | ok u => exact under_report hs fun r g k' hk' => hI.mono hk' h₃
    · cases r with
      | error f => exact hr
      | ok u => exact under_attributes hs fun g k₄ hk₄ => Prog.under_pure (hI.mono hk₄ hr)

/-- The policy is prepared and polled. -/
theorem under_prepare {episodeId : String} {e : ℕ} (h : I k w.takeover) :
    (exceptException (do
      call (gw.preparePolicy episodeId e)
      let _ ← pollPolicy gw) (fault gw)).among.Under serve w k (Keeps I) := by
  refine under_exceptFault hs hI.faulting ?_
  rw [Prog.among_bind]
  refine Prog.under_bind (under_call hs fun r g₁ k₁ hk₁ => ?_)
  have h₁ : I k₁ w.takeover := hI.mono hk₁ h
  cases r with
  | error f => exact h₁
  | ok u =>
    dsimp only
    rw [Prog.among_bind]
    refine Prog.under_bind ((under_pollPolicy (w := ⟨_, g₁⟩) hs hI h₁).mono fun r w' k' hr => ?_)
    cases r with
    | error f => exact hr
    | ok _ => exact Prog.under_pure hr

/-- The invariant holds once `begun` has returned; `E` is what holds if it raises. -/
theorem under_startEpisode {started : RecordingStarted} {E : κ → Takeover → Prop}
    (h : ∀ l e f k', serve k (l, e, f) k' → (begun started).Post e w.takeover fun r t => match r with
      | .ok _ => I k' t
      | .error _ => E k' t) :
    (startEpisode gw started).among.Under serve w k fun r w' k' =>
      I k' w'.takeover ∨ (∃ f, r = .error f) ∧ E k' w'.takeover := by
  rw [startEpisode, Prog.among_bind]
  refine Prog.under_bind (under_perform hs fun e₁ f₁ k₁ hk₁ => ?_)
  refine Locked.post_mono (h _ e₁ f₁ k₁ hk₁) fun r t h₁ g₁ => ?_
  cases r with
  | error err => exact .inr ⟨⟨_, rfl⟩, h₁⟩
  | ok u =>
    refine under_attributes hs fun g₂ k₂ hk₂ => ?_
    exact (under_prepare (w := ⟨_, g₂⟩) hs hI (hI.mono hk₂ h₁)).mono fun _ _ _ => .inl

theorem under_pollRuntime (h : I k w.takeover) :
    (pollRuntime gw).among.Under serve w k (Keeps I) := by
  refine under_attributes hs fun g₁ k₁ hk₁ => ?_
  have h₁ : I k₁ w.takeover := hI.mono hk₁ h
  cases w.takeover.safetyFailure with
  | some failure => exact Prog.under_raise h₁
  | none =>
    dsimp only
    rw [Prog.among_ite]
    split_ifs with hstate
    · exact Prog.under_pure h₁
    rw [Prog.among_bind]
    refine Prog.under_bind (under_call hs fun r g₂ k₂ hk₂ => ?_)
    have h₂ : I k₂ w.takeover := hI.mono hk₂ h₁
    match r with
    | .error f => exact h₂
    | .ok none => exact under_pollPolicy (w := ⟨_, g₂⟩) hs hI h₂
    | .ok (some f) =>
      dsimp only
      rw [Prog.among_bind]
      refine Prog.under_bind ((under_fault (w := ⟨_, g₂⟩) hs hI.faulting h₂).mono fun r w' k' hr => ?_)
      cases r with
      | error f => exact hr
      | ok u => exact under_attributes hs fun g k₃ hk₃ => Prog.under_pure (hI.mono hk₃ hr)

end Operations

/-- What the timeline does to the controller. -/
theorem post_timeline {α : Type} {e : Env} {t : Takeover} {body : Locked AuthorityTimeline α}
    {Q : Except Exc α → Takeover → Prop}
    (h : body.Post e t.timeline fun r timeline => Q r (t.timed timeline)) :
    (onTimeline body).Post e t Q := h

theorem takenOver_state {ns : ℤ} {e : Env} {t : Takeover} :
    (takenOver ns).Post e t fun _ t' => t'.state = .handoverPending := by
  unfold takenOver
  simp only [Locked.post_bind, Locked.post_modify, Locked.post_get]
  refine post_onTimeline fun r timeline => ?_
  cases r <;> rfl

section Triggers

variable {ns : ℤ} {E : κ → Takeover → Prop} (hs : Apart serve) (hI : Kept serve I)
include hs hI

/-- The invariant holds once `takenOver` has returned; `E` is what holds if it raises. -/
theorem under_takeover
    (h : ∀ l e f k', serve k (l, e, f) k' → (takenOver ns).Post e w.takeover fun r t => match r with
      | .ok _ => I k' t
      | .error _ => E k' t) :
    (takeover gw ns).among.Under serve w k fun r w' k' =>
      I k' w'.takeover ∨ (∃ f, r = .error f) ∧ E k' w'.takeover := by
  rw [takeover, Prog.among_bind]
  refine Prog.under_bind (under_perform hs fun e₁ f₁ k₁ hk₁ => ?_)
  have h₁ : (takenOver ns).Post e₁ w.takeover fun r t => (match r with
      | .ok _ => I k₁ t
      | .error _ => E k₁ t) ∧ t.state = .handoverPending := ⟨h _ e₁ f₁ k₁ hk₁, takenOver_state⟩
  refine Locked.post_mono h₁ fun r t h₁ g₁ => ?_
  cases r with
  | error err => exact .inr ⟨⟨_, rfl⟩, h₁.1⟩
  | ok u =>
    refine (under_exceptFault hs hI.faulting ?_).mono fun _ _ _ => .inl
    rw [Prog.among_bind]
    refine Prog.under_bind ((under_release hs).mono fun r w₂ k₂ hr => ?_)
    have h₂ : I k₂ w₂.takeover := hI.faulting.released h₁.1 hr.1 hr.2
    have hstate₂ : w₂.takeover.state = .handoverPending := by
      rcases hr.2 with ht | ht <;> rw [ht] <;> exact h₁.2
    cases r with
    | error f => exact h₂
    | ok u =>
      dsimp only
      rw [Prog.among_bind]
      refine Prog.under_bind (under_perform hs fun e₃ f₃ k₃ hk₃ => ?_)
      refine Locked.post_mono (hI.handedOver hk₃ h₂ hstate₂) fun r t h₃ g₃ => ?_
      cases r with
      | error err => exact h₃
      | ok u => exact under_report hs fun r g k' hk' => hI.mono hk' h₃

/-- The invariant holds once `resumed` has returned; `E` is what holds if it raises. -/
theorem under_resume (h : I k w.takeover)
    (hresumed : ∀ k₁, k ≤ k₁ → ∀ l e f k', serve k₁ (l, e, f) k' →
      (resumed ns).Post e w.takeover fun r t => match r with
        | .ok _ => I k' t
        | .error _ => E k' t) :
    (resume gw ns).among.Under serve w k fun r w' k' =>
      I k' w'.takeover ∨ (∃ f, r = .error f) ∧ E k' w'.takeover := by
  refine under_attributes hs fun g₁ k₁ hk₁ => ?_
  have h₁ : I k₁ w.takeover := hI.mono hk₁ h
  cases w.takeover.episodeId with
  | none => exact Prog.under_raise (.inl h₁)
  | some episodeId =>
    dsimp only
    rw [Prog.among_bind]
    refine Prog.under_bind (under_perform hs fun e₂ f₂ k₂ hk₂ => ?_)
    refine Locked.post_mono (hresumed k₁ hk₁ _ e₂ f₂ k₂ hk₂) fun r t h₂ g₂ => ?_
    cases r with
    | error err => exact .inr ⟨⟨_, rfl⟩, h₂⟩
    | ok u => exact (under_prepare (w := ⟨t, g₂⟩) hs hI h₂).mono fun _ _ _ => .inl

/-- A toggle is handled in the states in which one owner commands. -/
theorem under_toggled (h : I k w.takeover)
    (htaken : w.takeover.state = .modelControl → ∀ k₁, k ≤ k₁ → ∀ l e f k', serve k₁ (l, e, f) k' →
      (takenOver ns).Post e w.takeover fun r t => match r with
        | .ok _ => I k' t
        | .error _ => E k' t)
    (hresumed : w.takeover.state = .humanActive → ∀ k₁, k ≤ k₁ → ∀ l e f k',
      serve k₁ (l, e, f) k' → (resumed ns).Post e w.takeover fun r t => match r with
        | .ok _ => I k' t
        | .error _ => E k' t) :
    (toggleOwnership gw ns).among.Under serve w k fun r w' k' =>
      I k' w'.takeover ∨ (∃ f, r = .error f) ∧ E k' w'.takeover := by
  refine under_attributes hs fun g₁ k₁ hk₁ => ?_
  have h₁ : I k₁ w.takeover := hI.mono hk₁ h
  cases hstate : w.takeover.state with
  | modelControl => exact under_takeover (w := ⟨_, g₁⟩) hs hI (htaken hstate k₁ hk₁)
  | humanActive =>
    exact under_resume (w := ⟨_, g₁⟩) hs hI h₁ fun k₂ hk₂ => hresumed hstate k₂ (hk₁.trans hk₂)
  | idle | handoverPending | resumePending | faultHold =>
    exact under_report hs fun r g k' hk' => .inl (hI.mono hk' h₁)

omit hI in
theorem under_toggleOwnership (hI : Handles serve I ns) (h : I k w.takeover) :
    (toggleOwnership gw ns).among.Under serve w k (Keeps I) := by
  refine (under_toggled hs hI.toKept (E := I) h (fun hstate k₁ hk₁ l e f k' hk' => ?_)
    fun hstate k₁ hk₁ l e f k' hk' => ?_).mono fun r w' k' hr => hr.elim id fun hr => hr.2
  · refine Locked.post_mono (hI.takenOver hk' (hI.mono hk₁ h) hstate) fun r t ht => ?_
    cases r <;> exact ht
  · refine Locked.post_mono (hI.resumed hk' (hI.mono hk₁ h) hstate) fun r t ht => ?_
    cases r <;> exact ht

end Triggers

section Stop

variable {ns : ℤ} {J O : κ → Takeover → Prop} (hs : Apart serve)
include hs

/-- The end of `stop_episode`; `O` holds if it returns. -/
theorem under_finish (hfinish : ∀ k l e f k' t, serve k (l, e, f) k' → I k t →
      (finished ns).Post e t fun r t' => J k' t' ∧ ∀ a, r = .ok a → O k' t')
    {epoch : ℕ} (h : I k w.takeover) :
    (do
      let failure ← perform .own (finished ns)
      match failure with
      | some failure => .raise ⟨failure, epoch⟩
      | none => pure () : Program L G Unit).among.Under serve w k fun r w' k' =>
        J k' w'.takeover ∧ (r = .ok () → O k' w'.takeover) := by
  rw [Prog.among_bind]
  refine Prog.under_bind (under_perform hs fun e₁ f₁ k₁ hk₁ => ?_)
  refine Locked.post_mono (hfinish _ _ _ _ _ _ hk₁ h) fun r t h₁ g₁ => ?_
  match r with
  | .error err => exact ⟨h₁.1, by rintro ⟨⟩⟩
  | .ok none => exact Prog.under_pure ⟨h₁.1, fun _ => h₁.2 none rfl⟩
  | .ok (some failure) => exact Prog.under_raise ⟨h₁.1, by rintro ⟨⟩⟩

/-- What holds after `stop_episode`; `O` holds if it returns. -/
theorem under_stopped (hI : Faulting serve I) (hJ : ∀ {k t}, I k t → J k t)
    {stopping : RecordingStopping}
    (hfinish : ∀ k l e f k' t, serve k (l, e, f) k' → I k t →
      (finished stopping.monotonicTimeNs).Post e t fun r t' => J k' t' ∧ ∀ a, r = .ok a → O k' t')
    (hidle : w.takeover.state = .idle → ∀ k', k ≤ k' → O k' w.takeover) (h : I k w.takeover) :
    (stopEpisode gw stopping).among.Under serve w k fun r w' k' =>
      J k' w'.takeover ∧ (r = .ok () → O k' w'.takeover) := by
  refine under_attributes hs fun g₁ k₁ hk₁ => ?_
  have h₁ : I k₁ w.takeover := hI.mono hk₁ h
  by_cases hstate : w.takeover.state = .idle
  · rw [if_pos hstate]
    exact Prog.under_pure ⟨hJ h₁, fun _ => hidle hstate k₁ hk₁⟩
  rw [if_neg hstate]
  by_cases hheld : w.takeover.state ≠ .faultHold
  · rw [if_pos hheld, Prog.among_bind]
    have hrelease : (release gw).among.Under serve ⟨w.takeover, g₁⟩ k₁ (Keeps I) :=
      (under_release hs).mono fun _ _ _ hr => hI.released h₁ hr.1 hr.2
    refine Prog.under_bind ((under_exceptFault hs hI hrelease).mono fun r w₂ k₂ h₂ => ?_)
    cases r with
    | error f => exact ⟨hJ h₂, by rintro ⟨⟩⟩
    | ok u => exact under_finish hs hfinish h₂
  · rw [if_neg hheld]
    exact under_finish (w := ⟨_, g₁⟩) hs hfinish h₁

theorem under_stopEpisode (hI : Kept serve I) {stopping : RecordingStopping}
    (hfinish : Finishes serve I stopping.monotonicTimeNs) (h : I k w.takeover) :
    (stopEpisode gw stopping).among.Under serve w k (Keeps I) :=
  (under_stopped (J := I) (O := fun _ _ => True) hs hI.faulting id
    (fun k l e f k' t hk ht => Locked.post_mono (hfinish k l e f k' t hk ht) fun _ _ h' =>
      ⟨h', fun _ _ => trivial⟩) (fun _ _ _ => trivial) h).mono fun _ _ _ hr => hr.1

end Stop

end Takeover

end DualCollection
