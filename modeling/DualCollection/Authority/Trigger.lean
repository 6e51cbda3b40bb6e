import DualCollection.Authority.Takeover
import DualCollection.Thread.Among

/-!
# The trigger of a takeover Session

`TakeoverRecordTrigger` of `dagger/takeover.py` turns the pedals into signals for the runtime: it
polls the controller, ends the Episode when the controller holds a fault, and hands the ownership
toggle to the controller.  `NoActionGateway` is the gateway of a Session without action output.

The second half is what one call of the controller is for its caller: a run of its program among
the other threads, which work on the gateway and leave the controller's own attributes alone.
-/

namespace DualCollection

open Thread

/-- What the operator of a takeover Session does. -/
inductive DaggerTriggerEvent
  | recordToggle
  | ownershipToggle
  | abort
  deriving DecidableEq, Repr

/-- An event of the pedals. -/
structure DaggerTriggerSignal where
  /-- What the operator did. -/
  event : DaggerTriggerEvent
  /-- When. -/
  monotonicTimeNs : ℤ
  /-- `monotonic_time_ns must not be negative` -/
  monotonicTimeNs_nonneg : 0 ≤ monotonicTimeNs

theorem TriggerSignal.event_of_make {event : TriggerEvent} {ns : ℤ} {detail : Option String}
    {signal : TriggerSignal} (h : TriggerSignal.make event ns detail = .ok signal) :
    signal.event = event := by
  unfold TriggerSignal.make at h
  split_ifs at h
  cases h
  rfl

theorem TriggerSignal.time_of_make {event : TriggerEvent} {ns : ℤ} {detail : Option String}
    {signal : TriggerSignal} (h : TriggerSignal.make event ns detail = .ok signal) :
    signal.monotonicTimeNs = ns := by
  unfold TriggerSignal.make at h
  split_ifs at h
  cases h
  rfl

/-- `NoActionGateway` -/
def noActionGateway : CommandGateway Empty Unit where
  actionOutputEnabled := false
  closeGate := fun _ => pure ()
  clearPending := fun _ => pure ()
  preparePolicy := fun _ _ => pure ()
  policyReady := fun _ _ => pure true
  takeFault := pure none

namespace Takeover

variable {L G α : Type} (gw : CommandGateway L G) (text : AuthorityReason → String)

/-- Construct a signal. -/
def signalled (event : TriggerEvent) (monotonicTimeNs : ℤ) (detail : Option String) :
    Locked Takeover (Option TriggerSignal) :=
  match TriggerSignal.make event monotonicTimeNs detail with
  | .ok signal => pure (some signal)
  | .error err => .raise (.authority (.signal err))

/-- `episode_fault_signal`; `text` gives the texts of the failures. -/
def episodeFaultSignal : Locked Takeover (Option TriggerSignal) := do
  let t ← .get
  if t.state ≠ .faultHold then pure none
  else match t.faultDetail, t.faultTimeNs with
    | some detail, some timeNs => signalled .fail timeNs (some (text detail))
    | _, _ => .raise (.authority .recordMissing)

/-- `TakeoverRecordTrigger.wait`, once the pedals have returned `signal`. -/
def wait (signal : Option DaggerTriggerSignal) : Program L G (Option TriggerSignal) := do
  let _ ← pollRuntime gw
  let fault ← perform .own (episodeFaultSignal text)
  if fault.isSome then pure fault
  else match signal with
    | none => pure none
    | some signal => match signal.event with
      | .recordToggle => perform .own (signalled .activate signal.monotonicTimeNs none)
      | .abort => perform .own (signalled .abort signal.monotonicTimeNs none)
      | .ownershipToggle => do
        let t ← attributes
        if t.state = .idle then do
          report
          pure none
        else do
          toggleOwnership gw signal.monotonicTimeNs
          perform .own (episodeFaultSignal text)

/-! ### Calls of the controller -/

/-- What the environment says to a section: its answers, and what the other threads did to the
world. -/
abbrev Witnessed (L G : Type) := WorldSection L × Env × (World G → World G)

/-- The other threads leave the controller alone, and what is kept of the answers grows. -/
structure Apart {κ : Type} [Preorder κ] (serve : κ → Witnessed L G → κ → Prop) : Prop where
  /-- Only the gateway is shared. -/
  takeover : ∀ {k x k'}, serve k x k' → ∀ w, (x.2.2 w).takeover = w.takeover
  /-- What is kept of the answers grows. -/
  le : ∀ {k x k'}, serve k x k' → k ≤ k'

section Rules

variable {κ : Type} [Preorder κ] {serve : κ → Witnessed L G → κ → Prop} {w : World G} {k : κ}

/-- A call of the gateway leaves the controller alone. -/
theorem under_call (hs : Apart serve) {p : Prog L Env G Failure α}
    {Q : Except Failure α → World G → κ → Prop}
    (h : ∀ r g k', k ≤ k' → Q r ⟨w.takeover, g⟩ k') : (call p).among.Under serve w k Q := by
  have hrun : (call p).among.Under serve w k fun _ w' k' => k ≤ k' ∧ w'.takeover = w.takeover := by
    refine Prog.under_among_embed ?_ ?_
    · exact fun _ _ => rfl
    · exact fun hx => ⟨hs.le hx, hs.takeover hx⟩
  refine hrun.mono fun r w' k' hr => ?_
  obtain ⟨t, g⟩ := w'
  obtain ⟨hle, rfl⟩ := hr
  exact h r g k' hle

/-- A section of the controller. -/
theorem under_perform (hs : Apart serve) {l : WorldSection L} {body : Locked Takeover α}
    {Q : Except Failure α → World G → κ → Prop}
    (h : ∀ e f k', serve k (l, e, f) k' → body.Post e w.takeover fun r t =>
      ∀ g, Q (markEpoch w.takeover.controlEpoch r) ⟨t, g⟩ k') :
    (perform l body).among.Under serve w k Q := by
  refine Prog.under_among_atomic fun e f k' hk => ?_
  have ht : (f w).takeover = w.takeover := hs.takeover hk w
  have hpost := h e f k' hk
  rw [← ht] at hpost
  exact hpost _

theorem under_attributes (hs : Apart serve) {p : Takeover → Program L G α}
    {Q : Except Failure α → World G → κ → Prop}
    (h : ∀ g k', k ≤ k' → (p w.takeover).among.Under serve ⟨w.takeover, g⟩ k' Q) :
    (attributes >>= p).among.Under serve w k Q := by
  rw [Prog.among_bind]
  exact Prog.under_bind (under_perform hs fun e f k' hk g => h g k' (hs.le hk))

theorem under_report (hs : Apart serve) {Q : Except Failure Unit → World G → κ → Prop}
    (h : ∀ r g k', k ≤ k' → Q r ⟨w.takeover, g⟩ k') : report.among.Under serve w k Q :=
  under_perform hs fun _ _ k' hk => Locked.post_call (fun g => h _ g k' (hs.le hk))
    fun _ g => h _ g k' (hs.le hk)

omit [Preorder κ] in
/-- The handler of `except Exception`. -/
theorem under_exceptException {p : Program L G α} {handler : Failure → Program L G α}
    {Q : Except Failure α → World G → κ → Prop}
    (h : p.among.Under serve w k fun r w' k' => match r with
      | .ok a => Q (.ok a) w' k'
      | .error f => (f.error.isException = true → (handler f).among.Under serve w' k' Q) ∧
          (f.error.isException = false → Q (.error f) w' k')) :
    (exceptException p handler).among.Under serve w k Q := by
  rw [exceptException, Prog.among_tryCatch]
  refine Prog.under_tryCatch (h.mono fun r w' k' hr => ?_)
  cases r with
  | ok a => exact hr
  | error f =>
    dsimp only
    split_ifs with hf
    · exact hr.1 hf
    · exact Prog.under_raise (hr.2 (by simpa using hf))

theorem under_cleanup (hs : Apart serve) {p : Prog L Env G Failure Unit} {note : Exc → FailureNote}
    {Q : Except Failure (List FailureNote) → World G → κ → Prop}
    (h : ∀ notes g k', k ≤ k' → Q (.ok notes) ⟨w.takeover, g⟩ k') :
    (cleanup (call p) note).among.Under serve w k Q := by
  rw [cleanup, Prog.among_andThen]
  refine Prog.under_andThen (under_call hs fun r g k' hk => ?_)
  cases r with
  | ok _ => exact Prog.under_pure (h _ g k' hk)
  | error _ => exact Prog.under_pure (h _ g k' hk)

end Rules

end Takeover

end DualCollection
