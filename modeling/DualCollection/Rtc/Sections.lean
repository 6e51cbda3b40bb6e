import DualCollection.Rtc.Observed

/-!
# What the sections of a scheduler do

`Changes p l s r s'` says everything that the section `l` can do to the state `s`: the exception
`r` in which it ends and the state `s'` that it leaves.  Every lemma `..._changes` below is about
one section of the programs of `Rtc.Scheduler`, and no later proof unfolds a section again.
-/

namespace DualCollection

open Thread

namespace Rtc

/-- A section that does nothing but raise. -/
def Refused (s : Rtc) (r : Option Failure) (s' : Rtc) : Prop := r.isSome = true ∧ s' = s

/-- Nothing can be published and nothing is asked for. -/
structure Cleared (s : Rtc) : Prop where
  /-- `_gate_open` -/
  gateOpen : s.gateOpen = false
  /-- `_pending` -/
  pending : s.pending = none
  /-- `_queue` -/
  queue : s.queue = []

/-- What the section of `prepare_policy` does. -/
inductive PrepareStep (s : Rtc) : Option Failure → Rtc → Prop
  | refused {r : Option Failure} {s' : Rtc} : Refused s r s' → PrepareStep s r s'
  | identified {f : Failure} (episodeId : String) : Cleared s →
      PrepareStep s (some f) (s.identified episodeId)
  | submitted {r : Option Failure} {pending : PendingRtcInference} (episodeId : String) :
      Cleared s → pending.issuedAtSubmit = s.issuedTotal → pending.actionPrefix = [] →
      pending.bootstrap = true →
      PrepareStep s r ((s.identified episodeId).submitted pending)

/-- The candidate was made for the state of the scheduler. -/
structure Matches (c : Candidate) (s : Rtc) : Prop where
  /-- `epoch` -/
  epoch : s.controlEpoch = c.snapshot.epoch
  /-- `episode_id` -/
  episodeId : s.episodeId = c.snapshot.episodeId
  /-- `pending` -/
  pending : s.pending = some c.snapshot.pending
  /-- `issued_total` -/
  issuedTotal : s.issuedTotal = c.snapshot.issuedTotal
  /-- `last_published` -/
  lastPublished : s.lastPublishedCommand = c.snapshot.lastPublished

/-- What the last section of `_accept_pending` does. -/
inductive SpliceStep (c : Candidate) (s : Rtc) : Option Failure → Rtc → Prop
  | refused {r : Option Failure} {s' : Rtc} : Refused s r s' → SpliceStep c s r s'
  | bootstrap {r : Option Failure} (nowS : ℚ) : Matches c s →
      c.snapshot.pending.bootstrap = true → SpliceStep c s r ((s.opened nowS).spliced c)
  | overlap {r : Option Failure} {delay : RollingMaxDelayEstimator} : Matches c s →
      c.snapshot.pending.bootstrap = false →
      delay.maximumExclusive = s.delay.maximumExclusive →
      SpliceStep c s r ((s.delayed delay).spliced c)

theorem PrepareStep.epoch {s s' : Rtc} {r : Option Failure} (h : PrepareStep s r s') :
    s'.controlEpoch = s.controlEpoch := by
  cases h with
  | refused hr => rw [hr.2]
  | identified | submitted => rfl

theorem SpliceStep.epoch {c : Candidate} {s s' : Rtc} {r : Option Failure}
    (h : SpliceStep c s r s') : s'.controlEpoch = s.controlEpoch := by
  cases h with
  | refused hr => rw [hr.2]
  | bootstrap | overlap => rfl

/-- What the publishing section of either scheduler does. -/
inductive PublishStep (p : RtcParameters) (s : Rtc) : Option Failure → Rtc → Prop
  | idle {r : Option Failure} (nextS : Option ℚ) : PublishStep p s r (s.scheduled nextS)
  /-- The sink raised. -/
  | dropped {f : Failure} {queued : QueuedRtcAction} {rest : List QueuedRtcAction}
      (dueS : Option ℚ) : s.gateOpen = true → s.queue = queued :: rest →
      PublishStep p s (some f) ((s.scheduled dueS).dequeued rest)
  | issued {r : Option Failure} {queued : QueuedRtcAction} {rest : List QueuedRtcAction}
      (dueS : Option ℚ) (nextS : ℚ) : s.gateOpen = true → s.queue = queued :: rest →
      (r = none → s.issuedSinceSplice + 1 ≠ p.rollout.prefetchAfterSteps ∨ s.pending ≠ none) →
      PublishStep p s r (((s.scheduled dueS).dequeued rest).issued queued nextS)
  | requested {r : Option Failure} {queued : QueuedRtcAction} {rest : List QueuedRtcAction}
      {pending : PendingRtcInference} (dueS : Option ℚ) (nextS : ℚ) (estimate : ℕ) :
      s.gateOpen = true → s.queue = queued :: rest →
      s.issuedSinceSplice + 1 = p.rollout.prefetchAfterSteps →
      pending.issuedAtSubmit = s.issuedTotal + 1 → pending.bootstrap = false →
      estimate ≤ rest.length →
      pending.actionPrefix = (rest.take estimate).map (·.modelAction) →
      pending.estimatedDelaySteps = some estimate →
      PublishStep p s r
        ((((s.scheduled dueS).dequeued rest).issued queued nextS).submitted pending)
  /-- The second stage of an EXPO request. -/
  | finishing {r : Option Failure} {queued : QueuedRtcAction} {rest : List QueuedRtcAction}
      {pending : PendingRtcInference} (dueS : Option ℚ) (nextS : ℚ) : s.gateOpen = true →
      s.queue = queued :: rest → s.pending = some pending →
      s.issuedSinceSplice + 1 ≠ p.rollout.prefetchAfterSteps →
      PublishStep p s r
        ((((s.scheduled dueS).dequeued rest).issued queued nextS).finishingStage pending)

/-- What every section does. -/
def Changes (p : RtcParameters) : RtcSection → Rtc → Option Failure → Rtc → Prop
  | .closeGate, s, r, s' => Refused s r s' ∨ r = none ∧ s' = s.closed
  | .clearPending e, s, r, s' => Refused s r s' ∨ r = none ∧ s.controlEpoch ≤ e ∧ s' = s.resetTo e
  | .prepare, s, r, s' => PrepareStep s r s'
  | .takeFault, s, r, s' => r = none ∧ s' = s.faultTaken
  | .gateCheck, s, r, s' => r = none ∧ (s' = s ∨ s.gateOpen = false ∧ s' = s.scheduled none)
  | .reject f, s, r, s' => r = some f ∧ s' = s.stopped f
  | .splice c, s, r, s' => SpliceStep c s r s'
  | .clearFinishing, s, _, s' | .finished, s, _, s' => s' = { s with finishing := none }
  | .publish, s, r, s' => PublishStep p s r s'
  | .fail f, s, _, s' =>
    (s.gateOpen = false ∧ s.pending = none ∧ s' = s) ∨
      ((s.gateOpen = true ∨ s.pending ≠ none) ∧ s' = s.stopped f)
  | .complete, s, r, s' => r = none ∧ ∃ future result, s' = s.completed future result
  | .checkResponse w snap, s, r, s' => r = raised (markEpoch snap.epoch (checkResponse p w snap)) ∧
    s' = s
  | _, s, _, s' => s' = s

variable {p : RtcParameters} {e : Env} {s : Rtc} (epoch : ℕ)

/-- The exceptions that the schedulers never raise. -/
inductive Impossible (strict : Prop) : Exc → Prop
  | prefixUnavailable : Impossible strict (.scheduler .prefixUnavailable)
  | delayOutsideRange (d : ℤ) : Impossible strict (.scheduler (.delayOutsideRange d))
  | observeOutsideRange : Impossible strict (.scheduler .observeOutsideRange)
  | bootstrapIssued : Impossible strict (.scheduler .bootstrapIssued)
  | alreadyActive : strict → Impossible strict (.scheduler .alreadyActive)

/-! ### The command gateway -/

variable (p) in
theorem closeGate_changes {controlEpoch : ℕ} :
    (closeGateLocked controlEpoch).Post e s fun r s' =>
      Changes p .closeGate s (raised (markEpoch epoch r)) s' ∧
        (∀ strict err, r = .error err → ¬ Impossible strict err) ∧
          (s.controlEpoch = controlEpoch → r = .ok () ∧ s' = s.closed) := by
  simp only [closeGateLocked, Locked.post_bind, Locked.post_get, Locked.post_ite]
  refine ⟨fun h => ⟨.inl ⟨rfl, rfl⟩, ?_, fun h' => absurd h'.symm h⟩,
    fun h => ⟨.inr ⟨rfl, rfl⟩, (by simp), fun _ => ⟨rfl, rfl⟩⟩⟩
  rintro strict _ ⟨⟩ hi
  cases hi

variable (p) in
theorem clearPending_changes {controlEpoch : ℕ} :
    (clearPendingLocked controlEpoch).Post e s fun r s' =>
      Changes p (.clearPending controlEpoch) s (raised (markEpoch epoch r)) s' ∧
        (∀ strict err, r = .error err → ¬ Impossible strict err) ∧
          (s.controlEpoch ≤ controlEpoch → r = .ok () ∧ s' = s.resetTo controlEpoch) := by
  simp only [clearPendingLocked, Locked.post_bind, Locked.post_get, Locked.post_ite]
  refine ⟨fun h => ⟨.inl ⟨rfl, rfl⟩, ?_, fun h' => absurd h (not_lt.2 h')⟩,
    fun h => ⟨.inr ⟨rfl, not_lt.1 h, rfl⟩, (by simp), fun _ => ⟨rfl, rfl⟩⟩⟩
  rintro strict _ ⟨⟩ hi
  cases hi

/-- The exceptions of `_submit_locked` once a request was submitted. -/
def Reported (r : Except Exc Unit) : Prop :=
  r = .ok () ∨ ∃ event err, r = .error (.port (.diagnosticSink event) err)

theorem submitLocked_post {bootstrap : Bool} {context : Option RtcPolicyContext}
    {Q : Except Exc Unit → Rtc → Prop}
    (hepisode : s.episodeId = none → Q (.error (.scheduler .noEpisode)) s)
    (hport : ∀ err, Q (.error (.port .policySubmit err)) s)
    (hsubmit : ∀ r, Reported r → ∀ pending : PendingRtcInference,
      pending.issuedAtSubmit = s.issuedTotal → pending.bootstrap = bootstrap →
      pending.estimatedDelaySteps = context.map (·.estimatedDelaySteps) →
      pending.actionPrefix = (context.map (·.actionPrefix)).getD [] → Q r (s.submitted pending)) :
    (submitLocked bootstrap context).Post e s Q := by
  simp only [submitLocked, Locked.post_bind, Locked.post_get, Locked.post_ite, Locked.post_raise,
    Locked.post_ask, Locked.post_modify]
  refine ⟨hepisode, fun _ => Locked.post_call ?_ hport⟩
  refine Locked.post_emit ?_ fun err => ?_
  · exact hsubmit _ (.inl rfl) _ rfl rfl rfl rfl
  · exact hsubmit _ (.inr ⟨_, err, rfl⟩) _ rfl rfl rfl rfl

theorem Reported.not_impossible {r : Except Exc Unit} (hr : Reported r) {strict : Prop} :
    ∀ err, r = .error err → ¬ Impossible strict err := by
  rintro err rfl hi
  obtain h | ⟨event, x, h⟩ := hr
  · cases h
  · cases h; cases hi

variable (p) in
theorem preparePolicy_changes {episodeId : String} {controlEpoch : ℕ} :
    (preparePolicyLocked episodeId controlEpoch).Post e s fun r s' =>
      Changes p .prepare s (raised (markEpoch epoch r)) s' ∧
        ∀ strict : Prop, (strict → Cleared s) → ∀ err, r = .error err →
          ¬ Impossible strict err := by
  simp only [preparePolicyLocked, Locked.post_bind, Locked.post_get, Locked.post_ite,
    Locked.post_raise, Locked.post_modify]
  refine ⟨fun _ => ⟨.refused ⟨rfl, rfl⟩, ?_⟩, fun _ => ⟨fun h => ?_, fun h => ?_⟩⟩
  · rintro strict - _ ⟨⟩ hi
    cases hi
  · refine ⟨.refused ⟨rfl, rfl⟩, ?_⟩
    rintro strict hs _ ⟨⟩ ⟨⟩
    rename_i hstrict
    have hs := hs hstrict
    simp [hs.pending, hs.queue, hs.gateOpen] at h
  · have hs : Cleared s := by
      simp only [ne_eq, not_or, not_not, Bool.not_eq_true] at h
      exact ⟨h.2.2, h.1, h.2.1⟩
    refine submitLocked_post (fun h => by cases h) (fun err => ?_)
      fun r hr pending hi hb _ ha => ⟨.submitted episodeId hs hi ha hb, ?_⟩
    · refine ⟨.identified episodeId hs, ?_⟩
      rintro strict - _ ⟨⟩ hi
      cases hi
    · exact fun strict _ => hr.not_impossible

variable (p) in
theorem takeFault_changes :
    takeFaultLocked.Post e s fun r s' =>
      Changes p .takeFault s (raised (markEpoch epoch r)) s' ∧ r = .ok s.fault ∧
        s' = s.faultTaken :=
  ⟨⟨rfl, rfl⟩, rfl, rfl⟩

/-- `policy_ready` only reads while it polls. -/
theorem poll_changes {episodeId : String} {controlEpoch : ℕ} :
    (poll p episodeId controlEpoch).Post e s fun r s' => s' = s ∧
      ∀ strict err, r = .error err → ¬ Impossible strict err := by
  unfold poll
  simp only [Locked.post_bind, Locked.post_get, Locked.post_ite, Locked.post_raise]
  refine ⟨fun _ => ⟨by trivial, ?_⟩, fun _ => ?_⟩
  · rintro strict _ ⟨⟩ hi
    cases hi
  cases hp : s.pending with
  | none =>
    refine ⟨rfl, ?_⟩
    rintro strict _ ⟨⟩ hi
    cases hi
  | some pending =>
    simp only [Locked.post_bind, Locked.post_ite, Locked.post_raise, Locked.post_ask,
      Locked.post_pure]
    refine ⟨fun _ => ⟨fun _ => ?_, fun _ => ⟨by trivial, by simp⟩⟩,
      fun h => ⟨by trivial, by simp⟩⟩
    refine Locked.post_emit ⟨rfl, ?_⟩ fun err => ⟨rfl, ?_⟩
    all_goals
      rintro strict _ ⟨⟩ hi
      cases hi

/-! ### Accepting a response -/

/-- A snapshot shows the state it was taken of. -/
structure Snapshot.Shows (snap : Snapshot) (s : Rtc) : Prop where
  /-- `epoch` -/
  epoch : snap.epoch = s.controlEpoch
  /-- `episode_id` -/
  episodeId : snap.episodeId = s.episodeId
  /-- `pending` -/
  pending : s.pending = some snap.pending
  /-- `issued_total` -/
  issuedTotal : snap.issuedTotal = s.issuedTotal
  /-- `last_published` -/
  lastPublished : snap.lastPublished = s.lastPublishedCommand
  /-- `pending.future.result()` -/
  result : s.futures snap.pending.future = some snap.result

/-- A response is there, for the phase that is asked for. -/
def Ready (bootstrap : Bool) (s : Rtc) : Prop :=
  ∃ pending, s.pending = some pending ∧ (s.futures pending.future).isSome = true ∧
    pending.bootstrap = bootstrap

theorem acceptRead_changes {bootstrap : Bool} :
    (acceptRead bootstrap).Post e s fun r s' => s' = s ∧ match r with
      | .ok snap => Snapshot.Shows snap s ∧ snap.pending.bootstrap = bootstrap
      | .error err => ¬ Ready bootstrap s ∧
        (err = .scheduler .responseNotReady ∨ err = .scheduler .phaseMismatch) := by
  unfold acceptRead
  simp only [Locked.post_bind, Locked.post_get]
  cases hp : s.pending with
  | none =>
    refine ⟨rfl, ?_, .inl rfl⟩
    rintro ⟨pending, h, -⟩
    rw [hp] at h
    cases h
  | some pending =>
    dsimp only
    cases hf : s.futures pending.future with
    | none =>
      refine ⟨rfl, ?_, .inl rfl⟩
      rintro ⟨pending', h, h', -⟩
      obtain rfl : pending = pending' := by simpa [hp] using h
      rw [hf] at h'
      cases h'
    | some result =>
      simp only [Locked.post_bind, Locked.post_ite, Locked.post_raise, Locked.post_pure]
      refine ⟨fun h => ⟨by trivial, ?_, .inr (by trivial)⟩,
        fun h => ⟨by trivial, ?_, not_not.1 h⟩⟩
      · rintro ⟨pending', h', -, hb⟩
        obtain rfl : pending = pending' := by simpa [hp] using h'
        exact h hb
      · exact ⟨rfl, rfl, hp, rfl, rfl, hf⟩

/-- The exceptions that a response can cause by itself. -/
inductive BadResponse : Exc → Prop
  | result (err : PyError) : BadResponse (.port .policyResult err)
  | notATicket : BadResponse (.scheduler .notATicket)
  | contract (err : ActionError) : BadResponse (.action err)
  | hardPrefixChanged (d : ℚ) : BadResponse (.scheduler (.hardPrefixChanged d))
  | maxOfNothing : BadResponse (.scheduler .maxOfNothing)
  | safeWindowUnavailable : BadResponse (.scheduler .safeWindowUnavailable)

/-- The facts that a snapshot has to offer for the delay to be in range. -/
structure Snapshot.Ranged (p : RtcParameters) (snap : Snapshot) : Prop where
  /-- No command was issued before the first response. -/
  bootstrap : snap.pending.bootstrap = true → snap.issuedTotal = snap.pending.issuedAtSubmit
  /-- The delay is in the trained range. -/
  overlap : snap.pending.bootstrap = false → snap.pending.issuedAtSubmit ≤ snap.issuedTotal ∧
    snap.issuedTotal < snap.pending.issuedAtSubmit + p.checkpoint.maxDelaySteps

theorem checkPrefix_error {tolerance : ℚ} {ticket : InferenceTicket} {sent : List ActionRow}
    {err : SchedulerError} (h : checkPrefix tolerance ticket sent = .error err) :
    err = .maxOfNothing ∨ ∃ d, err = .hardPrefixChanged d := by
  unfold checkPrefix at h
  split_ifs at h
  split at h
  · cases h; exact .inl rfl
  · split_ifs at h
    cases h
    exact .inr ⟨_, rfl⟩

/-- A response that fails its checks is a bad one, or came after a delay that is out of range. -/
theorem checkResponse_error {w : ℕ} {snap : Snapshot} {err : Exc} (hs : Snapshot.Ranged p snap)
    (h : checkResponse p w snap = .error err) : BadResponse err := by
  unfold checkResponse at h
  split at h
  · cases h; exact .result _
  · cases h; exact .notATicket
  · split at h
    · cases h; exact .contract _
    · split at h
      · rename_i hc
        cases h
        rcases checkPrefix_error hc with rfl | ⟨d, rfl⟩
        · exact .maxOfNothing
        · exact .hardPrefixChanged d
      · dsimp only at h
        split_ifs at h with h₁ h₂ h₃
        · have := hs.bootstrap h₁.1
          omega
        · have := hs.overlap (by simpa using h₂.1)
          omega
        all_goals cases h; exact .safeWindowUnavailable

/-- Whether the window of a response is complete is the last of the checks. -/
theorem checkResponse_window {w : ℕ} {snap : Snapshot} {ticket : InferenceTicket}
    (hs : Snapshot.Ranged p snap) (hr : snap.result = .ok (.ticket ticket)) :
    let start := snap.issuedTotal - snap.pending.issuedAtSubmit
    (checkResponse p w snap = .error (.scheduler .safeWindowUnavailable) →
      ((ticket.actionChunk.drop start).take w).length ≠ w) ∧
    (((ticket.actionChunk.drop start).take w).length ≠ w →
      p.contract.validateTicketIdentity ticket snap.epoch = .ok () →
      checkPrefix p.checkpoint.hardPrefixTolerance ticket snap.pending.actionPrefix = .ok () →
        checkResponse p w snap = .error (.scheduler .safeWindowUnavailable)) := by
  intro start
  have hstart : (if snap.pending.bootstrap = true then 0
      else ((snap.issuedTotal : ℤ) - snap.pending.issuedAtSubmit).toNat) = start := by
    split
    · rename_i hb
      have := hs.bootstrap hb
      omega
    · omega
  have hdelay : ¬ (snap.pending.bootstrap = true ∧
      (snap.issuedTotal : ℤ) - snap.pending.issuedAtSubmit ≠ 0) := by
    rintro ⟨hb, hne⟩
    have := hs.bootstrap hb
    omega
  have hrange : ¬ (¬ snap.pending.bootstrap = true ∧
      ¬ (0 ≤ (snap.issuedTotal : ℤ) - snap.pending.issuedAtSubmit ∧
        (snap.issuedTotal : ℤ) - snap.pending.issuedAtSubmit < p.checkpoint.maxDelaySteps)) := by
    rintro ⟨hb, hne⟩
    have := hs.overlap (by simpa using hb)
    omega
  unfold checkResponse
  rw [hr]
  dsimp only
  rw [if_neg hdelay, if_neg hrange, hstart]
  refine ⟨fun h => ?_, fun hne hid hp => ?_⟩
  · split at h
    · cases h
    · split at h
      · rename_i hc
        cases h
        rcases checkPrefix_error hc with h | ⟨d, h⟩ <;> cases h
      · split_ifs at h with hlen
        exact hlen
  · rw [hid, hp]
    exact if_pos hne

/-- What a response that passed the checks satisfies. -/
structure CheckedResponse.Sound (p : RtcParameters) (w : ℕ) (snap : Snapshot)
    (response : CheckedResponse) : Prop where
  /-- It is the result of the future. -/
  result : snap.result = .ok (.ticket response.ticket)
  /-- The actions are the rows of the chunk from `start` on. -/
  actions : response.actions = (response.ticket.actionChunk.drop response.start).take w
  /-- There are enough of them. -/
  length : response.actions.length = w
  /-- The first row is the one for the next command. -/
  start : snap.issuedTotal = snap.pending.issuedAtSubmit + response.start
  /-- The first response of a lease comes before the first command. -/
  bootstrap : snap.pending.bootstrap = true → response.start = 0
  /-- The delay is in the trained range. -/
  overlap : snap.pending.bootstrap = false →
    response.actualDelay = response.start ∧ response.start < p.checkpoint.maxDelaySteps

theorem checkResponse_ok {w : ℕ} {snap : Snapshot} {response : CheckedResponse}
    (h : checkResponse p w snap = .ok response) : CheckedResponse.Sound p w snap response := by
  unfold checkResponse at h
  split at h
  · cases h
  · cases h
  · rename_i hr
    split at h
    · cases h
    · split at h
      · cases h
      · dsimp only at h
        split_ifs at h with h₁ h₂ hb h₃ h₃
        · cases h
          refine ⟨hr, rfl, not_not.1 h₃, ?_, fun _ => rfl, fun h => by rw [h] at hb; cases hb⟩
          have : (snap.issuedTotal : ℤ) - snap.pending.issuedAtSubmit = 0 := by
            by_contra hne
            exact h₁ ⟨hb, hne⟩
          dsimp only
          omega
        · cases h
          have : 0 ≤ (snap.issuedTotal : ℤ) - snap.pending.issuedAtSubmit ∧
              (snap.issuedTotal : ℤ) - snap.pending.issuedAtSubmit <
                p.checkpoint.maxDelaySteps := by
            by_contra hne
            exact h₂ ⟨hb, hne⟩
          refine ⟨hr, rfl, not_not.1 h₃, ?_, fun h => absurd h hb, fun _ => ?_⟩
          · dsimp only; omega
          · dsimp only; omega

/-- A candidate that passed all checks. -/
structure Candidate.Checked (p : RtcParameters) (w : ℕ) (c : Candidate) : Prop where
  /-- The response passed the first checks. -/
  response : CheckedResponse.Sound p w c.snapshot c.response
  /-- The window consists of the validated actions. -/
  rows : List.Forall₂ (Validated p.contract) c.response.actions c.replacement
  /-- The window continues the last published command. -/
  window : p.contract.Window c.measured c.snapshot.lastPublished (c.replacement.map (·.command))

theorem forall₂_validated {contract : Pi05JointActionContract} :
    ∀ {actions : List ActionRow} {commands : List DualArmJointCommand},
      List.Forall₂ (fun row command =>
        (RobotAction.ofRow row).map contract.commandOf = some command)
        (actions.map (·.map PyFloat.finite)) commands →
      List.Forall₂ (Validated contract) actions (List.zipWith QueuedRtcAction.mk actions commands) ∧
        (List.zipWith QueuedRtcAction.mk actions commands).map (·.command) = commands := by
  intro actions
  induction actions with
  | nil => intro commands h; cases h; exact ⟨.nil, rfl⟩
  | cons row actions ih =>
    intro commands h
    cases h with
    | cons hrow hrest =>
      obtain ⟨hv, hc⟩ := ih hrest
      exact ⟨.cons ⟨rfl, hrow⟩ hv, by simp [hc]⟩

theorem validateActions_checked {w : ℕ} {snap : Snapshot} {response : CheckedResponse}
    {measured : DualArmJointState} {commands : List DualArmJointCommand}
    {saturations : List GripperSaturation} (hr : CheckedResponse.Sound p w snap response)
    (h : p.contract.validateActions (response.actions.map (·.map .finite)) measured
      snap.lastPublished = .ok (commands, saturations)) :
    Candidate.Checked p w
      ⟨snap, response, measured, List.zipWith QueuedRtcAction.mk response.actions commands⟩ := by
  obtain ⟨hw, hrows⟩ := Pi05JointActionContract.validateActions_ok h
  obtain ⟨hv, hc⟩ := forall₂_validated hrows
  exact ⟨hr, hv, by dsimp only; rw [hc]; exact hw⟩

theorem Candidate.Checked.length {w : ℕ} {c : Candidate} (hc : Candidate.Checked p w c) :
    c.replacement.length = w := by
  rw [← hc.rows.length_eq, hc.response.length]

/-- The end of the last section of `_accept_pending`: only the diagnostic sink can raise. -/
theorem report_post {saturated : Bool} {Q : Except Exc Unit → Rtc → Prop}
    (h : ∀ r, Reported r → Q r s) :
    (do Locked.emit "inference_accepted"; if saturated then Locked.emit "gripper_saturated" :
      Locked Rtc Unit).Post e s Q := by
  rw [Locked.post_bind]
  refine Locked.post_emit ?_ fun err => h _ (.inr ⟨_, err, rfl⟩)
  dsimp only
  rw [Locked.post_ite]
  refine ⟨fun _ => ?_, fun _ => h _ (.inl rfl)⟩
  exact Locked.post_emit (h _ (.inl rfl)) fun err => h _ (.inr ⟨_, err, rfl⟩)

/-- A candidate is spliced only into the state that it was made for; apart from that, only a port
can raise. -/
theorem splice_changes {w : ℕ} {c : Candidate} {saturated : Bool} (hc : Candidate.Checked p w c)
    (hd : s.delay.maximumExclusive = p.checkpoint.maxDelaySteps) :
    (splice c saturated).Post e s fun r s' =>
      Changes p (.splice c) s (raised (markEpoch epoch r)) s' ∧ ∀ err, r = .error err →
        (err = .scheduler .spliceStale ∧ ¬ Matches c s) ∨ ∃ port x, err = .port port x := by
  rw [splice, Locked.post_bind, Locked.post_get]
  dsimp only
  rw [Locked.post_ite, Locked.post_ite]
  refine ⟨fun h => ⟨.refused ⟨rfl, rfl⟩, ?_⟩, fun h => ⟨fun hb => ?_, fun hb => ?_⟩⟩
  · rintro _ ⟨⟩
    refine .inl ⟨rfl, fun hm => ?_⟩
    simp [hm.epoch, hm.episodeId, hm.pending, hm.issuedTotal, hm.lastPublished] at h
  all_goals
    have hm : Matches c s := by
      simp only [ne_eq, not_or, not_not] at h
      exact ⟨h.1.symm, h.2.1.symm, h.2.2.1.symm, h.2.2.2.1.symm, h.2.2.2.2.symm⟩
  · rw [Locked.post_bind]
    refine Locked.post_call ?_ fun err => ⟨.refused ⟨rfl, rfl⟩, fun _ h => ?_⟩
    · simp only [Locked.post_bind, Locked.post_ask, Locked.post_modify]
      refine Locked.post_bind.1 (report_post fun r hr => ⟨.bootstrap e.clock hm hb, ?_⟩)
      rintro err rfl
      obtain h | ⟨event, x, h⟩ := hr
      · cases h
      · cases h; exact .inr ⟨_, x, rfl⟩
    · cases h; exact .inr ⟨_, err, rfl⟩
  · obtain ⟨hdelay, hlt⟩ := hc.response.overlap (by simpa using hb)
    have hrange : 0 ≤ c.response.actualDelay ∧
        c.response.actualDelay < s.delay.maximumExclusive := by omega
    obtain ⟨delay, hobs, hmax⟩ := s.delay.observe_ok hrange
    rw [hobs]
    simp only [Locked.post_bind, Locked.post_modify]
    refine Locked.post_bind.1
      (report_post fun r hr => ⟨.overlap hm (by simpa using hb) hmax, ?_⟩)
    rintro err rfl
    obtain h | ⟨event, x, h⟩ := hr
    · cases h
    · cases h; exact .inr ⟨_, x, rfl⟩

/-! ### The scheduler thread -/

variable (p) in
theorem fail_changes {f : Failure} :
    (failLocked f).Post e s fun r s' =>
      Changes p (.fail f) s (raised (markEpoch epoch r)) s' ∧
        ∀ strict err, r = .error err → ¬ Impossible strict err := by
  simp only [failLocked, Locked.post_bind, Locked.post_get, Locked.post_ite, Locked.post_pure,
    Locked.post_modify]
  refine ⟨fun h => ⟨.inl ⟨by simpa using h.1, h.2, by trivial⟩, (by simp)⟩, fun h => ?_⟩
  have h' : s.gateOpen = true ∨ s.pending ≠ none := by
    rw [not_and_or, not_not] at h
    exact h
  refine Locked.post_emit ⟨.inr ⟨h', rfl⟩, (by simp)⟩ fun _ => ⟨.inr ⟨h', rfl⟩, ?_⟩
  rintro strict _ ⟨⟩ hi
  cases hi

variable (p) in
theorem gateCheck_changes :
    gateCheck.Post e s fun r s' => Changes p .gateCheck s (raised (markEpoch epoch r)) s' ∧
      ∀ begun pendingDone, r = .ok (some (begun, pendingDone)) →
        s' = s ∧ s.gateOpen = true ∧ begun = s.controlEpoch ∧
          (pendingDone = true → ∃ pending, s.pending = some pending ∧
            (s.futures pending.future).isSome = true) := by
  simp only [gateCheck, Locked.post_bind, Locked.post_get, Locked.post_ite, Locked.post_pure,
    Locked.post_modify]
  refine ⟨fun h => ⟨⟨rfl, .inr ⟨by simpa using h, rfl⟩⟩, (by simp)⟩,
    fun h => ⟨⟨rfl, .inl (by trivial)⟩, fun begun pendingDone hr => ?_⟩⟩
  simp only [Except.ok.injEq, Option.some.injEq, Prod.mk.injEq] at hr
  obtain ⟨rfl, rfl⟩ := hr
  refine ⟨by trivial, not_not.1 h, rfl, fun hd => ?_⟩
  simpa [Option.any_eq_true] using hd

/-- The exceptions with which a scheduler ends a lease. -/
inductive LeaseEnd : Exc → Prop
  | underrun : LeaseEnd (.scheduler .queueUnderrun)
  | watchdog : LeaseEnd (.scheduler .watchdogExpired)
  | badResponse {err : Exc} : BadResponse err → LeaseEnd err
  | port (port : Port) (err : PyError) : LeaseEnd (.port port err)

theorem Validated.ne_nil {contract : Pi05JointActionContract} {row : ActionRow}
    {q : QueuedRtcAction} (h : Validated contract row q) : q.modelAction ≠ [] := by
  obtain ⟨rfl, h⟩ := h
  intro hnil
  rw [hnil] at h
  cases h

/-- What a publishing section needs to find while the gate is open, so that the request that it
submits is well formed. -/
structure Publishable (p : RtcParameters) (s : Rtc) : Prop where
  /-- There is an Episode. -/
  episodeId : s.episodeId ≠ none
  /-- The actions have values. -/
  rows : ∀ q ∈ s.queue, q.modelAction ≠ []
  /-- Until the next request is submitted, the window is complete. -/
  window : s.pending = none → s.issuedSinceSplice + s.queue.length = p.safeWindowSteps
  /-- The estimate is a delay of the trained range. -/
  delay : s.delay.maximumExclusive = p.checkpoint.maxDelaySteps

theorem prefetch_post {queued : QueuedRtcAction} {rest : List QueuedRtcAction}
    (dueS : Option ℚ) (nextS : ℚ) (hgate : s.gateOpen = true) (hq : s.queue = queued :: rest)
    (hs : Publishable p s) :
    (prefetch p).Post e (((s.scheduled dueS).dequeued rest).issued queued nextS) fun r s' =>
      PublishStep p s (raised (markEpoch epoch r)) s' ∧ ∀ err, r = .error err → LeaseEnd err := by
  rw [prefetch, Locked.post_bind, Locked.post_get]
  dsimp only
  rw [Locked.post_ite]
  refine ⟨fun h => ?_, fun h => ⟨.issued dueS nextS hgate hq fun _ => ?_, (by simp)⟩⟩
  · simp only [issued_issuedSinceSplice, dequeued_issuedSinceSplice, scheduled_issuedSinceSplice,
      issued_pending, dequeued_pending, scheduled_pending] at h
    have hlen := hs.window h.2
    have hest := s.delay.estimate_lt
    rw [hs.delay] at hest
    simp only [hq, List.length_cons, RtcParameters.safeWindowSteps,
      RtcRolloutProfile.safeWindowSteps] at hlen
    have hle : s.delay.estimate ≤ rest.length := by omega
    rw [Locked.post_ite]
    refine ⟨fun hlt => absurd hlt (not_lt.2 hle), fun _ => ?_⟩
    have hrow : ∀ row ∈ (rest.take s.delay.estimate).map (·.modelAction), row ≠ [] := by
      intro row hrow
      obtain ⟨q, hmem, rfl⟩ := List.mem_map.1 hrow
      exact hs.rows q (hq ▸ List.mem_cons_of_mem _ (List.mem_of_mem_take hmem))
    have hlen' : ((rest.take s.delay.estimate).map (·.modelAction)).length =
        s.delay.estimate := by simpa using hle
    obtain ⟨context, hmake, hctx, hpre⟩ := RtcPolicyContext.make_ok hlen' hrow
    simp only [issued_delay, issued_queue, dequeued_delay, dequeued_queue, scheduled_delay, hmake]
    refine submitLocked_post (fun hn => absurd hn hs.episodeId) (fun err => ?_)
      fun r hr pending hi hb hd ha => ⟨?_, ?_⟩
    · refine ⟨.issued dueS nextS hgate hq (by simp), ?_⟩
      rintro _ ⟨⟩
      exact .port _ _
    · refine .requested dueS nextS s.delay.estimate hgate hq h.1 hi hb hle ?_ ?_
      · simpa [hpre] using ha
      · simpa [hctx] using hd
    · rintro err rfl
      obtain hr | ⟨event, x, hr⟩ := hr
      · cases hr
      · cases hr; exact .port _ _
  · exact not_and_or.1 h

theorem publishDue_changes {now : ℚ} (hs : s.gateOpen = true → Publishable p s) :
    (publishDue p now).Post e s fun r s' =>
      Changes p .publish s (raised (markEpoch epoch r)) s' ∧
        ∀ err, r = .error err → LeaseEnd err := by
  rw [publishDue, Locked.post_bind, Locked.post_get]
  dsimp only
  rw [Locked.post_ite]
  refine ⟨fun _ => ⟨.idle s.nextCommandS, (by simp)⟩, fun h => ?_⟩
  have hgate : s.gateOpen = true := not_not.1 h
  simp only [Locked.post_bind, Locked.post_modify]
  generalize hdue : s.nextCommandS.getD now = due
  rw [Locked.post_ite, Locked.post_ite]
  refine ⟨fun _ => ⟨.idle (some due), by simp⟩,
    fun _ => ⟨fun _ => ⟨.idle (some due), ?_⟩, fun _ => ?_⟩⟩
  · rintro _ ⟨⟩
    exact .watchdog
  · rw [Locked.post_bind, issue, Locked.post_bind, Locked.post_get]
    simp only [scheduled_queue]
    cases hq : s.queue with
    | nil =>
      rw [Locked.post_raise]
      refine ⟨.idle (some due), ?_⟩
      rintro _ ⟨⟩
      exact .underrun
    | cons queued rest =>
      simp only [Locked.post_bind, Locked.post_modify]
      refine Locked.post_call ?_ fun err => ⟨.dropped (some due) hgate hq, ?_⟩
      · refine Locked.post_emit (prefetch_post epoch (some due) _ hgate hq (hs hgate)) fun err => ?_
        refine ⟨.issued (some due) _ hgate hq (by simp), ?_⟩
        rintro _ ⟨⟩
        exact .port _ _
      · rintro _ ⟨⟩
        exact .port _ _

end Rtc

end DualCollection
