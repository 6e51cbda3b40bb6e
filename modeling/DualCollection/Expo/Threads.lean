import DualCollection.Expo.Scheduler
import DualCollection.Rtc.Threads

/-!
# The threads around an EXPO scheduler

The EXPO scheduler keeps the invariant of the RTC scheduler, with windows of `C` rows: its
sections do what `Rtc.Changes` says, so that the outline of the RTC scheduler is sound for it too.
-/

namespace DualCollection

open Thread

namespace Expo

open Rtc (Changes PublishStep Impossible Inv Good Interferes Ends Yields Role Op Cleared outline
  Stepped perform acceptPending Admits)

variable {p : ExpoParameters} {e : Env} {s : Rtc} {start : StepStart} (epoch : ℕ)

/-! ### Sections -/

section Publish

variable {queued : QueuedRtcAction} {rest : List QueuedRtcAction} (dueS : Option ℚ) (nextS : ℚ)

/-- The state after a command was published. -/
abbrev issuedState (s : Rtc) (queued : QueuedRtcAction) (rest : List QueuedRtcAction)
    (dueS : Option ℚ) (nextS : ℚ) : Rtc :=
  ((s.scheduled dueS).dequeued rest).issued queued nextS

/-- The request for the next window is submitted after `C - d` commands. -/
theorem prefetch_post (hgate : s.gateOpen = true) (hq : s.queue = queued :: rest) :
    (prefetch p).Post e (issuedState s queued rest dueS nextS) fun r s' =>
      (∀ err, r = .error err → ¬ Impossible False err) ∧
        (s.issuedSinceSplice + 1 ≠ p.c - p.d ∧ r = .ok () ∧
            s' = issuedState s queued rest dueS nextS ∨
          s'.issuedSinceSplice ≠ p.c ∧
            PublishStep p.toRtcParameters s (raised (markEpoch epoch r)) s') := by
  have hrange := p.delay_range
  rw [prefetch, Locked.post_bind, Locked.post_get]
  dsimp only
  rw [Locked.post_ite]
  refine ⟨fun hi => ?_, fun hi => ⟨(by simp), .inl ⟨hi, rfl, rfl⟩⟩⟩
  have hprefetch : s.issuedSinceSplice + 1 = p.rollout.prefetchAfterSteps := by
    rw [p.prefetch]
    exact hi
  have hne : s.issuedSinceSplice + 1 ≠ p.c := by
    have := p.prefetch
    rw [ExpoParameters.c]
    omega
  have hfailed : ∀ err, ¬ Impossible False err →
      (∀ err', (.error err : Except Exc Unit) = .error err' → ¬ Impossible False err') ∧
        (s.issuedSinceSplice + 1 ≠ p.c - p.d ∧ (.error err : Except Exc Unit) = .ok () ∧
            issuedState s queued rest dueS nextS = issuedState s queued rest dueS nextS ∨
          s.issuedSinceSplice + 1 ≠ p.c ∧ PublishStep p.toRtcParameters s
            (raised (markEpoch epoch (.error err : Except Exc Unit)))
              (issuedState s queued rest dueS nextS)) := by
    refine fun err herr => ⟨?_, .inr ⟨hne, .issued dueS nextS hgate hq (by rintro ⟨⟩)⟩⟩
    rintro _ ⟨⟩
    exact herr
  rw [Locked.post_ite]
  refine ⟨fun _ => hfailed _ (by rintro ⟨⟩), fun hlen => ?_⟩
  have hlen' : rest.length = p.d := by simpa using hlen
  cases hmake : RtcPolicyContext.make p.d ((issuedState s queued rest dueS nextS).queue.map
    (·.modelAction)) with
  | error err =>
    refine hfailed _ fun hi => ?_
    rcases RtcPolicyContext.make_error hmake with rfl | rfl <;> cases hi
  | ok context =>
    obtain ⟨hctx, hpre⟩ := RtcPolicyContext.make_eq hmake
    refine Rtc.submitLocked_post (fun _ => hfailed _ (by rintro ⟨⟩))
      (fun err => hfailed _ (by rintro ⟨⟩))
      fun r hr pending hi hb hd ha => ⟨hr.not_impossible, .inr ⟨hne, ?_⟩⟩
    refine .requested dueS nextS p.d hgate hq hprefetch hi hb hlen'.ge ?_ ?_
    · rw [← hlen', List.take_length]
      simpa [hpre] using ha
    · simpa [hctx] using hd

/-- The second stage of the request is submitted when the window is exhausted. -/
theorem finish_post (hgate : s.gateOpen = true) (hq : s.queue = queued :: rest)
    (hi : s.issuedSinceSplice + 1 ≠ p.c - p.d) :
    (finish p).Post e (issuedState s queued rest dueS nextS) fun r s' =>
      (∀ err, r = .error err → ¬ Impossible False err) ∧
        PublishStep p.toRtcParameters s (raised (markEpoch epoch r)) s' := by
  have hprefetch : s.issuedSinceSplice + 1 ≠ p.rollout.prefetchAfterSteps := by
    rw [p.prefetch]
    exact hi
  have hfailed : ∀ err, ¬ Impossible False err →
      (∀ err', (.error err : Except Exc Unit) = .error err' → ¬ Impossible False err') ∧
        PublishStep p.toRtcParameters s (raised (markEpoch epoch (.error err : Except Exc Unit)))
          (issuedState s queued rest dueS nextS) := by
    refine fun err herr => ⟨?_, .issued dueS nextS hgate hq (by rintro ⟨⟩)⟩
    rintro _ ⟨⟩
    exact herr
  rw [finish, Locked.post_bind, Locked.post_get]
  dsimp only
  rw [Locked.post_ite]
  refine ⟨fun _ => ?_, fun _ => ⟨(by simp), .issued dueS nextS hgate hq fun _ => .inl hprefetch⟩⟩
  simp only [issuedState, Rtc.issued_pending, Rtc.dequeued_pending, Rtc.scheduled_pending,
    Rtc.issued_futures, Rtc.dequeued_futures, Rtc.scheduled_futures]
  cases hp : s.pending with
  | none => exact hfailed _ (by rintro ⟨⟩)
  | some pending =>
    dsimp only
    cases hf : s.futures pending.future with
    | none => exact hfailed _ (by rintro ⟨⟩)
    | some result =>
      cases result with
      | error err => exact hfailed _ (by rintro ⟨⟩)
      | ok result =>
        rw [Locked.post_bind]
        refine Locked.post_call ?_ fun err => hfailed _ (by rintro ⟨⟩)
        rw [Locked.post_modify]
        exact ⟨(by simp), .finishing dueS nextS hgate hq hp hprefetch⟩

end Publish

theorem publishDue_changes :
    (publishDue p start).Post e s fun r s' =>
      (∀ err, r = .error err → ¬ Impossible False err) ∧
        Changes p.toRtcParameters .publish s (raised (markEpoch epoch r)) s' := by
  have hidle : ∀ r : Except Exc Bool, (∀ err, r = .error err → ¬ Impossible False err) →
      (∀ err, r = .error err → ¬ Impossible False err) ∧
        PublishStep p.toRtcParameters s (raised (markEpoch epoch r)) s := fun r hr =>
    ⟨hr, .idle s.nextCommandS⟩
  unfold publishDue
  rw [Locked.post_bind, Locked.post_get]
  dsimp only
  rw [Locked.post_ite]
  refine ⟨fun _ => hidle _ (by simp), fun hclosed => ?_⟩
  have hgate : s.gateOpen = true := not_not.1 hclosed
  rw [Locked.post_bind, Locked.post_ask]
  dsimp only
  rw [Locked.post_ite]
  refine ⟨fun _ => hidle _ (by simp), fun _ => ?_⟩
  cases hdue : s.nextCommandS with
  | none => exact hidle _ (by rintro _ ⟨⟩ hi; cases hi)
  | some due =>
    dsimp only
    rw [Locked.post_ite, Locked.post_ite]
    refine ⟨fun _ => hidle _ (by simp), fun _ => ⟨fun _ => hidle _ ?_, fun _ => ?_⟩⟩
    · rintro _ ⟨⟩ hi
      cases hi
    rw [Locked.post_bind, Rtc.issue, Locked.post_bind, Locked.post_get]
    dsimp only
    cases hq : s.queue with
    | nil => exact hidle (.error _) (by rintro _ ⟨⟩ hi; cases hi)
    | cons queued rest =>
      simp only [Locked.post_bind, Locked.post_modify]
      refine Locked.post_call ?_ fun err => ⟨?_, .dropped s.nextCommandS hgate hq⟩
      swap
      · rintro _ ⟨⟩ hi
        cases hi
      refine Locked.post_mono (prefetch_post epoch s.nextCommandS _ hgate hq) fun r s' h => ?_
      obtain ⟨herr, ⟨hi, rfl, rfl⟩ | ⟨hne, hstep⟩⟩ := h
      · dsimp only
        refine Locked.post_mono (finish_post epoch s.nextCommandS _ hgate hq hi) fun r s' h => ?_
        cases r with
        | error err => exact ⟨fun err' he => h.1 err' (by rw [← Except.error.inj he]), h.2⟩
        | ok u => exact ⟨(by simp), h.2⟩
      · cases r with
        | error err => exact ⟨fun err' he => herr err' (by rw [← Except.error.inj he]), hstep⟩
        | ok u =>
          -- the window is not exhausted when the next request is submitted
          dsimp only
          rw [finish, Locked.post_bind, Locked.post_get]
          dsimp only
          rw [Locked.post_ite]
          exact ⟨fun h => absurd h hne, fun _ => ⟨(by simp), hstep⟩⟩

/-! ### The threads -/

variable {w : ℕ} {s' : Rtc}

/-- `_finishing` is reset outside of the lock. -/
theorem wp_clearPending {controlEpoch : ℕ} :
    wp (outline p.toRtcParameters w False) .controller (fun _ s' => s.controlEpoch ≤ controlEpoch →
      s'.controlEpoch = controlEpoch ∧ Cleared s') (clearPending controlEpoch) s := by
  rw [clearPending, wp_bind]
  refine wp_mono Rtc.wp_clearPending fun r s₁ hr => ?_
  cases r with
  | error f => exact hr
  | ok u =>
    refine Rtc.wp_section fun s₂ (hy : Yields s₁ s₂) _ => ⟨trivial, fun _ e => ?_⟩
    refine ⟨rfl, (by simp), fun hle => ?_⟩
    obtain ⟨he, hc⟩ := hr hle
    have hc₂ := hy.cleared hc
    exact ⟨hy.epoch.trans he, hc₂.gateOpen, hc₂.pending, hc₂.queue⟩

theorem wp_publishStage (hg : Good p.toRtcParameters w s)
    (hs : ∀ begun, start.finishing = some begun → begun ≤ s.controlEpoch) :
    wp (outline p.toRtcParameters w False) .scheduler (Stepped p.toRtcParameters w False)
      (publishStage p start) s := by
  rw [publishStage, wp_bind]
  refine Rtc.wp_section fun s₁ (hr : Interferes p.toRtcParameters w False s s₁) hi =>
    ⟨hr.good hg, fun _ e => ?_⟩
  refine Locked.post_mono (publishDue_changes s₁.controlEpoch) fun r s₂ h => ⟨h.2, h.1, ?_⟩
  have hc : PublishStep p.toRtcParameters s₁ _ s₂ := h.2
  cases r with
  | error err => exact ⟨hc.yields.epoch.ge, (by simp)⟩
  | ok missed =>
    have hg₂ : Good p.toRtcParameters w s₂ := PublishStep.good hi (hr.good hg) hc
    dsimp only [markEpoch_ok]
    cases missed with
    | false => exact hg₂
    | true =>
      cases hf : start.finishing with
      | none => exact hg₂
      | some begun => exact ⟨((hs begun hf).trans hr.epoch).trans hc.yields.epoch.ge, (by simp)⟩

theorem wp_finishStage {now : ℚ} {begun : ℕ} (hg : Good p.toRtcParameters p.c s)
    (hb : begun ≤ s.controlEpoch) :
    wp (outline p.toRtcParameters p.c False) .scheduler (Stepped p.toRtcParameters p.c False)
      (finishStage p start now begun) s := by
  unfold finishStage
  split_ifs
  · exact ⟨hb, (by simp)⟩
  cases start.pending with
  | none => exact ⟨hb, (by simp)⟩
  | some pending =>
    rw [wp_bind]
    refine Rtc.wp_read (fun _ _ _ h => h)
      (fun _ (hr : Interferes p.toRtcParameters p.c False s _) => hr.good hg)
      fun s₁ (hr : Interferes p.toRtcParameters p.c False s s₁) _ e =>
        ⟨rfl, by intros; contradiction, ?_⟩
    have hb₁ := hb.trans hr.epoch
    cases hdone : (s₁.futures pending.future).isSome with
    | false =>
      simp only [finishCheck, Locked.bind_run, Locked.get_run, Locked.pure_run, hdone,
        markEpoch_ok]
      exact hr.good hg
    | true =>
      simp only [finishCheck, Locked.bind_run, Locked.get_run, Locked.pure_run, hdone,
        markEpoch_ok, if_true]
      rw [wp_bind]
      refine wp_mono (Rtc.wp_accept p.c_lt ⟨hr.good hg, hb₁, (by simp)⟩) fun r s₂ hr₂ => ?_
      cases r with
      | error f => exact hr₂
      | ok u =>
        rw [wp_bind]
        refine Rtc.wp_section fun s₃ (hr : Interferes p.toRtcParameters p.c False s₂ s₃) _ =>
          ⟨hr.good hr₂, fun _ e => ⟨rfl, (by simp), ?_⟩⟩
        exact (hr.good hr₂).congr rfl rfl rfl rfl rfl rfl rfl rfl

/-- A step of the scheduler keeps the lease good, or ends it. -/
theorem wp_step (hg : Good p.toRtcParameters p.c s) :
    wp (outline p.toRtcParameters p.c False) .scheduler
      (fun _ s' => Good p.toRtcParameters p.c s') (step p) s := by
  rw [step, wp_tryCatch]
  suffices h : wp (outline p.toRtcParameters p.c False) .scheduler
      (Stepped p.toRtcParameters p.c False) (stepBody p) s by
    refine wp_mono h fun r s' hr => ?_
    cases r with
    | ok u => exact hr
    | error f => exact Rtc.wp_fail hr
  rw [stepBody, wp_bind]
  refine Rtc.wp_read (fun _ _ _ h => h)
    (fun _ (hr : Interferes p.toRtcParameters p.c False s _) => hr.good hg)
    fun s₁ (hr : Interferes p.toRtcParameters p.c False s s₁) _ e => ⟨rfl, (by simp), ?_⟩
  have hg₁ := hr.good hg
  simp only [Locked.bind_run, Locked.ask_run, Locked.pure_run, markEpoch_ok]
  rw [wp_bind]
  refine Rtc.wp_section fun s₂ (hr : Interferes p.toRtcParameters p.c False s₁ s₂) hi =>
    ⟨hr.good hg₁, fun _ e => ?_⟩
  have hg₂ := hr.good hg₁
  simp only [gateCheck, Locked.post_bind, Locked.post_get, Locked.post_ite, Locked.post_pure]
  refine ⟨fun _ => ⟨⟨rfl, .inl rfl⟩, (by simp), hg₂⟩, fun _ => ⟨⟨rfl, .inl rfl⟩, (by simp), ?_⟩⟩
  simp only [markEpoch_ok]
  cases hf : s₂.finishing with
  | none => exact wp_publishStage hg₂ (by rintro _ ⟨⟩)
  | some begun =>
    have hb := hi.finishing begun hf
    dsimp only
    rw [wp_bind]
    refine wp_mono (wp_track (fun a b : Rtc => a.controlEpoch ≤ b.controlEpoch)
      le_trans (fun hr => Interferes.epoch hr) (fun hg => hg.1.epoch_le) le_rfl
      (wp_finishStage hg₂ hb)) fun r s₃ hr => ?_
    obtain ⟨hr, hle⟩ := hr
    rcases r with f | (_ | _)
    · exact hr
    · exact hr
    · exact wp_publishStage hr (by rintro _ ⟨⟩; exact hb.trans hle)

/-! ### The system -/

/-- A controller that makes any calls, the scheduler's thread, and the policy. -/
def system (p : ExpoParameters) : System Role Op RtcSection Env Rtc Failure where
  op
    | .controller, .closeGate e => Rtc.closeGate e
    | .controller, .clearPending e => clearPending e
    | .controller, .preparePolicy episodeId e => Rtc.preparePolicy episodeId e
    | .controller, .policyReady episodeId e => do
      let _ ← policyReady p episodeId e
    | .controller, .takeFault => do
      let _ ← Rtc.takeFault
    | .scheduler, .step => step p
    | .policy, .complete future result => Rtc.complete future result
    | _, _ => pure ()

/-- The outline of the RTC scheduler is sound for the system. -/
theorem sound (p : ExpoParameters) :
    (outline p.toRtcParameters p.c False).Sound (system p) :=
  Rtc.outline_sound fun t o s _ hidle => by
    cases t with
    | controller =>
      cases o with
      | closeGate e => exact wp_mono Rtc.wp_closeGate fun _ _ _ => trivial
      | clearPending e => exact wp_mono wp_clearPending fun _ _ _ => trivial
      | preparePolicy episodeId e => exact wp_mono Rtc.wp_preparePolicy fun _ _ _ => trivial
      | policyReady episodeId e =>
        exact Rtc.wp_ignore (wp_mono (Rtc.wp_policyReady p.c_lt) fun _ _ _ => trivial)
      | takeFault => exact Rtc.wp_ignore (wp_mono Rtc.wp_takeFault fun _ _ _ => trivial)
      | step | complete => trivial
    | scheduler =>
      cases o with
      | step => exact wp_step hidle
      | _ => exact hidle
    | policy =>
      cases o with
      | complete future result => exact Rtc.wp_complete
      | _ => trivial

end Expo

end DualCollection
