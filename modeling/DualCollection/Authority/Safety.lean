import DualCollection.Authority.Takeover
import DualCollection.Expo.Continuity

/-!
# Safety of the command authority

A takeover controller shares a scheduler with the scheduler's own thread and with the policy.  The
outline of the three threads extends the one of the scheduler by what the controller's state says
about the lease: while the controller is idle, holds a fault or has handed the arms to a human,
the lease is cleared.

`Drives` lists what the controller relies on, so that the argument is the same for both
schedulers.
-/

namespace DualCollection

open Thread

open Rtc (Changes Inv Good Cleared Yields Interferes Role Pre outline)

/-- The states in which the policy does not command the arms. -/
def TakeoverState.Withheld (state : TakeoverState) : Prop :=
  state = .idle ∨ state = .humanActive ∨ state = .faultHold

namespace Rtc

/-- The sections that end a lease. -/
def Closing : RtcSection → Prop
  | .closeGate | .clearPending _ | .beginEpoch | .emitReset | .clearFinishing | .takeFault => True
  | _ => False

/-- They leave a cleared lease cleared. -/
theorem Changes.cleared {p : RtcParameters} {l : RtcSection} {s s' : Rtc} {r : Option Failure}
    (hl : Closing l) (hc : Changes p l s r s') (hs : Cleared s) : Cleared s' := by
  cases l with
  | closeGate =>
    rcases hc with hc | ⟨-, rfl⟩
    · rw [hc.2]; exact hs
    · exact ⟨rfl, hs.pending, hs.queue⟩
  | clearPending e =>
    rcases hc with hc | ⟨-, -, rfl⟩
    · rw [hc.2]; exact hs
    · exact ⟨rfl, rfl, rfl⟩
  | takeFault => rw [hc.2]; exact ⟨hs.gateOpen, hs.pending, hs.queue⟩
  | clearFinishing => rw [show s' = _ from hc]; exact ⟨hs.gateOpen, hs.pending, hs.queue⟩
  | beginEpoch | emitReset => rw [show s' = s from hc]; exact hs
  | _ => exact hl.elim

/-- Only an acceptance opens the gate. -/
theorem Changes.opens {p : RtcParameters} {l : RtcSection} {s s' : Rtc} {r : Option Failure}
    (hc : Changes p l s r s') (hg : s.gateOpen = false) (hg' : s'.gateOpen = true) :
    ∃ candidate, l = .splice candidate := by
  have hkept : s'.gateOpen = s.gateOpen → ∃ candidate, l = .splice candidate := fun h => by
    rw [h, hg] at hg'
    cases hg'
  cases l with
  | splice candidate => exact ⟨candidate, rfl⟩
  | closeGate =>
    rcases hc with hc | ⟨-, rfl⟩
    · exact hkept (by rw [hc.2])
    · cases hg'
  | clearPending e =>
    rcases hc with hc | ⟨-, -, rfl⟩
    · exact hkept (by rw [hc.2])
    · cases hg'
  | prepare =>
    cases hc with
    | refused hr => exact hkept (by rw [hr.2])
    | identified | submitted => exact hkept rfl
  | takeFault => exact hkept (by rw [hc.2]; rfl)
  | gateCheck => rcases hc with ⟨-, rfl | ⟨-, rfl⟩⟩ <;> exact hkept rfl
  | reject f => exact absurd hg' (by rw [hc.2]; exact (by simp))
  | clearFinishing => exact hkept (by rw [show s' = _ from hc])
  | finished => exact hkept (by rw [show s' = _ from hc])
  | publish => cases hc <;> exact hkept rfl
  | fail f =>
    rcases hc with ⟨-, -, rfl⟩ | ⟨-, rfl⟩
    · exact hkept rfl
    · cases hg'
  | complete =>
    obtain ⟨-, future, result, rfl⟩ := hc
    refine hkept ?_
    unfold completed
    split <;> rfl
  | checkResponse window snap => exact hkept (by rw [hc.2])
  | beginEpoch | emitReset | poll | clock | finishCheck | acceptRead | stateRead =>
    exact hkept (by rw [show s' = s from hc])

/-- A section hands a command to the sink: `popleft` takes it from the queue, and nothing comes
between that and the call of the sink, which may raise. -/
def Offers (l : RtcSection) (s s' : Rtc) : Prop := l = .publish ∧ s'.queue ≠ s.queue

/-- Commands are handed to the sink only through an open gate. -/
theorem Changes.offers {p : RtcParameters} {l : RtcSection} {s s' : Rtc} {r : Option Failure}
    (hc : Changes p l s r s') (ho : Offers l s s') : s.gateOpen = true := by
  obtain ⟨rfl, hne⟩ := ho
  have hc : PublishStep p s r s' := hc
  cases hc with
  | idle => exact absurd rfl hne
  | dropped _ hgate | issued _ _ hgate | requested _ _ _ hgate | finishing _ _ hgate => exact hgate

/-- The gateway of an RTC scheduler. -/
def gateway (p : RtcParameters) : CommandGateway RtcSection Rtc where
  actionOutputEnabled := true
  closeGate := closeGate
  clearPending := clearPending
  preparePolicy := preparePolicy
  policyReady := policyReady p p.safeWindowSteps
  takeFault := takeFault

end Rtc

/-- The gateway of an EXPO scheduler. -/
def Expo.gateway (p : ExpoParameters) : CommandGateway RtcSection Rtc where
  actionOutputEnabled := true
  closeGate := Rtc.closeGate
  clearPending := Expo.clearPending
  preparePolicy := Rtc.preparePolicy
  policyReady := Expo.policyReady p
  takeFault := Rtc.takeFault

/-- What a controller relies on: the calls of the gateway and the steps of the scheduler meet the
outline of the scheduler. -/
structure Drives (p : RtcParameters) (w : ℕ) (gw : CommandGateway RtcSection Rtc)
    (step : Rtc.Program Unit) : Prop where
  /-- `close_gate` leaves the control epoch alone. -/
  closeGate : ∀ e s, wp (outline p w False) .controller
    (fun _ s' => s'.controlEpoch = s.controlEpoch) (gw.closeGate e) s
  /-- `clear_pending` starts a control epoch with a cleared lease, even when it raises. -/
  clearPending : ∀ e s, wp (outline p w False) .controller
    (fun _ s' => s.controlEpoch ≤ e → s'.controlEpoch = e ∧ Cleared s') (gw.clearPending e) s
  /-- `prepare_policy` leaves the control epoch alone. -/
  preparePolicy : ∀ episodeId e s, wp (outline p w False) .controller
    (fun _ s' => s'.controlEpoch = s.controlEpoch) (gw.preparePolicy episodeId e) s
  /-- `policy_ready` leaves the control epoch alone. -/
  policyReady : ∀ episodeId e s, wp (outline p w False) .controller
    (fun _ s' => s'.controlEpoch = s.controlEpoch) (gw.policyReady episodeId e) s
  /-- `take_fault` leaves the control epoch alone. -/
  takeFault : ∀ s, wp (outline p w False) .controller
    (fun _ s' => s'.controlEpoch = s.controlEpoch) gw.takeFault s
  /-- `close_gate` only ends a lease. -/
  closeGate_closing : ∀ e, (gw.closeGate e).Only Rtc.Closing
  /-- `clear_pending` only ends a lease. -/
  clearPending_closing : ∀ e, (gw.clearPending e).Only Rtc.Closing
  /-- `take_fault` only ends a lease. -/
  takeFault_closing : gw.takeFault.Only Rtc.Closing
  /-- A step keeps the lease good. -/
  step : ∀ s, Good p w s → wp (outline p w False) .scheduler (fun _ s' => Good p w s') step s

theorem Rtc.clearPending_only {e : ℕ} : (Rtc.clearPending e).Only Rtc.Closing :=
  Prog.only_bind (Prog.only_atomic trivial) fun _ =>
    Prog.only_bind (Prog.only_atomic trivial) fun _ => Prog.only_atomic trivial

theorem Rtc.drives (p : RtcParameters) :
    Drives p p.safeWindowSteps (Rtc.gateway p) (Rtc.step p) where
  closeGate := fun _ _ => wp_mono Rtc.wp_closeGate fun _ _ h => h.1
  clearPending := fun _ _ => Rtc.wp_clearPending
  preparePolicy := fun _ _ _ => Rtc.wp_preparePolicy
  policyReady := fun _ _ _ => Rtc.wp_policyReady p.window_lt
  takeFault := fun _ => wp_mono Rtc.wp_takeFault fun _ _ h => h.1
  closeGate_closing := fun _ => Prog.only_atomic trivial
  clearPending_closing := fun _ => Rtc.clearPending_only
  takeFault_closing := Prog.only_atomic trivial
  step := fun _ h => Rtc.wp_step h

theorem Expo.drives (p : ExpoParameters) :
    Drives p.toRtcParameters p.c (Expo.gateway p) (Expo.step p) where
  closeGate := fun _ _ => wp_mono Rtc.wp_closeGate fun _ _ h => h.1
  clearPending := fun _ _ => Expo.wp_clearPending
  preparePolicy := fun _ _ _ => Rtc.wp_preparePolicy
  policyReady := fun _ _ _ => Rtc.wp_policyReady p.c_lt
  takeFault := fun _ => wp_mono Rtc.wp_takeFault fun _ _ h => h.1
  closeGate_closing := fun _ => Prog.only_atomic trivial
  clearPending_closing := fun _ =>
    Prog.only_bind Rtc.clearPending_only fun _ => Prog.only_atomic trivial
  takeFault_closing := Prog.only_atomic trivial
  step := fun _ h => Expo.wp_step h

namespace Takeover

/-- The proof outline of the three threads. -/
def worldOutline (p : RtcParameters) (w : ℕ) :
    Outline Role (WorldSection RtcSection) Env (World Rtc) Failure where
  inv := fun c => Inv p w c.gateway ∧ (c.takeover.state.Withheld → Cleared c.gateway)
  pre := fun t l c => match l with
    | .gateway l => Pre p w False t l c.gateway
    | _ => True
  rely := fun
    | .controller, c, c' => c'.takeover = c.takeover ∧ Yields c.gateway c'.gateway
    | .scheduler, c, c' => Interferes p w False c.gateway c'.gateway
    | .policy, _, _ => True
  guar := fun t l c r c' =>
    (match l with
      | .gateway l => Changes p l c.gateway r c'.gateway
      | _ => t = .controller ∧ c'.gateway = c.gateway) ∧
    (t ≠ .scheduler → Interferes p w False c.gateway c'.gateway) ∧
    (t ≠ .controller → c'.takeover = c.takeover ∧ Yields c.gateway c'.gateway)
  idle := fun
    | .controller, c => c.takeover.controlEpoch = c.gateway.controlEpoch
    | .scheduler, c => Good p w c.gateway
    | .policy, _ => True

variable {p : RtcParameters} {w : ℕ} {c : World Rtc} {α : Type}

/-- The controller and its gateway agree on the control epoch. -/
abbrev Synced (c : World Rtc) : Prop := c.takeover.controlEpoch = c.gateway.controlEpoch

/-! ### Rules -/

/-- The rule of a call of the gateway: while the policy does not command the arms, it may only end
the lease. -/
theorem wp_call {q : Rtc.Program α} {Q : Except Failure α → Rtc → Prop} {A : RtcSection → Prop}
    (hA : q.Only A) (hkeep : c.takeover.state.Withheld → ∀ l, A l → Rtc.Closing l)
    (h : wp (outline p w False) .controller Q q c.gateway) :
    wp (worldOutline p w) .controller
      (fun r c' => c'.takeover = c.takeover ∧ Q r c'.gateway) (call q) c := by
  refine wp_embed (P := outline p w False) (A := A) ?_ ?_ ?_ ?_ ?_ ?_ hA rfl h
  · rintro s s' hF ⟨ht, hy⟩ -
    exact ⟨ht.trans hF, hy⟩
  · exact fun _ hi => hi.1
  · exact fun _ _ hp => hp
  · exact fun _ _ => Rtc.admits_free
  · exact fun hF => ⟨hF, rfl⟩
  · intro s l r g hF hl hi _ hg hguar
    refine ⟨⟨hg, fun hw => ?_⟩, hguar.1, fun _ => hguar.2.2.1 (by simp), fun h => absurd rfl h⟩
    exact hguar.1.cleared (hkeep (hF ▸ hw) l hl) (hi.2 hw)

/-- The rule of a section of the controller. -/
theorem wp_perform {l : WorldSection RtcSection} {body : Locked Takeover α}
    {Q : Except Failure α → World Rtc → Prop} (hl : ∀ gl, l ≠ .gateway gl)
    (h : ∀ g, Yields c.gateway g → (c.takeover.state.Withheld → Cleared g) → ∀ e,
      body.Post e c.takeover fun r t => (t.state.Withheld → Cleared g) ∧
        Q (markEpoch c.takeover.controlEpoch r) ⟨t, g⟩) :
    wp (worldOutline p w) .controller Q (perform l body) c := by
  rw [perform, wp_locked]
  rintro ⟨t, g⟩ ⟨ht, hy⟩ ⟨hi, hw⟩
  obtain rfl : t = c.takeover := ht
  refine ⟨?_, fun e _ => ?_⟩
  · cases l with
    | gateway gl => exact absurd rfl (hl gl)
    | own | gravity | status => trivial
  obtain ⟨hw', hQ⟩ := h g hy hw e
  refine ⟨⟨hi, hw'⟩, ⟨?_, fun _ => .refl, fun h => absurd rfl h⟩, hQ⟩
  cases l with
  | gateway gl => exact absurd rfl (hl gl)
  | own | gravity | status => exact ⟨rfl, rfl⟩

theorem wp_attributes {Q : Except Failure α → World Rtc → Prop}
    {k : Takeover → Program RtcSection Rtc α}
    (h : ∀ g, Yields c.gateway g →
      wp (worldOutline p w) .controller Q (k c.takeover) ⟨c.takeover, g⟩) :
    wp (worldOutline p w) .controller Q (attributes >>= k) c := by
  rw [wp_bind]
  exact wp_perform (by simp) fun g hy hw _ => ⟨hw, h g hy⟩

theorem wp_report {Q : Except Failure Unit → World Rtc → Prop}
    (h : ∀ r g, Yields c.gateway g → Q r ⟨c.takeover, g⟩) :
    wp (worldOutline p w) .controller Q report c :=
  wp_perform (by simp) fun g hy hw _ => Locked.post_call ⟨hw, h _ g hy⟩
    fun _ => ⟨hw, h _ g hy⟩

theorem wp_exceptException {E : World Rtc → Prop} {Q : Except Failure α → World Rtc → Prop}
    {q : Program RtcSection Rtc α} {handler : Failure → Program RtcSection Rtc α}
    (hE : ∀ f c, E c → Q (.error f) c)
    (hh : ∀ f c, E c → wp (worldOutline p w) .controller Q (handler f) c)
    (h : wp (worldOutline p w) .controller (fun r c' => match r with
      | .ok a => Q (.ok a) c'
      | .error _ => E c') q c) :
    wp (worldOutline p w) .controller Q (exceptException q handler) c := by
  rw [exceptException, wp_tryCatch]
  refine wp_mono h fun r c' hr => ?_
  cases r with
  | ok a => exact hr
  | error f =>
    dsimp only
    split_ifs
    · exact hh f c' hr
    · exact hE f c' hr

theorem wp_cleanup {Q : List FailureNote → World Rtc → Prop} {q : Program RtcSection Rtc Unit}
    {note : Exc → FailureNote}
    (h : wp (worldOutline p w) .controller (fun _ c' => ∀ notes, Q notes c') q c) :
    wp (worldOutline p w) .controller (fun r c' => ∃ notes, r = .ok notes ∧ Q notes c')
      (cleanup q note) c := by
  rw [cleanup, wp_andThen]
  refine wp_mono h fun r c' hr => ?_
  cases r with
  | ok u => exact ⟨_, rfl, hr _⟩
  | error f => exact ⟨_, rfl, hr _⟩

/-! ### The operations of the controller -/

section Operations

variable {gw : CommandGateway RtcSection Rtc} {step : Rtc.Program Unit}

/-- Between `close_gate` and `clear_pending` the controller is one control epoch ahead. -/
abbrev Ahead (c : World Rtc) : Prop := c.takeover.controlEpoch = c.gateway.controlEpoch + 1

theorem wp_closeGate (hd : Drives p w gw step) (h : Synced c) {e : ℕ} :
    wp (worldOutline p w) .controller (fun _ c' => c'.takeover = c.takeover ∧ Synced c')
      (call (gw.closeGate e)) c := by
  refine wp_mono (wp_call (hd.closeGate_closing e) (fun _ _ hl => hl) (hd.closeGate e _))
    fun r c' hr => ⟨hr.1, ?_⟩
  rw [Synced, hr.1, hr.2]
  exact h

theorem wp_advance {Q : Except Failure Unit → World Rtc → Prop} (h : Synced c)
    (hQ : ∀ c', Ahead c' → c'.takeover = c.takeover.advanced → Q (.ok ()) c') :
    wp (worldOutline p w) .controller Q (perform .own (.modify advanced)) c := by
  refine wp_perform (by simp) fun g hy hw _ => ⟨hw, hQ _ ?_ rfl⟩
  show c.takeover.controlEpoch + 1 = g.controlEpoch + 1
  rw [hy.epoch, h]

theorem wp_clearPending (hd : Drives p w gw step) (h : Ahead c) {e : ℕ}
    (he : e = c.takeover.controlEpoch) :
    wp (worldOutline p w) .controller
      (fun _ c' => c'.takeover = c.takeover ∧ Synced c' ∧ Cleared c'.gateway)
      (call (gw.clearPending e)) c := by
  refine wp_mono (wp_call (hd.clearPending_closing e) (fun _ _ hl => hl) (hd.clearPending e _))
    fun r c' hr => ?_
  have hle : c.gateway.controlEpoch ≤ e := by
    rw [he, h]
    exact Nat.le_succ _
  obtain ⟨ht, hg⟩ := hr
  obtain ⟨hepoch, hcleared⟩ := hg hle
  exact ⟨ht, by rw [Synced, ht, hepoch, he], hcleared⟩

/-- After `_fault` the epochs agree, and a fault is held unless an exception was raised. -/
theorem wp_fault (hd : Drives p w gw step) (h : Synced c) {f : Failure} :
    wp (worldOutline p w) .controller
      (fun r c' => Synced c' ∧ (r = .ok () → c'.takeover.state = .faultHold)) (fault gw f) c := by
  refine wp_attributes fun g hy => ?_
  have h₁ : Synced ⟨c.takeover, g⟩ := h.trans hy.epoch.symm
  split_ifs with hs
  · exact ⟨h₁, fun _ => hs⟩
  rw [wp_bind]
  refine wp_mono (wp_cleanup (wp_mono (wp_closeGate hd h₁) fun r c' hr _ => hr)) ?_
  rintro _ c₂ ⟨closeNotes, rfl, ht₂, h₂⟩
  dsimp only
  rw [wp_bind]
  refine wp_advance h₂ fun c₃ h₃ ht₃ => ?_
  dsimp only
  rw [wp_bind]
  have he : c.takeover.controlEpoch + 1 = c₃.takeover.controlEpoch := by rw [ht₃, ht₂]; rfl
  refine wp_mono (wp_cleanup (wp_mono (wp_clearPending hd h₃ he) fun r c' hr _ => hr)) ?_
  rintro _ c₄ ⟨clearNotes, rfl, ht₄, h₄, hc₄⟩
  dsimp only
  rw [wp_bind]
  refine wp_perform (by simp) fun g₅ hy₅ hw₅ e => ⟨hw₅, ?_⟩
  dsimp only [Locked.attempt, markEpoch_ok]
  rw [wp_bind]
  have hc₅ := hy₅.cleared hc₄
  have h₅ : Synced ⟨c₄.takeover, g₅⟩ := h₄.trans hy₅.epoch.symm
  refine wp_perform (by simp) fun g₆ hy₆ hw₆ e => ?_
  have hc₆ : Cleared g₆ := hy₆.cleared hc₅
  have h₆ : c₄.takeover.controlEpoch = g₆.controlEpoch := h₅.trans hy₆.epoch.symm
  simp only [Locked.post_bind, Locked.post_modify, Locked.post_get]
  refine post_onTimeline fun r timeline => ?_
  cases r with
  | error err => exact ⟨fun _ => hc₆, h₆, (by simp)⟩
  | ok faultTimeNs =>
    exact ⟨fun _ => hc₆, wp_report fun _ g hy => ⟨h₆.trans hy.epoch.symm, fun _ => rfl⟩⟩

/-- `except Exception as error: self._fault(error)` -/
theorem wp_exceptFault (hd : Drives p w gw step) {q : Program RtcSection Rtc Unit}
    (h : wp (worldOutline p w) .controller (fun _ c' => Synced c') q c) :
    wp (worldOutline p w) .controller (fun _ c' => Synced c') (exceptException q (fault gw)) c := by
  refine wp_exceptException (E := Synced) (fun _ _ h => h)
    (fun f c' h => wp_mono (wp_fault hd h) fun _ _ hr => hr.1) (wp_mono h fun r c' hr => ?_)
  cases r <;> exact hr

/-- A call that opens a lease is made while the policy is about to command the arms. -/
theorem wp_openCall {q : Rtc.Program α} (hs : c.takeover.state = .resumePending) (h : Synced c)
    (hq : wp (outline p w False) .controller
      (fun _ s' => s'.controlEpoch = c.gateway.controlEpoch) q c.gateway) :
    wp (worldOutline p w) .controller (fun _ c' => c'.takeover = c.takeover ∧ Synced c')
      (call q) c := by
  have hopen : ¬ c.takeover.state.Withheld := by
    rw [hs]
    rintro (h | h | h) <;> cases h
  refine wp_mono (wp_call Prog.only_true (fun hw => absurd hw hopen) hq) fun r c' hr => ⟨hr.1, ?_⟩
  rw [Synced, hr.1, hr.2]
  exact h

theorem wp_pollPolicy (hd : Drives p w gw step) (h : Synced c) :
    wp (worldOutline p w) .controller (fun _ c' => Synced c') (pollPolicy gw) c := by
  refine wp_attributes fun g hy => ?_
  have h₁ : Synced ⟨c.takeover, g⟩ := h.trans hy.epoch.symm
  by_cases hs : c.takeover.state ≠ .resumePending
  · rw [if_pos hs]
    exact h₁
  rw [if_neg hs]
  cases c.takeover.episodeId with
  | none => exact h₁
  | some episodeId =>
    dsimp only
    rw [wp_bind]
    refine wp_mono (wp_exceptFault hd ?_) fun r c' hr => ?_
    · rw [wp_bind]
      refine wp_mono (wp_openCall (not_not.1 hs) h₁ (hd.policyReady _ _ _)) fun r c₂ hr => ?_
      obtain ⟨ht₂, h₂⟩ := hr
      match r with
      | .error f => exact h₂
      | .ok false => exact h₂
      | .ok true =>
        dsimp only
        rw [if_pos rfl, wp_bind]
        refine wp_perform (by simp) fun g₃ hy₃ hw₃ e => ?_
        have h₃ : c₂.takeover.controlEpoch = g₃.controlEpoch := h₂.trans hy₃.epoch.symm
        simp only [Locked.post_bind, Locked.post_get]
        refine post_onTimeline fun r timeline => ?_
        cases r with
        | error err => exact ⟨hw₃, h₃⟩
        | ok u =>
          refine ⟨?_, wp_report fun _ g hy => h₃.trans hy.epoch.symm⟩
          rintro (h | h | h) <;> cases h
    · cases r with
      | error f => exact hr
      | ok u => exact wp_attributes fun g hy => hr.trans hy.epoch.symm

/-- Ask for the first response of a lease. -/
theorem wp_prepare (hd : Drives p w gw step) {episodeId : String} {e : ℕ}
    (hs : c.takeover.state = .resumePending) (h : Synced c) :
    wp (worldOutline p w) .controller (fun _ c' => Synced c')
      (exceptException (do
        call (gw.preparePolicy episodeId e)
        let _ ← pollPolicy gw) (fault gw)) c := by
  refine wp_exceptFault hd ?_
  rw [wp_bind]
  refine wp_mono (wp_openCall hs h (hd.preparePolicy _ _ _)) fun r c₂ hr => ?_
  cases r with
  | error f => exact hr.2
  | ok u =>
    dsimp only
    rw [wp_bind]
    refine wp_mono (wp_pollPolicy hd hr.2) fun r c₃ hr => ?_
    cases r <;> exact hr

theorem wp_startEpisode (hd : Drives p w gw step) (h : Synced c) {started : RecordingStarted} :
    wp (worldOutline p w) .controller (fun _ c' => Synced c') (startEpisode gw started) c := by
  rw [startEpisode, wp_bind]
  refine wp_perform (by simp) fun g hy hw e => ?_
  have h₁ : c.takeover.controlEpoch = g.controlEpoch := h.trans hy.epoch.symm
  rw [Locked.post_bind, Locked.post_get]
  dsimp only
  rw [Locked.post_ite]
  refine ⟨fun _ => ⟨hw, h₁⟩, fun hidle => ?_⟩
  have hc : Cleared g := hw (.inl (not_not.1 hidle))
  simp only [Locked.post_bind, Locked.post_modify]
  refine post_onTimeline fun r timeline => ?_
  cases r with
  | error err => exact ⟨fun _ => hc, h₁⟩
  | ok u =>
    refine ⟨fun _ => hc, wp_attributes fun g hy => wp_prepare hd rfl (h₁.trans hy.epoch.symm)⟩

theorem wp_pollRuntime (hd : Drives p w gw step) (h : Synced c) :
    wp (worldOutline p w) .controller (fun _ c' => Synced c') (pollRuntime gw) c := by
  refine wp_attributes fun g hy => ?_
  have h₁ : Synced ⟨c.takeover, g⟩ := h.trans hy.epoch.symm
  cases c.takeover.safetyFailure with
  | some failure => exact h₁
  | none =>
    dsimp only
    split_ifs
    · exact h₁
    rw [wp_bind]
    refine wp_mono (wp_call hd.takeFault_closing (fun _ _ hl => hl) (hd.takeFault _))
      fun r c₂ hr => ?_
    have h₂ : Synced c₂ := by
      rw [Synced, hr.1, hr.2]
      exact h₁
    match r with
    | .error f => exact h₂
    | .ok none => exact wp_pollPolicy hd h₂
    | .ok (some f) =>
      dsimp only
      rw [wp_bind]
      refine wp_mono (wp_fault hd h₂) fun r c₃ hr => ?_
      cases r with
      | error f => exact hr.1
      | ok u => exact wp_attributes fun g hy => hr.1.trans hy.epoch.symm

/-- After the gateway was released, the lease is cleared. -/
theorem wp_release (hd : Drives p w gw step) (h : Synced c) :
    wp (worldOutline p w) .controller (fun r c' => Synced c' ∧ (r = .ok () → Cleared c'.gateway))
      (release gw) c := by
  refine wp_attributes fun g hy => ?_
  have h₁ : Synced ⟨c.takeover, g⟩ := h.trans hy.epoch.symm
  rw [wp_bind]
  refine wp_mono (wp_closeGate hd h₁) fun r c₂ hr => ?_
  obtain ⟨ht₂, h₂⟩ := hr
  cases r with
  | error f => exact ⟨h₂, (by simp)⟩
  | ok u =>
    dsimp only
    rw [wp_bind]
    refine wp_advance h₂ fun c₃ h₃ ht₃ => ?_
    dsimp only
    have he : c.takeover.controlEpoch + 1 = c₃.takeover.controlEpoch := by rw [ht₃, ht₂]; rfl
    rw [wp_bind]
    refine wp_mono (wp_clearPending hd h₃ he) fun r c₄ hr => ?_
    obtain ⟨ht₄, h₄, hc₄⟩ := hr
    cases r with
    | error f => exact ⟨h₄, (by simp)⟩
    | ok u =>
      refine wp_perform (by simp) fun g₅ hy₅ hw₅ e => ?_
      have h₅ : Synced ⟨c₄.takeover, g₅⟩ := h₄.trans hy₅.epoch.symm
      exact Locked.post_call ⟨hw₅, h₅, fun _ => hy₅.cleared hc₄⟩ fun _ => ⟨hw₅, h₅, (by simp)⟩

theorem wp_takeover (hd : Drives p w gw step) (h : Synced c) {monotonicTimeNs : ℤ} :
    wp (worldOutline p w) .controller (fun _ c' => Synced c') (takeover gw monotonicTimeNs) c := by
  have hpending : ∀ g : Rtc, TakeoverState.handoverPending.Withheld → Cleared g := by
    rintro g (h | h | h) <;> cases h
  rw [takeover, wp_bind]
  refine wp_perform (by simp) fun g hy hw e => ?_
  have h₁ : c.takeover.controlEpoch = g.controlEpoch := h.trans hy.epoch.symm
  simp only [Locked.post_bind, Locked.post_modify, Locked.post_get]
  refine post_onTimeline fun r timeline => ?_
  cases r with
  | error err => exact ⟨hpending g, h₁⟩
  | ok interventionId =>
    refine ⟨hpending g, ?_⟩
    refine wp_exceptFault hd ?_
    rw [wp_bind]
    refine wp_mono (wp_release hd h₁) fun r c₂ hr => ?_
    obtain ⟨h₂, hc₂⟩ := hr
    cases r with
    | error f => exact h₂
    | ok u =>
      dsimp only
      rw [wp_bind]
      refine wp_perform (by simp) fun g₃ hy₃ hw₃ e => ?_
      have h₃ : c₂.takeover.controlEpoch = g₃.controlEpoch := h₂.trans hy₃.epoch.symm
      have hc₃ : Cleared g₃ := hy₃.cleared (hc₂ rfl)
      simp only [Locked.post_bind, Locked.post_get]
      refine post_onTimeline fun r timeline => ?_
      cases r with
      | error err => exact ⟨hw₃, h₃⟩
      | ok u => exact ⟨fun _ => hc₃, wp_report fun _ g hy => h₃.trans hy.epoch.symm⟩

theorem wp_resume (hd : Drives p w gw step) (h : Synced c) {monotonicTimeNs : ℤ} :
    wp (worldOutline p w) .controller (fun _ c' => Synced c') (resume gw monotonicTimeNs) c := by
  refine wp_attributes fun g hy => ?_
  have h₁ : Synced ⟨c.takeover, g⟩ := h.trans hy.epoch.symm
  cases c.takeover.episodeId with
  | none => exact h₁
  | some episodeId =>
    dsimp only
    rw [wp_bind]
    refine wp_perform (by simp) fun g₂ hy₂ hw₂ e => ?_
    have h₂ : c.takeover.controlEpoch = g₂.controlEpoch := h₁.trans hy₂.epoch.symm
    have hpending : TakeoverState.resumePending.Withheld → Cleared g₂ := by
      rintro (h | h | h) <;> cases h
    simp only [Locked.post_bind, Locked.post_modify, Locked.post_get]
    refine post_onTimeline fun r timeline => ?_
    cases r with
    | error err => exact ⟨hpending, h₂⟩
    | ok u => exact ⟨hpending, wp_prepare hd rfl h₂⟩

theorem wp_toggleOwnership (hd : Drives p w gw step) (h : Synced c) {monotonicTimeNs : ℤ} :
    wp (worldOutline p w) .controller (fun _ c' => Synced c')
      (toggleOwnership gw monotonicTimeNs) c := by
  refine wp_attributes fun g hy => ?_
  have h₁ : Synced ⟨c.takeover, g⟩ := h.trans hy.epoch.symm
  cases c.takeover.state with
  | modelControl => exact wp_takeover hd h₁
  | humanActive => exact wp_resume hd h₁
  | idle | handoverPending | resumePending | faultHold =>
    exact wp_report fun _ g hy => h₁.trans hy.epoch.symm

/-- The end of `stop_episode`. -/
theorem wp_stopped {e : ℕ} {stopping : RecordingStopping} (h : Synced c)
    (hc : Cleared c.gateway ∨ c.takeover.state = .faultHold) :
    wp (worldOutline p w) .controller (fun _ c' => Synced c') (do
      let failure ← perform .own do
        onTimeline (AuthorityTimeline.finishEpisode stopping.monotonicTimeNs)
        let t ← .get
        .modify stopped
        pure t.safetyFailure
      match failure with
      | some failure => .raise ⟨failure, e⟩
      | none => pure ()) c := by
  rw [wp_bind]
  refine wp_perform (by simp) fun g hy hw env => ?_
  have h₁ : c.takeover.controlEpoch = g.controlEpoch := h.trans hy.epoch.symm
  have hc₁ : Cleared g := hc.elim hy.cleared fun hs => hw (.inr (.inr hs))
  simp only [Locked.post_bind, Locked.post_get, Locked.post_modify, Locked.post_pure]
  refine post_onTimeline fun r timeline => ?_
  cases r with
  | error err => exact ⟨fun _ => hc₁, h₁⟩
  | ok u =>
    refine ⟨fun _ => hc₁, ?_⟩
    cases hf : c.takeover.safetyFailure <;> simp only [timed_safetyFailure, hf, markEpoch_ok] <;>
      exact h₁

theorem wp_stopEpisode (hd : Drives p w gw step) (h : Synced c) {stopping : RecordingStopping} :
    wp (worldOutline p w) .controller (fun _ c' => Synced c') (stopEpisode gw stopping) c := by
  refine wp_attributes fun g hy => ?_
  have h₁ : Synced ⟨c.takeover, g⟩ := h.trans hy.epoch.symm
  by_cases hidle : c.takeover.state = .idle
  · rw [if_pos hidle]
    exact h₁
  rw [if_neg hidle]
  by_cases hs : c.takeover.state ≠ .faultHold
  · rw [if_pos hs, wp_bind]
    refine wp_mono (wp_exceptException (E := Synced)
      (Q := fun r c' => Synced c' ∧
        (r = .ok () → Cleared c'.gateway ∨ c'.takeover.state = .faultHold))
      (fun _ _ h => ⟨h, (by simp)⟩) (fun f c' h => ?_) ?_) fun r c₂ hr => ?_
    · exact wp_mono (wp_fault hd h) fun _ _ hr => ⟨hr.1, fun h => .inr (hr.2 h)⟩
    · refine wp_mono (wp_release hd h₁) fun r c₂ hr => ?_
      cases r with
      | ok u => exact ⟨hr.1, fun h => .inl (hr.2 h)⟩
      | error f => exact hr.1
    · cases r with
      | error f => exact hr.1
      | ok u => exact wp_stopped hr.1 (hr.2 rfl)
  · rw [if_neg hs]
    exact wp_stopped h₁ (.inr (not_not.1 hs))

end Operations

/-- The other threads leave the controller alone. -/
theorem wp_other {t : Role} {q : Rtc.Program α} {Q : Except Failure α → Rtc → Prop}
    (ht : t ≠ .controller) (h : wp (outline p w False) t Q q c.gateway) :
    wp (worldOutline p w) t (fun _ c' => True ∧ ∃ r, Q r c'.gateway) (call q) c := by
  have h' : wp (worldOutline p w) t (fun r c' => True ∧ Q r c'.gateway) (call q) c := by
    refine wp_embed (P := outline p w False) (A := fun _ => True) ?_ ?_ ?_ ?_ ?_ ?_
      Prog.only_true trivial h
    · intro s s' _ hr _
      refine ⟨trivial, ?_⟩
      cases t with
      | controller => exact absurd rfl ht
      | scheduler => exact hr
      | policy => trivial
    · exact fun _ hi => hi.1
    · exact fun _ _ hp => hp
    · exact fun _ _ => Rtc.admits_free
    · exact fun _ => ⟨trivial, rfl⟩
    · intro s l r g _ _ hi _ hg hguar
      have hy := hguar.2.2.2 ht
      exact ⟨⟨hg, fun hw => hy.cleared (hi.2 hw)⟩, hguar.1, hguar.2.2.1, fun _ => ⟨rfl, hy⟩⟩
  exact wp_mono h' fun r c' hr => ⟨hr.1, r, hr.2⟩

/-! ### The system -/

/-- What the threads do. -/
inductive Op
  | startEpisode (started : RecordingStarted)
  | pollPolicy
  | pollRuntime
  | toggleOwnership (monotonicTimeNs : ℤ)
  | stopEpisode (stopping : RecordingStopping)
  | step
  | complete (future : ℕ) (result : Except PyError PolicyResult)

/-- The controller, the scheduler's thread, and the policy. -/
def system (gw : CommandGateway RtcSection Rtc) (step : Rtc.Program Unit) :
    System Role Op (WorldSection RtcSection) Env (World Rtc) Failure where
  op
    | .controller, .startEpisode started => startEpisode gw started
    | .controller, .pollPolicy => do
      let _ ← pollPolicy gw
    | .controller, .pollRuntime => do
      let _ ← pollRuntime gw
    | .controller, .toggleOwnership monotonicTimeNs => toggleOwnership gw monotonicTimeNs
    | .controller, .stopEpisode stopping => stopEpisode gw stopping
    | .scheduler, .step => call step
    | .policy, .complete future result => call (Rtc.complete future result)
    | _, _ => pure ()

/-- A controller and a scheduler as constructed. -/
def init (p : RtcParameters) : World Rtc := ⟨{}, Rtc.init p⟩

section Sound

variable {gw : CommandGateway RtcSection Rtc} {step : Rtc.Program Unit}

theorem wp_ignore {q : Program RtcSection Rtc α} {Q : World Rtc → Prop} {t : Role}
    (h : wp (worldOutline p w) t (fun _ c' => Q c') q c) :
    wp (worldOutline p w) t (fun _ c' => Q c') (do let _ ← q) c := by
  rw [wp_bind]
  refine wp_mono h fun r c' hr => ?_
  cases r <;> exact hr

/-- The outline is sound for a controller of a scheduler. -/
theorem sound (hd : Drives p w gw step) : (worldOutline p w).Sound (system gw step) where
  refl := fun t c => by
    cases t with
    | controller => exact ⟨rfl, Yields.refl⟩
    | scheduler => exact Interferes.refl
    | policy => trivial
  trans := fun t {a b c} h h' => by
    cases t with
    | controller => exact ⟨h'.1.trans h.1, Yields.trans h.2 h'.2⟩
    | scheduler => exact Interferes.trans h h'
    | policy => trivial
  compat := fun {t t'} {l s r s'} hne _ _ _ hg => by
    cases t' with
    | controller => exact hg.2.2 hne
    | scheduler => exact hg.2.1 hne
    | policy => trivial
  idle_stable := fun {t s s'} hi hr => by
    cases t with
    | controller =>
      have hsync : s.takeover.controlEpoch = s.gateway.controlEpoch := hi
      show s'.takeover.controlEpoch = s'.gateway.controlEpoch
      rw [hr.1, hr.2.epoch, hsync]
    | scheduler => exact Interferes.good hr hi
    | policy => trivial
  op := fun t o s _ hidle _ => by
    cases t with
    | controller =>
      cases o with
      | startEpisode started => exact wp_startEpisode hd hidle
      | pollPolicy => exact wp_ignore (wp_pollPolicy hd hidle)
      | pollRuntime => exact wp_ignore (wp_pollRuntime hd hidle)
      | toggleOwnership monotonicTimeNs => exact wp_toggleOwnership hd hidle
      | stopEpisode stopping => exact wp_stopEpisode hd hidle
      | step | complete => exact hidle
    | scheduler =>
      cases o with
      | step =>
        refine wp_mono (wp_other (by simp) (hd.step _ hidle)) fun _ _ hr => ?_
        obtain ⟨-, -, hg⟩ := hr
        exact hg
      | _ => exact hidle
    | policy =>
      cases o with
      | complete future result =>
        exact wp_mono (wp_other (by simp) Rtc.wp_complete) fun _ _ _ => trivial
      | _ => trivial

end Sound

/-! ### Command authority -/

/-- The policy commands the arms only while the controller lets it. -/
structure CommandAuthority (S : System Role Op (WorldSection RtcSection) Env (World Rtc) Failure)
    (c : Config Role (WorldSection RtcSection) Env (World Rtc) Failure) : Prop where
  /-- While the policy does not command the arms, the gate is closed, the queue is empty and no
  request is pending. -/
  cleared : c.shared.takeover.state.Withheld → Cleared c.shared.gateway
  /-- Whenever no operation of the controller is running, the control epochs agree. -/
  synced : c.prog .controller = none →
    c.shared.takeover.controlEpoch = c.shared.gateway.controlEpoch
  /-- A command is handed to the sink only while the policy commands the arms and the gate, which
  was opened since it was closed last, is open. -/
  offered : ∀ t l e r c', S.Step (fun _ _ _ _ => True) c (.sect t (.gateway l) e r) c' →
    Rtc.Offers l c.shared.gateway c'.shared.gateway → ¬ c.shared.takeover.state.Withheld ∧
      c.shared.gateway.gateOpen = true ∧ Rtc.Opened c.shared.gateway.log
  /-- The same holds of every command that was published. -/
  published : ∀ (t : ℕ) (q : QueuedRtcAction) (earlier : List RtcEvent),
    (.published t q :: earlier) <:+ c.shared.gateway.log → Rtc.Opened earlier
  /-- The gate is opened only where `policy_ready` accepts the first response of a lease. -/
  opened : ∀ t l e r c', S.Step (fun _ _ _ _ => True) c (.sect t l e r) c' →
    c.shared.gateway.gateOpen = false → c'.shared.gateway.gateOpen = true →
      t = .controller ∧ ∃ candidate, l = .gateway (.splice candidate)

theorem idle_init (t : Role) : (worldOutline p w).idle t (init p) := by
  cases t with
  | controller => rfl
  | scheduler => exact Good.of_closed rfl
  | policy => trivial

theorem commandAuthority {gw : CommandGateway RtcSection Rtc} {step : Rtc.Program Unit}
    {c : Config Role (WorldSection RtcSection) Env (World Rtc) Failure} (hd : Drives p w gw step)
    (hc : (system gw step).Reachable (fun _ _ _ _ => True) (.init (init p)) c) :
    CommandAuthority (system gw step) c := by
  have h₀ : (worldOutline p w).inv (init p) := ⟨Rtc.inv_init, fun _ => ⟨rfl, rfl, rfl⟩⟩
  obtain ⟨hi, hw⟩ := (sound hd).inv h₀ idle_init hc
  refine ⟨hw, fun hn => (sound hd).idle h₀ idle_init hc hn, fun t l e r c' hs ho => ?_,
    fun t q earlier hs => ?_, fun t l e r c' hs hg hg' => ?_⟩
  · have hgate := ((sound hd).guar h₀ idle_init hc hs).1.offers ho
    refine ⟨fun hh => ?_, hgate, hi.opened hgate⟩
    have := (hw hh).gateOpen
    rw [hgate] at this
    cases this
  · obtain ⟨a, ha⟩ := hi.history.event hs
    exact ha.opened
  · obtain ⟨hchange, -, hyield⟩ := (sound hd).guar h₀ idle_init hc hs
    refine ⟨?_, ?_⟩
    · by_contra ht
      have := (hyield ht).2.gate hg'
      rw [hg] at this
      cases this
    · cases l with
      | gateway gl =>
        obtain ⟨candidate, rfl⟩ := hchange.opens hg hg'
        exact ⟨candidate, rfl⟩
      | own | gravity | status =>
        rw [hchange.2, hg] at hg'
        cases hg'

end Takeover

/-- Command authority is safe with either scheduler. -/
theorem command_authority :
    (∀ (p : RtcParameters) c,
      (Takeover.system (Rtc.gateway p) (Rtc.step p)).Reachable (fun _ _ _ _ => True)
        (.init (Takeover.init p)) c →
      Takeover.CommandAuthority (Takeover.system (Rtc.gateway p) (Rtc.step p)) c) ∧
    (∀ (p : ExpoParameters) c,
      (Takeover.system (Expo.gateway p) (Expo.step p)).Reachable (fun _ _ _ _ => True)
        (.init (Takeover.init p.toRtcParameters)) c →
      Takeover.CommandAuthority (Takeover.system (Expo.gateway p) (Expo.step p)) c) :=
  ⟨fun p _ hc => Takeover.commandAuthority (Rtc.drives p) hc,
    fun p _ hc => Takeover.commandAuthority (Expo.drives p) hc⟩

namespace Takeover.Station

/-- Begin an operation and execute `n` of its sections. -/
def run (t : Role) (o : Op) (n : ℕ) (e : Env) : List (Move Role Op Env) := Move.run t o n e

theorem episode_named : "episode" ≠ "" := by decide

theorem start_time : (0 : ℤ) ≤ 0 := le_rfl

/-- An Episode in which the policy publishes a command before the human takes over; `release` is
the number of sections of the takeover. -/
def handover (ticket : InferenceTicket) (release : ℕ) : List (Move Role Op Env) :=
  run .controller (.startEpisode ⟨"episode", 0, episode_named, start_time⟩) 6 {} ++
    run .policy (.complete 0 (.ok (.ticket ticket))) 1 {} ++ run .controller .pollPolicy 9 {} ++
      run .scheduler .step 3 {} ++ run .controller (.toggleOwnership 0) release {}

/-- The human commands the arms, in the second control epoch and after a command of the policy. -/
def HandedOver (c : World Rtc) : Prop :=
  c.takeover.state = .humanActive ∧ c.takeover.controlEpoch = 1 ∧
    ∃ x ∈ c.gateway.log, ∃ q, x = .published 0 q

/-- What shows a handover. -/
def handedOver (c : World Rtc) : Bool :=
  decide (c.takeover.state = .humanActive ∧ c.takeover.controlEpoch = 1) &&
    c.gateway.log.any fun
      | .published 0 _ => true
      | _ => false

theorem handedOver_spec {c : World Rtc} (h : handedOver c = true) : HandedOver c := by
  simp only [handedOver, Bool.and_eq_true, decide_eq_true_eq, List.any_eq_true] at h
  obtain ⟨⟨hs, he⟩, x, hx, hp⟩ := h
  refine ⟨hs, he, x, hx, ?_⟩
  split at hp
  · exact ⟨_, rfl⟩
  · cases hp

theorem shows (gw : CommandGateway RtcSection Rtc) (step : Rtc.Program Unit) (p : RtcParameters)
    (schedule : List (Move Role Op Env))
    (h : ((system gw step).play (fun _ _ _ _ => true) (.init (init p)) schedule).any
      (fun c => handedOver c.shared) = true) :
    ∃ c, (system gw step).Reachable (fun _ _ _ _ => True) (.init (init p)) c ∧
      HandedOver c.shared := by
  obtain ⟨c, hc, ht⟩ :=
    System.play_shows (fun _ _ _ => trivial) (fun _ _ _ _ _ => trivial) _ h
  exact ⟨c, hc, handedOver_spec ht⟩

end Takeover.Station

/-- A human takes over from either scheduler. -/
theorem command_authority_handover :
    (∃ c, (Takeover.system (Rtc.gateway Rtc.Station.three)
        (Rtc.step Rtc.Station.three)).Reachable (fun _ _ _ _ => True)
          (.init (Takeover.init Rtc.Station.three)) c ∧
      Takeover.Station.HandedOver c.shared ∧ Takeover.CommandAuthority
        (Takeover.system (Rtc.gateway Rtc.Station.three) (Rtc.step Rtc.Station.three)) c) ∧
    ∃ c, (Takeover.system (Expo.gateway Expo.Station.parameters)
        (Expo.step Expo.Station.parameters)).Reachable (fun _ _ _ _ => True)
          (.init (Takeover.init Expo.Station.parameters.toRtcParameters)) c ∧
      Takeover.Station.HandedOver c.shared ∧ Takeover.CommandAuthority
        (Takeover.system (Expo.gateway Expo.Station.parameters)
          (Expo.step Expo.Station.parameters)) c := by
  obtain ⟨c, hc, hh⟩ := Takeover.Station.shows (Rtc.gateway Rtc.Station.three)
    (Rtc.step Rtc.Station.three) Rtc.Station.three
    (Takeover.Station.handover (Rtc.Station.ticket 3 (by decide) 0 0) 11) (by decide +kernel)
  obtain ⟨c', hc', hh'⟩ := Takeover.Station.shows (Expo.gateway Expo.Station.parameters)
    (Expo.step Expo.Station.parameters) Expo.Station.parameters.toRtcParameters
    (Takeover.Station.handover (Rtc.Station.ticket 3 (by decide) 0 0) 12) (by decide +kernel)
  exact ⟨⟨c, hc, hh, command_authority.1 _ c hc⟩, c', hc', hh', command_authority.2 _ c' hc'⟩

end DualCollection
