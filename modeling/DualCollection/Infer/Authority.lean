import DualCollection.Infer.Law

/-!
# Safety of the inference controller

Each operation of the controller keeps the outline of the threads around it, so that in every run
the commands of an Episode are accounted for (`infer_commands_accounted`).
-/

namespace DualCollection

open Thread

open Rtc (Cleared Role Closing outline)

open InferEvent (sends records gravityRaised Orderly)

namespace Infer

variable {p : RtcParameters} {w : ℕ} {c c' : InferWorld} {gw : CommandGateway RtcSection Rtc}
  {step : Rtc.Program Unit}

/-! ### The operations of the controller -/

/-- The sections that end a lease prepare none. -/
theorem closing_ne (l : RtcSection) (hl : Closing l) : l ≠ .prepare := by
  rintro rfl
  exact hl

/-- The rule of a call that only ends a lease. -/
theorem wp_endCall {α : Type} {q : Rtc.Program α} {Q : Rtc → Prop} (hstrict : q.Strict)
    (hclosing : q.Only Closing)
    (h : wp (outline p w False) .controller (fun _ s' => Q s') q c.gateway) :
    wp (worldOutline p w) .controller (fun _ c' => Called c c' ∧ Q c'.gateway) (call q) c :=
  wp_call hstrict hclosing closing_ne (fun _ _ hl => hl) h

/-- The arms were released, unless an exception is known to be raised. -/
structure Released (c : InferWorld) (quiet : Prop) : Prop where
  /-- The lease is cleared. -/
  cleared : Cleared c.gateway
  /-- In the control epoch of the controller. -/
  synced : Synced c
  /-- Gravity compensation was asked for last. -/
  gravity : ∃ raised earlier, c.log = .gravity raised :: earlier ∧ (quiet → raised = none)

theorem Released.stable {quiet : Prop} (h : Released c quiet) (hr : Leaves c c') :
    Released c' quiet where
  cleared := hr.gateway.cleared h.cleared
  synced := hr.synced h.synced
  gravity := by
    rw [(hr.closed h.cleared.gateOpen).2]
    exact h.gravity

theorem Released.mono {quiet quiet' : Prop} (h : Released c quiet) (hq : quiet' → quiet) :
    Released c quiet' := by
  obtain ⟨raised, earlier, hlog, hraised⟩ := h.gravity
  exact ⟨h.cleared, h.synced, raised, earlier, hlog, fun h => hraised (hq h)⟩

theorem wp_gravity {Q : Except InferError Unit → InferWorld → Prop} (hcleared : Cleared c.gateway)
    (hsynced : Synced c) (hactive : c.controller.active = true)
    (h : ∀ r c', Released c' (r = .ok ()) → c'.controller = c.controller → Q r c') :
    wp (worldOutline p w) .controller Q gravity c := by
  refine wp_section (by simp) fun c₁ hr hi e => ?_
  rw [← hr.controller] at hactive
  refine ⟨⟨hi.inv, hi.recorded.gravity _, hi.named, hi.inactive, hi.opened, hi.asked,
    fun ha hs hf => ?_⟩, rfl, id,
    h _ _ ⟨hr.gateway.cleared hcleared, hr.synced hsynced, _, _, rfl, fun hq => ?_⟩
      hr.controller⟩
  · rw [show c₁.controller.active = false from ha] at hactive
    cases hactive
  · dsimp only at hq
    cases hraised : e.base.raises .enableGravityCompensation with
    | none => rfl
    | some err =>
      rw [hraised] at hq
      cases hq

/-- After `_close_gate` and `_clear_pending`, gravity compensation is asked for. -/
theorem wp_release (hd : Drives p w gw step) (hr : Records gw step) (hs : Synced c)
    (ha : c.controller.active = true) :
    wp (worldOutline p w) .controller
      (fun r c' => Released c' (r = .ok ()) ∧ c'.controller.active = true)
      (Prog.tryFinally (call (gw.closeGate c.controller.controlEpoch))
        (Prog.tryFinally
          (do
            own (·.advanced)
            call (gw.clearPending (c.controller.controlEpoch + 1)))
          gravity)) c := by
  rw [wp_tryFinally]
  refine wp_mono (wp_endCall (hr.closeGate _) (hd.closeGate_closing _) (hd.closeGate _ _)) ?_
  rintro r c₁ ⟨hc₁, hepoch⟩
  have hs₁ := hc₁.synced hepoch hs
  rw [wp_tryFinally, wp_bind]
  refine wp_own ⟨rfl, rfl, id, id⟩ fun c₂ hr₂ _ => ?_
  dsimp only
  have hk₂ := hr₂.controller.trans hc₁.controller
  refine wp_mono
    (wp_endCall (hr.clearPending _) (hd.clearPending_closing _) (hd.clearPending _ _)) ?_
  rintro r' c₃ ⟨hc₃, hclear⟩
  have hle : c₂.gateway.controlEpoch ≤ c.controller.controlEpoch + 1 := by
    rw [← hr₂.synced hs₁, hk₂]
    exact Nat.le_succ _
  obtain ⟨hepoch₃, hcleared⟩ := hclear hle
  have hk₃ : c₃.controller = c.controller.advanced := by
    rw [hc₃.controller]
    dsimp only
    rw [hc₁.controller]
  have hs₃ : Synced c₃ := by
    rw [Synced, hk₃, hepoch₃]
    rfl
  have ha₃ : c₃.controller.active = true := by
    rw [hk₃]
    exact ha
  -- whatever was raised so far, the lease is cleared when gravity compensation is asked for
  refine wp_gravity hcleared hs₃ ha₃ fun r'' c₄ hreleased hk₄ => ?_
  have ha₄ : c₄.controller.active = true := by rw [hk₄, ha₃]
  cases r'' with
  | ok u =>
    cases r' with
    | ok u' => exact ⟨hreleased.mono fun _ => rfl, ha₄⟩
    | error err => exact ⟨hreleased.mono fun h => (by cases h), ha₄⟩
  | error err => exact ⟨hreleased.mono fun h => (by cases h), ha₄⟩

/-- The `finally` clause of `close`: after gravity compensation was asked for, the Episode ends. -/
theorem wp_finishRecording {Q : Except InferError Unit → InferWorld → Prop}
    (h : Released c (c.controller.stopError = none))
    (hQ : ∀ c', Synced c' → c'.controller.active = false → Q (.ok ()) c') :
    wp (worldOutline p w) .controller Q finishRecording c := by
  refine wp_section (by simp) fun c₁ hr hi e => ?_
  have h₁ := h.stable hr
  obtain ⟨raised, earlier, hlog, hraised⟩ := h₁.gravity
  obtain ⟨hopen₁, hpending₁, -⟩ := h₁.cleared
  refine ⟨⟨hi.inv, hi.recorded.finish hlog, nofun, fun _ => h₁.cleared, fun hg => ?_,
    fun hasked => ?_, fun _ hstop _ => ?_⟩, rfl, id, hQ _ h₁.synced rfl⟩
  · rw [show c₁.gateway.gateOpen = true from hg] at hopen₁
    cases hopen₁
  · obtain ⟨pending, hp, -⟩ := hasked
    rw [show c₁.gateway.pending = some pending from hp] at hpending₁
    cases hpending₁
  · show gravityRaised c₁.log = some none
    rw [hlog, ← hraised (hr.controller ▸ hstop)]
    rfl

/-- `close` leaves the Episode inactive. -/
theorem wp_close (hd : Drives p w gw step) (hr : Records gw step) (hs : Synced c) :
    wp (worldOutline p w) .controller
      (fun _ c' => Synced c' ∧ c'.controller.active = false) (close gw) c := by
  refine wp_attributes fun c₁ hr₁ _ => ?_
  rw [← hr₁.controller]
  cases ha : c₁.controller.active with
  | false => exact ⟨hr₁.synced hs, ha⟩
  | true =>
    rw [if_pos rfl, wp_tryFinally, wp_tryCatch]
    refine wp_mono (wp_release hd hr (hr₁.synced hs) ha) ?_
    rintro r c₂ ⟨hreleased, ha₂⟩
    cases r with
    | ok u => exact wp_finishRecording (hreleased.mono fun _ => rfl) fun _ hs ha => ⟨hs, ha⟩
    | error err =>
      -- the exception is kept before it is raised again
      dsimp only
      rw [wp_bind]
      refine wp_own ⟨rfl, rfl, fun h => (by cases h), id⟩ fun c₃ hr₃ _ => ?_
      obtain ⟨hcleared, hsynced, raised, earlier, hlog, -⟩ :=
        (hreleased.mono False.elim).stable hr₃
      rw [Synced, hr₃.controller] at hsynced
      exact wp_finishRecording ⟨hcleared, hsynced, raised, earlier, hlog, fun h => by cases h⟩
        fun _ hs ha => ⟨hs, ha⟩

/-- The assignments with which `start_episode` begins. -/
theorem wp_begun {started : RecordingStarted} {Q : Except InferError Unit → InferWorld → Prop}
    (ha : c.controller.active = false) (hs : Synced c)
    (h : ∀ c', c'.controller = c.controller.begun started → Cleared c'.gateway → Synced c' →
      Q (.ok ()) c') :
    wp (worldOutline p w) .controller Q (own (·.begun started)) c := by
  refine wp_section (by simp) fun c₁ hr hi e => ?_
  have ha₁ : c₁.controller.active = false := by rw [hr.controller, ha]
  have hnone := hi.finished ha₁
  refine ⟨⟨hi.inv, hi.recorded, fun episodeId he => ?_, nofun, hi.opened, hi.asked, nofun⟩, rfl, id,
    h _ (by rw [hr.controller]) (hi.inactive ha₁) (hr.synced hs)⟩
  rw [hnone] at he
  cases he

/-- `start` begins a record in which no command has failed. -/
theorem wp_startRecording {episodeId : String} {Q : Except InferError Unit → InferWorld → Prop}
    (ha : c.controller.active = true) (hepisode : c.controller.episodeId = episodeId)
    (hcleared : Cleared c.gateway) (hs : Synced c)
    (h : ∀ r c', Synced c' ∧ c'.controller.active = true ∧ Cleared c'.gateway ∧
      (r = .ok () → c'.control.failure = none ∧ c'.control.episodeId ≠ none) → Q r c') :
    wp (worldOutline p w) .controller Q (startRecording episodeId) c := by
  refine wp_section (by simp) fun c₁ hr hi e => ?_
  have ha₁ : c₁.controller.active = true := by rw [hr.controller, ha]
  have hcleared₁ := hr.gateway.cleared hcleared
  by_cases hnone : c₁.control.episodeId = none
  · rw [if_neg (by simpa using hnone)]
    refine ⟨⟨hi.inv, hi.recorded.begun hnone episodeId, fun id hid => ⟨ha₁, ?_⟩, hi.inactive,
      fun _ => nofun, fun _ => ⟨rfl, nofun⟩, fun h => ?_⟩, rfl, fun _ _ => rfl,
      h _ _ ⟨hr.synced hs, ha₁, hcleared₁, fun _ => ⟨rfl, nofun⟩⟩⟩
    · rw [← Option.some.inj hid, ← hepisode, hr.controller]
    · rw [show c₁.controller.active = false from h] at ha₁
      cases ha₁
  · rw [if_pos hnone]
    exact ⟨hi, rfl, id, h _ _ ⟨hr.synced hs, ha₁, hcleared₁, nofun⟩⟩

/-- An exception of `start_episode` closes the Episode, and is raised again. -/
theorem wp_closeRaise (hd : Drives p w gw step) (hr : Records gw step) (hs : Synced c)
    {err : InferError} :
    wp (worldOutline p w) .controller (fun _ c' => Synced c')
      (do close gw; .raise err : Program Unit) c := by
  rw [wp_bind]
  refine wp_mono (wp_close hd hr hs) fun r c' h => ?_
  cases r with
  | ok u => exact h.1
  | error e => exact h.1

theorem wp_startEpisode (hd : Drives p w gw step) (hr : Records gw step) (hs : Synced c)
    {started : RecordingStarted} :
    wp (worldOutline p w) .controller (fun _ c' => Synced c') (startEpisode gw started) c := by
  refine wp_attributes fun c₁ hr₁ _ => ?_
  rw [← hr₁.controller]
  have hs₁ := hr₁.synced hs
  cases ha : c₁.controller.active with
  | true => exact hs₁
  | false =>
    rw [if_neg (by simp), wp_bind]
    refine wp_begun ha hs₁ fun c₂ hk₂ _ hs₂ => ?_
    dsimp only
    rw [wp_tryCatch]
    have ha₂ : c₂.controller.active = true := by rw [hk₂]; rfl
    rw [wp_bind]
    refine wp_mono
      (wp_endCall (hr.clearPending _) (hd.clearPending_closing _) (hd.clearPending _ _)) ?_
    rintro r c₃ ⟨hc₃, hclear⟩
    have hepoch : c₂.gateway.controlEpoch ≤ c₁.controller.controlEpoch := by
      rw [← hs₂, hk₂]
      exact le_rfl
    obtain ⟨hepoch₃, hcleared₃⟩ := hclear hepoch
    have hs₃ : Synced c₃ := by
      rw [Synced, hc₃.controller, hk₂, hepoch₃]
      rfl
    cases r with
    | error err => exact wp_closeRaise hd hr hs₃
    | ok u =>
      dsimp only
      rw [wp_bind]
      refine wp_startRecording (by rw [hc₃.controller, ha₂])
        (by rw [hc₃.controller, hk₂]; rfl) hcleared₃ hs₃ fun r c₄ h₄ => ?_
      cases r with
      | error err => exact wp_closeRaise hd hr h₄.1
      | ok u =>
        obtain ⟨hs₄, ha₄, hcleared₄, hrecording⟩ := h₄
        -- the gate has not been opened, so that no command of the new record has failed
        refine wp_mono (wp_prepare (hr.preparePolicy _ _) (hr.preparePolicy_only _ _) ha₄
          hcleared₄.gateOpen (hrecording rfl) (hd.preparePolicy _ _ _)) ?_
        rintro r c₅ ⟨hc₅, hepoch₅⟩
        have hs₅ := hc₅.synced hepoch₅ hs₄
        cases r with
        | ok u => exact hs₅
        | error err => exact wp_closeRaise hd hr hs₅

/-- After `take_fault() or commands.failure` found nothing, no command has failed. -/
theorem wp_takeFault (hd : Drives p w gw step) (hr : Records gw step) (hs : Synced c) :
    wp (worldOutline p w) .controller (fun r c' => Synced c' ∧ c'.controller = c.controller ∧
      (r = .ok none → c'.control.failure = none ∧
        (c'.controller.active = false → Cleared c'.gateway))) (takeFault gw) c := by
  rw [takeFault, wp_bind]
  refine wp_mono (wp_endCall hr.takeFault hd.takeFault_closing (hd.takeFault _)) ?_
  rintro r c₁ ⟨hc₁, hepoch⟩
  have hs₁ := hc₁.synced hepoch hs
  rcases r with err | fault
  · exact ⟨hs₁, hc₁.controller, fun h => by cases h⟩
  · rcases fault with _ | f
    · dsimp only
      rw [wp_bind]
      refine wp_read (by simp) fun c₂ hr₂ hi _ => ?_
      refine ⟨hr₂.synced hs₁, hr₂.controller.trans hc₁.controller, fun h => ⟨?_, hi.inactive⟩⟩
      cases hf : c₂.control.failure with
      | none => rfl
      | some err =>
        rw [hf] at h
        cases h
    · exact ⟨hs₁, hc₁.controller, fun h => by cases h⟩

/-- `poll` may open the gate, while an Episode lasts. -/
theorem wp_poll (hd : Drives p w gw step) (hr : Records gw step) (hs : Synced c)
    (ha : c.controller.active = true) :
    wp (worldOutline p w) .controller
      (fun _ c' => Synced c' ∧ c'.controller.active = true) (poll gw) c := by
  rw [poll, wp_bind]
  refine wp_mono (wp_takeFault hd hr hs) ?_
  rintro r c₁ ⟨hs₁, hk₁, -⟩
  have ha₁ : c₁.controller.active = true := by rw [hk₁, ha]
  rcases r with err | fault
  · exact ⟨hs₁, ha₁⟩
  · rcases fault with _ | f
    · dsimp only
      refine wp_attributes fun c₂ hr₂ _ => ?_
      have hs₂ := hr₂.synced hs₁
      have ha₂ : c₂.controller.active = true := by rw [hr₂.controller, ha₁]
      split_ifs
      · exact ⟨hs₂, ha₂⟩
      · -- this call opens the gate
        rw [wp_bind]
        refine wp_mono (wp_call (hr.policyReady _ _) (hr.policyReady_only _ _) (fun _ hl => hl)
          (fun h => by rw [ha₂] at h; cases h) (hd.policyReady _ _ _)) ?_
        rintro r c₃ ⟨hc₃, hepoch⟩
        have hs₃ := hc₃.synced hepoch hs₂
        have ha₃ : c₃.controller.active = true := by rw [hc₃.controller, ha₂]
        cases r with
        | error err => exact ⟨hs₃, ha₃⟩
        | ok ready =>
          dsimp only
          rw [wp_bind]
          refine wp_own ⟨rfl, rfl, id, id⟩ fun c₄ hr₄ _ => ?_
          have hs₄ := hr₄.synced hs₃
          rw [Synced, hr₄.controller] at hs₄
          exact ⟨hs₄, ha₃⟩
    · exact ⟨hs₁, ha₁⟩

/-- The trigger is armed once. -/
theorem wp_armRunning (hs : Synced c) (ha : c.controller.active = true) :
    wp (worldOutline p w) .controller
      (fun _ c' => Synced c' ∧ c'.controller.active = true) armRunning c := by
  have hkept : ∀ {c₀ c' : InferWorld}, Leaves c₀ c' → Synced c₀ ∧ c₀.controller.active = true →
      Synced c' ∧ c'.controller.active = true :=
    fun hr h => ⟨hr.synced h.1, by rw [hr.controller]; exact h.2⟩
  rw [armRunning, wp_bind]
  refine wp_read (by simp) fun c₁ hr₁ _ _ => ?_
  have h₁ := hkept hr₁ ⟨hs, ha⟩
  dsimp only
  split_ifs
  · exact h₁
  · rw [wp_bind]
    refine wp_port fun c₂ hr₂ _ r => ?_
    have h₂ := hkept hr₂ h₁
    cases r with
    | error err => exact h₂
    | ok u =>
      dsimp only
      rw [wp_bind]
      refine wp_section (by simp) fun c₃ hr₃ hi _ => ?_
      have h₃ := hkept hr₃ h₂
      refine ⟨hi.armed true, rfl, id, ?_⟩
      exact wp_port fun c₄ hr₄ _ _ => hkept hr₄ h₃

/-- `stop_episode` has told the facts, and nothing more is recorded. -/
structure Told (c : InferWorld) (facts : InferFacts) : Prop where
  /-- The Episode was closed. -/
  active : c.controller.active = false
  /-- Without an exception. -/
  stopError : c.controller.stopError = none
  /-- `facts` -/
  told : c.controller.facts = some facts
  /-- `command_count` -/
  count : facts.commandCount = some c.control.commandCount
  /-- `last_command_monotonic_ns` -/
  last : facts.lastCommandMonotonicNs = c.control.lastCommandMonotonicNs

theorem Told.stable {facts : InferFacts} (h : Told c facts) (hg : c.gateway.gateOpen = false)
    (hr : Leaves c c') : Told c' facts := by
  obtain ⟨hactive, hstop, hfacts, hcount, hlast⟩ := h
  rw [← hr.controller] at hactive hstop hfacts
  rw [← (hr.closed hg).1] at hcount hlast
  exact ⟨hactive, hstop, hfacts, hcount, hlast⟩

theorem wp_tellStopped {stopping : RecordingStopping}
    {Q : Except InferError Unit → InferWorld → Prop} (ha : c.controller.active = false)
    (hstop : c.controller.stopError = none) (hs : Synced c)
    (h : ∀ r c', Synced c' → (r = .ok () →
      c'.gateway.gateOpen = false ∧ ∃ facts, Told c' facts) → Q r c') :
    wp (worldOutline p w) .controller Q (tellStopped stopping) c := by
  refine wp_section (by simp) fun c₁ hr hi e => ?_
  rw [← hr.controller] at ha hstop
  have hs₁ := hr.synced hs
  cases hfacts : c₁.controller.facts with
  | none => exact ⟨hi, rfl, id, h _ _ hs₁ nofun⟩
  | some facts =>
    refine ⟨hi.own ⟨rfl, rfl, id, fun _ => by rw [hfacts]; exact nofun⟩, rfl, id,
      h _ _ hs₁ fun _ => ⟨(hi.inactive ha).gateOpen, _, ha, hstop, rfl, rfl, rfl⟩⟩

theorem wp_tellRequested (hs : Synced c)
    (h : c.gateway.gateOpen = false ∧ ∃ facts, Told c facts) :
    wp (worldOutline p w) .controller (fun _ c' => Synced c') tellRequested c := by
  obtain ⟨hg, facts, htold⟩ := h
  refine wp_section (by simp) fun c₁ hr hi e => ?_
  obtain ⟨ha, hstop, hfacts, hcount, hlast⟩ := htold.stable hg hr
  have hs₁ := hr.synced hs
  rw [hfacts]
  dsimp only
  have hreleased := hi.released ha hstop (by rw [hfacts]; exact nofun)
  have hown := hi.own (k := c₁.controller.told (some
    { facts with recordingStopRequestedMonotonicNs := some e.base.clockNs }))
    ⟨rfl, rfl, id, fun _ => by rw [hfacts]; exact nofun⟩
  exact ⟨⟨hown.inv, hi.recorded.stopped (hi.finished ha) hreleased hcount hlast, hown.named,
    hown.inactive, hown.opened, hown.asked, fun _ _ _ => hreleased⟩, rfl, id, hs₁⟩

/-- A label is passed on after the Episode was closed. -/
theorem wp_label (hd : Drives p w gw step) (hr : Records gw step) (hs : Synced c)
    {signal : TriggerSignal} :
    wp (worldOutline p w) .controller (fun _ c' => Synced c') (label gw signal) c := by
  rw [label]
  cases labelSource signal.event with
  | none => exact hs
  | some source =>
    dsimp only
    rw [wp_bind]
    refine wp_own ⟨rfl, rfl, id, by simp⟩ fun c₁ hr₁ _ => ?_
    have hs₁ := hr₁.synced hs
    rw [Synced, hr₁.controller] at hs₁
    dsimp only
    rw [wp_bind]
    refine wp_mono (wp_close hd hr hs₁) ?_
    rintro r c₂ ⟨hs₂, ha₂⟩
    cases r with
    | error err => exact hs₂
    | ok u =>
      dsimp only
      rw [wp_bind]
      refine wp_mono (wp_takeFault hd hr hs₂) ?_
      rintro r c₃ ⟨hs₃, hk₃, hfailure⟩
      rcases r with err | fault
      · exact hs₃
      · rcases fault with _ | fault
        · dsimp only
          rw [wp_bind]
          -- the Episode is closed, so that the record stays as it was found
          obtain ⟨hnone, hcleared⟩ := hfailure rfl
          have hcleared := hcleared (by rw [hk₃, ha₂])
          refine wp_section (by simp) fun c₄ hr₄ hi e => ?_
          have ha₄ : c₄.controller.active = false := by rw [hr₄.controller, hk₃, ha₂]
          have hfailure₄ : c₄.control.failure = none := by
            rw [(hr₄.closed hcleared.gateOpen).1, hnone]
          refine ⟨⟨hi.inv, hi.recorded.labelled (hi.finished ha₄) hfailure₄ _, hi.named,
            hi.inactive, hi.opened, hi.asked, hi.released⟩, rfl, id, hr₄.synced hs₃⟩
        · exact hs₃

theorem wp_triggerWait {Q : Except InferError (Option TriggerSignal) → InferWorld → Prop}
    (h : ∀ c', Leaves c c' → ∀ r, Q r c') :
    wp (worldOutline p w) .controller Q triggerWait c := by
  refine wp_section (by simp) fun c₁ hr hi e => ?_
  cases e.trigger with
  | none => exact ⟨hi, rfl, id, h c₁ hr _⟩
  | some err => exact ⟨hi, rfl, id, h c₁ hr _⟩

theorem wp_wait (hd : Drives p w gw step) (hr : Records gw step) (hs : Synced c) :
    wp (worldOutline p w) .controller (fun _ c' => Synced c') (wait gw) c := by
  refine wp_attributes fun c₁ hr₁ _ => ?_
  rw [← hr₁.controller]
  have hs₁ := hr₁.synced hs
  cases ha : c₁.controller.active with
  | false =>
    rw [if_neg (by simp), wp_bind]
    refine wp_triggerWait fun c₂ hr₂ r => ?_
    cases r with
    | error err => exact hr₂.synced hs₁
    | ok signal => exact hr₂.synced hs₁
  | true =>
    rw [if_pos rfl, wp_bind]
    refine wp_mono (wp_poll hd hr hs₁ ha) ?_
    rintro r c₂ ⟨hs₂, ha₂⟩
    rcases r with err | ready
    · exact hs₂
    dsimp only
    cases ready with
    | false =>
      rw [if_neg (by simp), wp_bind]
      refine wp_triggerWait fun c₃ hr₃ r => ?_
      cases r with
      | error err => exact hr₃.synced hs₂
      | ok signal => exact hr₃.synced hs₂
    | true =>
      rw [if_pos rfl, wp_bind]
      refine wp_mono (wp_armRunning hs₂ ha₂) ?_
      rintro r c₃ ⟨hs₃, ha₃⟩
      cases r with
      | error err => exact hs₃
      | ok u =>
        dsimp only
        rw [wp_bind]
        refine wp_triggerWait fun c₄ hr₄ r => ?_
        have hs₄ := hr₄.synced hs₃
        cases r with
        | error err => exact hs₄
        | ok signal =>
          dsimp only
          rw [wp_bind]
          refine wp_mono (wp_poll hd hr hs₄ (by rw [hr₄.controller, ha₃])) ?_
          rintro r c₅ ⟨hs₅, -⟩
          cases r with
          | error err => exact hs₅
          | ok ready =>
            cases signal with
            | none => exact hs₅
            | some signal =>
              dsimp only
              rw [wp_bind]
              refine wp_mono (wp_label hd hr hs₅) fun r c₆ hs₆ => ?_
              cases r with
              | error err => exact hs₆
              | ok labelled => exact hs₆

/-- What `stop_episode` has told is what was recorded. -/
theorem wp_stopEpisode (hd : Drives p w gw step) (hr : Records gw step) (hs : Synced c)
    {stopping : RecordingStopping} :
    wp (worldOutline p w) .controller (fun _ c' => Synced c') (stopEpisode gw stopping) c := by
  rw [stopEpisode, wp_bind]
  refine wp_mono (wp_close hd hr hs) ?_
  rintro r c₁ ⟨hs₁, ha₁⟩
  cases r with
  | error err => exact hs₁
  | ok u =>
    refine wp_attributes fun c₂ hr₂ _ => ?_
    rw [← hr₂.controller]
    have hs₂ := hr₂.synced hs₁
    cases hstop : c₂.controller.stopError with
    | some err => exact hs₂
    | none =>
      dsimp only
      rw [wp_bind]
      refine wp_tellStopped (by rw [hr₂.controller, ha₁]) hstop hs₂ fun r c₃ hs₃ h₃ => ?_
      cases r with
      | error err => exact hs₃
      | ok u =>
        dsimp only
        rw [wp_bind]
        -- while the controller sleeps, nothing is recorded
        refine wp_port fun c₄ hr₄ _ r => ?_
        cases r with
        | error err => exact hr₄.synced hs₃
        | ok u =>
          obtain ⟨hg₃, facts, htold⟩ := h₃ rfl
          exact wp_tellRequested (hr₄.synced hs₃)
            ⟨hr₄.gateway.closed hg₃, facts, htold.stable hg₃ hr₄⟩

/-! ### The system -/

/-- The outline is sound for the threads around a controller. -/
theorem worldOutline_sound (hd : Drives p w gw step) (hr : Records gw step) :
    (worldOutline p w).Sound (system gw step) where
  refl := fun t c => by
    cases t with
    | controller => exact Leaves.refl
    | scheduler => exact ⟨.refl, id⟩
    | policy => trivial
  trans := fun t {a b c} h h' => by
    cases t with
    | controller => exact Leaves.trans h h'
    | scheduler => exact ⟨h.1.trans h'.1, fun hfit => h'.2 (h.2 hfit)⟩
    | policy => trivial
  compat := fun {t t'} {l s r s'} hne _ _ _ hg => by
    cases t' with
    | controller => exact hg.2 hne
    | scheduler => exact hg.1 hne
    | policy => trivial
  idle_stable := fun {t s s'} hi hr => by
    cases t with
    | controller => exact Leaves.synced hr hi
    | scheduler => exact ⟨hr.1.good hi.1, hr.2 hi.2⟩
    | policy => trivial
  op := fun t o c hi hidle _ => by
    cases t with
    | controller =>
      have hs : Synced c := hidle
      cases o with
      | startEpisode started => exact wp_startEpisode hd hr hs
      | arm =>
        show wp _ _ _ arm c
        rw [arm, wp_bind]
        refine wp_section (by simp) fun c₁ hr₁ hi _ => ?_
        refine ⟨hi.armed false, rfl, id, ?_⟩
        exact wp_port fun c₂ hr₂ _ _ => hr₂.synced (hr₁.synced hs)
      | wait =>
        show wp _ _ _ (do let _ ← wait gw) c
        rw [wp_bind]
        refine wp_mono (wp_wait hd hr hs) fun r c₁ hs₁ => ?_
        cases r <;> exact hs₁
      | disarm => exact wp_port fun c₁ hr₁ _ _ => hr₁.synced hs
      | close => exact wp_mono (wp_close hd hr hs) fun _ _ h => h.1
      | stopEpisode stopping => exact wp_stopEpisode hd hr hs
      | step | complete => exact hs
    | scheduler =>
      cases o with
      | step => exact wp_step hd hr hidle.1 hidle.2
      | _ => exact hidle
    | policy =>
      cases o with
      | complete future result => exact wp_complete
      | _ => trivial

/-- What is known of the commands of the inference Episodes. -/
structure Accounted (c : InferWorld) : Prop where
  /-- Between Episodes nothing is published, and no commands are recorded. -/
  inactive : c.controller.active = false → Cleared c.gateway ∧ c.control.episodeId = none
  /-- Commands are recorded for the Episode of the controller. -/
  named : ∀ episodeId, c.control.episodeId = some episodeId →
    c.controller.active = true ∧ c.controller.episodeId = episodeId
  /-- Commands are published while they are recorded, so that none is refused. -/
  opened : c.gateway.gateOpen = true → c.control.episodeId = some c.controller.episodeId
  /-- An Episode that was closed without an exception has released the arms. -/
  released : c.controller.active = false → c.controller.stopError = none →
    c.controller.facts ≠ none → gravityRaised c.log = some none
  /-- Every event came when it should. -/
  orderly : Throughout Orderly c.log
  /-- The commands of an Episode are numbered from `0` without a gap. -/
  numbered : (sends c.log).map (·.stepIndex) = (List.range (sends c.log).length).reverse
  /-- They belong to the Episode. -/
  owned : ∀ record ∈ sends c.log, InferEvent.episode c.log = some record.episodeId
  /-- At most the last one lacks its record. -/
  complete : records c.log = sends c.log ∨ ∃ record, sends c.log = record :: records c.log

theorem Law.accounted (h : Law p w c) : Accounted c where
  inactive := fun ha => ⟨h.inactive ha, h.finished ha⟩
  named := h.named
  opened := fun hg => by
    obtain ⟨episodeId, he⟩ := Option.ne_none_iff_exists'.1 (h.opened hg)
    rw [he, (h.named episodeId he).2]
  released := h.released
  orderly := h.recorded.orderly
  numbered := (InferEvent.sends_numbered h.recorded.orderly).1
  owned := (InferEvent.sends_numbered h.recorded.orderly).2
  complete := InferEvent.records_complete h.recorded.orderly

theorem accounted_of_drives (hd : Drives p w gw step) (hr : Records gw step)
    {c : Config Role InferSection InferEnv InferWorld InferError}
    (hc : (system gw step).Reachable (fun _ _ _ _ => True) (.init (init p)) c) :
    Accounted c.shared := by
  refine ((worldOutline_sound hd hr).inv (Law.init p w) (fun t => ?_) hc).accounted
  cases t with
  | controller => rfl
  | scheduler => exact ⟨.of_closed rfl, nofun⟩
  | policy => trivial

namespace Station

theorem stop_time : (0 : ℤ) ≤ 7 := by decide

/-- What is answered when nothing raises; `signal` is what the trigger has for `wait`. -/
def answers (signal : Option TriggerSignal) : InferEnv := { signal := signal }

/-- An Episode in which a command is published and a label is given; `clear` is the number of
sections of `clear_pending`. -/
def episode (ticket : InferenceTicket) (signal : TriggerSignal) (clear : ℕ) :
    List (Move Role Op InferEnv) :=
  Move.run .controller
      (.startEpisode ⟨"episode", 0, Takeover.Station.episode_named, Takeover.Station.start_time⟩)
      (clear + 4) (answers none) ++
    Move.run .policy (.complete 0 (.ok (.ticket ticket))) 1 (answers none) ++
    Move.run .controller .wait 18 (answers none) ++
    Move.run .scheduler .step 3 (answers none) ++
    Move.run .controller .wait (clear + 18) (answers (some signal)) ++
    Move.run .controller (.stopEpisode ⟨.success, 7, stop_time⟩) 5 (answers none)

/-- One command was sent and recorded, the label was passed on, and the facts were told. -/
def labelled (log : List InferEvent) : Bool :=
  match log with
  | .stopped facts :: .labelled .activate :: .finished :: .gravity none :: log =>
    facts.commandCount = some 1 && (sends log).length = 1 && records log = sends log
  | _ => false

theorem shows (gw : CommandGateway RtcSection Rtc) (step : Rtc.Program Unit) (p : RtcParameters)
    (schedule : List (Move Role Op InferEnv))
    (h : ((system gw step).play (fun _ _ _ _ => true) (.init (init p)) schedule).any
      (fun c => labelled c.shared.log) = true) :
    ∃ c, (system gw step).Reachable (fun _ _ _ _ => True) (.init (init p)) c ∧
      labelled c.shared.log = true :=
  System.play_shows (fun _ _ _ => trivial) (fun _ _ _ _ _ => trivial) _ h

end Station

end Infer

end DualCollection
