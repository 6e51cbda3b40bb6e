import DualCollection.Infer.Sink

/-!
# The outline of an inference Episode

The outline of the threads around an inference controller extends the one of the scheduler by what
is recorded of its commands.  A command that is not sent, or not recorded, ends the lease: the
scheduler's thread closes the gate, and until the next Episode nothing opens it again.

While the gate is closed, the scheduler leaves the record alone (`Leaves`); so the controller, which
closes the gate before it returns a label, reads a record that is complete.
-/

namespace DualCollection

open Thread

open Rtc (Changes Inv Good Cleared Yields Interferes Role Pre outline PublishStep SpliceStep
  PrepareStep Closing Heeds)

namespace Rtc

variable {p : RtcParameters} {w : ℕ} {l : RtcSection} {s s' : Rtc} {r : Option Failure}

/-- The first request of a lease is pending. -/
def Asked (s : Rtc) : Prop := ∃ pending, s.pending = some pending ∧ pending.bootstrap = true

theorem Inv.closed_of_asked (h : Inv p w s) (ha : Asked s) : s.gateOpen = false :=
  (h.bootstrap _ ha.choose_spec.1 ha.choose_spec.2).1

theorem PublishStep.gate (h : PublishStep p s r s') : s'.gateOpen = s.gateOpen := by
  cases h <;> rfl

theorem completed_pending {future : ℕ} {result : Except PyError PolicyResult} :
    (s.completed future result).pending = s.pending := by
  unfold completed
  split
  · rfl
  · rfl

theorem Changes.fail_closed {f : Failure} (hc : Changes p (.fail f) s r s') :
    s'.gateOpen = false := by
  rcases hc with ⟨hg, -, rfl⟩ | ⟨-, rfl⟩
  · exact hg
  · rfl

/-- The gate is opened by the response to the first request of a lease. -/
theorem Changes.opens_asked (hc : Changes p l s r s') (hg : s.gateOpen = false)
    (hg' : s'.gateOpen = true) : Asked s := by
  obtain ⟨candidate, rfl⟩ := hc.opens hg hg'
  have hc : SpliceStep candidate s r s' := hc
  cases hc with
  | refused hr =>
    rw [hr.2, hg] at hg'
    cases hg'
  | bootstrap nowS hm hb => exact ⟨_, hm.pending, hb⟩
  | overlap hm hb hd =>
    have : s.gateOpen = true := hg'
    rw [hg] at this
    cases this

/-- The first request of a lease is submitted by `prepare_policy`. -/
theorem Changes.asks (hi : Inv p w s') (hl : l ≠ .prepare) (hc : Changes p l s r s')
    (ha : Asked s') : Asked s := by
  have hkept : s'.pending = s.pending → Asked s := fun h => by
    obtain ⟨pending, hp, hb⟩ := ha
    exact ⟨pending, h ▸ hp, hb⟩
  have hnone : s'.pending = none → Asked s := fun h => by
    obtain ⟨pending, hp, -⟩ := ha
    rw [h] at hp
    cases hp
  cases l with
  | prepare => exact absurd rfl hl
  | splice candidate =>
    have hc : SpliceStep candidate s r s' := hc
    cases hc with
    | refused hr => exact hkept (by rw [hr.2])
    | bootstrap | overlap => exact hnone rfl
  | closeGate =>
    rcases hc with hc | ⟨-, rfl⟩
    · exact hkept (by rw [hc.2])
    · exact hkept rfl
  | clearPending e =>
    rcases hc with hc | ⟨-, -, rfl⟩
    · exact hkept (by rw [hc.2])
    · exact hnone rfl
  | takeFault => exact hkept (by rw [hc.2]; rfl)
  | gateCheck => rcases hc with ⟨-, rfl | ⟨-, rfl⟩⟩ <;> exact hkept rfl
  | reject f => exact hnone (by rw [hc.2]; rfl)
  | clearFinishing => exact hkept (by rw [show s' = _ from hc])
  | finished => exact hkept (by rw [show s' = _ from hc])
  | publish =>
    have hc : PublishStep p s r s' := hc
    -- a section that publishes leaves its gate open
    have hgate := hi.closed_of_asked ha
    cases hc with
    | idle => exact hkept rfl
    | dropped _ ho | issued _ _ ho | requested _ _ _ ho | finishing _ _ ho =>
      rw [show s.gateOpen = false from hgate] at ho
      cases ho
  | fail f =>
    rcases hc with ⟨-, -, rfl⟩ | ⟨-, rfl⟩
    · exact ha
    · exact hnone rfl
  | complete =>
    obtain ⟨-, future, result, rfl⟩ := hc
    exact hkept completed_pending
  | checkResponse window snap => exact hkept (by rw [hc.2])
  | beginEpoch | emitReset | poll | clock | finishCheck | acceptRead | stateRead =>
    exact hkept (by rw [show s' = s from hc])

theorem PrepareStep.gate (h : PrepareStep s r s') : s'.gateOpen = s.gateOpen := by
  cases h with
  | refused hr => rw [hr.2]
  | identified | submitted => rfl

end Rtc

open Rtc (Asked)

/-! ### The record -/

open InferEvent (recording sends records gravityRaised Orderly)

/-- The attributes of the recording agree with what was observed. -/
structure RecordedControl.Agrees (control : RecordedControl) (log : List InferEvent) : Prop where
  /-- `episode_id` -/
  episodeId : recording log = control.episodeId
  /-- `command_count` -/
  count : (sends log).length = control.commandCount
  /-- `last_command_monotonic_ns` -/
  last : (sends log).head?.map (·.monotonicTimeNs) = control.lastCommandMonotonicNs
  /-- Unless an exception was kept, every command was recorded. -/
  complete : control.failure = none → records log = sends log
  /-- Every event came when it should. -/
  orderly : Throughout Orderly log

namespace RecordedControl.Agrees

variable {control : RecordedControl} {log : List InferEvent}

theorem init : Agrees {} [] := ⟨rfl, rfl, rfl, fun _ => rfl, trivial⟩

theorem begun (h : Agrees control log) (hc : control.episodeId = none) (episodeId : String) :
    Agrees (.begun episodeId) (.started episodeId :: log) :=
  ⟨rfl, rfl, rfl, fun _ => rfl, h.episodeId.trans hc, h.orderly⟩

theorem gravity (h : Agrees control log) (raised : Option PyError) :
    Agrees control (.gravity raised :: log) :=
  ⟨h.episodeId, h.count, h.last, h.complete, trivial, h.orderly⟩

theorem finish (h : Agrees control log) {raised : Option PyError} {earlier : List InferEvent}
    (hlog : log = .gravity raised :: earlier) : Agrees control.finish (.finished :: log) :=
  ⟨rfl, h.count, h.last, h.complete, ⟨raised, earlier, hlog⟩, h.orderly⟩

theorem labelled (h : Agrees control log) (hc : control.episodeId = none)
    (hf : control.failure = none) (event : TriggerEvent) :
    Agrees control (.labelled event :: log) :=
  ⟨h.episodeId, h.count, h.last, h.complete, ⟨h.episodeId.trans hc, h.complete hf⟩, h.orderly⟩

theorem stopped (h : Agrees control log) (hc : control.episodeId = none)
    (hg : gravityRaised log = some none) {facts : InferFacts}
    (hcount : facts.commandCount = some control.commandCount)
    (hlast : facts.lastCommandMonotonicNs = control.lastCommandMonotonicNs) :
    Agrees control (.stopped facts :: log) :=
  ⟨h.episodeId, h.count, h.last, h.complete,
    ⟨h.episodeId.trans hc, hg, by rw [hcount, h.count], by rw [hlast, h.last]⟩, h.orderly⟩

/-- While no exception was kept, `publish` keeps the record; it keeps an exception only when it
raises one. -/
theorem publish (h : Agrees control log) (hf : control.failure = none)
    (command : DualArmJointCommand) (e : InferEnv) :
    Agrees (control.publish command e).control ((control.publish command e).events ++ log) ∧
      (control.publish command e).control.episodeId = control.episodeId ∧
        ((control.publish command e).raised = none →
          (control.publish command e).control.failure = none) := by
  unfold RecordedControl.publish
  cases hepisode : control.episodeId with
  | none => exact ⟨h, hepisode, fun _ => hf⟩
  | some episodeId =>
    cases e.rosClock with
    | error err => exact ⟨h, hepisode, fun _ => hf⟩
    | ok rosTimeNs =>
      have hsent :
          Orderly (.sent (control.record episodeId e.base.clockNs rosTimeNs command)) log :=
        ⟨h.episodeId.trans hepisode, h.count.symm, h.complete hf⟩
      have hlength : (sends log).length + 1 = control.commandCount + 1 := by rw [h.count]
      dsimp only
      cases e.base.raises .publish with
      | some err =>
        exact ⟨⟨h.episodeId, h.count, h.last, nofun, h.orderly⟩, hepisode, nofun⟩
      | none =>
        cases e.sink with
        | some err =>
          exact ⟨⟨h.episodeId, hlength, rfl, nofun, hsent, h.orderly⟩, hepisode, nofun⟩
        | none =>
          refine ⟨⟨h.episodeId, hlength, rfl, fun _ => ?_, ⟨_, rfl⟩, hsent, h.orderly⟩, hepisode,
            fun _ => hf⟩
          exact congrArg (_ :: ·) (h.complete hf)

end RecordedControl.Agrees

/-! ### The outline -/

namespace Infer

/-- The controller and its gateway agree on the control epoch. -/
abbrev Synced (c : InferWorld) : Prop := c.controller.controlEpoch = c.gateway.controlEpoch

/-- While commands may be published, none of them failed. -/
def Fit (c : InferWorld) : Prop := c.gateway.gateOpen = true → c.control.failure = none

/-- What holds in every state. -/
structure Law (p : RtcParameters) (w : ℕ) (c : InferWorld) : Prop where
  /-- The invariant of the scheduler. -/
  inv : Inv p w c.gateway
  /-- The record agrees with what was observed. -/
  recorded : RecordedControl.Agrees c.control c.log
  /-- Commands are recorded for the Episode of the controller. -/
  named : ∀ episodeId, c.control.episodeId = some episodeId →
    c.controller.active = true ∧ c.controller.episodeId = episodeId
  /-- Between Episodes nothing is published and nothing is asked for. -/
  inactive : c.controller.active = false → Cleared c.gateway
  /-- Commands are published while they are recorded. -/
  opened : c.gateway.gateOpen = true → c.control.episodeId ≠ none
  /-- When the first response of a lease is asked for, they are recorded and none has failed. -/
  asked : Asked c.gateway → c.control.failure = none ∧ c.control.episodeId ≠ none
  /-- An Episode that was closed without an exception has released the arms. -/
  released : c.controller.active = false → c.controller.stopError = none →
    c.controller.facts ≠ none → gravityRaised c.log = some none

/-- What the scheduler's thread and the policy leave alone. -/
structure Leaves (c c' : InferWorld) : Prop where
  /-- The controller. -/
  controller : c'.controller = c.controller
  /-- They use the gateway as the scheduler does. -/
  gateway : Yields c.gateway c'.gateway
  /-- They start and finish no recording. -/
  episodeId : c'.control.episodeId = c.control.episodeId
  /-- While the gate is closed, nothing is recorded. -/
  closed : c.gateway.gateOpen = false → c'.control = c.control ∧ c'.log = c.log

/-- The proof outline of the threads. -/
def worldOutline (p : RtcParameters) (w : ℕ) :
    Outline Role InferSection InferEnv InferWorld InferError where
  inv := Law p w
  pre := fun t l c => match l with
    | .gateway l => Pre p w False t l c.gateway
    | _ => True
  rely := fun
    | .controller, c, c' => Leaves c c'
    | .scheduler, c, c' => Interferes p w False c.gateway c'.gateway ∧ (Fit c → Fit c')
    | .policy, _, _ => True
  guar := fun t _ c _ c' =>
    (t ≠ .scheduler → Interferes p w False c.gateway c'.gateway ∧ (Fit c → Fit c')) ∧
      (t ≠ .controller → Leaves c c')
  idle := fun
    | .controller, c => Synced c
    | .scheduler, c => Good p w c.gateway ∧ Fit c
    | .policy, _ => True

/-- What the controller keeps of its attributes while an Episode lasts. -/
structure Alike (k k' : InferController) : Prop where
  /-- `active` -/
  active : k'.active = k.active
  /-- `episode_id` -/
  episodeId : k'.episodeId = k.episodeId
  /-- `_stop_error` is not forgotten. -/
  stopError : k'.stopError = none → k.stopError = none
  /-- `facts` are not made up. -/
  facts : k'.facts ≠ none → k.facts ≠ none

variable {p : RtcParameters} {w : ℕ} {c c' c'' : InferWorld} {α : Type}

namespace Leaves

theorem refl : Leaves c c := ⟨rfl, .refl, rfl, fun _ => ⟨rfl, rfl⟩⟩

theorem trans (h : Leaves c c') (h' : Leaves c' c'') : Leaves c c'' where
  controller := h'.controller.trans h.controller
  gateway := h.gateway.trans h'.gateway
  episodeId := h'.episodeId.trans h.episodeId
  closed := fun hg => by
    obtain ⟨hcontrol, hlog⟩ := h.closed hg
    obtain ⟨hcontrol', hlog'⟩ := h'.closed (h.gateway.closed hg)
    exact ⟨hcontrol'.trans hcontrol, hlog'.trans hlog⟩

theorem synced (h : Leaves c c') (hs : Synced c) : Synced c' := by
  rw [Synced, h.controller, h.gateway.epoch]
  exact hs

theorem moved {g : Rtc} (h : Yields c.gateway g) : Leaves c { c with gateway := g } :=
  ⟨rfl, h, rfl, fun _ => ⟨rfl, rfl⟩⟩

end Leaves

namespace Law

theorem finished (h : Law p w c) (ha : c.controller.active = false) :
    c.control.episodeId = none := by
  by_contra hne
  obtain ⟨episodeId, hepisode⟩ := Option.ne_none_iff_exists'.1 hne
  have := (h.named episodeId hepisode).1
  rw [ha] at this
  cases this

theorem active (h : Law p w c) (hg : c.gateway.gateOpen = true) : c.controller.active = true := by
  by_contra ha
  have := (h.inactive (by simpa using ha)).gateOpen
  rw [hg] at this
  cases this

/-- The gateway moves. -/
theorem moved (h : Law p w c) {g : Rtc} (hi : Inv p w g)
    (hcleared : c.controller.active = false → Cleared g)
    (ho : g.gateOpen = true → c.control.episodeId ≠ none)
    (ha : Asked g → c.control.failure = none ∧ c.control.episodeId ≠ none) :
    Law p w { c with gateway := g } :=
  ⟨hi, h.recorded, h.named, hcleared, ho, ha, h.released⟩

/-- The trigger is armed. -/
theorem armed (h : Law p w c) (runningArmed : Bool) :
    Law p w { c with runningArmed := runningArmed } :=
  ⟨h.inv, h.recorded, h.named, h.inactive, h.opened, h.asked, h.released⟩

/-- The controller changes its attributes. -/
theorem own (h : Law p w c) {k : InferController} (hk : Alike c.controller k) :
    Law p w { c with controller := k } where
  inv := h.inv
  recorded := h.recorded
  named := fun episodeId he => by
    obtain ⟨ha, hid⟩ := h.named episodeId he
    exact ⟨hk.active.trans ha, hk.episodeId.trans hid⟩
  inactive := fun ha => h.inactive (hk.active.symm.trans ha)
  opened := h.opened
  asked := h.asked
  released := fun ha hs hf => h.released (hk.active.symm.trans ha) (hk.stopError hs) (hk.facts hf)

theorem init (p : RtcParameters) (w : ℕ) : Law p w (Infer.init p) where
  inv := Rtc.inv_init
  recorded := .init
  named := nofun
  inactive := fun _ => ⟨rfl, rfl, rfl⟩
  opened := nofun
  asked := fun h => by
    obtain ⟨pending, hp, -⟩ := h
    cases hp
  released := fun _ _ h => absurd rfl h

end Law

/-! ### Sections of the gateway -/

theorem handed_of_ne {l : RtcSection} {act : Env → Rtc → Except Failure α × Rtc} {e : Env} {s : Rtc}
    (hl : l ≠ .publish) : InferWorld.handed l act e s = none := by
  unfold InferWorld.handed
  split
  · exact absurd rfl hl
  · rfl

theorem handed_eq_some {l : RtcSection} {act : Env → Rtc → Except Failure α × Rtc} {e : Env}
    {s : Rtc} {command : DualArmJointCommand} (h : InferWorld.handed l act e s = some command) :
    l = .publish ∧ (act e s).2.queue ≠ s.queue := by
  unfold InferWorld.handed at h
  split at h
  next queued rest hq =>
    split_ifs at h with hne
    exact ⟨rfl, hq ▸ hne⟩
  · cases h

theorem via_none {l : RtcSection} {act : Env → Rtc → Except Failure α × Rtc} {e : InferEnv}
    (h : InferWorld.handed l act e.base c.gateway = none) :
    InferWorld.via l act e c =
      ((act e.base c.gateway).1, { c with gateway := (act e.base c.gateway).2 }) := by
  rw [InferWorld.via, h]

/-- What the controller's sections of the gateway keep. -/
theorem Law.called (h : Law p w c) {l : RtcSection} {r : Option Failure} {g : Rtc} (hi : Inv p w g)
    (hc : Changes p l c.gateway r g) (hl : l ≠ .prepare)
    (hkeep : c.controller.active = false → Closing l) :
    Law p w { c with gateway := g } ∧ (Fit c → Fit { c with gateway := g }) := by
  refine ⟨h.moved hi (fun ha => hc.cleared (hkeep ha) (h.inactive ha)) (fun hg => ?_)
    fun ha => h.asked (hc.asks hi hl ha), fun hfit hg => ?_⟩
  · by_cases hg' : c.gateway.gateOpen = true
    · exact h.opened hg'
    · exact (h.asked (hc.opens_asked (by simpa using hg') hg)).2
  · by_cases hg' : c.gateway.gateOpen = true
    · exact hfit hg'
    · exact (h.asked (hc.opens_asked (by simpa using hg') hg)).1

/-! ### The scheduler's thread -/

/-- A section of the scheduler that hands no command over. -/
theorem Law.yielded (h : Law p w c) {g : Rtc} (hi : Inv p w g) (hy : Yields c.gateway g)
    (hfit : Fit c) : Law p w { c with gateway := g } := by
  refine h.moved hi (fun ha => hy.cleared (h.inactive ha)) (fun hg => h.opened (hy.gate hg)) ?_
  rintro ⟨pending, hp, hb⟩
  by_cases hg : c.gateway.gateOpen = true
  · exact ⟨hfit hg, h.opened hg⟩
  · rcases hy.pending (by simpa using hg) with h' | h'
    · exact h.asked ⟨pending, h' ▸ hp, hb⟩
    · rw [show g.pending = none from h'] at hp
      cases hp

/-- The sections of the scheduler are served. -/
theorem serves_scheduler {l : RtcSection} {act : Env → Rtc → Except Failure α × Rtc} {e' : InferEnv}
    (hA : Heeds l act) (hfit : Fit c) (h : Law p w c) :
    ∃ e, Serves (outline p w False) .scheduler (worldOutline p w) .scheduler .gateway (·.gateway)
      Fit (fun _ => True) l act (InferWorld.via l act e' c) e c := by
  cases hh : InferWorld.handed l act e'.base c.gateway with
  | none =>
    refine ⟨e'.base, ?_⟩
    rw [via_none hh]
    refine ⟨Rtc.admits_free, rfl, rfl, fun hi hg => ?_⟩
    have hy : Yields c.gateway (act e'.base c.gateway).2 := hg.2.2.2 (by simp)
    exact ⟨h.yielded hi hy hfit, ⟨fun ht => absurd rfl ht, fun _ => .moved hy⟩,
      fun _ hg' => hfit (hy.gate hg'), trivial⟩
  | some command =>
    obtain ⟨rfl, hqueue⟩ := handed_eq_some hh
    obtain ⟨hqueue', hraises⟩ :=
      hA rfl e'.base c.gateway hqueue (c.control.publish command e').raised
    refine ⟨e'.base.publishing (c.control.publish command e').raised, ?_⟩
    rw [InferWorld.via, hh]
    refine ⟨trivial, rfl, rfl, fun hi hg => ?_⟩
    have hopen : c.gateway.gateOpen = true := hg.1.offers ⟨rfl, hqueue'⟩
    have hstep : PublishStep p c.gateway _ _ := hg.1
    have hopen' := hstep.gate.trans hopen
    obtain ⟨hrecorded, hepisode, hkept⟩ := h.recorded.publish (hfit hopen) command e'
    have hactive := h.active hopen
    refine ⟨⟨hi, hrecorded, fun episodeId he => h.named episodeId (hepisode ▸ he), fun ha => ?_,
      fun _ => hepisode ▸ h.opened hopen, fun ha => ?_, fun ha => ?_⟩,
      ⟨fun ht => absurd rfl ht, fun _ => ?_⟩, ?_, trivial⟩
    · exact absurd hactive (by simpa using ha)
    · -- while a command is published, the first response of a lease is not asked for
      rw [show _ = false from hi.closed_of_asked ha] at hopen'
      cases hopen'
    · exact absurd hactive (by simpa using ha)
    · exact ⟨rfl, hg.2.2.2 (by simp), hepisode, fun hg' => by rw [hopen] at hg'; cases hg'⟩
    · -- a section that returns was not raised at by the record
      rintro ⟨a, ha⟩ -
      refine hkept ?_
      by_contra hraised
      obtain ⟨f, hf⟩ := hraises hraised
      rw [show _ = _ from ha] at hf
      cases hf

/-- The rule of a call that is one section, and hands no command over. -/
theorem wp_call_atomic {t : Role} {l : RtcSection} {act : Env → Rtc → Except Failure α × Rtc}
    {Q : Except InferError α → InferWorld → Prop} (hl : l ≠ .publish)
    (h : ∀ c₁, (worldOutline p w).rely t c c₁ → Law p w c₁ → Pre p w False t l c₁.gateway ∧
      ∀ e, Law p w { c₁ with gateway := (act e c₁.gateway).2 } ∧
        (worldOutline p w).guar t (.gateway l) c₁ none
          { c₁ with gateway := (act e c₁.gateway).2 } ∧
        ∀ r, Q r { c₁ with gateway := (act e c₁.gateway).2 }) :
    wp (worldOutline p w) t Q (call (.atomic l act)) c := by
  rw [call, wp_bind, Prog.atomic, Prog.within]
  intro c₁ hr hi
  obtain ⟨hpre, hstep⟩ := h c₁ hr hi
  refine ⟨hpre, fun e _ => ?_⟩
  dsimp only
  rw [via_none (handed_of_ne hl)]
  obtain ⟨hi', hg, hQ⟩ := hstep e.base
  refine ⟨hi', hg, ?_⟩
  dsimp only
  cases (act e.base c₁.gateway).1 with
  | ok a => exact hQ _
  | error f => exact hQ _

/-- `_fail` closes the gate, so that the exceptions of the record end the lease. -/
theorem wp_fail {f : Failure}
    (hf : wp (outline p w False) .scheduler (fun _ s' => Good p w s') (Rtc.fail f) c.gateway) :
    wp (worldOutline p w) .scheduler (fun _ c' => Good p w c'.gateway ∧ Fit c')
      (call (Rtc.fail f)) c := by
  refine wp_call_atomic (by simp) fun c₁ hr h => ?_
  obtain ⟨hpre, hstep⟩ := hf c₁.gateway hr.1 h.inv
  refine ⟨hpre, fun e => ?_⟩
  obtain ⟨hi, hg, hgood⟩ := hstep e trivial
  have hy : Yields c₁.gateway _ := hg.2.2.2 (by simp)
  refine ⟨h.moved hi (fun ha => hy.cleared (h.inactive ha)) (fun ho => h.opened (hy.gate ho))
    fun ha => h.asked (hg.1.asks hi (by simp) ha),
    ⟨fun ht => absurd rfl ht, fun _ => .moved hy⟩, fun _ => ⟨hgood, fun hopen => ?_⟩⟩
  have hclosed : _ = false := hg.1.fail_closed
  rw [hclosed] at hopen
  cases hopen

/-- The policy completes a future. -/
theorem wp_complete {future : ℕ} {result : Except PyError PolicyResult} :
    wp (worldOutline p w) .policy (fun _ _ => True) (call (Rtc.complete future result)) c := by
  refine wp_call_atomic (by simp) fun c₁ _ h => ?_
  have hcomplete : wp (outline p w False) .policy (fun _ _ => True)
    (Rtc.complete future result) c₁.gateway := Rtc.wp_complete
  obtain ⟨hpre, hstep⟩ := hcomplete c₁.gateway trivial h.inv
  refine ⟨hpre, fun e => ?_⟩
  obtain ⟨hi, hg, -⟩ := hstep e trivial
  have hy : Yields c₁.gateway _ := hg.2.2.2 (by simp)
  exact ⟨h.moved hi (fun ha => hy.cleared (h.inactive ha)) (fun ho => h.opened (hy.gate ho))
    fun ha => h.asked (hg.1.asks hi (by simp) ha),
    ⟨fun _ => ⟨hg.2.2.1 (by simp), fun hfit hopen => hfit (hy.gate hopen)⟩, fun _ => .moved hy⟩,
    fun _ => trivial⟩

variable {gw : CommandGateway RtcSection Rtc} {step : Rtc.Program Unit}

/-- A step of the scheduler. -/
theorem wp_step (hd : Drives p w gw step) (hr : Records gw step) (hgood : Good p w c.gateway)
    (hfit : Fit c) :
    wp (worldOutline p w) .scheduler (fun _ c' => Good p w c'.gateway ∧ Fit c') (call step) c := by
  have hstep := hd.step c.gateway hgood
  rw [hr.step_eq, wp_tryCatch] at hstep
  rw [call, hr.step_eq, Prog.tryCatch, Prog.within_andThen, wp_bind, wp_bind]
  refine wp_mono (wp_within (O := outline p w False) (t := .scheduler) (F := Fit)
    (G := fun _ => True) (A := Heeds) ?_ ?_ ?_ ?_ ?_ hr.body_strict hr.body_heeds hfit hstep) ?_
  · exact fun hF h _ => ⟨h.2 hF, h.1⟩
  · exact fun _ h => h.inv
  · exact fun _ hp => hp
  · exact fun _ => trivial
  · exact fun hA hF h _ _ => serves_scheduler hA hF h
  rintro _ c₁ ⟨r, rfl, hQ, hF, -⟩
  cases r with
  | ok u => exact ⟨hQ, hF ⟨u, rfl⟩⟩
  | error f =>
    -- a command may have failed, and until `_fail` the gate may be open
    have hfail := wp_fail hQ
    rw [call, wp_bind] at hfail
    exact hfail

/-! ### Calls of the controller -/

/-- What a call of the gateway leaves alone. -/
structure Called (c c' : InferWorld) : Prop where
  /-- The controller's attributes. -/
  controller : c'.controller = c.controller
  /-- The recording is neither started nor finished. -/
  episodeId : c'.control.episodeId = c.control.episodeId

theorem Called.synced (h : Called c c') (he : c'.gateway.controlEpoch = c.gateway.controlEpoch)
    (hs : Synced c) : Synced c' := by
  rw [Synced, h.controller, he, hs]

/-- The sections of a call are served. -/
theorem serves_controller {l : RtcSection} {act : Env → Rtc → Except Failure α × Rtc}
    {e' : InferEnv} {F : InferWorld → Prop} (hpre : Pre p w False .controller l c.gateway)
    (hkeep : ∀ {r g}, Inv p w g → Changes p l c.gateway r g → Interferes p w False c.gateway g →
      Law p w { c with gateway := g } ∧ (Fit c → Fit { c with gateway := g }) ∧
        F { c with gateway := g }) :
    ∃ e, Serves (outline p w False) .controller (worldOutline p w) .controller .gateway (·.gateway)
      F F l act (InferWorld.via l act e' c) e c := by
  have hl : l ≠ .publish := by
    rintro rfl
    exact hpre
  refine ⟨e'.base, ?_⟩
  rw [via_none (handed_of_ne hl)]
  refine ⟨Rtc.admits_free, rfl, rfl, fun hi hg => ?_⟩
  have hinterferes := hg.2.2.1 (by simp)
  obtain ⟨h, hfit, hF'⟩ := hkeep hi hg.1 hinterferes
  exact ⟨h, ⟨fun _ => ⟨hinterferes, hfit⟩, fun ht => absurd rfl ht⟩, fun _ => hF', hF'⟩

/-- The rule of a call of the gateway that prepares nothing: between Episodes, it may only end the
lease. -/
theorem wp_call {q : Rtc.Program α} {Q : Rtc → Prop} {A : RtcSection → Prop} (hstrict : q.Strict)
    (hA : q.Only A) (hprepare : ∀ l, A l → l ≠ .prepare)
    (hkeep : c.controller.active = false → ∀ l, A l → Closing l)
    (h : wp (outline p w False) .controller (fun _ s' => Q s') q c.gateway) :
    wp (worldOutline p w) .controller (fun _ c' => Called c c' ∧ Q c'.gateway) (call q) c := by
  rw [call, wp_bind]
  refine wp_mono (wp_within (O := outline p w False) (t := .controller) (F := Called c)
    (G := Called c) (A := fun l _ => A l) ?_ ?_ ?_ ?_ ?_ hstrict (Prog.each_of_only hA)
    ⟨rfl, rfl⟩ h) ?_
  · exact fun hF h _ =>
      ⟨⟨h.controller.trans hF.controller, h.episodeId.trans hF.episodeId⟩, h.gateway⟩
  · exact fun _ h => h.inv
  · exact fun _ hp => hp
  · exact fun hF => hF
  · intro β l act e' s hl hF h hpre _
    refine serves_controller hpre fun hi hc _ => ?_
    obtain ⟨h', hfit⟩ := h.called hi hc (hprepare l hl)
      fun ha => hkeep (by rw [← hF.controller]; exact ha) l hl
    exact ⟨h', hfit, hF.controller, hF.episodeId⟩
  rintro _ c₁ ⟨r, rfl, hQ, -, hF⟩
  cases r with
  | ok a => exact ⟨hF, hQ⟩
  | error f => exact ⟨hF, hQ⟩

/-- While the first response of a lease is about to be asked for, nothing is published, and no
command has failed. -/
structure Asking (c c' : InferWorld) : Prop extends Called c c' where
  /-- The gate is closed. -/
  closed : c'.gateway.gateOpen = false
  /-- No command has failed. -/
  failure : c'.control.failure = none
  /-- Commands are recorded. -/
  recording : c'.control.episodeId ≠ none

/-- The rule of `prepare_policy`. -/
theorem wp_prepare {q : Rtc.Program α} {Q : Rtc → Prop} (hstrict : q.Strict)
    (hA : q.Only (· = .prepare)) (hactive : c.controller.active = true)
    (hclosed : c.gateway.gateOpen = false)
    (hrecording : c.control.failure = none ∧ c.control.episodeId ≠ none)
    (h : wp (outline p w False) .controller (fun _ s' => Q s') q c.gateway) :
    wp (worldOutline p w) .controller (fun _ c' => Called c c' ∧ Q c'.gateway) (call q) c := by
  rw [call, wp_bind]
  refine wp_mono (wp_within (O := outline p w False) (t := .controller) (F := Asking c)
    (G := Asking c) (A := fun l _ => l = .prepare) ?_ ?_ ?_ ?_ ?_ hstrict (Prog.each_of_only hA)
    ⟨⟨rfl, rfl⟩, hclosed, hrecording.1, hrecording.2⟩ h) ?_
  · intro s s' hF h _
    refine ⟨⟨⟨h.controller.trans hF.controller, h.episodeId.trans hF.episodeId⟩,
      h.gateway.closed hF.closed, ?_, ?_⟩, h.gateway⟩
    · rw [(h.closed hF.closed).1]
      exact hF.failure
    · rw [h.episodeId]
      exact hF.recording
  · exact fun _ h => h.inv
  · exact fun _ hp => hp
  · exact fun hF => hF
  · rintro β _ act e' s rfl hF h hpre -
    refine serves_controller hpre fun {r g} hi hc _ => ?_
    have hgate := Rtc.PrepareStep.gate hc
    refine ⟨h.moved hi (fun ha => ?_) (fun _ => hF.recording)
      fun _ => ⟨hF.failure, hF.recording⟩, fun _ _ => hF.failure,
      ⟨hF.controller, hF.episodeId⟩, hgate.trans hF.closed, hF.failure, hF.recording⟩
    rw [hF.controller, hactive] at ha
    cases ha
  rintro _ c₁ ⟨r, rfl, hQ, -, hF⟩
  cases r with
  | ok a => exact ⟨hF.toCalled, hQ⟩
  | error f => exact ⟨hF.toCalled, hQ⟩

/-! ### Sections of the controller -/

/-- The rule of a section of the controller. -/
theorem wp_section {l : InferSection}
    {act : InferEnv → InferWorld → Except InferError α × InferWorld}
    {Q : Except InferError α → InferWorld → Prop} (hl : ∀ gl, l ≠ .gateway gl)
    (h : ∀ c₁, Leaves c c₁ → Law p w c₁ → ∀ e, Law p w (act e c₁).2 ∧
      (act e c₁).2.gateway = c₁.gateway ∧ (Fit c₁ → Fit (act e c₁).2) ∧
        Q (act e c₁).1 (act e c₁).2) :
    wp (worldOutline p w) .controller Q (.atomic l act) c := by
  intro c₁ hr hi
  refine ⟨?_, fun e _ => ?_⟩
  · cases l with
    | gateway gl => exact absurd rfl (hl gl)
    | own | start | gravity | finish | port => trivial
  obtain ⟨hi', hg, hfit, hQ⟩ := h c₁ hr hi e
  refine ⟨hi', ⟨fun _ => ⟨?_, hfit⟩, fun ht => absurd rfl ht⟩, hQ⟩
  rw [hg]
  exact .refl

/-- The rule of a section that only reads. -/
theorem wp_read {l : InferSection} {f : InferEnv → InferWorld → Except InferError α}
    {Q : Except InferError α → InferWorld → Prop} (hl : ∀ gl, l ≠ .gateway gl)
    (h : ∀ c₁, Leaves c c₁ → Law p w c₁ → ∀ e, Q (f e c₁) c₁) :
    wp (worldOutline p w) .controller Q (.atomic l fun e c => (f e c, c)) c :=
  wp_section hl fun c₁ hr hi e => ⟨hi, rfl, id, h c₁ hr hi e⟩

theorem wp_attributes {Q : Except InferError α → InferWorld → Prop}
    {k : InferController → Program α}
    (h : ∀ c₁, Leaves c c₁ → Law p w c₁ →
      wp (worldOutline p w) .controller Q (k c.controller) c₁) :
    wp (worldOutline p w) .controller Q (attributes >>= k) c := by
  rw [wp_bind]
  refine wp_read (by simp) fun c₁ hr hi e => ?_
  rw [hr.controller]
  exact h c₁ hr hi

theorem wp_own {f : InferController → InferController}
    {Q : Except InferError Unit → InferWorld → Prop}
    (hf : Alike c.controller (f c.controller))
    (h : ∀ c₁, Leaves c c₁ → Law p w c₁ → Q (.ok ()) { c₁ with controller := f c.controller }) :
    wp (worldOutline p w) .controller Q (own f) c := by
  refine wp_section (by simp) fun c₁ hr hi e => ?_
  rw [hr.controller]
  exact ⟨hi.own (by rw [hr.controller]; exact hf), rfl, id, h c₁ hr hi⟩

theorem wp_port {raises : InferEnv → Option PyError}
    {Q : Except InferError Unit → InferWorld → Prop}
    (h : ∀ c₁, Leaves c c₁ → Law p w c₁ → ∀ r, Q r c₁) :
    wp (worldOutline p w) .controller Q (port raises) c := by
  refine wp_section (by simp) fun c₁ hr hi e => ?_
  cases raises e with
  | none => exact ⟨hi, rfl, id, h c₁ hr hi _⟩
  | some err => exact ⟨hi, rfl, id, h c₁ hr hi _⟩

end Infer

end DualCollection
