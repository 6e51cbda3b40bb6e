import DualCollection.Authority.Safety
import DualCollection.Rtc.Faults
import DualCollection.Sequential.Faults

/-!
# Stale faults

A fault of one lease ends a later one if it is left in the latch when the control epoch changes, or
if the failing step handles it only then.  `stale_fault_free` has it for both schedulers and for the
sequential gateway, whatever the controller does, and for the takeover controller over either
scheduler, that this is all there is to it: in the runs without such a step, no stale fault does any
harm.

In `stale_fault_returned` a bootstrap window is rejected.  The rejection is raised and latched, so
that the controller, which holds the fault until the Episode ends, finds it again in the next
Episode.
-/

namespace DualCollection

open Thread

open Rtc (Role)

namespace Takeover

/-- The fault latch of the scheduler that a controller uses. -/
def latching : Latching (WorldSection RtcSection) (World Rtc) Rtc where
  gateway := World.gateway
  latch := Rtc.latching.latch
  takes
    | .gateway l => Rtc.latching.takes l
    | _ => false
  handles
    | .gateway l => Rtc.latching.handles l
    | _ => none

/-- The condition on the sections of the scheduler. -/
def Prompt : WorldSection RtcSection → World Rtc → Prop
  | .gateway l, c => Rtc.Prompt l c.gateway
  | _, _ => True

instance (l : WorldSection RtcSection) (c : World Rtc) : Decidable (Prompt l c) := by
  cases l <;> dsimp only [Prompt] <;> infer_instance

variable {p : RtcParameters} {w : ℕ} {gw : CommandGateway RtcSection Rtc}
  {step : Rtc.Program Unit} {c : Config Role (WorldSection RtcSection) Env (World Rtc) Failure}

/-- In the runs that meet the condition, no stale fault does any harm. -/
theorem staleFree (hd : Drives p w gw step)
    (hc : (system gw step).Reachable (fun _ l _ c => Prompt l c) (.init (init p)) c) :
    latching.StaleFree (system gw step) (fun _ l _ c => Prompt l c) c := by
  refine Latching.staleFree ?_ (fun {c c' t l e r} hc hs => ?_) hc
  · intro f hf
    cases hf
  have hadm : ∀ (_ : Role) l (_ : Env) c, Prompt l c → True := fun _ _ _ _ _ => trivial
  have hp : Prompt l c.shared := by
    cases hs with
    | sect _ hp => exact hp
  have h₀ : (worldOutline p w).inv (init p) := ⟨Rtc.inv_init, fun _ => ⟨rfl, rfl, rfl⟩⟩
  have hg := ((sound hd).guar h₀ idle_init (hc.mono hadm) (hs.mono hadm)).1
  cases l with
  | gateway gl =>
    obtain ⟨hstep, hkept⟩ := Rtc.Changes.inOrder hp hg
    exact ⟨hstep, hkept⟩
  | own | gravity | status =>
    have hsame : c'.shared.gateway = c.shared.gateway := hg.2
    refine ⟨?_, (by intros; contradiction)⟩
    show FaultLatch.Step (Rtc.latching.latch c.shared.gateway)
      (Rtc.latching.latch c'.shared.gateway)
    rw [hsame]
    exact .keep

end Takeover

/-- Where every error is handled in the control epoch under which the failing work was begun, and no
fault is left in the latch when a later control epoch begins, no stale fault does any harm. -/
theorem stale_fault_free (rtc : RtcParameters) (expo : ExpoParameters)
    (sequential : SequentialParameters) :
    (∀ c, (Rtc.system rtc).Reachable (fun _ l _ s => Rtc.Prompt l s) (.init (Rtc.init rtc)) c →
      Rtc.latching.StaleFree (Rtc.system rtc) (fun _ l _ s => Rtc.Prompt l s) c) ∧
    (∀ c, (Expo.system expo).Reachable (fun _ l _ s => Rtc.Prompt l s)
        (.init (Rtc.init expo.toRtcParameters)) c →
      Rtc.latching.StaleFree (Expo.system expo) (fun _ l _ s => Rtc.Prompt l s) c) ∧
    (∀ c, (Sequential.system sequential).Reachable (fun _ l _ s => Sequential.Prompt l s)
        (.init {}) c →
      Sequential.latching.StaleFree (Sequential.system sequential)
        (fun _ l _ s => Sequential.Prompt l s) c) ∧
    (∀ c, (Takeover.system (Rtc.gateway rtc) (Rtc.step rtc)).Reachable
        (fun _ l _ c => Takeover.Prompt l c) (.init (Takeover.init rtc)) c →
      Takeover.latching.StaleFree (Takeover.system (Rtc.gateway rtc) (Rtc.step rtc))
        (fun _ l _ c => Takeover.Prompt l c) c) ∧
    ∀ c, (Takeover.system (Expo.gateway expo) (Expo.step expo)).Reachable
        (fun _ l _ c => Takeover.Prompt l c) (.init (Takeover.init expo.toRtcParameters)) c →
      Takeover.latching.StaleFree (Takeover.system (Expo.gateway expo) (Expo.step expo))
        (fun _ l _ c => Takeover.Prompt l c) c :=
  ⟨fun _ hc => Rtc.staleFree (Rtc.sound rtc False) hc,
    fun _ hc => Rtc.staleFree (Expo.sound expo) hc, fun _ hc => Sequential.staleFree hc,
    fun _ hc => Takeover.staleFree (Rtc.drives rtc) hc,
    fun _ hc => Takeover.staleFree (Expo.drives expo) hc⟩

/-! ### Schedules -/

namespace Rtc.Station

/-- The controller takes a fault, and begins the next control epoch with `n` sections after that. -/
def takeFault (n : ℕ) : List (Move Role Op Env) :=
  run .controller .takeFault 1 {} ++ run .controller (.clearPending 1) n {}

/-- A fault was taken, and the next control epoch has begun. -/
def tookFault (c : Config Role RtcSection Env Rtc Failure) : Bool :=
  decide (c.shared.controlEpoch = 1) && c.shared.log.any fun
    | .faultTaken _ => true
    | _ => false

/-- A step finds the queue empty. -/
def underrun (clock : ℚ) : List (Move Role Op Env) := run .scheduler .step 4 { clock := clock }

end Rtc.Station

namespace Sequential.Station

/-- The executor waits in vain for the response to its next request. -/
def timeout : List (Move Role Op Env) :=
  openLease 0 0 ++ publish 0 ++ run .executor .step 10 1 ++ run .executor .step 12 100

end Sequential.Station

/-- The watchdog of a lease expires or the response does not come, and the fault is taken before the
next control epoch begins; a human takes over from either scheduler. -/
theorem stale_fault_free_taken :
    (∃ c, (Rtc.system Rtc.Station.three).Reachable (fun _ l _ s => Rtc.Prompt l s)
        (.init (Rtc.init Rtc.Station.three)) c ∧ Rtc.Station.tookFault c = true ∧
      Rtc.latching.StaleFree (Rtc.system Rtc.Station.three) (fun _ l _ s => Rtc.Prompt l s) c) ∧
    (∃ c, (Expo.system Expo.Station.parameters).Reachable (fun _ l _ s => Rtc.Prompt l s)
        (.init (Rtc.init Expo.Station.parameters.toRtcParameters)) c ∧
      Rtc.Station.tookFault c = true ∧
      Rtc.latching.StaleFree (Expo.system Expo.Station.parameters)
        (fun _ l _ s => Rtc.Prompt l s) c) ∧
    (∃ c, (Sequential.system Sequential.Station.parameters).Reachable
        (fun _ l _ s => Sequential.Prompt l s) (.init {}) c ∧
      .faultTaken ⟨.gateway .policyWaitTimeout, 0⟩ ∈ c.shared.log ∧
      Sequential.latching.StaleFree (Sequential.system Sequential.Station.parameters)
        (fun _ l _ s => Sequential.Prompt l s) c) ∧
    (∃ c, (Takeover.system (Rtc.gateway Rtc.Station.three) (Rtc.step Rtc.Station.three)).Reachable
        (fun _ l _ c => Takeover.Prompt l c) (.init (Takeover.init Rtc.Station.three)) c ∧
      Takeover.Station.HandedOver c.shared ∧
      Takeover.latching.StaleFree (Takeover.system (Rtc.gateway Rtc.Station.three)
        (Rtc.step Rtc.Station.three)) (fun _ l _ c => Takeover.Prompt l c) c) ∧
    ∃ c, (Takeover.system (Expo.gateway Expo.Station.parameters)
        (Expo.step Expo.Station.parameters)).Reachable (fun _ l _ c => Takeover.Prompt l c)
        (.init (Takeover.init Expo.Station.parameters.toRtcParameters)) c ∧
      Takeover.Station.HandedOver c.shared ∧
      Takeover.latching.StaleFree (Takeover.system (Expo.gateway Expo.Station.parameters)
        (Expo.step Expo.Station.parameters)) (fun _ l _ c => Takeover.Prompt l c) c := by
  obtain ⟨hrtc, hexpo, hseq, hworld, hworld'⟩ :=
    stale_fault_free Rtc.Station.three Expo.Station.parameters Sequential.Station.parameters
  obtain ⟨c₁, h₁, ht₁⟩ := System.shows (Rtc.system Rtc.Station.three) (fun _ _ _ => trivial)
    Rtc.Prompt (.init (Rtc.init Rtc.Station.three))
    (Rtc.Station.openLease 0 0 (Rtc.Station.ticket 3 (by decide) 0 0) ++
      Rtc.Station.underrun 100 ++ Rtc.Station.takeFault 3) Rtc.Station.tookFault (by decide +kernel)
  obtain ⟨c₂, h₂, ht₂⟩ := System.shows (Expo.system Expo.Station.parameters) (fun _ _ _ => trivial)
    Rtc.Prompt (.init (Rtc.init Expo.Station.parameters.toRtcParameters))
    (Rtc.Station.openLease 0 0 (Rtc.Station.ticket 3 (by decide) 0 0) ++
      Rtc.Station.underrun 100 ++ Rtc.Station.takeFault 4) Rtc.Station.tookFault (by decide +kernel)
  obtain ⟨c₃, h₃, ht₃⟩ := System.shows (Sequential.system Sequential.Station.parameters)
    (fun _ _ _ => trivial) Sequential.Prompt (.init {})
    (Sequential.Station.timeout ++ Sequential.Station.run .controller .takeFault 1 100 ++
      Sequential.Station.run .controller (.clearPending 1) 2 100)
    (fun c => decide (.faultTaken ⟨.gateway .policyWaitTimeout, 0⟩ ∈ c.shared.log))
    (by decide +kernel)
  obtain ⟨c₄, h₄, ht₄⟩ := System.shows
    (Takeover.system (Rtc.gateway Rtc.Station.three) (Rtc.step Rtc.Station.three))
    (fun _ _ _ => trivial) Takeover.Prompt (.init (Takeover.init Rtc.Station.three))
    (Takeover.Station.handover (Rtc.Station.ticket 3 (by decide) 0 0) 11)
    (fun c => Takeover.Station.handedOver c.shared) (by decide +kernel)
  obtain ⟨c₅, h₅, ht₅⟩ := System.shows
    (Takeover.system (Expo.gateway Expo.Station.parameters) (Expo.step Expo.Station.parameters))
    (fun _ _ _ => trivial) Takeover.Prompt
    (.init (Takeover.init Expo.Station.parameters.toRtcParameters))
    (Takeover.Station.handover (Rtc.Station.ticket 3 (by decide) 0 0) 12)
    (fun c => Takeover.Station.handedOver c.shared) (by decide +kernel)
  exact ⟨⟨c₁, h₁, ht₁, hrtc c₁ h₁⟩, ⟨c₂, h₂, ht₂, hexpo c₂ h₂⟩,
    ⟨c₃, h₃, of_decide_eq_true ht₃, hseq c₃ h₃⟩,
    ⟨c₄, h₄, Takeover.Station.handedOver_spec ht₄, hworld c₄ h₄⟩,
    ⟨c₅, h₅, Takeover.Station.handedOver_spec ht₅, hworld' c₅ h₅⟩⟩

namespace Takeover.Station

/-- In the first Episode the bootstrap window is rejected, and the controller holds the fault until
the Episode ends.  The second Episode begins, and the controller polls it. -/
def rejectedEpisode (ticket : InferenceTicket) : List (Move Role Op Env) :=
  run .controller (.startEpisode ⟨"first", 0, by decide, by decide⟩) 6 {} ++
    run .policy (.complete 0 (.ok (.ticket ticket))) 1 {} ++ run .controller .pollPolicy 16 {} ++
      run .controller (.stopEpisode ⟨.fail, 0, by decide⟩) 2 {} ++
        run .controller (.startEpisode ⟨"second", 0, by decide, by decide⟩) 6 {} ++
          run .controller .pollRuntime 1 {}

end Takeover.Station

/-- The rejection of a window in the first Episode is what `take_fault` returns to the controller in
the second one.  Without a controller, `clear_pending` leaves the latched fault of either of the
other two gateways as well. -/
theorem stale_fault_returned :
    (∃ c, (Takeover.system (Rtc.gateway Rtc.Station.three)
        (Rtc.step Rtc.Station.three)).Reachable (fun _ _ _ _ => True)
          (.init (Takeover.init Rtc.Station.three)) c ∧
      (c.shared.takeover.state = .resumePending ∧ c.shared.takeover.episodeId = some "second") ∧
      ¬ Takeover.latching.StaleFree (Takeover.system (Rtc.gateway Rtc.Station.three)
        (Rtc.step Rtc.Station.three)) (fun _ _ _ _ => True) c) ∧
    (∃ c, (Expo.system Expo.Station.parameters).Reachable (fun _ _ _ _ => True)
        (.init (Rtc.init Expo.Station.parameters.toRtcParameters)) c ∧
      ¬ Rtc.latching.StaleFree (Expo.system Expo.Station.parameters) (fun _ _ _ _ => True) c) ∧
    ∃ c, (Sequential.system Sequential.Station.parameters).Reachable (fun _ _ _ _ => True)
        (.init {}) c ∧
      ¬ Sequential.latching.StaleFree (Sequential.system Sequential.Station.parameters)
        (fun _ _ _ _ => True) c := by
  obtain ⟨c₁, h₁, ht₁⟩ := System.shows
    (Takeover.system (Rtc.gateway Rtc.Station.three) (Rtc.step Rtc.Station.three))
    (fun _ _ _ => trivial) (fun _ _ => True) (.init (Takeover.init Rtc.Station.three))
    (Takeover.Station.rejectedEpisode (Rtc.Station.ticket 3 (by decide) 0 10))
    (fun c => decide (c.shared.takeover.state = .resumePending ∧
      c.shared.takeover.episodeId = some "second") &&
        Takeover.latching.returnsStale .controller c) (by decide +kernel)
  obtain ⟨c₂, h₂, ht₂⟩ := System.shows (Expo.system Expo.Station.parameters) (fun _ _ _ => trivial)
    (fun _ _ => True) (.init (Rtc.init Expo.Station.parameters.toRtcParameters))
    (Rtc.Station.openLease 0 0 (Rtc.Station.ticket 3 (by decide) 0 10) ++
      Rtc.Station.run .controller (.clearPending 1) 4 {} ++
        Rtc.Station.run .controller .takeFault 0 {})
    (Rtc.latching.returnsStale .controller) (by decide +kernel)
  obtain ⟨c₃, h₃, ht₃⟩ := System.shows (Sequential.system Sequential.Station.parameters)
    (fun _ _ _ => trivial) (fun _ _ => True) (.init {})
    (Sequential.Station.timeout ++ Sequential.Station.run .controller (.clearPending 1) 2 100 ++
      Sequential.Station.run .controller .takeFault 0 100)
    (Sequential.latching.returnsStale .controller) (by decide +kernel)
  rw [Bool.and_eq_true] at ht₁
  exact ⟨⟨c₁, h₁, of_decide_eq_true ht₁.1, Latching.not_staleFree ht₁.2⟩,
    ⟨c₂, h₂, Latching.not_staleFree ht₂⟩, c₃, h₃, Latching.not_staleFree ht₃⟩

end DualCollection
