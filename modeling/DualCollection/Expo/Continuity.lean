import DualCollection.Expo.Threads

/-!
# Continuity of the published joint targets

A reset starts a control epoch.  Within one, the joint targets of both schedulers move in bounded
steps: from the feedback to the first command, from a command to the next one, whether or not a
new window was spliced in between, and never further than the limit from the feedback against
which the window was validated.
-/

namespace DualCollection

open Thread

namespace Rtc

variable {p : RtcParameters} {w : ℕ}

/-- The published joint targets move in bounded steps. -/
structure ContinuousTargets (safety : JointActionSafety) (log : List RtcEvent) : Prop where
  /-- Two consecutive commands of an epoch differ by at most `max_joint_step_rad` in every joint. -/
  step : ∀ (t : ℕ) (q last : QueuedRtcAction) (earlier : List RtcEvent),
    (.published t q :: earlier) <:+ log → lastPublished earlier = some last →
      Within safety.maxJointStepRad q.command.joints last.command.joints
  /-- The first command of an epoch comes from the bootstrap window, and differs by at most
  `max_initial_joint_step_rad` from the feedback that was read when the window was accepted. -/
  first : ∀ (t : ℕ) (q : QueuedRtcAction) (earlier : List RtcEvent),
    (.published t q :: earlier) <:+ log → lastPublished earlier = none →
      ∃ a, lastAccepted earlier = some a ∧ a.pending.bootstrap = true ∧
        Within safety.maxInitialJointStepRad q.command.joints a.measured.joints
  /-- Every command comes from the window that was accepted last, and differs by at most
  `max_joint_departure_rad` from the feedback that was read when the window was accepted. -/
  departure : ∀ (t : ℕ) (q : QueuedRtcAction) (earlier : List RtcEvent),
    (.published t q :: earlier) <:+ log → ∃ a, lastAccepted earlier = some a ∧ q ∈ a.window ∧
      Within safety.maxJointDepartureRad q.command.joints a.measured.joints

/-- The invariant of the schedulers bounds the steps of the joint targets. -/
theorem Inv.continuousTargets {s : Rtc} (h : Inv p w s) :
    ContinuousTargets p.contract.safety s.log where
  step := fun t q last earlier hs hl => by
    obtain ⟨a, ha⟩ := h.history.event hs
    have hc := ha.continues
    rw [hl] at hc
    exact hc
  first := fun t q earlier hs hl => by
    obtain ⟨a, ha⟩ := h.history.event hs
    have hc := ha.continues
    rw [hl] at hc
    exact ⟨a, ha.accepted, hc⟩
  departure := fun t q earlier hs => by
    obtain ⟨a, ha⟩ := h.history.event hs
    exact ⟨a, ha.accepted, ha.window, ha.departure⟩

end Rtc

/-- The joint targets that either scheduler publishes move in bounded steps. -/
theorem published_continuousTargets :
    (∀ (p : RtcParameters) c, (Rtc.system p).Reachable (fun _ _ _ _ => True)
      (.init (Rtc.init p)) c → Rtc.ContinuousTargets p.contract.safety c.shared.log) ∧
    (∀ (p : ExpoParameters) c, (Expo.system p).Reachable (fun _ _ _ _ => True)
      (.init (Rtc.init p.toRtcParameters)) c →
        Rtc.ContinuousTargets p.contract.safety c.shared.log) := by
  refine ⟨fun p c hc => ?_, fun p c hc => ?_⟩
  · exact (Rtc.reachable_inv (Rtc.sound p False) (Rtc.reachable_free hc)).continuousTargets
  · exact (Rtc.reachable_inv (Expo.sound p) (Rtc.reachable_free hc)).continuousTargets

namespace Expo

namespace Station

/-- Windows of two rows, which are requested one command ahead. -/
def parameters : ExpoParameters where
  contract := Rtc.Station.contract
  checkpoint := ⟨.trainingTimeRtc,
    ⟨3, 14, 2, 1, by decide, Rtc.Station.dimension_pos, by decide, Rtc.Station.rate_pos⟩, 2, 1,
      Rtc.Station.delay_pos, Rtc.Station.tolerance_pos⟩
  rollout := ⟨1, 1, 1, Nat.one_pos, Nat.one_pos⟩
  policyWaitTimeoutS := 1
  commandWatchdogS := 1
  bootstrapTimeoutS := 1
  valid := ⟨rfl, by decide, by decide⟩
  timeouts_pos := Rtc.Station.timeouts_pos
  bootstrapTimeoutS_pos := Rtc.Station.rate_pos
  delay_range := by decide
  prefetch := rfl
  horizon := by decide

/-- The controller opens a lease, and two commands are published, the second one after the
candidates for the next window arrived. -/
def window (joints : ℚ) : List (Move Rtc.Role Rtc.Op Env) :=
  Rtc.Station.openLease 0 0 (Rtc.Station.ticket 3 (by decide) 0 joints) ++
    Rtc.Station.publish 0 ++ Rtc.Station.run .policy (.complete 1 (.ok .prepared)) 1 {} ++
      Rtc.Station.publish 1

/-- The next window is accepted, and its first command is published. -/
def nextWindow (joints : ℚ) : List (Move Rtc.Role Rtc.Op Env) :=
  Rtc.Station.answer 2 (Rtc.Station.ticket 3 (by decide) 0 joints) ++
    Rtc.Station.run .scheduler .step 9 { clock := 2 }

/-- What a schedule shows is shown by a reachable configuration. -/
theorem shows (schedule : List (Move Rtc.Role Rtc.Op Env))
    (test : Config Rtc.Role RtcSection Env Rtc Failure → Bool)
    (h : ((system parameters).play (fun _ _ _ _ => true)
      (.init (Rtc.init parameters.toRtcParameters)) schedule).any test = true) :
    ∃ c, (system parameters).Reachable (fun _ _ _ _ => True)
      (.init (Rtc.init parameters.toRtcParameters)) c ∧ test c = true :=
  System.play_shows (fun _ _ _ => trivial) (fun _ _ _ _ _ => trivial) test h

end Station

end Expo

/-- Both schedulers publish across a splice, and the spliced window moves every joint. -/
theorem published_continuousTargets_spliced :
    (∃ c, (Rtc.system Rtc.Station.three).Reachable (fun _ _ _ _ => True)
        (.init (Rtc.init Rtc.Station.three)) c ∧ c.shared.issuedTotal = 2 ∧
      Rtc.ContinuousTargets Rtc.Station.three.contract.safety c.shared.log) ∧
    ∃ c, (Expo.system Expo.Station.parameters).Reachable (fun _ _ _ _ => True)
        (.init (Rtc.init Expo.Station.parameters.toRtcParameters)) c ∧ c.shared.issuedTotal = 3 ∧
      Rtc.ContinuousTargets Expo.Station.parameters.contract.safety c.shared.log := by
  obtain ⟨c, hc, ht⟩ := Rtc.Station.shows Rtc.Station.three (fun _ _ => True)
    (Rtc.Station.openLease 0 0 (Rtc.Station.ticket 3 (by decide) 0 0) ++ Rtc.Station.publish 0 ++
      Rtc.Station.answer 1 (Rtc.Station.ticket 3 (by decide) 0 1) ++
        Rtc.Station.run .scheduler .step 7 { clock := 1 })
    (fun c => decide (c.shared.issuedTotal = 2)) (by decide +kernel)
  obtain ⟨c', hc', ht'⟩ := Expo.Station.shows (Expo.Station.window 0 ++ Expo.Station.nextWindow 1)
    (fun c => decide (c.shared.issuedTotal = 3)) (by decide +kernel)
  exact ⟨⟨c, hc, of_decide_eq_true ht, published_continuousTargets.1 _ c hc⟩,
    c', hc', of_decide_eq_true ht', published_continuousTargets.2 _ c' hc'⟩

end DualCollection
