import DualCollection.Control.Settings
import DualCollection.Rtc.Scheduler

/-!
# The scheduler of the settings

`open_takeover_action_runtime` of `dagger/action_runtime.py` builds the scheduler of a training-time
RTC checkpoint from the settings of the collector.
-/

namespace DualCollection

/-- `Pi05JointActionContract(...)` -/
def Pi05JointActionContract.create (checkpointSha256 : String) (grippers : GripperCalibration)
    (safety : JointActionSafety) (gripperActionOffset : ℚ) :
    Except String Pi05JointActionContract :=
  if IsSha256 checkpointSha256.toLower then
    .ok ⟨checkpointSha256.toLower, grippers, safety, gripperActionOffset⟩
  else .error "checkpoint_sha256 must contain 64 hexadecimal characters"

/-- `RtcActionScheduler(...)`.  Its estimator, which is built from the rollout, refuses nothing
that `validate_for` accepts. -/
def RtcParameters.create (contract : Pi05JointActionContract) (checkpoint : Pi05CheckpointProfile)
    (rollout : RtcRolloutProfile) (policyWaitTimeoutS commandWatchdogS : ℚ)
    (bootstrapTimeoutS : Option ℚ) : Except String RtcParameters :=
  match hvalid : rollout.validateFor checkpoint with
  | .error error => .error error.text
  | .ok () =>
    if htimeouts : ¬(0 < policyWaitTimeoutS ∧ 0 < commandWatchdogS) then
      .error "RTC scheduler timeouts must be positive"
    else if hbootstrap : bootstrapTimeoutS.getD policyWaitTimeoutS ≤ 0 then
      .error "RTC bootstrap timeout must be positive and finite"
    else .ok {
      contract := contract
      checkpoint := checkpoint
      rollout := rollout
      policyWaitTimeoutS := policyWaitTimeoutS
      commandWatchdogS := commandWatchdogS
      bootstrapTimeoutS := bootstrapTimeoutS.getD policyWaitTimeoutS
      valid := RtcRolloutProfile.validateFor_ok_iff.1 hvalid
      timeouts_pos := not_not.1 htimeouts
      bootstrapTimeoutS_pos := not_le.1 hbootstrap }

namespace DaggerCollectorSettings

/-- The scheduler of a training-time RTC checkpoint; an EXPO policy has a bootstrap timeout of its
own. -/
def openScheduler (settings : DaggerCollectorSettings) (bootstrapTimeoutS : Option ℚ) :
    Except String RtcParameters := do
  let contract ← Pi05JointActionContract.create settings.checkpointSha256 settings.grippers
    settings.control.safety settings.gripperActionOffset
  match settings.rtcRollout with
  | none => throw "RTC checkpoint has no rollout profile"
  | some rollout =>
    RtcParameters.create contract settings.checkpointProfile rollout
      settings.control.policyWaitTimeoutS settings.control.commandWatchdogS bootstrapTimeoutS

/-- The parameters of a scheduler are those of the settings. -/
structure Configured (settings : DaggerCollectorSettings) (bootstrapTimeoutS : Option ℚ)
    (p : RtcParameters) : Prop where
  /-- The checkpoint. -/
  checkpoint : p.checkpoint = settings.checkpointProfile
  /-- The rollout. -/
  rollout : settings.rtcRollout = some p.rollout
  /-- How long a request may take. -/
  policyWaitTimeoutS : p.policyWaitTimeoutS = settings.control.policyWaitTimeoutS
  /-- How late a command may be. -/
  commandWatchdogS : p.commandWatchdogS = settings.control.commandWatchdogS
  /-- How long the first request may take. -/
  bootstrapTimeoutS : p.bootstrapTimeoutS =
    bootstrapTimeoutS.getD settings.control.policyWaitTimeoutS

theorem openScheduler_ok {settings : DaggerCollectorSettings} {bootstrapTimeoutS : Option ℚ}
    {p : RtcParameters} (h : settings.openScheduler bootstrapTimeoutS = .ok p) :
    settings.Configured bootstrapTimeoutS p := by
  obtain ⟨contract, -, h⟩ := bind_eq_ok h
  split at h
  · cases h
  · rename_i rollout hrollout
    unfold RtcParameters.create at h
    split at h
    · cases h
    · split_ifs at h
      cases h
      exact ⟨rfl, hrollout, rfl, rfl, rfl⟩

/-- The settings of an RTC checkpoint that were loaded have a scheduler. -/
theorem Checked.openScheduler {payload : PolicyPayload} {settings : DaggerCollectorSettings}
    (hchecked : settings.Checked payload) {rollout : RtcRolloutProfile}
    (hrollout : settings.rtcRollout = some rollout)
    (hvalid : rollout.ValidFor settings.checkpointProfile) {bootstrapTimeoutS : Option ℚ}
    (hbootstrap : ∀ timeout ∈ bootstrapTimeoutS, 0 < timeout) :
    ∃ p, settings.openScheduler bootstrapTimeoutS = .ok p := by
  have hsha := hchecked.checkpointSha256
  have hpos := settings.control.timeouts_pos
  have hvalid := RtcRolloutProfile.validateFor_ok_iff.2 hvalid
  have htimeout : ¬bootstrapTimeoutS.getD settings.control.policyWaitTimeoutS ≤ 0 := by
    cases bootstrapTimeoutS with
    | none => exact not_le.2 hpos.2.1
    | some timeout => exact not_le.2 (hbootstrap timeout rfl)
  unfold DaggerCollectorSettings.openScheduler Pi05JointActionContract.create
  rw [hsha.toLower, if_pos hsha]
  simp only [hrollout]
  change ∃ p, RtcParameters.create _ _ _ _ _ _ = .ok p
  unfold RtcParameters.create
  split
  · rename_i herror
    rw [hvalid] at herror
    cases herror
  · rw [dif_neg (not_not.2 ⟨hpos.2.1, hpos.2.2.1⟩), dif_neg htimeout]
    exact ⟨_, rfl⟩

end DaggerCollectorSettings

end DualCollection
