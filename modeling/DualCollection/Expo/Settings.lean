import DualCollection.Expo.Scheduler
import DualCollection.Rtc.Configured

/-!
# The numbers of an EXPO configuration

`C`, `d`, the prefetch, the horizon and the trained delays of a configuration are compared in three
places: `prepare_policy` compares `C`, `d` and the prefetch, the settings compare the prefetch and
the trained delays with the horizon, and the constructor of the scheduler compares `C + d` with it.
Only the constructor does the last, so a configuration that is accepted at load time may have no
scheduler: `expo_scheduler_iff` says which have.
-/

namespace DualCollection

/-- What `prepare_policy` requires of a configuration with an `[expo]`. -/
def PolicyPayload.expoChecks (payload : PolicyPayload) : Except String Unit :=
  match payload.rollout, payload.checkpointProfile.bind (·.sequentialExecutionSteps) with
  | some rollout, some steps =>
    if ¬(0 < rollout.initialDelaySteps ∧ rollout.initialDelaySteps < steps) then
      .error "EXPO requires 0<d<C"
    else if rollout.prefetchAfterSteps ≠ steps - rollout.initialDelaySteps then
      .error "EXPO prefetch must equal C-d"
    else .ok ()
  | none, _ => .error "KeyError: 'rollout'"
  | _, none => .error "KeyError: 'sequential_execution_steps'"

/-- `ExpoActionScheduler(...)`, after the constructor of its base class. -/
def ExpoParameters.create (p : RtcParameters) : Except String ExpoParameters :=
  if hrange : ¬((0 < p.rollout.initialDelaySteps ∧
        p.rollout.initialDelaySteps < p.checkpoint.execution.executionSteps) ∧
      p.rollout.prefetchAfterSteps =
        p.checkpoint.execution.executionSteps - p.rollout.initialDelaySteps) then
    .error "EXPO requires 0<d<C and prefetch_after_steps=C-d"
  else if hhorizon : p.checkpoint.execution.actionChunkSize <
      p.rollout.initialDelaySteps + p.checkpoint.execution.executionSteps then
    .error "EXPO selected window exceeds horizon"
  else .ok {
    p with
    delay_range := (not_not.1 hrange).1
    prefetch := (not_not.1 hrange).2
    horizon := not_lt.1 hhorizon }

/-- The scheduler of an EXPO policy. -/
def DaggerCollectorSettings.expoScheduler (settings : DaggerCollectorSettings) :
    Except String ExpoParameters := do
  let p ← settings.openScheduler (some settings.control.expoBootstrapTimeoutS)
  ExpoParameters.create p

/-- What `prepare_policy` has compared. -/
structure PolicyPayload.ExpoChecked (payload : PolicyPayload) (rollout : RolloutTable) : Prop where
  /-- The rollout of the configuration. -/
  table : payload.rollout = some rollout
  /-- `EXPO requires 0<d<C` -/
  delay_range : 0 < rollout.initialDelaySteps ∧ rollout.initialDelaySteps < payload.executionSteps
  /-- `EXPO prefetch must equal C-d` -/
  prefetch : rollout.prefetchAfterSteps = payload.executionSteps - rollout.initialDelaySteps

theorem PolicyPayload.expoChecks_ok {payload : PolicyPayload} (h : payload.expoChecks = .ok ()) :
    ∃ rollout, payload.ExpoChecked rollout := by
  unfold expoChecks at h
  split at h
  · rename_i rollout steps hrollout hsteps
    split_ifs at h with hrange hprefetch
    have hexecution : payload.executionSteps = steps := by
      rw [executionSteps, hsteps, Option.getD_some]
    refine ⟨rollout, hrollout, ?_, ?_⟩
    · rw [hexecution]
      exact hrange
    · rw [hexecution]
      exact not_not.1 hprefetch
  · cases h
  · cases h

/-- The numbers of a scheduler are those of the configuration. -/
structure PolicyPayload.Numbers (payload : PolicyPayload) (rollout : RolloutTable)
    (p : RtcParameters) : Prop where
  /-- The horizon. -/
  actionChunkSize : (p.checkpoint.execution.actionChunkSize : ℤ) = payload.actionChunkSize
  /-- `C` -/
  executionSteps : (p.checkpoint.execution.executionSteps : ℤ) = payload.executionSteps
  /-- The prefetch. -/
  prefetchAfterSteps : (p.rollout.prefetchAfterSteps : ℤ) = rollout.prefetchAfterSteps
  /-- `d` -/
  initialDelaySteps : (p.rollout.initialDelaySteps : ℤ) = rollout.initialDelaySteps

theorem DaggerCollectorSettings.Configured.numbers {payload : PolicyPayload}
    {settings : DaggerCollectorSettings} {bootstrapTimeoutS : Option ℚ} {p : RtcParameters}
    (hconfigured : settings.Configured bootstrapTimeoutS p)
    (hassembled : settings.Assembled payload) {rollout : RolloutTable}
    (htable : payload.rollout = some rollout) : payload.Numbers rollout p := by
  have hexecution := loadCheckpointProfile_ok hassembled.checkpointProfile
  rw [← hconfigured.checkpoint] at hexecution
  obtain ⟨hsize, -, hsteps, -⟩ := PolicyExecutionProfile.create_ok hexecution
  obtain ⟨profile, hprofile, hcreate, -⟩ := loadRtcRollout_ok htable hassembled.rtcRollout
  obtain rfl : profile = p.rollout := Option.some.inj (hprofile.symm.trans hconfigured.rollout)
  obtain ⟨hprefetch, hdelay, -⟩ := RtcRolloutProfile.create_ok hcreate
  exact ⟨hsize, hsteps, hprefetch, hdelay⟩

/-- The constructor refuses nothing but the horizon, when the other comparisons hold. -/
theorem ExpoParameters.create_of {p : RtcParameters}
    (hrange : 0 < p.rollout.initialDelaySteps ∧
      p.rollout.initialDelaySteps < p.checkpoint.execution.executionSteps)
    (hprefetch : p.rollout.prefetchAfterSteps =
      p.checkpoint.execution.executionSteps - p.rollout.initialDelaySteps)
    (hhorizon : p.rollout.initialDelaySteps + p.checkpoint.execution.executionSteps ≤
      p.checkpoint.execution.actionChunkSize) : ∃ expo, create p = .ok expo := by
  unfold create
  rw [dif_neg (not_not.2 ⟨hrange, hprefetch⟩), dif_neg (not_lt.2 hhorizon)]
  exact ⟨_, rfl⟩

theorem ExpoParameters.create_ok {p : RtcParameters} {expo : ExpoParameters}
    (h : create p = .ok expo) : expo.toRtcParameters = p := by
  unfold create at h
  split_ifs at h
  cases h
  rfl

theorem DaggerCollectorSettings.expoScheduler_ok {settings : DaggerCollectorSettings}
    {expo : ExpoParameters} (h : settings.expoScheduler = .ok expo) :
    settings.Configured (some settings.control.expoBootstrapTimeoutS) expo.toRtcParameters := by
  obtain ⟨p, hopen, h⟩ := bind_eq_ok h
  rw [ExpoParameters.create_ok h]
  exact openScheduler_ok hopen

/-- A scheduler has room for `C + d` actions. -/
theorem DaggerCollectorSettings.Assembled.horizon {payload : PolicyPayload}
    {settings : DaggerCollectorSettings} (hassembled : settings.Assembled payload)
    {rollout : RolloutTable} (htable : payload.rollout = some rollout) {expo : ExpoParameters}
    (h : settings.expoScheduler = .ok expo) :
    rollout.initialDelaySteps + payload.executionSteps ≤ payload.actionChunkSize := by
  have hnumbers := (expoScheduler_ok h).numbers hassembled htable
  have hhorizon := expo.horizon
  have hsize := hnumbers.actionChunkSize
  have hsteps := hnumbers.executionSteps
  have hdelay := hnumbers.initialDelaySteps
  omega

/-- An EXPO configuration that is accepted at load time has a scheduler exactly when `C + d` actions
fit the chunk. -/
theorem expo_scheduler_iff {payload : PolicyPayload} {settings : DaggerCollectorSettings}
    (hchecks : payload.expoChecks = .ok ())
    (hload : DaggerCollectorSettings.load payload = .ok settings) :
    (∃ expo, settings.expoScheduler = .ok expo ∧
      settings.Configured (some settings.control.expoBootstrapTimeoutS) expo.toRtcParameters) ↔
    ∃ rollout ∈ payload.rollout,
      rollout.initialDelaySteps + payload.executionSteps ≤ payload.actionChunkSize := by
  obtain ⟨table, hcompared⟩ := PolicyPayload.expoChecks_ok hchecks
  obtain ⟨hassemble, hchecked⟩ := DaggerCollectorSettings.load_ok_iff.1 hload
  have hassembled := DaggerCollectorSettings.assemble_ok hassemble
  constructor
  · rintro ⟨expo, hexpo, -⟩
    exact ⟨table, hcompared.table, hassembled.horizon hcompared.table hexpo⟩
  · rintro ⟨rollout, hrollout, hhorizon⟩
    obtain rfl : table = rollout := Option.some.inj (hcompared.table.symm.trans hrollout)
    -- the base class accepts what the settings have validated
    obtain ⟨profile, hprofile, -, hvalid⟩ :=
      loadRtcRollout_ok hcompared.table hassembled.rtcRollout
    have hbootstrap : ∀ timeout ∈ some settings.control.expoBootstrapTimeoutS, 0 < timeout := by
      rintro timeout ⟨⟩
      exact settings.control.expoBootstrapTimeoutS_pos
    obtain ⟨p, hopen⟩ := hchecked.openScheduler hprofile hvalid hbootstrap
    have hnumbers :=
      (DaggerCollectorSettings.openScheduler_ok hopen).numbers hassembled hcompared.table
    have hsize := hnumbers.actionChunkSize
    have hsteps := hnumbers.executionSteps
    have hprefetch := hnumbers.prefetchAfterSteps
    have hdelay := hnumbers.initialDelaySteps
    have hrange := hcompared.delay_range
    have hprefetch' := hcompared.prefetch
    obtain ⟨expo, hexpo⟩ :=
      ExpoParameters.create_of (p := p) (by omega) (by omega) (by omega)
    have hscheduler : settings.expoScheduler = .ok expo := by
      rw [DaggerCollectorSettings.expoScheduler, hopen]
      exact hexpo
    exact ⟨expo, hscheduler, DaggerCollectorSettings.expoScheduler_ok hscheduler⟩

/-! ### A station -/

namespace Expo.Station

/-- The digest of the checkpoint. -/
def sha : String := String.ofList (List.replicate 64 '0')

theorem sha_valid : IsSha256 sha := by
  refine isSha256_ofList List.length_replicate fun c hc => ?_
  rw [List.eq_of_mem_replicate hc]
  decide

/-- `C = 8`, `d = 4` and a checkpoint that was trained for delays below `5`, at 30 Hz. -/
def payload (horizon : ℤ) : PolicyPayload where
  policy := ⟨sha, "fold the towel", none, none, none, none⟩
  collector := ⟨some "127.0.0.1", some 8000, none⟩
  gripper := ⟨"arx5-gripper-v1", some 0, []⟩
  observation := ⟨none, none, none, some 60⟩
  robot := ⟨none, none, none⟩
  safety := ⟨none, none, none, none, none, none, none⟩
  gateway := ⟨none, some (1 / 10), none, none, none⟩
  checkpointProfile := some ⟨"training_time_rtc", some horizon, some 14, some 8, some 30, 5, 10,
    "absolute_joint", "hard_prefix", 1 / 100000, 32, "linear_open_closed_0_1", "arx5-gripper-v1"⟩
  modelInput := some ⟨640, 360, 3, "chw", "rgb", "uint8", "inter_area", "none", "none", 224, 224,
    "resize_with_pad", "overview", "left", "right"⟩
  rollout := some ⟨4, 4, 8, "rolling_max"⟩
  expo := true

/-- The comparisons of `load`, that of the digest apart. -/
def compared (payload : PolicyPayload) (settings : DaggerCollectorSettings) : Bool :=
  decide ((settings.serverHost ≠ "" ∧ settings.prompt ≠ "") ∧
    (0 < settings.serverPort ∧ settings.serverPort ≤ 65535) ∧ 0 < settings.inferenceTimeoutS ∧
    ¬(payload.expo ∧ settings.inferenceTimeoutS < settings.control.expoBootstrapTimeoutS) ∧
    0 < settings.snapshotTimeoutS ∧ settings.validateRtcDeadline = .ok ())

theorem loads {n : ℤ}
    (h : (DaggerCollectorSettings.assemble (payload n)).toOption.any (compared (payload n)) = true) :
    ∃ settings, DaggerCollectorSettings.load (payload n) = .ok settings := by
  cases hassemble : DaggerCollectorSettings.assemble (payload n) with
  | error text =>
    rw [hassemble] at h
    cases h
  | ok settings =>
    rw [hassemble] at h
    obtain ⟨hhost, hport, hinference, hbootstrap, hsnapshot, hdeadline⟩ := of_decide_eq_true h
    have hsha : settings.checkpointSha256 = sha :=
      (DaggerCollectorSettings.assemble_ok hassemble).checkpointSha256.trans sha_valid.toLower
    refine ⟨settings, DaggerCollectorSettings.load_ok_iff.2 ⟨hassemble, hhost, hport, hinference,
      hbootstrap, hsnapshot, ?_, hdeadline⟩⟩
    rw [hsha]
    exact sha_valid

end Expo.Station

/-- With a horizon of `10` the scheduler refuses what was accepted at load time. -/
theorem expo_scheduler_refused :
    ¬ ∀ payload settings, PolicyPayload.expo payload = true → payload.expoChecks = .ok () →
      DaggerCollectorSettings.load payload = .ok settings →
      ∃ expo, settings.expoScheduler = .ok expo := by
  intro h
  obtain ⟨settings, hload⟩ := Expo.Station.loads (n := 10) (by decide +kernel)
  obtain ⟨expo, hexpo⟩ := h _ settings rfl rfl hload
  have hassembled :=
    DaggerCollectorSettings.assemble_ok (DaggerCollectorSettings.load_ok_iff.1 hload).1
  have hhorizon := hassembled.horizon rfl hexpo
  exact absurd hhorizon (by decide)

/-- With a horizon of `12` it does not. -/
theorem expo_scheduler_twelve :
    ∃ settings, DaggerCollectorSettings.load (Expo.Station.payload 12) = .ok settings ∧
      ∃ expo, settings.expoScheduler = .ok expo := by
  obtain ⟨settings, hload⟩ := Expo.Station.loads (n := 12) (by decide +kernel)
  obtain ⟨expo, hexpo, -⟩ := (expo_scheduler_iff rfl hload).2 ⟨_, rfl, by decide⟩
  exact ⟨settings, hload, expo, hexpo⟩

end DualCollection
