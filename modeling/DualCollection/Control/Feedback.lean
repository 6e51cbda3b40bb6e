import DualCollection.Control.Acceptance

/-!
# The gripper positions that are commanded and read back

A gripper that has reached the position that `Pi05JointActionContract` commands is read back and
normalized by `Pi05ObservationEncoder`.  The commanded range and the tolerances of the calibration
are configured apart; `Readable` says for which gripper values of a policy they agree, and
`feedback_accepted_iff` has that the encoder accepts the feedback of these and of no others.
-/

namespace DualCollection

/-- `gripper value ... maps outside calibrated range: ...` -/
inductive GripperError
  | outsideRange (value normalized : ℚ)
  deriving DecidableEq

/-- The normalized value of a raw position. -/
def GripperCalibration.normalize (g : GripperCalibration) (value : ℚ) : Except GripperError ℚ :=
  let normalized := (value - g.openValue) / (g.closedValue - g.openValue)
  if normalized < -g.openTolerance ∨ 1 + g.closedTolerance < normalized then
    .error (.outsideRange value normalized)
  else .ok (min 1 (max 0 normalized))

/-- The feedback of an arm, finite by its type. -/
structure RawArmSample where
  /-- The joints. -/
  jointPositions : List ℚ
  /-- The raw position of the gripper. -/
  gripperPosition : ℚ
  /-- The time of the feedback. -/
  stampNs : ℤ
  /-- `arm sample must contain six joint positions` -/
  jointPositions_length : jointPositions.length = 6
  /-- `arm stamp must not be negative` -/
  stampNs_nonneg : 0 ≤ stampNs

/-- The state of an observation, as `Pi05ObservationEncoder.encode` composes it. -/
def GripperCalibration.encode (g : GripperCalibration) (left right : RawArmSample) :
    Except GripperError (List ℚ) := do
  let leftGripper ← g.normalize left.gripperPosition
  let rightGripper ← g.normalize right.gripperPosition
  .ok (left.jointPositions ++ [leftGripper] ++ right.jointPositions ++ [rightGripper])

/-- A normalized value in `[0, 1]`. -/
def clampUnit (value : ℚ) : ℚ := min 1 (max 0 value)

/-- What an extrapolated value normalizes to. -/
theorem GripperCalibration.normalize_extrapolate (g : GripperCalibration) (value : ℚ) :
    g.normalize (g.extrapolate value) =
      if -g.openTolerance ≤ value ∧ value ≤ 1 + g.closedTolerance then .ok (clampUnit value)
      else .error (.outsideRange (g.extrapolate value) value) := by
  have hne : g.closedValue - g.openValue ≠ 0 := sub_ne_zero.2 (Ne.symm g.values_ne)
  have hvalue : (g.extrapolate value - g.openValue) / (g.closedValue - g.openValue) = value := by
    rw [extrapolate, add_sub_cancel_left, mul_div_cancel_right₀ _ hne]
  unfold normalize
  rw [hvalue]
  by_cases h : -g.openTolerance ≤ value ∧ value ≤ 1 + g.closedTolerance
  · rw [if_pos h, if_neg (not_or.2 ⟨not_lt.2 h.1, not_lt.2 h.2⟩)]
    rfl
  · rw [if_neg h, if_pos]
    rcases not_and_or.1 h with h | h
    · exact .inl (not_le.1 h)
    · exact .inr (not_le.1 h)

/-- Where a value that is clamped to `[low, high]` lies. -/
theorem clamp_mem_iff {low high lower upper value : ℚ} :
    lower ≤ min high (max low value) ∧ min high (max low value) ≤ upper ↔
      (lower ≤ high ∧ (lower ≤ low ∨ lower ≤ value)) ∧
        (high ≤ upper ∨ low ≤ upper ∧ value ≤ upper) := by
  rw [le_min_iff, le_max_iff, min_le_iff, max_le_iff]

namespace Pi05JointActionContract

variable {contract : Pi05JointActionContract}

/-- The commanded range and the tolerances of the calibration agree at a gripper value: what would
be commanded beyond a tolerance is cut off by the range, or is not asked for. -/
structure Readable (contract : Pi05JointActionContract) (value : ℚ) : Prop where
  /-- Towards the open gripper. -/
  opened : -contract.grippers.openTolerance ≤ contract.safety.maxNormalizedGripper ∧
    (-contract.grippers.openTolerance ≤ contract.safety.minNormalizedGripper ∨
      -contract.grippers.openTolerance ≤ value + contract.gripperActionOffset)
  /-- Towards the closed gripper. -/
  closed : contract.safety.maxNormalizedGripper ≤ 1 + contract.grippers.closedTolerance ∨
    contract.safety.minNormalizedGripper ≤ 1 + contract.grippers.closedTolerance ∧
      value + contract.gripperActionOffset ≤ 1 + contract.grippers.closedTolerance

/-- The gripper value that the feedback of a commanded gripper is expected to normalize to. -/
def expectedGripper (contract : Pi05JointActionContract) (value : ℚ) : ℚ :=
  clampUnit (contract.saturate (value + contract.gripperActionOffset))

theorem saturate_readable {value : ℚ} :
    (-contract.grippers.openTolerance ≤ contract.saturate (value + contract.gripperActionOffset) ∧
      contract.saturate (value + contract.gripperActionOffset) ≤
        1 + contract.grippers.closedTolerance) ↔ contract.Readable value :=
  clamp_mem_iff.trans ⟨fun h => ⟨h.1, h.2⟩, fun h => ⟨h.opened, h.closed⟩⟩

/-- Where the settings agree, a gripper that has reached its command is read as expected. -/
theorem Readable.normalize {value : ℚ} (h : contract.Readable value) :
    contract.grippers.normalize (contract.gripperTarget value) =
      .ok (contract.expectedGripper value) := by
  rw [gripperTarget, GripperCalibration.normalize_extrapolate, if_pos (saturate_readable.2 h)]
  rfl

/-- Where they do not, it is out of range. -/
theorem readable_of_normalize {value normalized : ℚ}
    (h : contract.grippers.normalize (contract.gripperTarget value) = .ok normalized) :
    contract.Readable value := by
  rw [gripperTarget, GripperCalibration.normalize_extrapolate] at h
  refine saturate_readable.1 ?_
  by_contra hout
  rw [if_neg hout] at h
  cases h

/-- The feedback of an arm that has reached its command. -/
def Reached (command : List ℚ) (sample : RawArmSample) : Prop :=
  sample.gripperPosition = command.getD 6 0

/-- The encoder accepts the feedback of both arms, once they have reached the command of a row. -/
def FeedbackAccepted (contract : Pi05JointActionContract) (row : List ℚ)
    (command : DualArmJointCommand) : Prop :=
  ∀ left right : RawArmSample, Reached command.left left → Reached command.right right →
    contract.grippers.encode left right =
      .ok (left.jointPositions ++ [contract.expectedGripper (row.getD 6 0)] ++
        right.jointPositions ++ [contract.expectedGripper (row.getD 13 0)])

/-- The gripper of a command. -/
theorem Executes.grippers {row : List ℚ} {command : DualArmJointCommand}
    (h : contract.Executes row command) :
    command.left.getD 6 0 = contract.gripperTarget (row.getD 6 0) ∧
      command.right.getD 6 0 = contract.gripperTarget (row.getD 13 0) := by
  have hlast : ∀ (joints : List ℚ) (x : ℚ), (joints ++ [x]).length = 7 →
      (joints ++ [x]).getD 6 0 = x := by
    intro joints x hlen
    have h6 : joints.length = 6 := by simpa using hlen
    rw [List.getD_eq_getElem?_getD, ← h6, List.getElem?_concat_length]
    rfl
  have hl := command.left_length
  have hr := command.right_length
  rw [h.left] at hl ⊢
  rw [h.right] at hr ⊢
  exact ⟨hlast _ _ hl, hlast _ _ hr⟩

/-- Feedback with the given gripper position. -/
def sampleAt (gripperPosition : ℚ) : RawArmSample where
  jointPositions := List.replicate 6 0
  gripperPosition := gripperPosition
  stampNs := 0
  jointPositions_length := rfl
  stampNs_nonneg := le_rfl

theorem feedbackAccepted_iff {row : List ℚ} {command : DualArmJointCommand}
    (h : contract.Executes row command) : contract.FeedbackAccepted row command ↔
      contract.Readable (row.getD 6 0) ∧ contract.Readable (row.getD 13 0) := by
  obtain ⟨hleft, hright⟩ := h.grippers
  constructor
  · intro haccepted
    have hencode := haccepted (sampleAt (command.left.getD 6 0))
      (sampleAt (command.right.getD 6 0)) rfl rfl
    rw [hleft, hright] at hencode
    unfold GripperCalibration.encode sampleAt at hencode
    dsimp only at hencode
    cases hl : contract.grippers.normalize (contract.gripperTarget (row.getD 6 0)) with
    | error err =>
      rw [hl] at hencode
      cases hencode
    | ok leftGripper =>
      cases hr : contract.grippers.normalize (contract.gripperTarget (row.getD 13 0)) with
      | error err =>
        rw [hl, hr] at hencode
        cases hencode
      | ok rightGripper => exact ⟨readable_of_normalize hl, readable_of_normalize hr⟩
  · rintro ⟨hl, hr⟩ left right hreachedLeft hreachedRight
    unfold Reached at hreachedLeft hreachedRight
    rw [hleft] at hreachedLeft
    rw [hright] at hreachedRight
    rw [GripperCalibration.encode, hreachedLeft, hreachedRight, hl.normalize, hr.normalize]
    rfl

/-- The encoder accepts the feedback of every command of a window, and normalizes the grippers to
the commanded values in `[0, 1]`, exactly if the settings agree at the gripper values of the
window. -/
theorem feedback_accepted_iff (contract : Pi05JointActionContract) {rows : List (List ℚ)}
    {state : DualArmJointState} {lastPublished : Option DualArmJointCommand}
    {commands : List DualArmJointCommand} {saturations : List GripperSaturation}
    (h : contract.validateActions (rows.map (List.map .finite)) state lastPublished =
      .ok (commands, saturations)) :
    List.Forall₂ contract.FeedbackAccepted rows commands ↔
      ∀ row ∈ rows, contract.Readable (row.getD 6 0) ∧ contract.Readable (row.getD 13 0) := by
  have hexecutes : List.Forall₂ contract.Executes rows commands :=
    (validateActions_rows h).1
  clear h
  induction hexecutes with
  | nil => simp
  | cons hrow _ ih =>
    rw [List.forall₂_cons, List.forall_mem_cons]
    exact and_congr (feedbackAccepted_iff hrow) ih

end Pi05JointActionContract

namespace FoldCloth

/-- The profile `dagger.pi05-fold-cloth-20260828-train-rtc.toml` with the grippers of the arms. -/
def contract : Pi05JointActionContract where
  checkpointSha256 := "5c2248749f3eaa21f7a6cf2652c3d1306771aa572f1814e51b12c9e58cda38fb"
  grippers :=
    { openValue := -17 / 5
      closedValue := 0
      values_ne := by decide +kernel
      tolerance_nonneg := by decide +kernel }
  safety :=
    { maxJointStepRad := 7 / 25
      maxJointDepartureRad := 3 / 2
      minNormalizedGripper := 0
      maxNormalizedGripper := 111 / 100
      maxInitialJointStepRad := 7 / 25
      limits_pos := by decide +kernel
      gripper_lt := by decide +kernel
      gripper_range := by decide +kernel }
  gripperActionOffset := 1 / 10

/-- A row in which the arms rest and both grippers are asked for `value`. -/
def resting (value : ℚ) : List ℚ :=
  List.replicate 6 0 ++ [value] ++ List.replicate 6 0 ++ [value]

theorem resting_accepted : ∀ value ∈ [(1 : ℚ) / 2, 51 / 50],
    (contract.validateActions ([resting value].map (List.map .finite)) .zero none).isOk = true := by
  decide +kernel

theorem exists_commands {rows : List (List ℚ)}
    (h : (contract.validateActions (rows.map (List.map .finite)) .zero none).isOk = true) :
    ∃ commands saturations, contract.validateActions (rows.map (List.map .finite)) .zero none =
      .ok (commands, saturations) := by
  cases hout : contract.validateActions (rows.map (List.map .finite)) .zero none with
  | error err =>
    rw [hout] at h
    cases h
  | ok out => exact ⟨out.1, out.2, rfl⟩

end FoldCloth

open FoldCloth in
/-- A half-closed gripper is read as expected. -/
theorem feedback_accepted_iff_half : ∃ commands saturations,
    contract.validateActions ([resting (1 / 2)].map (List.map .finite)) .zero none =
        .ok (commands, saturations) ∧
      List.Forall₂ contract.FeedbackAccepted [resting (1 / 2)] commands := by
  obtain ⟨commands, saturations, hout⟩ := exists_commands (resting_accepted (1 / 2) (by simp))
  refine ⟨commands, saturations, hout,
    (Pi05JointActionContract.feedback_accepted_iff contract hout).2 fun row hrow => ?_⟩
  obtain rfl := List.mem_singleton.1 hrow
  exact ⟨⟨by decide +kernel, by decide +kernel⟩, by decide +kernel, by decide +kernel⟩

open FoldCloth in
/-- A gripper that is closed with the preload of the profile is out of range. -/
theorem feedback_rejected : ¬ ∀ commands saturations,
    contract.validateActions ([resting (51 / 50)].map (List.map .finite)) .zero none =
        .ok (commands, saturations) →
      List.Forall₂ contract.FeedbackAccepted [resting (51 / 50)] commands := by
  intro h
  obtain ⟨commands, saturations, hout⟩ := exists_commands (resting_accepted (51 / 50) (by simp))
  have hexecutes := (Pi05JointActionContract.validateActions_rows hout).1
  have haccepted := h commands saturations hout
  cases hexecutes with
  | cons hrow _ =>
    cases haccepted with
    | cons hfeedback _ =>
      have hreadable := ((Pi05JointActionContract.feedbackAccepted_iff hrow).1 hfeedback).1.closed
      revert hreadable
      decide +kernel

end DualCollection
