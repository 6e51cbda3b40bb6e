import DualCollection.Control.Profile
import Mathlib

/-!
# The joint action contract

`Pi05JointActionContract` interprets the rows of an action chunk as absolute joint targets,
checks them against the safety limits and maps them to commands of the two arms.

* `checkJointDelta` compares the six joints of an arm with a reference, `boundGripper` saturates a
  gripper value, `validateActions` does both for every row of a window.
* `commandOf` is the command that a row is mapped to, whatever the checks say.
* `Window` is what a window that passed the checks satisfies (`validateActions_ok`): every command
  is close to the measured state, and every two consecutive ones are close to each other, where
  the first is compared with the last published command or, when there is none, with the measured
  state.
-/

namespace DualCollection

/-- A floating point value, as far as `math.isfinite` tells values apart. -/
inductive PyFloat
  | finite (q : ℚ)
  | nonfinite
  deriving DecidableEq

/-- `math.isfinite`, with the value. -/
def PyFloat.toRat? : PyFloat → Option ℚ
  | finite q => some q
  | nonfinite => none

/-- The command of both arms: six joints and a gripper each, finite by its type. -/
structure DualArmJointCommand where
  /-- The joints and the gripper of the left arm. -/
  left : List ℚ
  /-- The joints and the gripper of the right arm. -/
  right : List ℚ
  /-- There are seven values. -/
  left_length : left.length = 7
  /-- There are seven values. -/
  right_length : right.length = 7
  deriving DecidableEq

/-- The twelve arm joints of a command. -/
def DualArmJointCommand.joints (c : DualArmJointCommand) : List ℚ :=
  c.left.take 6 ++ c.right.take 6

/-- The twelve arm joints of the feedback. -/
def DualArmJointState.joints (s : DualArmJointState) : List ℚ := s.left ++ s.right

/-- The limits that every action has to respect. -/
structure JointActionSafety where
  /-- Between two consecutive commands. -/
  maxJointStepRad : ℚ
  /-- From the measured state. -/
  maxJointDepartureRad : ℚ
  /-- The commanded gripper range. -/
  minNormalizedGripper : ℚ
  /-- The commanded gripper range. -/
  maxNormalizedGripper : ℚ
  /-- The gripper range accepted from a policy. -/
  minPolicyGripper : ℚ := -1
  /-- The gripper range accepted from a policy. -/
  maxPolicyGripper : ℚ := 2
  /-- From the measured state to the first command of a lease. -/
  maxInitialJointStepRad : ℚ := 1 / 4
  /-- `joint safety limits must be positive` -/
  limits_pos : 0 < maxInitialJointStepRad ∧ 0 < maxJointStepRad ∧ 0 < maxJointDepartureRad
  /-- `normalized gripper limits are invalid` -/
  gripper_lt : minNormalizedGripper < maxNormalizedGripper
  /-- `policy gripper range must contain the command range` -/
  gripper_range : minPolicyGripper ≤ minNormalizedGripper ∧
    maxNormalizedGripper ≤ maxPolicyGripper

/-- The raw gripper positions that the normalized range stands for. -/
structure GripperCalibration where
  /-- The raw position of an open gripper. -/
  openValue : ℚ
  /-- The raw position of a closed gripper. -/
  closedValue : ℚ
  /-- How far a reading may lie outside the range. -/
  openTolerance : ℚ := 1 / 20
  /-- How far a reading may lie outside the range. -/
  closedTolerance : ℚ := 1 / 10
  /-- `gripper open and closed values must differ` -/
  values_ne : openValue ≠ closedValue
  /-- `gripper tolerances must not be negative` -/
  tolerance_nonneg : 0 ≤ openTolerance ∧ 0 ≤ closedTolerance

/-- The raw position of a normalized value. -/
def GripperCalibration.extrapolate (g : GripperCalibration) (value : ℚ) : ℚ :=
  g.openValue + value * (g.closedValue - g.openValue)

/-- A gripper value that was clipped to the commanded range. -/
structure GripperSaturation where
  /-- The arm. -/
  side : Side
  /-- The row of the window. -/
  actionIndex : ℕ
  /-- The value before it was clipped. -/
  inputValue : ℚ
  /-- The value that is commanded. -/
  outputValue : ℚ
  deriving DecidableEq

/-- What a row of fourteen finite values means. -/
structure RobotAction where
  /-- The joints of the left arm. -/
  left : List ℚ
  /-- The left gripper. -/
  leftGripper : ℚ
  /-- The joints of the right arm. -/
  right : List ℚ
  /-- The right gripper. -/
  rightGripper : ℚ
  /-- There are six joints. -/
  left_length : left.length = 6
  /-- There are six joints. -/
  right_length : right.length = 6

/-- Read a row: `none` when it is not a finite robot-space 14D action. -/
def RobotAction.ofRow (row : List PyFloat) : Option RobotAction :=
  match row.mapM PyFloat.toRat? with
  | some [a, b, c, d, e, f, g, a', b', c', d', e', f', g'] =>
    some ⟨[a, b, c, d, e, f], g, [a', b', c', d', e', f'], g', rfl, rfl⟩
  | _ => none

/-- The checks and the mapping of a checkpoint. -/
structure Pi05JointActionContract where
  /-- The checkpoint whose tickets are accepted. -/
  checkpointSha256 : String
  /-- The gripper calibration of the station. -/
  grippers : GripperCalibration
  /-- The limits. -/
  safety : JointActionSafety
  /-- Added to every gripper value. -/
  gripperActionOffset : ℚ := 0

/-- The first position of the largest value, and the value. -/
def firstMax : List ℚ → Option (ℕ × ℚ)
  | [] => none
  | x :: xs => match firstMax xs with
    | none => some (0, x)
    | some (j, y) => if x < y then some (j + 1, y) else some (0, x)

/-- Two lists of joints deviate by at most `limit` in every joint. -/
def Within (limit : ℚ) (a b : List ℚ) : Prop := List.Forall₂ (fun x y => |x - y| ≤ limit) a b

namespace Pi05JointActionContract

variable (contract : Pi05JointActionContract)

/-- The checks of a ticket that do not look at its actions. -/
def validateTicketIdentity (ticket : InferenceTicket) (controlEpoch : ℕ) :
    Except ActionError Unit :=
  if ticket.controlEpoch ≠ controlEpoch then .error .staleControlEpoch
  else if ticket.checkpointSha256 ≠ contract.checkpointSha256 then .error .checkpointMismatch
  else .ok ()

/-- Compare an arm with a reference. -/
def checkJointDelta (target reference : List ℚ) (side : Side) (index : ℕ) (guard : Guard)
    (limit : ℚ) : Except ActionError Unit :=
  match firstMax (List.zipWith (fun a b => |a - b|) target reference) with
  | none => .ok ()
  | some (joint, delta) =>
    if limit < delta then .error (.violation ⟨guard, side, index, joint, delta, limit⟩)
    else .ok ()

/-- The limit that the first comparison of a row applies. -/
def stepLimit (index : ℕ) (firstGuard : Guard) : ℚ :=
  if index = 0 ∧ firstGuard = .initialStateStep then contract.safety.maxInitialJointStepRad
  else contract.safety.maxJointStepRad

/-- The two comparisons of one arm. -/
def validateArm (target previous initial : List ℚ) (side : Side) (index : ℕ)
    (firstGuard : Guard) : Except ActionError Unit := do
  checkJointDelta target previous side index
    (if index = 0 then firstGuard else .withinWindowStep) (contract.stepLimit index firstGuard)
  checkJointDelta target initial side index .measuredStateDeparture
    contract.safety.maxJointDepartureRad

/-- A gripper value clipped to the commanded range. -/
def saturate (value : ℚ) : ℚ :=
  min contract.safety.maxNormalizedGripper (max contract.safety.minNormalizedGripper value)

/-- Check a gripper value, add the offset and clip the sum; the second component is what
`saturation_sink` is called with. -/
def boundGripper (value : ℚ) (side : Side) (index : ℕ) :
    Except ActionError (ℚ × List GripperSaturation) :=
  if contract.safety.minPolicyGripper ≤ value ∧ value ≤ contract.safety.maxPolicyGripper then
    let value := value + contract.gripperActionOffset
    let bounded := contract.saturate value
    .ok (bounded, if bounded ≠ value then [⟨side, index, value, bounded⟩] else [])
  else .error (.gripperRange side index value)

/-- The command of a robot action. -/
def commandOf (action : RobotAction) : DualArmJointCommand where
  left := action.left ++
    [contract.grippers.extrapolate
      (contract.saturate (action.leftGripper + contract.gripperActionOffset))]
  right := action.right ++
    [contract.grippers.extrapolate
      (contract.saturate (action.rightGripper + contract.gripperActionOffset))]
  left_length := by simp [action.left_length]
  right_length := by simp [action.right_length]

/-- Validate the rows of a window from row `index` on, where `previousLeft` and `previousRight`
are the joints of the row before. -/
def validateFrom (state : DualArmJointState) (firstGuard : Guard) :
    ℕ → List ℚ → List ℚ → List (List PyFloat) →
      Except ActionError (List DualArmJointCommand × List GripperSaturation)
  | _, _, _, [] => .ok ([], [])
  | index, previousLeft, previousRight, row :: rows =>
    match RobotAction.ofRow row with
    | none => .error (.notRobotAction index)
    | some action => do
      let (_, leftSaturation) ← contract.boundGripper action.leftGripper .left index
      let (_, rightSaturation) ← contract.boundGripper action.rightGripper .right index
      contract.validateArm action.left previousLeft state.left .left index firstGuard
      contract.validateArm action.right previousRight state.right .right index firstGuard
      let (commands, saturations) ←
        validateFrom state firstGuard (index + 1) action.left action.right rows
      .ok (contract.commandOf action :: commands,
        leftSaturation ++ rightSaturation ++ saturations)

/-- Validate a window against the measured state and the last published command. -/
def validateActions (actions : List (List PyFloat)) (state : DualArmJointState)
    (lastPublished : Option DualArmJointCommand) :
    Except ActionError (List DualArmJointCommand × List GripperSaturation) :=
  match lastPublished with
  | none => contract.validateFrom state .initialStateStep 0 state.left state.right actions
  | some last =>
    contract.validateFrom state .publishedTargetStep 0 (last.left.take 6) (last.right.take 6)
      actions

/-- The checks of the sequential gateway, which has no last published command. -/
def validate (ticket : InferenceTicket) (state : DualArmJointState) (controlEpoch : ℕ) :
    Except ActionError (List DualArmJointCommand) := do
  contract.validateTicketIdentity ticket controlEpoch
  let (commands, _) ← contract.validateActions
    (ticket.executionChunk.map (·.map .finite)) state none
  .ok commands

end Pi05JointActionContract

/-! ### Joint deviations -/

theorem firstMax_eq_none {xs : List ℚ} : firstMax xs = none ↔ xs = [] := by
  cases xs with
  | nil => simp [firstMax]
  | cons x xs =>
    simp only [firstMax, reduceCtorEq, iff_false]
    split
    · simp
    · split <;> simp

/-- `firstMax` is the first position of the largest value. -/
theorem firstMax_spec : ∀ {xs : List ℚ} {j : ℕ} {y : ℚ}, firstMax xs = some (j, y) →
    xs[j]? = some y ∧ (∀ x ∈ xs, x ≤ y) ∧ ∀ x ∈ xs.take j, x < y := by
  intro xs
  induction xs with
  | nil => intro j y h; simp [firstMax] at h
  | cons x xs ih =>
    intro j y h
    simp only [firstMax] at h
    split at h
    · rename_i hn
      rw [firstMax_eq_none] at hn
      subst hn
      simp only [Option.some.injEq, Prod.mk.injEq] at h
      obtain ⟨rfl, rfl⟩ := h
      simp
    · rename_i j' y' hs
      obtain ⟨hget, hle, hlt⟩ := ih hs
      split_ifs at h with hxy
      · simp only [Option.some.injEq, Prod.mk.injEq] at h
        obtain ⟨rfl, rfl⟩ := h
        refine ⟨by simpa using hget, ?_, ?_⟩
        · simpa using ⟨hxy.le, hle⟩
        · simpa using ⟨hxy, hlt⟩
      · simp only [Option.some.injEq, Prod.mk.injEq] at h
        obtain ⟨rfl, rfl⟩ := h
        rw [not_lt] at hxy
        refine ⟨rfl, ?_, by simp⟩
        simpa using fun a ha => (hle a ha).trans hxy

theorem within_of_zipWith {limit : ℚ} : ∀ {a b : List ℚ}, a.length = b.length →
    (∀ x ∈ List.zipWith (fun a b => |a - b|) a b, x ≤ limit) → Within limit a b := by
  intro a
  induction a with
  | nil =>
    intro b hl _
    cases b with
    | nil => exact .nil
    | cons y b => simp at hl
  | cons x a ih =>
    intro b hl h
    cases b with
    | nil => simp at hl
    | cons y b =>
      simp only [List.zipWith_cons_cons, List.mem_cons, forall_eq_or_imp] at h
      exact .cons h.1 (ih (by simpa using hl) h.2)

theorem Within.append {limit : ℚ} {a b a' b' : List ℚ} (h : Within limit a b)
    (h' : Within limit a' b') : Within limit (a ++ a') (b ++ b') := List.rel_append h h'

/-- `Within`, joint by joint. -/
theorem Within.joint {limit : ℚ} {a b : List ℚ} (h : Within limit a b) :
    a.length = b.length ∧ ∀ j (ha : j < a.length) (hb : j < b.length), |a[j] - b[j]| ≤ limit :=
  ⟨h.length_eq, fun _ ha hb => h.get ha hb⟩

namespace Pi05JointActionContract

variable {contract : Pi05JointActionContract}

theorem checkJointDelta_ok {target reference : List ℚ} {side : Side} {index : ℕ} {guard : Guard}
    {limit : ℚ} (hl : target.length = reference.length)
    (h : checkJointDelta target reference side index guard limit = .ok ()) :
    Within limit target reference := by
  refine within_of_zipWith hl fun x hx => ?_
  unfold checkJointDelta at h
  split at h
  · rename_i hn
    rw [firstMax_eq_none] at hn
    rw [hn] at hx
    cases hx
  · rename_i hs
    split_ifs at h with hlt
    exact ((firstMax_spec hs).2.1 x hx).trans (not_lt.1 hlt)

theorem validateArm_ok {target previous initial : List ℚ} {side : Side} {index : ℕ}
    {firstGuard : Guard} (hp : target.length = previous.length)
    (hi : target.length = initial.length)
    (h : contract.validateArm target previous initial side index firstGuard = .ok ()) :
    Within (contract.stepLimit index firstGuard) target previous ∧
      Within contract.safety.maxJointDepartureRad target initial := by
  unfold validateArm at h
  cases h₁ : checkJointDelta target previous side index
    (if index = 0 then firstGuard else .withinWindowStep)
    (contract.stepLimit index firstGuard) with
  | error e => rw [h₁] at h; cases h
  | ok u =>
    rw [h₁] at h
    exact ⟨checkJointDelta_ok hp h₁, checkJointDelta_ok hi h⟩

@[simp] theorem commandOf_joints (action : RobotAction) :
    (contract.commandOf action).joints = action.left ++ action.right := by
  simp [DualArmJointCommand.joints, commandOf, action.left_length, action.right_length]

/-- A row that passed the checks. -/
structure RowOk (contract : Pi05JointActionContract) (state : DualArmJointState)
    (firstGuard : Guard) (index : ℕ) (previous : List ℚ) (command : DualArmJointCommand) :
    Prop where
  /-- It is close to the row before. -/
  step : Within (contract.stepLimit index firstGuard) command.joints previous
  /-- It is close to the measured state. -/
  departure : Within contract.safety.maxJointDepartureRad command.joints state.joints

/-- The commands of rows that passed the checks, from row `index` on. -/
def RowsOk (contract : Pi05JointActionContract) (state : DualArmJointState)
    (firstGuard : Guard) : ℕ → List ℚ → List DualArmJointCommand → Prop
  | _, _, [] => True
  | index, previous, command :: commands =>
    contract.RowOk state firstGuard index previous command ∧
      RowsOk contract state firstGuard (index + 1) command.joints commands

theorem validateFrom_ok {state : DualArmJointState} {firstGuard : Guard} :
    ∀ {rows : List (List PyFloat)} {index : ℕ} {previousLeft previousRight : List ℚ}
      {commands : List DualArmJointCommand} {saturations : List GripperSaturation},
      previousLeft.length = 6 → previousRight.length = 6 →
      contract.validateFrom state firstGuard index previousLeft previousRight rows =
        .ok (commands, saturations) →
      contract.RowsOk state firstGuard index (previousLeft ++ previousRight) commands ∧
        List.Forall₂ (fun row command =>
          (RobotAction.ofRow row).map contract.commandOf = some command) rows commands := by
  intro rows
  induction rows with
  | nil =>
    intro index pl pr commands saturations _ _ h
    simp only [validateFrom, Except.ok.injEq, Prod.mk.injEq] at h
    obtain ⟨rfl, rfl⟩ := h
    exact ⟨trivial, .nil⟩
  | cons row rows ih =>
    intro index pl pr commands saturations hl hr h
    simp only [validateFrom] at h
    cases ha : RobotAction.ofRow row with
    | none => rw [ha] at h; cases h
    | some action =>
      simp only [ha, bind, Except.bind] at h
      split at h
      · cases h
      split at h
      · cases h
      split at h
      · cases h
      rename_i hleft
      split at h
      · cases h
      rename_i hright
      split at h
      · cases h
      rename_i rest hrest
      simp only [Except.ok.injEq, Prod.mk.injEq] at h
      obtain ⟨rfl, -⟩ := h
      have hL := validateArm_ok (by rw [action.left_length, hl])
        (by rw [action.left_length, state.left_length]) hleft
      have hR := validateArm_ok (by rw [action.right_length, hr])
        (by rw [action.right_length, state.right_length]) hright
      obtain ⟨hrows, hmap⟩ := ih action.left_length action.right_length hrest
      refine ⟨⟨⟨?_, ?_⟩, ?_⟩, .cons (by rw [ha]; rfl) hmap⟩
      · rw [commandOf_joints]
        exact hL.1.append hR.1
      · rw [commandOf_joints]
        exact hL.2.append hR.2
      · rw [commandOf_joints]
        exact hrows

/-- The commands of a window that passed the checks, against the measured state and the last
published command. -/
structure Window (contract : Pi05JointActionContract) (state : DualArmJointState)
    (lastPublished : Option DualArmJointCommand) (commands : List DualArmJointCommand) :
    Prop where
  /-- The first command continues the published ones, or starts at the measured state. -/
  first : ∀ c ∈ commands.head?, match lastPublished with
    | none => Within contract.safety.maxInitialJointStepRad c.joints state.joints
    | some last => Within contract.safety.maxJointStepRad c.joints last.joints
  /-- Every command continues the one before. -/
  chain : commands.IsChain fun a b => Within contract.safety.maxJointStepRad b.joints a.joints
  /-- No command leaves the measured state too far. -/
  departure : ∀ c ∈ commands, Within contract.safety.maxJointDepartureRad c.joints state.joints

theorem RowsOk.departure {state : DualArmJointState} {firstGuard : Guard} :
    ∀ {commands : List DualArmJointCommand} {index : ℕ} {previous : List ℚ},
      contract.RowsOk state firstGuard index previous commands →
      ∀ c ∈ commands, Within contract.safety.maxJointDepartureRad c.joints state.joints := by
  intro commands
  induction commands with
  | nil => intro index previous _ c hc; cases hc
  | cons command commands ih =>
    intro index previous h c hc
    rcases List.mem_cons.1 hc with rfl | hc
    · exact h.1.departure
    · exact ih h.2 c hc

theorem RowsOk.chain {state : DualArmJointState} {firstGuard : Guard} :
    ∀ {commands : List DualArmJointCommand} {index : ℕ} {previous : List ℚ},
      contract.RowsOk state firstGuard index previous commands →
      commands.IsChain fun a b => Within contract.safety.maxJointStepRad b.joints a.joints := by
  intro commands
  induction commands with
  | nil => intro index previous _; exact .nil
  | cons a commands ih =>
    intro index previous h
    cases commands with
    | nil => exact .singleton a
    | cons b commands =>
      refine .cons_cons ?_ (ih h.2)
      have hb := h.2.1.step
      simpa [stepLimit] using hb

theorem validateActions_ok {actions : List (List PyFloat)} {state : DualArmJointState}
    {lastPublished : Option DualArmJointCommand} {commands : List DualArmJointCommand}
    {saturations : List GripperSaturation}
    (h : contract.validateActions actions state lastPublished = .ok (commands, saturations)) :
    contract.Window state lastPublished commands ∧
      List.Forall₂ (fun row command =>
        (RobotAction.ofRow row).map contract.commandOf = some command) actions commands := by
  unfold validateActions at h
  cases lastPublished with
  | none =>
    obtain ⟨hrows, hmap⟩ := validateFrom_ok state.left_length state.right_length h
    refine ⟨⟨fun c hc => ?_, hrows.chain, hrows.departure⟩, hmap⟩
    cases commands with
    | nil => cases hc
    | cons a commands =>
      obtain rfl : a = c := by simpa using hc
      exact hrows.1.step
  | some last =>
    have hl := last.left_length
    have hr := last.right_length
    obtain ⟨hrows, hmap⟩ := validateFrom_ok (by simp [hl]) (by simp [hr]) h
    refine ⟨⟨fun c hc => ?_, hrows.chain, hrows.departure⟩, hmap⟩
    cases commands with
    | nil => cases hc
    | cons a commands =>
      obtain rfl : a = c := by simpa using hc
      have hstep := hrows.1.step
      simpa [stepLimit, DualArmJointCommand.joints] using hstep

end Pi05JointActionContract

end DualCollection
