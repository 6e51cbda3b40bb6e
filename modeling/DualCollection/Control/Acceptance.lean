import DualCollection.Control.Contract

/-!
# What the joint action contract accepts

`Accepts` says which windows of rows may be executed: fourteen finite values each, grippers in the
range of the policy, and arm joints that stay close to the measured state, to the last published
command and to each other.  `validate_actions_spec` has that `validateActions` returns for these
windows and for no others, and what it returns then.
-/

namespace DualCollection

/-! ### Rows -/

/-- The twelve arm joints of a row. -/
def armJoints (row : List ℚ) : List ℚ := row.take 6 ++ (row.drop 7).take 6

theorem mapM_toRat_finite (values : List ℚ) :
    (values.map PyFloat.finite).mapM PyFloat.toRat? = some values := by
  induction values with
  | nil => rfl
  | cons x values ih =>
    rw [List.map_cons, List.mapM_cons, ih]
    rfl

/-- Only finite values can be read. -/
theorem mapM_toRat_some {row : List PyFloat} {values : List ℚ}
    (h : row.mapM PyFloat.toRat? = some values) : row = values.map PyFloat.finite := by
  induction row generalizing values with
  | nil =>
    cases h
    rfl
  | cons x row ih =>
    rw [List.mapM_cons] at h
    cases x with
    | nonfinite => cases h
    | finite q =>
      cases hrow : row.mapM PyFloat.toRat? with
      | none =>
        rw [hrow] at h
        cases h
      | some rest =>
        rw [hrow] at h
        cases h
        rw [ih hrow]
        rfl

/-- How the values of a row are sliced. -/
structure RobotAction.Slices (values : List ℚ) (action : RobotAction) : Prop where
  /-- There are fourteen. -/
  length : values.length = 14
  /-- The left arm. -/
  left : action.left = values.take 6
  /-- The left gripper. -/
  leftGripper : action.leftGripper = values.getD 6 0
  /-- The right arm. -/
  right : action.right = (values.drop 7).take 6
  /-- The right gripper. -/
  rightGripper : action.rightGripper = values.getD 13 0

theorem RobotAction.ofRow_slices {row : List PyFloat} {action : RobotAction}
    (h : ofRow row = some action) : ∃ values, row = values.map .finite ∧ Slices values action := by
  unfold ofRow at h
  split at h
  · rename_i hrow
    cases h
    exact ⟨_, mapM_toRat_some hrow, rfl, rfl, rfl, rfl, rfl⟩
  · cases h

theorem RobotAction.ofRow_finite {values : List ℚ} (h : values.length = 14) :
    ∃ action, ofRow (values.map .finite) = some action := by
  unfold ofRow
  rw [mapM_toRat_finite]
  rcases values with _ | ⟨a, _ | ⟨b, _ | ⟨c, _ | ⟨d, _ | ⟨e, _ | ⟨f, _ | ⟨g, _ | ⟨a', _ | ⟨b', _ |
    ⟨c', _ | ⟨d', _ | ⟨e', _ | ⟨f', _ | ⟨g', _ | ⟨x, values⟩⟩⟩⟩⟩⟩⟩⟩⟩⟩⟩⟩⟩⟩⟩ <;>
    simp at h ⊢

theorem RobotAction.Slices.joints {values : List ℚ} {action : RobotAction}
    (h : action.Slices values) : action.left ++ action.right = armJoints values := by
  rw [h.left, h.right]
  rfl

/-! ### The checks -/

theorem Within.zipWith_le {limit : ℚ} {a b : List ℚ} (h : Within limit a b) :
    ∀ x ∈ List.zipWith (fun a b => |a - b|) a b, x ≤ limit := by
  induction h with
  | nil => simp
  | cons hxy _ ih =>
    intro x hx
    rcases List.mem_cons.1 hx with rfl | hx
    · exact hxy
    · exact ih x hx

theorem within_append_iff {limit : ℚ} {a b a' b' : List ℚ} (h : a.length = b.length) :
    Within limit (a ++ a') (b ++ b') ↔ Within limit a b ∧ Within limit a' b' := by
  refine ⟨fun hw => ?_, fun hw => hw.1.append hw.2⟩
  induction a generalizing b with
  | nil =>
    cases List.length_eq_zero_iff.1 h.symm
    exact ⟨.nil, hw⟩
  | cons x a ih =>
    cases b with
    | nil => cases h
    | cons y b =>
      cases hw with
      | cons hxy hw =>
        obtain ⟨h₁, h₂⟩ := ih (Nat.succ.inj h) hw
        exact ⟨.cons hxy h₁, h₂⟩

namespace Pi05JointActionContract

variable {contract : Pi05JointActionContract} {state : DualArmJointState}

theorem checkJointDelta_ok_iff {target reference : List ℚ} {side : Side} {index : ℕ} {guard : Guard}
    {limit : ℚ} (hl : target.length = reference.length) :
    checkJointDelta target reference side index guard limit = .ok () ↔
      Within limit target reference := by
  refine ⟨checkJointDelta_ok hl, fun h => ?_⟩
  unfold checkJointDelta
  split
  · rfl
  · rename_i joint delta hmax
    have hmem : delta ∈ List.zipWith (fun a b => |a - b|) target reference :=
      List.mem_of_getElem? (firstMax_spec hmax).1
    rw [if_neg (not_lt.2 (h.zipWith_le delta hmem))]

theorem validateArm_ok_iff {target previous initial : List ℚ} {side : Side} {index : ℕ}
    {firstGuard : Guard} (hp : target.length = previous.length)
    (hi : target.length = initial.length) :
    contract.validateArm target previous initial side index firstGuard = .ok () ↔
      Within (contract.stepLimit index firstGuard) target previous ∧
        Within contract.safety.maxJointDepartureRad target initial := by
  refine ⟨validateArm_ok hp hi, fun h => ?_⟩
  unfold validateArm
  rw [(checkJointDelta_ok_iff hp).2 h.1]
  exact (checkJointDelta_ok_iff hi).2 h.2

/-- A gripper value that a policy may ask for. -/
def AcceptsGripper (contract : Pi05JointActionContract) (value : ℚ) : Prop :=
  contract.safety.minPolicyGripper ≤ value ∧ value ≤ contract.safety.maxPolicyGripper

/-- What the saturation sink receives for a gripper value. -/
def saturation (contract : Pi05JointActionContract) (side : Side) (index : ℕ) (value : ℚ) :
    List GripperSaturation :=
  let value := value + contract.gripperActionOffset
  if contract.saturate value ≠ value then [⟨side, index, value, contract.saturate value⟩] else []

theorem boundGripper_eq {value : ℚ} {side : Side} {index : ℕ} (h : contract.AcceptsGripper value) :
    contract.boundGripper value side index =
      .ok (contract.saturate (value + contract.gripperActionOffset),
        contract.saturation side index value) := if_pos h

theorem boundGripper_error {value : ℚ} {side : Side} {index : ℕ}
    (h : ¬ contract.AcceptsGripper value) :
    contract.boundGripper value side index = .error (.gripperRange side index value) := if_neg h

/-- A row that may be executed after one with the joints `previous`. -/
structure AcceptsRow (contract : Pi05JointActionContract) (state : DualArmJointState)
    (limit : ℚ) (previous row : List ℚ) : Prop where
  /-- There are fourteen values. -/
  length : row.length = 14
  /-- The left gripper is in the range of the policy. -/
  left : contract.AcceptsGripper (row.getD 6 0)
  /-- The right gripper is in the range of the policy. -/
  right : contract.AcceptsGripper (row.getD 13 0)
  /-- The arms continue the row before. -/
  step : Within limit (armJoints row) previous
  /-- The arms stay close to the measured state. -/
  departure : Within contract.safety.maxJointDepartureRad (armJoints row) state.joints

/-- The rows from `index` on may be executed. -/
def AcceptsFrom (contract : Pi05JointActionContract) (state : DualArmJointState)
    (firstGuard : Guard) : ℕ → List ℚ → List (List ℚ) → Prop
  | _, _, [] => True
  | index, previous, row :: rows =>
    contract.AcceptsRow state (contract.stepLimit index firstGuard) previous row ∧
      AcceptsFrom contract state firstGuard (index + 1) (armJoints row) rows

/-- The gripper of an arm is commanded to the extrapolation of its clamped value. -/
def gripperTarget (contract : Pi05JointActionContract) (value : ℚ) : ℚ :=
  contract.grippers.extrapolate (contract.saturate (value + contract.gripperActionOffset))

/-- The command keeps the arm joints of the row in place. -/
structure Executes (contract : Pi05JointActionContract) (row : List ℚ)
    (command : DualArmJointCommand) : Prop where
  /-- The left arm. -/
  left : command.left = row.take 6 ++ [contract.gripperTarget (row.getD 6 0)]
  /-- The right arm. -/
  right : command.right = (row.drop 7).take 6 ++ [contract.gripperTarget (row.getD 13 0)]

/-- What the saturation sink receives for the rows from `index` on. -/
def saturationsFrom (contract : Pi05JointActionContract) (index : ℕ) (rows : List (List ℚ)) :
    List GripperSaturation :=
  (rows.zipIdx index).flatMap fun x =>
    contract.saturation .left x.2 (x.1.getD 6 0) ++ contract.saturation .right x.2 (x.1.getD 13 0)

theorem executes_iff {row : List ℚ} {action : RobotAction} {command : DualArmJointCommand}
    (h : action.Slices row) : contract.Executes row command ↔ command = contract.commandOf action := by
  have hleft : (contract.commandOf action).left =
      row.take 6 ++ [contract.gripperTarget (row.getD 6 0)] := by
    rw [← h.left, ← h.leftGripper]
    rfl
  have hright : (contract.commandOf action).right =
      (row.drop 7).take 6 ++ [contract.gripperTarget (row.getD 13 0)] := by
    rw [← h.right, ← h.rightGripper]
    rfl
  constructor
  · intro hexec
    rcases command with ⟨left, right, _, _⟩
    have hl : left = (contract.commandOf action).left := hexec.left.trans hleft.symm
    have hr : right = (contract.commandOf action).right := hexec.right.trans hright.symm
    subst hl hr
    rfl
  · rintro rfl
    exact ⟨hleft, hright⟩

/-- One row: the checks pass, and the rest of the window is validated after it. -/
theorem validateFrom_cons_ok_iff {firstGuard : Guard} {index : ℕ} {pl pr : List ℚ}
    {row : List PyFloat} {rows : List (List PyFloat)} {action : RobotAction}
    (hrow : RobotAction.ofRow row = some action)
    {out : List DualArmJointCommand × List GripperSaturation} :
    contract.validateFrom state firstGuard index pl pr (row :: rows) = .ok out ↔
      contract.AcceptsGripper action.leftGripper ∧ contract.AcceptsGripper action.rightGripper ∧
        contract.validateArm action.left pl state.left .left index firstGuard = .ok () ∧
        contract.validateArm action.right pr state.right .right index firstGuard = .ok () ∧
        ∃ rest, contract.validateFrom state firstGuard (index + 1) action.left action.right rows =
          .ok rest ∧ out = (contract.commandOf action :: rest.1,
            contract.saturation .left index action.leftGripper ++
              contract.saturation .right index action.rightGripper ++ rest.2) := by
  rw [validateFrom, hrow]
  simp only [bind, Except.bind]
  by_cases hleft : contract.AcceptsGripper action.leftGripper
  swap
  · rw [boundGripper_error hleft]
    exact ⟨(by simp), fun h => absurd h.1 hleft⟩
  rw [boundGripper_eq hleft]
  by_cases hright : contract.AcceptsGripper action.rightGripper
  swap
  · rw [boundGripper_error hright]
    exact ⟨(by simp), fun h => absurd h.2.1 hright⟩
  rw [boundGripper_eq hright]
  dsimp only
  cases hl : contract.validateArm action.left pl state.left .left index firstGuard with
  | error err => simp
  | ok u =>
    cases hr : contract.validateArm action.right pr state.right .right index firstGuard with
    | error err => simp
    | ok u =>
      cases hrest : contract.validateFrom state firstGuard (index + 1) action.left action.right
        rows with
      | error err => simp
      | ok rest => simp [hleft, hright, eq_comm]

/-- The checks of a row, arm by arm. -/
theorem acceptsRow_iff {limit : ℚ} {pl pr row : List ℚ} {action : RobotAction}
    (h : action.Slices row) (hl : action.left.length = pl.length) :
    contract.AcceptsRow state limit (pl ++ pr) row ↔
      contract.AcceptsGripper action.leftGripper ∧ contract.AcceptsGripper action.rightGripper ∧
        (Within limit action.left pl ∧
          Within contract.safety.maxJointDepartureRad action.left state.left) ∧
        Within limit action.right pr ∧
          Within contract.safety.maxJointDepartureRad action.right state.right := by
  have hstate : action.left.length = state.left.length :=
    action.left_length.trans state.left_length.symm
  have hstep : Within limit (armJoints row) (pl ++ pr) ↔
      Within limit action.left pl ∧ Within limit action.right pr := by
    rw [← h.joints, within_append_iff hl]
  have hdeparture : Within contract.safety.maxJointDepartureRad (armJoints row) state.joints ↔
      Within contract.safety.maxJointDepartureRad action.left state.left ∧
        Within contract.safety.maxJointDepartureRad action.right state.right := by
    rw [← h.joints, DualArmJointState.joints, within_append_iff hstate]
  rw [h.leftGripper, h.rightGripper]
  constructor
  · intro hrow
    have hs := hstep.1 hrow.step
    have hd := hdeparture.1 hrow.departure
    exact ⟨hrow.left, hrow.right, ⟨hs.1, hd.1⟩, hs.2, hd.2⟩
  · rintro ⟨hleft, hright, ⟨hs₁, hd₁⟩, hs₂, hd₂⟩
    exact ⟨h.length, hleft, hright, hstep.2 ⟨hs₁, hs₂⟩, hdeparture.2 ⟨hd₁, hd₂⟩⟩

theorem saturationsFrom_cons {index : ℕ} {row : List ℚ} {rows : List (List ℚ)} :
    contract.saturationsFrom index (row :: rows) =
      contract.saturation .left index (row.getD 6 0) ++
        contract.saturation .right index (row.getD 13 0) ++
        contract.saturationsFrom (index + 1) rows := by
  unfold saturationsFrom
  rw [List.zipIdx_cons, List.flatMap_cons]

theorem validateFrom_ok_iff {firstGuard : Guard} {actions : List (List PyFloat)} {index : ℕ}
    {pl pr : List ℚ} {out : List DualArmJointCommand × List GripperSaturation}
    (hl : pl.length = 6) (hr : pr.length = 6) :
    contract.validateFrom state firstGuard index pl pr actions = .ok out ↔
      ∃ rows : List (List ℚ), actions = rows.map (List.map .finite) ∧
        contract.AcceptsFrom state firstGuard index (pl ++ pr) rows ∧
        List.Forall₂ contract.Executes rows out.1 ∧ out.2 = contract.saturationsFrom index rows := by
  induction actions generalizing index pl pr out with
  | nil =>
    constructor
    · intro h
      cases h
      exact ⟨[], rfl, trivial, .nil, rfl⟩
    · rintro ⟨rows, hrows, -, hcommands, hsaturations⟩
      cases List.map_eq_nil_iff.1 hrows.symm
      rcases out with ⟨commands, saturations⟩
      cases hcommands
      cases hsaturations
      rfl
  | cons row actions ih =>
    cases haction : RobotAction.ofRow row with
    | none =>
      rw [validateFrom, haction]
      refine ⟨(by simp), ?_⟩
      rintro ⟨rows, hrows, haccepts, -, -⟩
      cases rows with
      | nil => cases hrows
      | cons values rows =>
        obtain ⟨rfl, -⟩ := List.cons.inj hrows
        obtain ⟨action, hsome⟩ := RobotAction.ofRow_finite haccepts.1.length
        rw [haction] at hsome
        cases hsome
    | some action =>
      obtain ⟨values, rfl, hslices⟩ := RobotAction.ofRow_slices haction
      have hleft : action.left.length = pl.length := action.left_length.trans hl.symm
      have hright : action.right.length = pr.length := action.right_length.trans hr.symm
      rw [validateFrom_cons_ok_iff haction,
        validateArm_ok_iff hleft (action.left_length.trans state.left_length.symm),
        validateArm_ok_iff hright (action.right_length.trans state.right_length.symm)]
      constructor
      · rintro ⟨hgl, hgr, hal, har, rest, hrest, rfl⟩
        obtain ⟨rows, rfl, haccepts, hcommands, hsaturations⟩ :=
          (ih action.left_length action.right_length).1 hrest
        refine ⟨values :: rows, rfl, ⟨?_, ?_⟩, .cons ?_ hcommands, ?_⟩
        · exact (acceptsRow_iff hslices hleft).2 ⟨hgl, hgr, hal, har⟩
        · rw [← hslices.joints]
          exact haccepts
        · exact (executes_iff hslices).2 rfl
        · rw [saturationsFrom_cons, ← hslices.leftGripper, ← hslices.rightGripper, ← hsaturations]
      · rintro ⟨rows, hrows, haccepts, hcommands, hsaturations⟩
        cases rows with
        | nil => cases hrows
        | cons values' rows =>
          obtain ⟨hvalues, rfl⟩ := List.cons.inj hrows
          have hinj : Function.Injective PyFloat.finite := fun _ _ h => PyFloat.finite.inj h
          obtain rfl : values = values' := List.map_injective_iff.2 hinj hvalues
          obtain ⟨hrow, haccepts⟩ := haccepts
          obtain ⟨hgl, hgr, hal, har⟩ := (acceptsRow_iff hslices hleft).1 hrow
          rcases out with ⟨commands, saturations⟩
          obtain - | ⟨hexec, hcommands⟩ := hcommands
          rename_i command commands
          refine ⟨hgl, hgr, hal, har, ⟨commands, contract.saturationsFrom (index + 1) rows⟩, ?_, ?_⟩
          · refine (ih action.left_length action.right_length).2 ⟨rows, rfl, ?_, hcommands, rfl⟩
            rw [hslices.joints]
            exact haccepts
          · rw [(executes_iff hslices).1 hexec]
            congr 1
            rw [hslices.leftGripper, hslices.rightGripper, ← saturationsFrom_cons]
            exact hsaturations

/-- A window of rows that may be executed. -/
structure Accepts (contract : Pi05JointActionContract) (state : DualArmJointState)
    (lastPublished : Option DualArmJointCommand) (rows : List (List ℚ)) : Prop where
  /-- Every row has fourteen values. -/
  length : ∀ row ∈ rows, row.length = 14
  /-- Both grippers lie in the range of the policy. -/
  grippers : ∀ row ∈ rows, contract.AcceptsGripper (row.getD 6 0) ∧
    contract.AcceptsGripper (row.getD 13 0)
  /-- The first row continues the last published target, or starts at the measured state. -/
  first : ∀ row ∈ rows.head?, match lastPublished with
    | none => Within contract.safety.maxInitialJointStepRad (armJoints row) state.joints
    | some last => Within contract.safety.maxJointStepRad (armJoints row) last.joints
  /-- Every later row continues the one before it. -/
  steps : rows.IsChain fun a b => Within contract.safety.maxJointStepRad (armJoints b) (armJoints a)
  /-- No row leaves the measured state too far. -/
  departure : ∀ row ∈ rows, Within contract.safety.maxJointDepartureRad (armJoints row) state.joints

/-- After the first row there is one limit. -/
theorem acceptsFrom_iff {firstGuard : Guard} {index : ℕ} {previous : List ℚ} {rows : List (List ℚ)} :
    contract.AcceptsFrom state firstGuard index previous rows ↔
      (∀ row ∈ rows, row.length = 14) ∧
        (∀ row ∈ rows, contract.AcceptsGripper (row.getD 6 0) ∧
          contract.AcceptsGripper (row.getD 13 0)) ∧
        (∀ row ∈ rows.head?, Within (contract.stepLimit index firstGuard) (armJoints row) previous) ∧
        (rows.IsChain fun a b =>
          Within contract.safety.maxJointStepRad (armJoints b) (armJoints a)) ∧
        ∀ row ∈ rows, Within contract.safety.maxJointDepartureRad (armJoints row) state.joints := by
  induction rows generalizing index previous with
  | nil => simp [AcceptsFrom]
  | cons row rows ih =>
    have hlimit : contract.stepLimit (index + 1) firstGuard = contract.safety.maxJointStepRad :=
      if_neg (by simp)
    rw [AcceptsFrom, ih, hlimit]
    constructor
    · rintro ⟨hrow, hlength, hgrippers, hfirst, hsteps, hdeparture⟩
      refine ⟨?_, ?_, ?_, ?_, ?_⟩
      · exact List.forall_mem_cons.2 ⟨hrow.length, hlength⟩
      · exact List.forall_mem_cons.2 ⟨⟨hrow.left, hrow.right⟩, hgrippers⟩
      · rintro _ ⟨⟩
        exact hrow.step
      · exact List.isChain_cons.2 ⟨hfirst, hsteps⟩
      · exact List.forall_mem_cons.2 ⟨hrow.departure, hdeparture⟩
    · rintro ⟨hlength, hgrippers, hfirst, hsteps, hdeparture⟩
      obtain ⟨hfirst', hsteps⟩ := List.isChain_cons.1 hsteps
      obtain ⟨hlength₀, hlength⟩ := List.forall_mem_cons.1 hlength
      obtain ⟨hgrippers₀, hgrippers⟩ := List.forall_mem_cons.1 hgrippers
      obtain ⟨hdeparture₀, hdeparture⟩ := List.forall_mem_cons.1 hdeparture
      exact ⟨⟨hlength₀, hgrippers₀.1, hgrippers₀.2, hfirst row rfl, hdeparture₀⟩, hlength, hgrippers,
        hfirst', hsteps, hdeparture⟩

theorem accepts_iff_none {rows : List (List ℚ)} : contract.Accepts state none rows ↔
    contract.AcceptsFrom state .initialStateStep 0 state.joints rows := by
  rw [acceptsFrom_iff]
  exact ⟨fun h => ⟨h.length, h.grippers, h.first, h.steps, h.departure⟩,
    fun ⟨h₁, h₂, h₃, h₄, h₅⟩ => ⟨h₁, h₂, h₃, h₄, h₅⟩⟩

theorem accepts_iff_some {last : DualArmJointCommand} {rows : List (List ℚ)} :
    contract.Accepts state (some last) rows ↔
      contract.AcceptsFrom state .publishedTargetStep 0 last.joints rows := by
  rw [acceptsFrom_iff]
  exact ⟨fun h => ⟨h.length, h.grippers, h.first, h.steps, h.departure⟩,
    fun ⟨h₁, h₂, h₃, h₄, h₅⟩ => ⟨h₁, h₂, h₃, h₄, h₅⟩⟩

/-- What `validateActions` returns, and for which windows. -/
theorem validateActions_ok_iff {actions : List (List PyFloat)}
    {lastPublished : Option DualArmJointCommand}
    {out : List DualArmJointCommand × List GripperSaturation} :
    contract.validateActions actions state lastPublished = .ok out ↔
      ∃ rows : List (List ℚ), actions = rows.map (List.map .finite) ∧
        contract.Accepts state lastPublished rows ∧
        List.Forall₂ contract.Executes rows out.1 ∧ out.2 = contract.saturationsFrom 0 rows := by
  unfold validateActions
  cases lastPublished with
  | none =>
    simp only [accepts_iff_none]
    exact validateFrom_ok_iff state.left_length state.right_length
  | some last =>
    simp only [accepts_iff_some]
    exact validateFrom_ok_iff (by simp [last.left_length]) (by simp [last.right_length])

/-- What is returned for a window. -/
theorem validateActions_rows {rows : List (List ℚ)} {lastPublished : Option DualArmJointCommand}
    {commands : List DualArmJointCommand} {saturations : List GripperSaturation}
    (h : contract.validateActions (rows.map (List.map .finite)) state lastPublished =
      .ok (commands, saturations)) :
    List.Forall₂ contract.Executes rows commands ∧
      saturations = contract.saturationsFrom 0 rows := by
  obtain ⟨rows', hrows, -, hcommands, hsaturations⟩ := validateActions_ok_iff.1 h
  have hinj : Function.Injective PyFloat.finite := fun _ _ h => PyFloat.finite.inj h
  obtain rfl : rows = rows' := List.map_injective_iff.2 (List.map_injective_iff.2 hinj) hrows
  exact ⟨hcommands, hsaturations⟩

/-- For every row there is a command. -/
theorem exists_executes {rows : List (List ℚ)} (h : ∀ row ∈ rows, row.length = 14) :
    ∃ commands, List.Forall₂ contract.Executes rows commands := by
  induction rows with
  | nil => exact ⟨[], .nil⟩
  | cons row rows ih =>
    obtain ⟨hrow, hrows⟩ := List.forall_mem_cons.1 h
    obtain ⟨commands, hcommands⟩ := ih hrows
    obtain ⟨action, haction⟩ := RobotAction.ofRow_finite hrow
    obtain ⟨values, hvalues, hslices⟩ := RobotAction.ofRow_slices haction
    have hinj : Function.Injective PyFloat.finite := fun _ _ h => PyFloat.finite.inj h
    obtain rfl : row = values := List.map_injective_iff.2 hinj hvalues
    exact ⟨contract.commandOf action :: commands, .cons ((executes_iff hslices).2 rfl) hcommands⟩

end Pi05JointActionContract

end DualCollection
