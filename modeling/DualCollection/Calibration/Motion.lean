import DualCollection.Calibration.Quintic
import DualCollection.Control.Exception

/-!
# Bounded joint motion

`calibration/motion.py`: the limits of a calibration, the segments in which an arm moves, and the
checks of the measured feedback.

The numbers are the elements of an ordered field `K`, and `math.sqrt` is a function on it, so that
everything can be evaluated over the rationals and holds over the reals.
-/

namespace DualCollection

namespace Calibration

/-- The six joints of an arm. -/
abbrev Joints (K : Type) := Fin 6 → K

/-- What the motion code raises. -/
inductive MotionError
  /-- `invalid segment endpoints` -/
  | invalidEndpoints
  /-- `segment exceeds time budget; teach an intermediate point` -/
  | timeBudget
  /-- `expected 6 finite values` -/
  | expectedValues
  /-- `invalid gripper state` -/
  | invalidGripper
  /-- `stale arm feedback` -/
  | staleFeedback
  /-- `calibration motion stopped` -/
  | stopped
  /-- `previous segment is still running` -/
  | stillRunning
  /-- `control loop overrun; no catch-up jump allowed` -/
  | overrun
  /-- `... tracking error` -/
  | tracking (side : Side)
  /-- `... measured velocity exceeds calibration bound` -/
  | velocity (side : Side)
  /-- `motion thread failed to stop; controller watchdog will hold` -/
  | alive
  /-- What a method of the arms raised. -/
  | arms
  deriving DecidableEq

section Defs

variable (K : Type) [Field K] [LinearOrder K]

/-- `MotionLimits` -/
structure MotionLimits where
  /-- `velocity_rad_s` -/
  velocityRadS : K
  /-- `acceleration_rad_s2` -/
  accelerationRadS2 : K
  /-- `rate_hz` -/
  rateHz : K
  /-- `arrival_rad` -/
  arrivalRad : K
  /-- `still_velocity_rad_s` -/
  stillVelocityRadS : K
  /-- `stable_s` -/
  stableS : K
  /-- `capture_s` -/
  captureS : K
  /-- `feedback_age_s` -/
  feedbackAgeS : K
  /-- `following_error_rad` -/
  followingErrorRad : K
  /-- `segment_timeout_s` -/
  segmentTimeoutS : K
  /-- `motion limits must be positive finite numbers` -/
  positive : ∀ v ∈ [velocityRadS, accelerationRadS2, rateHz, arrivalRad, stillVelocityRadS, stableS,
    captureS, feedbackAgeS, followingErrorRad, segmentTimeoutS], 0 < v
  /-- `calibration speed ceiling: 0.20 rad/s, 0.40 rad/s²` -/
  ceiling : velocityRadS ≤ 0.20 ∧ accelerationRadS2 ≤ 0.40
  /-- `invalid control rate or feedback freshness` -/
  rate : (25 ≤ rateHz ∧ rateHz ≤ 100) ∧ feedbackAgeS ≤ 0.15
  /-- `motion tolerances too loose` -/
  tolerances : arrivalRad ≤ 0.02 ∧ stillVelocityRadS ≤ 0.04 ∧ followingErrorRad ≤ 0.10
  /-- `invalid dwell/segment limits` -/
  dwell : 0.5 ≤ stableS ∧ 1 ≤ captureS ∧ segmentTimeoutS ≤ 180

variable {K}

/-- `np.max(np.abs(q))` -/
def maxAbs (q : Joints K) : K := Finset.univ.sup' Finset.univ_nonempty fun j => |q j|

/-- The motion of an arm from one pose to another within the limits. -/
structure Segment (limits : MotionLimits K) where
  /-- Where it starts. -/
  start : Joints K
  /-- Where it ends. -/
  stop : Joints K
  /-- How long it takes. -/
  duration : K
  /-- It takes some time. -/
  duration_pos : 0 < duration
  /-- It is slow enough: `1.875` is the largest slope of the blend. -/
  slope : ∀ j, 1.875 * |stop j - start j| ≤ limits.velocityRadS * duration

/-- The pose after some time. -/
def Segment.at {limits : MotionLimits K} (segment : Segment limits) (elapsedS : K) : Joints K :=
  fun j => Quintic.interpolate (segment.start j) (segment.stop j) (elapsedS / segment.duration)

/-- `Segment.duration` between poses at a distance. -/
def segmentDuration (sqrt : K → K) (limits : MotionLimits K) (distance : K) : K :=
  max (max 0.5 (1.875 * distance / limits.velocityRadS))
    (sqrt (10.0 / sqrt 3.0 * distance / limits.accelerationRadS2))

/-- What was measured of an arm; a vector is `none` unless it has six finite values. -/
structure ArmSample (K : Type) where
  /-- Where the joints are. -/
  q : Option (Joints K)
  /-- How fast they move. -/
  velocity : Option (Joints K)
  /-- Where the gripper is, if the value is finite. -/
  gripper : Option K
  /-- When it was received. -/
  receivedMonotonicS : K

/-- `vector` -/
def vector (value : Option (Joints K)) : Except MotionError (Joints K) :=
  match value with
  | some q => .ok q
  | none => .error .expectedValues

/-- `validate_sample` -/
def validateSample (sample : Side → ArmSample K) (now : K) (limits : MotionLimits K) :
    Except MotionError Unit := do
  for side in [Side.left, .right] do
    let _ ← vector (sample side).q
    let _ ← vector (sample side).velocity
    if (sample side).gripper.isNone then throw .invalidGripper
  for side in [Side.left, .right] do
    let age := now - (sample side).receivedMonotonicS
    if age < 0 ∨ limits.feedbackAgeS < age then throw .staleFeedback

end Defs

variable {K : Type} [Field K] [LinearOrder K] [IsStrictOrderedRing K] {limits : MotionLimits K}

omit [IsStrictOrderedRing K] in
theorem maxAbs_le_iff {q : Joints K} {b : K} : maxAbs q ≤ b ↔ ∀ j, |q j| ≤ b := by
  rw [maxAbs, Finset.sup'_le_iff]
  simp

omit [IsStrictOrderedRing K] in
theorem abs_le_maxAbs (q : Joints K) (j : Fin 6) : |q j| ≤ maxAbs q := maxAbs_le_iff.1 le_rfl j

omit [IsStrictOrderedRing K] in
theorem MotionLimits.velocity_pos (limits : MotionLimits K) : 0 < limits.velocityRadS :=
  limits.positive _ (by simp)

theorem segmentDuration_eq {sqrt : K → K} {distance : K} :
    segmentDuration sqrt limits distance =
      max (max (1 / 2) (15 / 8 * distance / limits.velocityRadS))
        (sqrt (10 / sqrt 3 * distance / limits.accelerationRadS2)) := by
  norm_num [segmentDuration]

/-- The duration keeps the velocity within the limit. -/
theorem slope_of_duration {sqrt : K → K} {start stop : Joints K} {duration : K}
    (h : duration = segmentDuration sqrt limits (maxAbs fun j => stop j - start j)) :
    0 < duration ∧ ∀ j, 1.875 * |stop j - start j| ≤ limits.velocityRadS * duration := by
  have hle : max 0.5 (1.875 * (maxAbs fun j => stop j - start j) / limits.velocityRadS) ≤
      duration := h ▸ le_max_left _ _
  refine ⟨lt_of_lt_of_le (by norm_num) ((le_max_left _ _).trans hle), fun j => ?_⟩
  have hslope := (le_max_right _ _).trans hle
  rw [div_le_iff₀' limits.velocity_pos] at hslope
  refine (mul_le_mul_of_nonneg_left ?_ (by norm_num)).trans hslope
  exact abs_le_maxAbs (fun j => stop j - start j) j

/-- The constructor of `Segment` with its checks. -/
def Segment.make (sqrt : K → K) (limits : MotionLimits K) (start : Joints K)
    (stop : Option (Joints K)) : Except MotionError (Segment limits) :=
  match stop with
  | none => .error .invalidEndpoints
  | some stop =>
    let distance := maxAbs fun j => stop j - start j
    if limits.segmentTimeoutS <
        segmentDuration sqrt limits distance + limits.stableS + limits.captureS + 5.0 then
      .error .timeBudget
    else .ok
      { start := start
        stop := stop
        duration := segmentDuration sqrt limits distance
        duration_pos := (slope_of_duration rfl).1
        slope := (slope_of_duration rfl).2 }

namespace Segment

variable (segment : Segment limits)

/-- A segment does not move before it starts. -/
theorem at_of_nonpos {elapsedS : K} (h : elapsedS ≤ 0) : segment.at elapsedS = segment.start := by
  funext j
  exact Quintic.interpolate_of_nonpos (div_nonpos_of_nonpos_of_nonneg h segment.duration_pos.le)

/-- No joint is faster than the limit. -/
theorem abs_at_sub_at_le (a b : K) (j : Fin 6) :
    |segment.at a j - segment.at b j| ≤ limits.velocityRadS * |a - b| := by
  have hpos := segment.duration_pos
  have hslope : 15 / 8 * |segment.stop j - segment.start j| ≤
      limits.velocityRadS * segment.duration := by linarith [segment.slope j]
  calc |segment.at a j - segment.at b j|
      ≤ 15 / 8 * |segment.stop j - segment.start j| *
          |a / segment.duration - b / segment.duration| := Quintic.abs_interpolate_sub_le _ _ _ _
    _ = 15 / 8 * |segment.stop j - segment.start j| * (|a - b| / segment.duration) := by
        rw [← sub_div, abs_div, abs_of_pos hpos]
    _ ≤ limits.velocityRadS * segment.duration * (|a - b| / segment.duration) :=
        mul_le_mul_of_nonneg_right hslope (div_nonneg (abs_nonneg _) hpos.le)
    _ = limits.velocityRadS * |a - b| := by
        rw [mul_assoc, mul_div_cancel₀ _ hpos.ne']

end Segment

theorem Segment.make_start {sqrt : K → K} {start : Joints K} {stop : Option (Joints K)}
    {segment : Segment limits} (h : make sqrt limits start stop = .ok segment) :
    segment.start = start := by
  unfold make at h
  split at h
  · cases h
  · dsimp only at h
    split_ifs at h
    cases h
    rfl

end Calibration

end DualCollection
