import DualCollection.Calibration.Motion
import Mathlib

/-!
# The profile of a segment

In real arithmetic a segment has a velocity at every moment, which is zero before the segment starts
and after it ends (`Segment.hasDerivAt_at`).  The slope of the blend changes by at most `10 / √3` on
the unit interval, so the duration that the constructor takes keeps the acceleration within its
limit.

The bound on the slope needs no calculus either: with `p` and `q` measured from the middle of the
interval, the slopes differ by `30 (q - p) (q + p) (1 / 2 - p ^ 2 - q ^ 2)`.
-/

namespace DualCollection

namespace Quintic

/-! ### The slope of the blend -/

/-- The slope of the blend on the unit interval. -/
def slope (s : ℝ) : ℝ := 30 * s ^ 2 * (1 - s) ^ 2

theorem slope_nonneg (s : ℝ) : 0 ≤ slope s := by
  unfold slope
  positivity

theorem clip_of_one_le {s : ℝ} (h : 1 ≤ s) : clip s = 1 := by
  rw [clip, max_eq_right (by linarith), min_eq_left h]

theorem clip_of_mem {s : ℝ} (h : s ∈ Set.Icc (0 : ℝ) 1) : clip s = s := by
  rw [clip, max_eq_right h.1, min_eq_right h.2]

theorem hasDerivAt_blend (s : ℝ) : HasDerivAt blend (slope s) s := by
  have h := (((hasDerivAt_pow 3 s).const_mul 10).sub ((hasDerivAt_pow 4 s).const_mul 15)).add
    ((hasDerivAt_pow 5 s).const_mul 6)
  refine h.congr_deriv ?_
  unfold slope
  push_cast
  ring

/-- The clipped blend has a slope everywhere. -/
theorem hasDerivAt_blend_clip (s : ℝ) :
    HasDerivAt (fun u : ℝ => blend (clip u)) (slope (clip s)) s := by
  -- the three pieces, each up to its ends
  have hbelow : ∀ u ≤ (0 : ℝ), HasDerivWithinAt (fun u : ℝ => blend (clip u)) 0 (Set.Iic 0) u := by
    intro u hu
    refine (hasDerivWithinAt_const u (Set.Iic 0) (blend 0)).congr (fun v hv => ?_) ?_
    · rw [clip_of_nonpos hv]
    · rw [clip_of_nonpos hu]
  have habove : ∀ u ≥ (1 : ℝ), HasDerivWithinAt (fun u : ℝ => blend (clip u)) 0 (Set.Ici 1) u := by
    intro u hu
    refine (hasDerivWithinAt_const u (Set.Ici 1) (blend 1)).congr (fun v hv => ?_) ?_
    · rw [clip_of_one_le hv]
    · rw [clip_of_one_le hu]
  have hinside : ∀ u ∈ Set.Icc (0 : ℝ) 1,
      HasDerivWithinAt (fun u : ℝ => blend (clip u)) (slope u) (Set.Icc 0 1) u := by
    intro u hu
    refine (hasDerivAt_blend u).hasDerivWithinAt.congr (fun v hv => ?_) ?_
    · rw [clip_of_mem hv]
    · rw [clip_of_mem hu]
  have hslope_zero : slope 0 = 0 := by simp [slope]
  have hslope_one : slope 1 = 0 := by simp [slope]
  rcases lt_trichotomy s 0 with hneg | rfl | hpos
  · rw [clip_of_nonpos hneg.le, hslope_zero]
    exact (hbelow s hneg.le).hasDerivAt (Iic_mem_nhds hneg)
  · rw [clip_of_nonpos le_rfl, hslope_zero]
    have hright : HasDerivWithinAt (fun u : ℝ => blend (clip u)) 0 (Set.Ici 0) 0 := by
      have h := hinside 0 ⟨le_rfl, zero_le_one⟩
      rw [hslope_zero] at h
      exact h.mono_of_mem_nhdsWithin (Icc_mem_nhdsGE zero_lt_one)
    have h := (hbelow 0 le_rfl).union hright
    rw [Set.Iic_union_Ici] at h
    exact hasDerivWithinAt_univ.1 h
  · rcases lt_trichotomy s 1 with hlt | rfl | hgt
    · rw [clip_of_mem ⟨hpos.le, hlt.le⟩]
      exact (hinside s ⟨hpos.le, hlt.le⟩).hasDerivAt (Icc_mem_nhds hpos hlt)
    · rw [clip_of_one_le le_rfl, hslope_one]
      have hleft : HasDerivWithinAt (fun u : ℝ => blend (clip u)) 0 (Set.Iic 1) 1 := by
        have h := hinside 1 ⟨zero_le_one, le_rfl⟩
        rw [hslope_one] at h
        exact h.mono_of_mem_nhdsWithin (Icc_mem_nhdsLE zero_lt_one)
      have h := hleft.union (habove 1 le_rfl)
      rw [Set.Iic_union_Ici] at h
      exact hasDerivWithinAt_univ.1 h
    · rw [clip_of_one_le hgt.le, hslope_one]
      exact (habove s hgt.le).hasDerivAt (Ici_mem_nhds hgt)

/-- The largest value of `x (1 - x ^ 2)` for `x ≥ 0` is taken at `1 / √3`. -/
theorem mul_one_sub_sq_le {x : ℝ} (hx : 0 ≤ x) : x * (1 - x ^ 2) ≤ 2 / (3 * Real.sqrt 3) := by
  have hsqrt : 0 < Real.sqrt 3 := Real.sqrt_pos.2 (by norm_num)
  have hsq : Real.sqrt 3 ^ 2 = 3 := Real.sq_sqrt (by norm_num)
  have hc : (1 / Real.sqrt 3) ^ 2 = 1 / 3 := by rw [div_pow, hsq, one_pow]
  have hc_pos : 0 < 1 / Real.sqrt 3 := by positivity
  generalize hdef : 1 / Real.sqrt 3 = c at hc hc_pos
  have hbound : 2 / (3 * Real.sqrt 3) = 2 * c / 3 := by
    rw [← hdef]
    field_simp
  have hfactor : 2 * c / 3 - x * (1 - x ^ 2) = (x - c) ^ 2 * (x + 2 * c) := by
    linear_combination (3 * x - 2 * c) * hc
  have hnonneg : 0 ≤ (x - c) ^ 2 * (x + 2 * c) := by positivity
  rw [hbound]
  linarith

/-- The slope changes by at most `10 / √3`. -/
theorem abs_slope_sub_slope_le {s t : ℝ} (hs : 0 ≤ s ∧ s ≤ 1) (ht : 0 ≤ t ∧ t ≤ 1) :
    |slope s - slope t| ≤ 10 / Real.sqrt 3 * |s - t| := by
  have hsqrt : 0 < Real.sqrt 3 := Real.sqrt_pos.2 (by norm_num)
  have hp := sq_centred_le hs.1 hs.2
  have hq := sq_centred_le ht.1 ht.2
  generalize hpdef : s - 1 / 2 = p at hp
  generalize hqdef : t - 1 / 2 = q at hq
  have hfactor : slope s - slope t = (t - s) * (30 * ((p + q) * (1 / 2 - p ^ 2 - q ^ 2))) := by
    rw [← hpdef, ← hqdef]
    unfold slope
    ring
  have hrest : 0 ≤ 1 / 2 - p ^ 2 - q ^ 2 := by linarith
  have hle : 1 / 2 - p ^ 2 - q ^ 2 ≤ (1 - |p + q| ^ 2) / 2 := by
    rw [sq_abs]
    linarith [sq_nonneg (p - q), show (p + q) ^ 2 = 2 * (p ^ 2 + q ^ 2) - (p - q) ^ 2 by ring]
  have hprod : |(p + q) * (1 / 2 - p ^ 2 - q ^ 2)| ≤ 1 / (3 * Real.sqrt 3) := by
    calc |(p + q) * (1 / 2 - p ^ 2 - q ^ 2)|
        = |p + q| * (1 / 2 - p ^ 2 - q ^ 2) := by rw [abs_mul, abs_of_nonneg hrest]
      _ ≤ |p + q| * ((1 - |p + q| ^ 2) / 2) := mul_le_mul_of_nonneg_left hle (abs_nonneg _)
      _ = |p + q| * (1 - |p + q| ^ 2) / 2 := by ring
      _ ≤ 2 / (3 * Real.sqrt 3) / 2 := by
        have := mul_one_sub_sq_le (abs_nonneg (p + q))
        linarith
      _ = 1 / (3 * Real.sqrt 3) := by ring
  calc |slope s - slope t|
      = |s - t| * (30 * |(p + q) * (1 / 2 - p ^ 2 - q ^ 2)|) := by
        rw [hfactor, abs_mul, abs_sub_comm t s, abs_mul 30, abs_of_pos (by norm_num : (0 : ℝ) < 30)]
    _ ≤ |s - t| * (30 * (1 / (3 * Real.sqrt 3))) := by gcongr
    _ = 10 / Real.sqrt 3 * |s - t| := by
      field_simp
      ring

/-- So does the slope of the clipped blend. -/
theorem abs_slope_clip_sub_le (s t : ℝ) :
    |slope (clip s) - slope (clip t)| ≤ 10 / Real.sqrt 3 * |s - t| :=
  (abs_slope_sub_slope_le (clip_mem s) (clip_mem t)).trans
    (mul_le_mul_of_nonneg_left (abs_clip_sub_clip_le s t) (by positivity))

end Quintic

namespace Calibration

variable {limits : MotionLimits ℝ}

namespace Segment

variable (segment : Segment limits)

/-- The velocity after some time. -/
noncomputable def velocity (elapsedS : ℝ) : Joints ℝ := fun j =>
  (segment.stop j - segment.start j) / segment.duration *
    Quintic.slope (Quintic.clip (elapsedS / segment.duration))

/-- It is the derivative of the pose. -/
theorem hasDerivAt_at (elapsedS : ℝ) (j : Fin 6) :
    HasDerivAt (fun t => segment.at t j) (segment.velocity elapsedS j) elapsedS := by
  have hscale : HasDerivAt (fun t : ℝ => t / segment.duration) (1 / segment.duration) elapsedS :=
    (hasDerivAt_id elapsedS).div_const _
  have hblend := (Quintic.hasDerivAt_blend_clip (elapsedS / segment.duration)).comp elapsedS hscale
  refine ((hblend.const_mul (segment.stop j - segment.start j)).const_add
    (segment.start j)).congr_deriv ?_
  unfold velocity
  ring

/-- A joint that has to rise rises all the time. -/
theorem monotone_at {j : Fin 6} (h : segment.start j ≤ segment.stop j) :
    Monotone fun t => segment.at t j := by
  refine monotone_of_deriv_nonneg (fun t => (segment.hasDerivAt_at t j).differentiableAt)
    fun t => ?_
  rw [(segment.hasDerivAt_at t j).deriv]
  exact mul_nonneg (div_nonneg (sub_nonneg.2 h) segment.duration_pos.le) (Quintic.slope_nonneg _)

/-- A joint that has to fall falls all the time. -/
theorem antitone_at {j : Fin 6} (h : segment.stop j ≤ segment.start j) :
    Antitone fun t => segment.at t j := by
  refine antitone_of_deriv_nonpos (fun t => (segment.hasDerivAt_at t j).differentiableAt)
    fun t => ?_
  rw [(segment.hasDerivAt_at t j).deriv]
  exact mul_nonpos_of_nonpos_of_nonneg
    (div_nonpos_of_nonpos_of_nonneg (sub_nonpos.2 h) segment.duration_pos.le)
    (Quintic.slope_nonneg _)

/-- A segment stays where it ends. -/
theorem at_of_duration_le {elapsedS : ℝ} (h : segment.duration ≤ elapsedS) :
    segment.at elapsedS = segment.stop := by
  have hone : 1 ≤ elapsedS / segment.duration := (one_le_div segment.duration_pos).2 h
  funext j
  rw [Segment.at, Quintic.interpolate, Quintic.clip_of_one_le hone, Quintic.blend]
  ring

/-- A segment is at rest before it starts and after it ends. -/
theorem velocity_eq_zero {elapsedS : ℝ} (h : elapsedS ≤ 0 ∨ segment.duration ≤ elapsedS) :
    segment.velocity elapsedS = 0 := by
  funext j
  rcases h with h | h
  · have hclip := Quintic.clip_of_nonpos (div_nonpos_of_nonpos_of_nonneg h segment.duration_pos.le)
    simp [velocity, hclip, Quintic.slope]
  · have hclip := Quintic.clip_of_one_le ((one_le_div segment.duration_pos).2 h)
    simp [velocity, hclip, Quintic.slope]

/-- The curvature of the blend is within what the duration allows. -/
structure Gentle : Prop where
  /-- This holds for every joint. -/
  curvature : ∀ j, 10 / Real.sqrt 3 * |segment.stop j - segment.start j| ≤
    limits.accelerationRadS2 * segment.duration ^ 2

/-- A gentle segment keeps the acceleration within the limit. -/
theorem abs_velocity_sub_le (h : segment.Gentle) (a b : ℝ) (j : Fin 6) :
    |segment.velocity a j - segment.velocity b j| ≤ limits.accelerationRadS2 * |a - b| := by
  have hpos := segment.duration_pos
  calc |segment.velocity a j - segment.velocity b j|
      = |segment.stop j - segment.start j| / segment.duration *
          |Quintic.slope (Quintic.clip (a / segment.duration)) -
            Quintic.slope (Quintic.clip (b / segment.duration))| := by
        rw [velocity, velocity, ← mul_sub, abs_mul, abs_div, abs_of_pos hpos]
    _ ≤ |segment.stop j - segment.start j| / segment.duration *
          (10 / Real.sqrt 3 * |a / segment.duration - b / segment.duration|) :=
        mul_le_mul_of_nonneg_left (Quintic.abs_slope_clip_sub_le _ _)
          (div_nonneg (abs_nonneg _) hpos.le)
    _ = 10 / Real.sqrt 3 * |segment.stop j - segment.start j| *
          (|a - b| / segment.duration ^ 2) := by
        rw [← sub_div, abs_div, abs_of_pos hpos]
        ring
    _ ≤ limits.accelerationRadS2 * segment.duration ^ 2 * (|a - b| / segment.duration ^ 2) :=
        mul_le_mul_of_nonneg_right (h.curvature j) (by positivity)
    _ = limits.accelerationRadS2 * |a - b| := by
        rw [mul_assoc, mul_div_cancel₀ _ (pow_ne_zero 2 hpos.ne')]

end Segment

theorem MotionLimits.acceleration_pos (limits : MotionLimits ℝ) : 0 < limits.accelerationRadS2 :=
  limits.positive _ (by simp)

/-- The duration keeps the acceleration within the limit. -/
theorem curvature_of_duration {start stop : Joints ℝ} (j : Fin 6) :
    10 / Real.sqrt 3 * |stop j - start j| ≤ limits.accelerationRadS2 *
      segmentDuration Real.sqrt limits (maxAbs fun j => stop j - start j) ^ 2 := by
  have hacc := limits.acceleration_pos
  generalize hd : (maxAbs fun j => stop j - start j) = distance
  have hj : |stop j - start j| ≤ distance := hd ▸ abs_le_maxAbs (fun j => stop j - start j) j
  have hdistance : 0 ≤ distance := (abs_nonneg _).trans hj
  have hroot : Real.sqrt (10 / Real.sqrt 3 * distance / limits.accelerationRadS2) ≤
      segmentDuration Real.sqrt limits distance := by
    rw [segmentDuration_eq]
    exact le_max_right _ _
  have hsquare : 10 / Real.sqrt 3 * distance / limits.accelerationRadS2 ≤
      segmentDuration Real.sqrt limits distance ^ 2 := by
    calc 10 / Real.sqrt 3 * distance / limits.accelerationRadS2
        = Real.sqrt (10 / Real.sqrt 3 * distance / limits.accelerationRadS2) ^ 2 :=
          (Real.sq_sqrt (by positivity)).symm
      _ ≤ segmentDuration Real.sqrt limits distance ^ 2 :=
          pow_le_pow_left₀ (Real.sqrt_nonneg _) hroot 2
  rw [div_le_iff₀' hacc] at hsquare
  exact (mul_le_mul_of_nonneg_left hj (by positivity)).trans hsquare

/-- What the constructor has checked and computed. -/
theorem Segment.make_ok {start : Joints ℝ} {stop : Option (Joints ℝ)} {segment : Segment limits}
    (h : make Real.sqrt limits start stop = .ok segment) :
    segment.start = start ∧ stop = some segment.stop ∧ segment.Gentle ∧
      segment.duration + limits.stableS + limits.captureS + 5 ≤ limits.segmentTimeoutS := by
  unfold make at h
  split at h
  · cases h
  · rename_i stop
    dsimp only at h
    split_ifs at h with hbudget
    cases h
    exact ⟨rfl, rfl, ⟨fun j => curvature_of_duration j⟩, by linarith [not_lt.1 hbudget]⟩

/-- What a segment promises. -/
structure SegmentProfile (segment : Segment limits) (start stop : Joints ℝ) : Prop where
  /-- It starts where it should. -/
  at_start : ∀ t ≤ 0, segment.at t = start
  /-- It ends where it should. -/
  at_stop : ∀ t ≥ segment.duration, segment.at t = stop
  /-- It takes some time. -/
  duration_pos : 0 < segment.duration
  /-- A joint goes one way only. -/
  monotone : ∀ j, (start j ≤ stop j → Monotone fun t => segment.at t j) ∧
    (stop j ≤ start j → Antitone fun t => segment.at t j)
  /-- No joint is faster than the limit. -/
  velocity_le : ∀ j s t, s < t →
    |segment.at t j - segment.at s j| ≤ limits.velocityRadS * (t - s)
  /-- The velocity is the derivative of the pose. -/
  hasDerivAt : ∀ j t, HasDerivAt (fun t => segment.at t j) (segment.velocity t j) t
  /-- It is zero before the segment and after it. -/
  velocity_eq_zero : ∀ t, t ≤ 0 ∨ segment.duration ≤ t → segment.velocity t = 0
  /-- It does not change faster than the limit. -/
  acceleration_le : ∀ j s t, s < t →
    |segment.velocity t j - segment.velocity s j| ≤ limits.accelerationRadS2 * (t - s)
  /-- There is time for it. -/
  budget : segment.duration + limits.stableS + limits.captureS + 5 ≤ limits.segmentTimeoutS

/-- A segment that the constructor accepts has the profile. -/
theorem segment_profile {start : Joints ℝ} {stop : Option (Joints ℝ)} {segment : Segment limits}
    (h : Segment.make Real.sqrt limits start stop = .ok segment) :
    ∃ stop', stop = some stop' ∧ SegmentProfile segment start stop' := by
  obtain ⟨rfl, hstop, hgentle, hbudget⟩ := Segment.make_ok h
  refine ⟨segment.stop, hstop, ?_⟩
  constructor
  · exact fun t ht => segment.at_of_nonpos ht
  · exact fun t ht => segment.at_of_duration_le ht
  · exact segment.duration_pos
  · exact fun j => ⟨segment.monotone_at, segment.antitone_at⟩
  · intro j s t hst
    have hle := segment.abs_at_sub_at_le t s j
    rwa [abs_of_pos (sub_pos.2 hst)] at hle
  · exact fun j t => segment.hasDerivAt_at t j
  · exact fun t ht => segment.velocity_eq_zero ht
  · intro j s t hst
    have hle := segment.abs_velocity_sub_le hgentle t s j
    rwa [abs_of_pos (sub_pos.2 hst)] at hle
  · exact hbudget

/-! ### The default limits -/

theorem default_positive :
    ∀ v ∈ [(0.10 : ℝ), 0.20, 50.0, 0.01, 0.04, 0.6, 2.0, 0.10, 0.08, 120.0], 0 < v := by
  intro v hv
  simp only [List.mem_cons, List.not_mem_nil, or_false] at hv
  rcases hv with rfl | rfl | rfl | rfl | rfl | rfl | rfl | rfl | rfl | rfl <;> norm_num

/-- `MotionLimits()` -/
noncomputable def defaultLimits : MotionLimits ℝ where
  velocityRadS := 0.10
  accelerationRadS2 := 0.20
  rateHz := 50.0
  arrivalRad := 0.01
  stillVelocityRadS := 0.04
  stableS := 0.6
  captureS := 2.0
  feedbackAgeS := 0.10
  followingErrorRad := 0.08
  segmentTimeoutS := 120.0
  positive := default_positive
  ceiling := by norm_num
  rate := by norm_num
  tolerances := by norm_num
  dwell := by norm_num

/-- A tenth of a radian does not take long. -/
theorem segmentDuration_tenth : segmentDuration Real.sqrt defaultLimits (1 / 10) ≤ 10 := by
  have hsqrt : 1 ≤ Real.sqrt 3 := Real.one_le_sqrt.2 (by norm_num)
  have hquot : 10 / Real.sqrt 3 ≤ 10 := div_le_self (by norm_num) hsqrt
  have hacc : defaultLimits.accelerationRadS2 = 1 / 5 := by norm_num [defaultLimits]
  rw [segmentDuration_eq, hacc]
  refine max_le (max_le (by norm_num) (by norm_num [defaultLimits]))
    (Real.sqrt_le_iff.2 ⟨by norm_num, ?_⟩)
  linarith

/-- All joints turn by a tenth of a radian. -/
theorem segment_profile_tenth :
    ∃ segment : Segment defaultLimits,
      SegmentProfile segment (fun _ => 0) (fun _ => 1 / 10) := by
  have hdistance : (maxAbs fun _ : Fin 6 => (1 / 10 : ℝ) - 0) = 1 / 10 := by
    refine le_antisymm (maxAbs_le_iff.2 fun j => ?_) ?_
    · rw [abs_of_pos (by norm_num)]
      norm_num
    · have h := abs_le_maxAbs (fun _ : Fin 6 => (1 / 10 : ℝ) - 0) 0
      rw [abs_of_pos (by norm_num)] at h
      linarith
  have hmake : ∃ segment, Segment.make Real.sqrt defaultLimits (fun _ => 0) (some fun _ => 1 / 10) =
      .ok segment := by
    unfold Segment.make
    dsimp only
    rw [if_neg]
    · exact ⟨_, rfl⟩
    · have hle := segmentDuration_tenth
      rw [hdistance]
      have hrest : defaultLimits.stableS + defaultLimits.captureS + 5 ≤ 110 ∧
          defaultLimits.segmentTimeoutS = 120 := by norm_num [defaultLimits]
      rw [not_lt, hrest.2]
      linarith [hrest.1]
  obtain ⟨segment, hsegment⟩ := hmake
  obtain ⟨stop', hstop, hprofile⟩ := segment_profile hsegment
  cases hstop
  exact ⟨segment, hprofile⟩

end Calibration

end DualCollection
