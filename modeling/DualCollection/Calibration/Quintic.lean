import Mathlib

/-!
# The quintic blend

`blend` rises from `0` to `1` on the unit interval with zero velocity and acceleration at both
ends.  Its slope is at most `15 / 8`, which it reaches in the middle of the interval, and so is the
slope of `interpolate`, where it is continued by constants.

The proof needs no calculus.  Around the middle the blend is `15 / 8 * u` less `5 u ^ 3 - 6 u ^ 5`,
and the difference of two values of this polynomial has `p - q` as a factor, with a cofactor
between `0` and `15 / 4`.
-/

namespace DualCollection

namespace Quintic

variable {K : Type} [Field K] [LinearOrder K]

/-- The blend on the unit interval. -/
def blend (s : K) : K := 10 * s ^ 3 - 15 * s ^ 4 + 6 * s ^ 5

/-- A value clipped to the unit interval. -/
def clip (s : K) : K := min 1 (max 0 s)

omit [LinearOrder K] in
@[simp] theorem blend_zero : blend (0 : K) = 0 := by
  unfold blend
  ring

variable [IsStrictOrderedRing K]

theorem clip_mem (s : K) : 0 ≤ clip s ∧ clip s ≤ 1 :=
  ⟨le_min zero_le_one (le_max_left _ _), min_le_left _ _⟩

theorem clip_of_nonpos {s : K} (h : s ≤ 0) : clip s = 0 := by
  rw [clip, max_eq_left h, min_eq_right zero_le_one]

/-- Clipping does not stretch. -/
theorem abs_clip_sub_clip_le (s t : K) : |clip s - clip t| ≤ |s - t| := by
  have hmin : |clip s - clip t| ≤ |max 0 s - max 0 t| := by
    have h := abs_min_sub_min_le_max 1 (max 0 s) 1 (max 0 t)
    rw [sub_self, abs_zero] at h
    exact h.trans_eq (max_eq_right (abs_nonneg _))
  have hmax : |max 0 s - max 0 t| ≤ |s - t| := by
    have h := abs_max_sub_max_le_max 0 s 0 t
    rw [sub_self, abs_zero] at h
    exact h.trans_eq (max_eq_right (abs_nonneg _))
  exact hmin.trans hmax

/-- A point of the unit interval lies within `1 / 2` of its middle. -/
theorem sq_centred_le {s : K} (h₀ : 0 ≤ s) (h₁ : s ≤ 1) : (s - 1 / 2) ^ 2 ≤ 1 / 4 := by
  have h : 0 ≤ s * (1 - s) := mul_nonneg h₀ (sub_nonneg.2 h₁)
  linarith [show (s - 1 / 2) ^ 2 = 1 / 4 - s * (1 - s) by ring]

/-- The cofactor of `p - q` in the difference of `5 u ^ 3 - 6 u ^ 5`. -/
def cofactor (p q : K) : K :=
  (p ^ 2 + p * q + q ^ 2) * (5 - 6 * (p ^ 2 + q ^ 2)) + 6 * (p ^ 2 * q ^ 2)

theorem blend_sub_blend (s t : K) :
    blend s - blend t = (s - t) * (15 / 8 - cofactor (s - 1 / 2) (t - 1 / 2)) := by
  unfold blend cofactor
  ring

theorem cofactor_nonneg {p q : K} (hp : p ^ 2 ≤ 1 / 4) (hq : q ^ 2 ≤ 1 / 4) : 0 ≤ cofactor p q := by
  have hfirst : 0 ≤ p ^ 2 + p * q + q ^ 2 := by
    have h := add_nonneg (add_nonneg (sq_nonneg p) (sq_nonneg q)) (sq_nonneg (p + q))
    linarith [show p ^ 2 + q ^ 2 + (p + q) ^ 2 = 2 * (p ^ 2 + p * q + q ^ 2) by ring]
  have hsecond : 0 ≤ 5 - 6 * (p ^ 2 + q ^ 2) := by linarith
  have hthird : 0 ≤ 6 * (p ^ 2 * q ^ 2) := by positivity
  exact add_nonneg (mul_nonneg hfirst hsecond) hthird

theorem cofactor_le {p q : K} (hp : p ^ 2 ≤ 1 / 4) (hq : q ^ 2 ≤ 1 / 4) :
    cofactor p q ≤ 15 / 4 := by
  have hsub : 0 ≤ (p - q) ^ 2 := sq_nonneg _
  have hadd : 0 ≤ (p + q) ^ 2 := sq_nonneg _
  have hsum : p ^ 2 + p * q + q ^ 2 ≤ 3 / 4 := by
    linarith [show (p - q) ^ 2 = p ^ 2 - 2 * (p * q) + q ^ 2 by ring]
  have hhalf : 0 ≤ p ^ 2 + p * q + q ^ 2 - (p ^ 2 + q ^ 2) / 2 := by
    linarith [show (p + q) ^ 2 = p ^ 2 + 2 * (p * q) + q ^ 2 by ring]
  -- the part of degree four is not negative
  have hfour : 0 ≤ (p ^ 2 + p * q + q ^ 2) * (p ^ 2 + q ^ 2) - p ^ 2 * q ^ 2 := by
    have h₁ : 0 ≤ (p ^ 2 + p * q + q ^ 2 - (p ^ 2 + q ^ 2) / 2) * (p ^ 2 + q ^ 2) :=
      mul_nonneg hhalf (add_nonneg (sq_nonneg p) (sq_nonneg q))
    have h₂ : 0 ≤ p ^ 4 + q ^ 4 := by positivity
    linarith [show (p ^ 2 + p * q + q ^ 2) * (p ^ 2 + q ^ 2) - p ^ 2 * q ^ 2 =
      (p ^ 2 + p * q + q ^ 2 - (p ^ 2 + q ^ 2) / 2) * (p ^ 2 + q ^ 2) + (p ^ 4 + q ^ 4) / 2 by ring]
  unfold cofactor
  linarith [show (p ^ 2 + p * q + q ^ 2) * (5 - 6 * (p ^ 2 + q ^ 2)) + 6 * (p ^ 2 * q ^ 2) =
    5 * (p ^ 2 + p * q + q ^ 2) -
      6 * ((p ^ 2 + p * q + q ^ 2) * (p ^ 2 + q ^ 2) - p ^ 2 * q ^ 2) by ring]

/-- The slope of the blend is at most `15 / 8`. -/
theorem abs_blend_sub_blend_le {s t : K} (hs : 0 ≤ s ∧ s ≤ 1) (ht : 0 ≤ t ∧ t ≤ 1) :
    |blend s - blend t| ≤ 15 / 8 * |s - t| := by
  have hp := sq_centred_le hs.1 hs.2
  have hq := sq_centred_le ht.1 ht.2
  have hcofactor : |15 / 8 - cofactor (s - 1 / 2) (t - 1 / 2)| ≤ 15 / 8 := by
    rw [abs_le]
    constructor
    · linarith [cofactor_le hp hq]
    · linarith [cofactor_nonneg hp hq]
  rw [blend_sub_blend, abs_mul, mul_comm]
  exact mul_le_mul_of_nonneg_right hcofactor (abs_nonneg _)

/-- The blend between two values at the fraction `s` of the way. -/
def interpolate (x y s : K) : K := x + (y - x) * blend (clip s)

theorem interpolate_of_nonpos {x y s : K} (h : s ≤ 0) : interpolate x y s = x := by
  rw [interpolate, clip_of_nonpos h, blend_zero, mul_zero, add_zero]

/-- The interpolation is not steeper than the blend. -/
theorem abs_interpolate_sub_le (x y s t : K) :
    |interpolate x y s - interpolate x y t| ≤ 15 / 8 * |y - x| * |s - t| := by
  have hblend : |blend (clip s) - blend (clip t)| ≤ 15 / 8 * |s - t| :=
    (abs_blend_sub_blend_le (clip_mem s) (clip_mem t)).trans
      (mul_le_mul_of_nonneg_left (abs_clip_sub_clip_le s t) (by norm_num))
  calc |interpolate x y s - interpolate x y t|
      = |y - x| * |blend (clip s) - blend (clip t)| := by
        rw [interpolate, interpolate, add_sub_add_left_eq_sub, ← mul_sub, abs_mul]
    _ ≤ |y - x| * (15 / 8 * |s - t|) := mul_le_mul_of_nonneg_left hblend (abs_nonneg _)
    _ = 15 / 8 * |y - x| * |s - t| := by ring

end Quintic

end DualCollection
