import Mathlib.Algebra.Order.Floor.Ring
import Mathlib.Algebra.Order.Archimedean.Basic
import Mathlib.Data.Rat.Floor
import Mathlib.Data.List.NodupEquivFin
import Mathlib.Tactic.FieldSimp
import Mathlib.Tactic.Linarith
import Mathlib.Tactic.Positivity

/-!
# Evenly spaced integers

`linspace` with an integer `dtype` rounds evenly spaced numbers down.  As long as they are at least
one apart, the integers are distinct (`linspace_nodup`), so that as many indices of a list are among
them as there are numbers (`countP_mem_of_nodup`).
-/

namespace Numpy

/-- `np.linspace(start, stop, num, dtype=int)` -/
def linspace (start stop : ℚ) (num : ℕ) : List ℤ :=
  (List.range num).map fun i : ℕ => ⌊start + i * ((stop - start) / (num - 1))⌋

variable {start stop : ℚ} {num : ℕ}

@[simp] theorem length_linspace : (linspace start stop num).length = num := by
  simp [linspace]

/-- The distance of two neighbours is at least one. -/
theorem one_le_step (h : 1 < num) (hstep : (num : ℚ) - 1 ≤ stop - start) :
    1 ≤ (stop - start) / ((num : ℚ) - 1) := by
  have hnum : (1 : ℚ) < num := by exact_mod_cast h
  rw [one_le_div (by linarith)]
  exact hstep

theorem floor_injective {step : ℚ} (h : 1 ≤ step) :
    Function.Injective fun i : ℕ => ⌊start + i * step⌋ := by
  refine StrictMono.injective (strictMono_nat_of_lt_succ fun i => ?_)
  have hle : start + i * step + 1 ≤ start + (i + 1 : ℕ) * step := by
    push_cast
    linarith
  calc ⌊start + i * step⌋ < ⌊start + i * step⌋ + 1 := lt_add_one _
    _ = ⌊start + i * step + 1⌋ := (Int.floor_add_one _).symm
    _ ≤ ⌊start + (i + 1 : ℕ) * step⌋ := Int.floor_le_floor hle

theorem linspace_nodup (hstep : (num : ℚ) - 1 ≤ stop - start) : (linspace start stop num).Nodup := by
  by_cases h : 1 < num
  · exact List.nodup_range.map (floor_injective (one_le_step h hstep))
  · have hlength : (linspace start stop num).length ≤ 1 := by
      rw [length_linspace]
      omega
    match linspace start stop num, hlength with
    | [], _ => exact List.nodup_nil
    | [x], _ => exact List.nodup_singleton x

/-- The numbers lie between the ends. -/
theorem mem_linspace (hle : start ≤ stop) {x : ℤ} (hx : x ∈ linspace start stop num) :
    start - 1 < x ∧ (x : ℚ) ≤ stop := by
  obtain ⟨i, hi, rfl⟩ := List.mem_map.1 hx
  have hi : i < num := List.mem_range.1 hi
  have hfraction : (i : ℚ) * ((stop - start) / (num - 1)) ≤ stop - start := by
    rcases Nat.lt_or_ge 1 num with hnum | hnum
    · have hpos : (0 : ℚ) < num - 1 := by
        have : (1 : ℚ) < num := by exact_mod_cast hnum
        linarith
      have hi' : (i : ℚ) ≤ num - 1 := by
        have : (i + 1 : ℚ) ≤ num := by exact_mod_cast hi
        linarith
      calc (i : ℚ) * ((stop - start) / (num - 1))
          ≤ (num - 1) * ((stop - start) / (num - 1)) :=
            mul_le_mul_of_nonneg_right hi' (div_nonneg (by linarith) hpos.le)
        _ = stop - start := by field_simp
    · obtain rfl : i = 0 := by omega
      simp only [Nat.cast_zero, zero_mul]
      linarith
  have hnonneg : (0 : ℚ) ≤ i * ((stop - start) / (num - 1)) := by
    rcases Nat.eq_zero_or_pos i with rfl | hpos
    · simp
    · have hnum : (1 : ℚ) ≤ num := by exact_mod_cast (by omega : 1 ≤ num)
      exact mul_nonneg (Nat.cast_nonneg i) (div_nonneg (by linarith) (by linarith))
  constructor
  · have := Int.lt_floor_add_one (start + i * ((stop - start) / (num - 1)))
    linarith
  · have := Int.floor_le (start + i * ((stop - start) / (num - 1)))
    linarith

variable (start stop) in
/-- The first number is the start. -/
theorem floor_start_mem_linspace (h : 0 < num) : ⌊start⌋ ∈ linspace start stop num :=
  List.mem_map.2 ⟨0, List.mem_range.2 h, by simp⟩

variable (start stop) in
/-- The last number is the end. -/
theorem floor_stop_mem_linspace (h : 1 < num) : ⌊stop⌋ ∈ linspace start stop num := by
  refine List.mem_map.2 ⟨num - 1, List.mem_range.2 (by omega), ?_⟩
  have hpos : ((num : ℚ) - 1) ≠ 0 := by
    have : (1 : ℚ) < num := by exact_mod_cast h
    linarith
  congr 1
  rw [Nat.cast_sub h.le, Nat.cast_one, mul_div_cancel₀ _ hpos]
  ring

/-- As many indices are in a list of distinct indices as it has. -/
theorem countP_mem_of_nodup {n : ℕ} {l : List ℤ} (hl : l.Nodup)
    (hrange : ∀ x ∈ l, 0 ≤ x ∧ x < n) :
    (List.range n).countP (fun i : ℕ => decide ((i : ℤ) ∈ l)) = l.length := by
  have hperm : (((List.range n).filter fun i : ℕ => decide ((i : ℤ) ∈ l)).map Int.ofNat).Perm l := by
    refine (List.perm_ext_iff_of_nodup ?_ hl).2 fun x => ?_
    · exact (List.nodup_range.filter _).map Int.ofNat_injective
    · constructor
      · intro hx
        obtain ⟨i, hi, rfl⟩ := List.mem_map.1 hx
        exact of_decide_eq_true (List.mem_filter.1 hi).2
      · intro hx
        obtain ⟨i, rfl⟩ := Int.eq_ofNat_of_zero_le (hrange x hx).1
        have hi : i < n := by exact_mod_cast (hrange _ hx).2
        exact List.mem_map.2 ⟨i, List.mem_filter.2 ⟨List.mem_range.2 hi, by simpa using hx⟩, rfl⟩
  rw [List.countP_eq_length_filter, ← hperm.length_eq, List.length_map]

end Numpy
