import Mathlib

/-!
# Paced sendings

A sender hands things over one after the other, each with the time at which it was due and the time
at which it was sent.  If nothing is sent before it is due or more than `W` after it, and the due
times are at least `P` apart, then the sendings are `Paced`: `m` sendings later at least `m * P - W`
has passed, and an interval of length `L` contains at most `(L + W) / P + 1` of them, however they
bunch up after a delay.

`Grid P l d` says that the due times of `l` are `s`, `s + P`, `s + 2 * P`, ..., and that `d` is the
next of them.
-/

namespace DualCollection

namespace Timing

/-- Something that was sent. -/
structure Sending (K : Type) where
  /-- When it was due. -/
  due : K
  /-- When it was sent. -/
  time : K
  deriving DecidableEq

variable {K : Type} [Field K] [LinearOrder K] [IsStrictOrderedRing K]

/-- Sent when it was due, or at most `W` later. -/
def Sending.InTime (W : K) (x : Sending K) : Prop := x.due ≤ x.time ∧ x.time ≤ x.due + W

/-- Every due time is at least `P` after the ones before. -/
def Spaced (P : K) (l : List (Sending K)) : Prop := l.Pairwise fun x y => x.due + P ≤ y.due

/-- The pace of a list of sendings, oldest first. -/
structure Paced (P W : K) (l : List (Sending K)) : Prop where
  /-- Nothing is sent before it is due, or more than `W` after it. -/
  inTime : ∀ x ∈ l, x.InTime W
  /-- Each due time is at least `P` after the one before. -/
  spaced : ∀ (k : ℕ) (h : k + 1 < l.length), l[k].due + P ≤ l[k + 1].due
  /-- The `k`-th and the `(k + m)`-th sending are at least `m * P - W` apart. -/
  apart : ∀ (k m : ℕ) (h : k + m < l.length), m * P - W ≤ l[k + m].time - l[k].time
  /-- An interval of length `L` contains at most `(L + W) / P + 1` sendings. -/
  interval : ∀ a L : K, 0 ≤ L →
    ((l.filter fun x => a ≤ x.time ∧ x.time ≤ a + L).length : K) ≤ (L + W) / P + 1

variable {P W d : K} {l : List (Sending K)} {x : Sending K}

omit [IsStrictOrderedRing K] in
theorem spaced_snoc : Spaced P (l ++ [x]) ↔ Spaced P l ∧ ∀ y ∈ l, y.due + P ≤ x.due := by
  simp [Spaced, List.pairwise_append]

/-- Spaced due times are far apart. -/
theorem Spaced.far (h : Spaced P l) (k m : ℕ) (hm : k + m < l.length) :
    l[k].due + m * P ≤ l[k + m].due := by
  induction m with
  | zero => simp
  | succ m ih =>
    have hprev := ih (by omega)
    have hlast : l[k + m].due + P ≤ l[k + (m + 1)].due :=
      List.pairwise_iff_getElem.1 h (k + m) (k + (m + 1)) _ _ (by omega)
    have hcast : ((m + 1 : ℕ) : K) * P = m * P + P := by
      push_cast
      ring
    linarith

/-- Sendings in time whose due times are spaced are far apart. -/
theorem Spaced.apart (h : Spaced P l) (ht : ∀ x ∈ l, x.InTime W) (k m : ℕ) (hm : k + m < l.length) :
    m * P - W ≤ l[k + m].time - l[k].time := by
  have hfar := h.far k m hm
  have hfirst := (ht l[k] (List.getElem_mem _)).2
  have hlast := (ht l[k + m] (List.getElem_mem _)).1
  linarith

/-- A short interval contains few sendings. -/
theorem Spaced.interval (h : Spaced P l) (hP : 0 < P) (hW : 0 ≤ W) (ht : ∀ x ∈ l, x.InTime W)
    (a L : K) (hL : 0 ≤ L) :
    ((l.filter fun x => a ≤ x.time ∧ x.time ≤ a + L).length : K) ≤ (L + W) / P + 1 := by
  generalize hf : (l.filter fun x => a ≤ x.time ∧ x.time ≤ a + L) = inside
  have hsub : inside.Sublist l := hf ▸ List.filter_sublist
  have hin : ∀ x ∈ inside, a ≤ x.time ∧ x.time ≤ a + L := fun x hx => by
    rw [← hf, List.mem_filter] at hx
    exact of_decide_eq_true hx.2
  have hquot : 0 ≤ (L + W) / P := div_nonneg (add_nonneg hL hW) hP.le
  by_cases hempty : inside.length = 0
  · rw [hempty, Nat.cast_zero]
    linarith
  · -- compare the first and the last sending of the interval
    obtain ⟨n, hn⟩ := Nat.exists_eq_succ_of_ne_zero hempty
    have hlt : 0 + n < inside.length := by omega
    have hapart := Spaced.apart (h.sublist hsub) (fun x hx => ht x (hsub.subset hx)) 0 n hlt
    have hfirst := (hin inside[0] (List.getElem_mem _)).1
    have hlast := (hin inside[0 + n] (List.getElem_mem _)).2
    have hspan : (n : K) * P ≤ L + W := by linarith
    have hcount : (n : K) ≤ (L + W) / P := (le_div_iff₀ hP).2 hspan
    rw [hn, Nat.cast_succ]
    linarith

/-- Sendings in time whose due times are spaced are paced. -/
theorem Spaced.paced (h : Spaced P l) (hP : 0 < P) (hW : 0 ≤ W) (ht : ∀ x ∈ l, x.InTime W) :
    Paced P W l where
  inTime := ht
  spaced k hk := List.pairwise_iff_getElem.1 h k (k + 1) _ _ (by omega)
  apart := h.apart ht
  interval := h.interval hP hW ht

/-! ### Regular due times -/

/-- The due times are those of a grid of step `P`, and `d` is the next one. -/
def Grid (P : K) (l : List (Sending K)) (d : K) : Prop :=
  ∃ s, (∀ (k : ℕ) (h : k < l.length), l[k].due = s + k * P) ∧ d = s + l.length * P

omit [LinearOrder K] [IsStrictOrderedRing K] in
theorem Grid.nil : Grid P [] d := ⟨d, by simp, by simp⟩

omit [LinearOrder K] [IsStrictOrderedRing K] in
theorem Grid.snoc (h : Grid P l d) (hx : x.due = d) : Grid P (l ++ [x]) (d + P) := by
  obtain ⟨s, hs, rfl⟩ := h
  refine ⟨s, fun k hk => ?_, ?_⟩
  · rcases Nat.lt_or_ge k l.length with hlt | hge
    · rw [List.getElem_append_left hlt]
      exact hs k hlt
    · have hk' : k = l.length := by
        rw [List.length_append, List.length_singleton] at hk
        omega
      subst hk'
      rw [List.getElem_concat_length rfl, hx]
  · rw [List.length_append, List.length_singleton]
    push_cast
    ring

/-- The due times of a grid are spaced. -/
theorem Grid.spaced (h : Grid P l d) (hP : 0 < P) : Spaced P l := by
  obtain ⟨s, hs, -⟩ := h
  refine List.pairwise_iff_getElem.2 fun i j hi hj hij => ?_
  rw [hs i hi, hs j hj]
  have hle : ((i + 1 : ℕ) : K) * P ≤ j * P :=
    mul_le_mul_of_nonneg_right (Nat.cast_le.2 hij) hP.le
  push_cast at hle
  linarith

end Timing

end DualCollection
