import Mathlib

/-!
# Arrays

An array is a shape and its values in row-major order.  `NdArray.ofRows` builds an array from nested
sequences, as `numpy.asarray` does: rows of the same length become a matrix, and no rows at all
become a vector of length `0`.  `NdArray.rows` is what an iteration over the first two dimensions
yields, and `NdArray.assignRows` assigns to the first rows of a matrix.
-/

namespace DualCollection

/-- An array in row-major order. -/
@[ext] structure NdArray (α : Type) where
  /-- The length of every dimension. -/
  shape : List ℕ
  /-- The values. -/
  data : List α
  /-- There are as many values as the shape has places. -/
  data_length : data.length = shape.prod

/-- The first `k` pieces of length `n`. -/
def chunks {α : Type} : ℕ → ℕ → List α → List (List α)
  | 0, _, _ => []
  | k + 1, n, xs => xs.take n :: chunks k n (xs.drop n)

section Chunks

variable {α β : Type} {n : ℕ}

@[simp] theorem chunks_length {k : ℕ} {xs : List α} : (chunks k n xs).length = k := by
  induction k generalizing xs with
  | zero => rfl
  | succ k ih => simp [chunks, ih]

/-- Cutting undoes flattening. -/
theorem chunks_flatten (rows : List (List α)) (h : ∀ row ∈ rows, row.length = n) :
    chunks rows.length n rows.flatten = rows := by
  induction rows with
  | nil => rfl
  | cons row rows ih =>
    obtain ⟨hrow, hrows⟩ := List.forall_mem_cons.1 h
    simp only [List.length_cons, List.flatten_cons, chunks]
    rw [List.take_left' hrow, List.drop_left' hrow, ih hrows]

theorem chunks_append {k m : ℕ} {xs ys : List α} (h : xs.length = k * n) :
    chunks (k + m) n (xs ++ ys) = chunks k n xs ++ chunks m n ys := by
  induction k generalizing xs with
  | zero =>
    rw [Nat.zero_mul, List.length_eq_zero_iff] at h
    subst h
    simp [chunks]
  | succ k ih =>
    have hle : n ≤ xs.length := by
      rw [h, Nat.succ_mul]
      exact Nat.le_add_left n (k * n)
    have hdrop : (xs.drop n).length = k * n := by
      rw [List.length_drop, h, Nat.succ_mul, Nat.add_sub_cancel]
    rw [Nat.succ_add, chunks, chunks, List.take_append_of_le_length hle,
      List.drop_append_of_le_length hle, ih hdrop, List.cons_append]

theorem chunks_replicate {k : ℕ} {x : α} :
    chunks k n (List.replicate (k * n) x) = List.replicate k (List.replicate n x) := by
  induction k with
  | zero => rfl
  | succ k ih =>
    rw [chunks, List.take_replicate, List.drop_replicate, Nat.succ_mul, Nat.add_sub_cancel, ih,
      Nat.min_eq_left (Nat.le_add_left n (k * n)), List.replicate_succ]

end Chunks

namespace NdArray

variable {α β : Type}

/-- Apply a function to every value. -/
def map (f : α → β) (a : NdArray α) : NdArray β where
  shape := a.shape
  data := a.data.map f
  data_length := by rw [List.length_map, a.data_length]

/-- The vector of a sequence. -/
def ofList (xs : List α) : NdArray α where
  shape := [xs.length]
  data := xs
  data_length := by simp

/-- The array of a sequence of sequences, if these have the same length. -/
def ofRows : List (List α) → Option (NdArray α)
  | [] => some ⟨[0], [], rfl⟩
  | row :: rows =>
    if h : ∀ r ∈ rows, r.length = row.length then
      some
        { shape := [rows.length + 1, row.length]
          data := row ++ rows.flatten
          data_length := by
            have : (rows.map List.length).sum = rows.length * row.length := by
              rw [List.sum_eq_card_nsmul _ row.length (by simpa using h), List.length_map, smul_eq_mul]
            simp only [List.length_append, List.length_flatten, this, List.prod_cons, List.prod_nil]
            ring }
    else none

/-- A matrix with the same value everywhere. -/
def full (k n : ℕ) (x : α) : NdArray α where
  shape := [k, n]
  data := List.replicate (k * n) x
  data_length := by simp

/-- What iterating over the rows of an array yields, when every entry of a row is a single value. -/
def rows (a : NdArray α) : Option (List (List α)) :=
  match a.shape with
  | [] => none
  | [k] => if k = 0 then some [] else none
  | k :: n :: rest =>
    if k = 0 ∨ n = 0 ∨ rest.prod = 1 then some (chunks k n a.data) else none

/-- `a[:m] = b`, where `a` and `b` are matrices with as many columns: the rows of `b` replace the
first `m` rows of `a`, or as many as there are, and a single row is repeated. -/
def assignRows (a b : NdArray α) (m : ℕ) : Option (NdArray α) :=
  match h : a.shape, b.shape with
  | [k, n], [k', n'] =>
    if hn : n' = n ∧ b.data.length = k' * n ∧ (k' = min m k ∨ k' = 1) then
      some
        { shape := [k, n]
          data := if k' = min m k then b.data ++ a.data.drop (k' * n)
            else (List.replicate (min m k) b.data).flatten ++ a.data.drop (min m k * n)
          data_length := by
            have ha : a.data.length = k * n := by rw [a.data_length, h]; simp
            have hle : min m k * n ≤ k * n := Nat.mul_le_mul_right n (Nat.min_le_right m k)
            obtain ⟨-, hb, hk⟩ := hn
            split_ifs with hm
            · rw [hm] at hb
              simp only [List.length_append, List.length_drop, ha, hb, hm, List.prod_cons,
                List.prod_nil, mul_one]
              omega
            · have hb : b.data.length = n := by
                rw [hb, hk.resolve_left hm, Nat.one_mul]
              simp only [List.length_append, List.length_drop, List.length_flatten,
                List.map_replicate, List.sum_replicate, smul_eq_mul, ha, hb, List.prod_cons,
                List.prod_nil, mul_one]
              omega }
    else none
  | _, _ => none

/-! ### Rows -/

/-- At least one row, all of the same length, is a matrix. -/
theorem ofRows_eq (xss : List (List α)) {n : ℕ} (hne : xss ≠ [])
    (h : ∀ row ∈ xss, row.length = n) :
    ∃ a : NdArray α, ofRows xss = some a ∧ a.shape = [xss.length, n] ∧ a.data = xss.flatten := by
  cases xss with
  | nil => exact absurd rfl hne
  | cons row rows =>
    obtain ⟨hrow, hrows⟩ := List.forall_mem_cons.1 h
    have hsame : ∀ r ∈ rows, r.length = row.length := fun r hr => (hrows r hr).trans hrow.symm
    rw [ofRows, dif_pos hsame]
    exact ⟨_, rfl, by simp [hrow], by simp⟩

/-- The first rows of a matrix of equal values are replaced, and the others stay. -/
theorem assignRows_full {a : NdArray α} {m k n : ℕ} {x : α} (hshape : a.shape = [m, n])
    (hle : m ≤ k) : ∃ b : NdArray α, assignRows (full k n x) a m = some b ∧ b.shape = [k, n] ∧
      b.rows = some (chunks m n a.data ++ List.replicate (k - m) (List.replicate n x)) := by
  have hdata : a.data.length = m * n := by
    rw [a.data_length, hshape]
    simp
  have hmin : min m k = m := Nat.min_eq_left hle
  unfold assignRows
  split
  · rename_i k₁ n₁ k₂ n₂ hfull hshape'
    have hfull' : [k, n] = [k₁, n₁] := hfull
    have hshape'' : [k₂, n₂] = [m, n] := hshape'.symm.trans hshape
    simp only [List.cons.injEq, and_true] at hfull' hshape''
    obtain ⟨rfl, rfl⟩ := hfull'
    obtain ⟨rfl, rfl⟩ := hshape''
    rw [dif_pos ⟨rfl, hdata, .inl hmin.symm⟩]
    refine ⟨_, rfl, rfl, ?_⟩
    have hdrop : (List.replicate (k * n₂) x).drop (k₂ * n₂) = List.replicate ((k - k₂) * n₂) x := by
      rw [List.drop_replicate, Nat.sub_mul]
    simp only [rows, List.prod_nil, or_true, if_true, full, if_pos hmin.symm, hdrop]
    rw [show k = k₂ + (k - k₂) by omega, chunks_append hdata, Nat.add_sub_cancel_left,
      chunks_replicate]
  · rename_i hno
    exact absurd hshape (hno _ _ _ _ rfl)

end NdArray

end DualCollection
