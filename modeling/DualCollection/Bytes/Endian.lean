import Mathlib.Algebra.Order.Ring.Nat
import Mathlib.Data.List.Basic

/-!
# Numbers as bytes

`leBytes w n` are the `w` bytes of `n`, the lowest first, and `beBytes w n` the same in the other
order; `leNat` and `beNat` read them back.

A code is *self-delimiting* when it can be told where a word ends: `SelfDelimiting.flatMap_injective`
says that a list of such words can be read back from their concatenation.
-/

namespace Bytes

/-- The `w` bytes of a number, the lowest first. -/
def leBytes : ℕ → ℕ → List UInt8
  | 0, _ => []
  | w + 1, n => UInt8.ofNat (n % 256) :: leBytes w (n / 256)

/-- The number of some bytes, the lowest first. -/
def leNat : List UInt8 → ℕ
  | [] => 0
  | b :: bs => b.toNat + 256 * leNat bs

/-- The `w` bytes of a number, the highest first. -/
def beBytes (w n : ℕ) : List UInt8 := (leBytes w n).reverse

/-- The number of some bytes, the highest first. -/
def beNat (bs : List UInt8) : ℕ := leNat bs.reverse

@[simp] theorem length_leBytes (w n : ℕ) : (leBytes w n).length = w := by
  induction w generalizing n with
  | zero => rfl
  | succ w ih => rw [leBytes, List.length_cons, ih]

@[simp] theorem length_beBytes (w n : ℕ) : (beBytes w n).length = w := by
  rw [beBytes, List.length_reverse, length_leBytes]

theorem leNat_leBytes {w n : ℕ} (h : n < 256 ^ w) : leNat (leBytes w n) = n := by
  induction w generalizing n with
  | zero =>
    rw [pow_zero] at h
    rw [leBytes, leNat]
    omega
  | succ w ih =>
    rw [pow_succ] at h
    have hquot : n / 256 < 256 ^ w := by omega
    have hlow : (UInt8.ofNat (n % 256)).toNat = n % 256 := by
      rw [UInt8.toNat_ofNat']
      omega
    rw [leBytes, leNat, ih hquot, hlow]
    omega

theorem beNat_beBytes {w n : ℕ} (h : n < 256 ^ w) : beNat (beBytes w n) = n := by
  rw [beNat, beBytes, List.reverse_reverse, leNat_leBytes h]

/-! ### Words that end by themselves -/

/-- No word is continued by another: a word can be read off what follows it. -/
def SelfDelimiting {α : Type*} (encode : α → List UInt8) : Prop :=
  ∀ a b x y, encode a ++ x = encode b ++ y → a = b ∧ x = y

/-- Numbers of a width are self-delimiting. -/
theorem beBytes_append {w m n : ℕ} (hm : m < 256 ^ w) (hn : n < 256 ^ w) {x y : List UInt8}
    (h : beBytes w m ++ x = beBytes w n ++ y) : m = n ∧ x = y := by
  obtain ⟨hword, hrest⟩ := List.append_inj h (by simp)
  refine ⟨?_, hrest⟩
  rw [← beNat_beBytes hm, hword, beNat_beBytes hn]

/-- A list of words can be read back, if no word is empty. -/
theorem SelfDelimiting.flatMap_injective {α : Type*} {encode : α → List UInt8}
    (h : SelfDelimiting encode) (hne : ∀ a, encode a ≠ []) :
    Function.Injective (List.flatMap encode) := by
  intro as bs heq
  induction as generalizing bs with
  | nil =>
    cases bs with
    | nil => rfl
    | cons b bs =>
      rw [List.flatMap_nil, List.flatMap_cons] at heq
      exact absurd (List.append_eq_nil_iff.1 heq.symm).1 (hne b)
  | cons a as ih =>
    cases bs with
    | nil =>
      rw [List.flatMap_nil, List.flatMap_cons] at heq
      exact absurd (List.append_eq_nil_iff.1 heq).1 (hne a)
    | cons b bs =>
      rw [List.flatMap_cons, List.flatMap_cons] at heq
      obtain ⟨rfl, hrest⟩ := h a b _ _ heq
      rw [ih hrest]

end Bytes
