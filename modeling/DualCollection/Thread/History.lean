import Mathlib

/-!
# Histories

A history is a list of events, newest first.  `Throughout P h` says that every event of `h`
satisfied `P` against the history that was there when it happened.
-/

namespace DualCollection

namespace Thread

variable {α : Type}

/-- Every event satisfied `P` when it happened. -/
def Throughout (P : α → List α → Prop) : List α → Prop
  | [] => True
  | x :: h => P x h ∧ Throughout P h

namespace Throughout

variable {P P' : α → List α → Prop} {h h' : List α} {x : α}

@[simp] theorem nil : Throughout P [] := trivial

@[simp] theorem cons : Throughout P (x :: h) ↔ P x h ∧ Throughout P h := Iff.rfl

/-- What holds throughout a history held throughout all of its past. -/
theorem past (hP : Throughout P h) (hs : h' <:+ h) : Throughout P h' := by
  induction h with
  | nil => rw [List.eq_nil_of_suffix_nil hs]; exact hP
  | cons x h ih =>
    rcases List.suffix_cons_iff.1 hs with rfl | hs
    · exact hP
    · exact ih hP.2 hs

/-- The event that ended a past history. -/
theorem event (hP : Throughout P h) (hs : (x :: h') <:+ h) : P x h' := (hP.past hs).1

theorem mono (hP : Throughout P h) (hi : ∀ x h', P x h' → P' x h') : Throughout P' h := by
  induction h with
  | nil => trivial
  | cons x h ih => exact ⟨hi x h hP.1, ih hP.2⟩

end Throughout

end Thread

end DualCollection
