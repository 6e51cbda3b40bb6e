import DualCollection.Control.FaultLatch
import DualCollection.Sequential.Sticky

/-!
# The faults of the sequential gateway

The executor compares the control epoch before it closes the gate and latches its error, but a
takeover can come in between: `close_gate` then refuses, and `latch_fault` compares nothing.
`clear_pending` leaves a latched fault where it is.
-/

namespace DualCollection

open Thread

namespace Sequential

/-- The fault latch of the gateway. -/
def latching : Latching Section Sequential Sequential where
  gateway := id
  latch := fun s => ⟨s.controlEpoch, s.fault⟩
  takes
    | .takeFault => true
    | _ => false
  handles
    | .closeGate .executor e => some e
    | .latchFault f => some f.epoch
    | _ => none

/-- An error is latched in the control epoch under which the failing work was begun, and no fault is
left in the latch when a later control epoch begins. -/
def Prompt : Section → Sequential → Prop
  | .latchFault f, s => f.epoch = s.controlEpoch
  | .clearPending e, s => s.controlEpoch < e → s.fault = none
  | _, _ => True

instance (l : Section) (s : Sequential) : Decidable (Prompt l s) := by
  cases l <;> dsimp only [Prompt] <;> infer_instance

variable {p : SequentialParameters} {l : Section} {s s' : Sequential} {r : Option Failure}

/-- A section that handles no error, and leaves the latch alone. -/
theorem inOrder_same (hl : latching.handles l = none) (he : s'.controlEpoch = s.controlEpoch)
    (hf : s'.fault = s.fault) : latching.InOrder l s s' where
  step := by
    show FaultLatch.Step ⟨s.controlEpoch, s.fault⟩ ⟨s'.controlEpoch, s'.fault⟩
    rw [he, hf]
    exact .keep
  kept := fun n hn => by
    rw [hl] at hn
    cases hn

/-- A section that meets the condition uses the latch in order. -/
theorem Changes.inOrder (ht : Prompt l s) (hc : Changes l s r s') : latching.InOrder l s s' := by
  cases l with
  | closeGate caller e =>
    rcases hc with hc | ⟨-, rfl, rfl⟩
    · rw [hc.2]; exact ⟨.keep, fun _ _ _ => rfl⟩
    · refine ⟨.keep, fun n hn hlt => ?_⟩
      -- `close_gate` compares the control epochs
      cases caller with
      | executor =>
        obtain rfl := Option.some.inj hn
        exact absurd hlt (lt_irrefl _)
      | controller | policy => cases hn
  | clearPending e =>
    rcases hc with hc | ⟨-, hle, rfl⟩
    · rw [hc.2]; exact inOrder_same rfl rfl rfl
    · exact ⟨.advance e fun hne => ht (lt_of_le_of_ne hle hne), (by intros; contradiction)⟩
  | prepare caller =>
    cases hc with
    | refused hr => rw [hr.2]; exact inOrder_same rfl rfl rfl
    | identified | submitted => exact inOrder_same rfl rfl rfl
  | poll caller e => rcases hc with rfl | rfl <;> exact inOrder_same rfl rfl rfl
  | activate caller lease =>
    rcases hc with hc | ⟨-, -, rfl⟩
    · rw [hc.2]; exact inOrder_same rfl rfl rfl
    · exact inOrder_same rfl rfl rfl
  | publishNext =>
    rcases hc with hc | ⟨-, command, rest, -, rfl⟩
    · rw [hc.2]; exact inOrder_same rfl rfl rfl
    · exact inOrder_same rfl rfl rfl
  | latchFault f =>
    have hf : f.epoch = s.controlEpoch := ht
    rw [hc.2]
    refine ⟨.latch f hf, fun n hn hlt => ?_⟩
    have hn' : f.epoch = n := Option.some.inj hn
    have hlt' : n < s.controlEpoch := hlt
    omega
  | takeFault => rw [hc.2]; exact ⟨.take, (by intros; contradiction)⟩
  | schedule =>
    obtain ⟨-, a, n, w, rfl, -⟩ := hc
    exact inOrder_same rfl rfl rfl
  | complete =>
    obtain ⟨-, future, result, rfl⟩ := hc
    unfold completed
    split <;> exact inOrder_same rfl rfl rfl
  | beginEpoch | stateRead | read | clock =>
    rw [show s' = s from hc]; exact inOrder_same rfl rfl rfl

/-- In the runs that meet the condition, no stale fault does any harm. -/
theorem staleFree {c : Config Role Section Env Sequential Failure}
    (hc : (system p).Reachable (fun _ l _ s => Prompt l s) (.init {}) c) :
    latching.StaleFree (system p) (fun _ l _ s => Prompt l s) c := by
  refine Latching.staleFree ?_ (fun {c c' t l e r} hc hs => ?_) hc
  · intro f hf
    cases hf
  have hadm : ∀ t l e s, Prompt l s → (outline False).admits t l e s :=
    fun _ _ _ _ _ => False.elim
  have ht : Prompt l c.shared := by
    cases hs with
    | sect _ ht => exact ht
  refine ((sound p False).guar inv_init (fun t => ?_) (hc.mono hadm) (hs.mono hadm)).1.inOrder ht
  cases t <;> trivial

end Sequential

end DualCollection
