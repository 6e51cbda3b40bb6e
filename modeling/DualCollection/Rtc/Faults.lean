import DualCollection.Control.FaultLatch
import DualCollection.Expo.Threads

/-!
# The faults of a scheduler

The errors of a scheduler end its lease in two sections: `_fail`, which looks at the gate and at
the pending request but not at the control epoch, and the rejection of a window.  `clear_pending`
leaves a latched fault where it is.  `Prompt` is the condition under which neither does any harm;
every section that meets it uses the latch in order (`Changes.inOrder`).
-/

namespace DualCollection

open Thread

namespace Rtc

/-- The fault latch of a scheduler. -/
def latching : Latching RtcSection Rtc Rtc where
  gateway := id
  latch := fun s => ⟨s.controlEpoch, s.fault⟩
  takes
    | .takeFault => true
    | _ => false
  handles
    | .reject f | .fail f => some f.epoch
    | _ => none

/-- An error is handled in the control epoch under which the failing work was begun, unless there is
nothing that it could end, and no fault is left in the latch when a later control epoch begins. -/
def Prompt : RtcSection → Rtc → Prop
  | .reject f, s => f.epoch = s.controlEpoch
  | .fail f, s => s.gateOpen = true ∨ s.pending ≠ none → f.epoch = s.controlEpoch
  | .clearPending e, s => s.controlEpoch < e → s.fault = none
  | _, _ => True

/-- `Prompt` can be evaluated. -/
def decidePrompt : (l : RtcSection) → (s : Rtc) → Decidable (Prompt l s)
  | .reject f, s => inferInstanceAs (Decidable (f.epoch = s.controlEpoch))
  | .fail f, s =>
    inferInstanceAs (Decidable (s.gateOpen = true ∨ s.pending ≠ none → f.epoch = s.controlEpoch))
  | .clearPending e, s => inferInstanceAs (Decidable (s.controlEpoch < e → s.fault = none))
  | .closeGate, _ | .beginEpoch, _ | .emitReset, _ | .clearFinishing, _ | .prepare, _ | .poll, _
  | .takeFault, _ | .clock, _ | .gateCheck, _ | .finishCheck, _ | .acceptRead, _
  | .checkResponse _ _, _ | .stateRead, _ | .splice _, _ | .finished, _ | .publish, _
  | .complete, _ => isTrue trivial

instance (l : RtcSection) (s : Rtc) : Decidable (Prompt l s) := decidePrompt l s

variable {p : RtcParameters} {w : ℕ} {l : RtcSection} {s s' : Rtc} {r : Option Failure}

/-- A section that handles no error, and leaves the latch alone. -/
theorem inOrder_same (hl : latching.handles l = none) (he : s'.controlEpoch = s.controlEpoch)
    (hf : s'.fault = s.fault) : latching.InOrder l s s' where
  step := by
    show FaultLatch.Step ⟨s.controlEpoch, s.fault⟩ ⟨s'.controlEpoch, s'.fault⟩
    rw [he, hf]
    exact .keep
  kept := fun n hn => by
    rw [hl] at hn
    cases hn

/-- The lease is ended by an error of the current control epoch. -/
theorem inOrder_stopped {f : Failure} (hl : latching.handles l = some f.epoch)
    (hf : f.epoch = s.controlEpoch) : latching.InOrder l s (s.stopped f) where
  step := .latch f hf
  kept := fun n hn hlt => by
    rw [hl, hf] at hn
    obtain rfl := Option.some.inj hn
    exact absurd hlt (lt_irrefl _)

/-- A section that meets the condition uses the latch in order. -/
theorem Changes.inOrder (ht : Prompt l s) (hc : Changes p l s r s') :
    latching.InOrder l s s' := by
  cases l with
  | closeGate =>
    rcases hc with hc | ⟨-, rfl⟩
    · rw [hc.2]; exact inOrder_same rfl rfl rfl
    · exact inOrder_same rfl rfl rfl
  | clearPending e =>
    rcases hc with hc | ⟨-, hle, rfl⟩
    · rw [hc.2]; exact inOrder_same rfl rfl rfl
    · exact ⟨.advance e fun hne => ht (lt_of_le_of_ne hle hne), (by intros; contradiction)⟩
  | prepare =>
    cases hc with
    | refused hr => rw [hr.2]; exact inOrder_same rfl rfl rfl
    | identified | submitted => exact inOrder_same rfl rfl rfl
  | takeFault => rw [hc.2]; exact ⟨.take, (by intros; contradiction)⟩
  | gateCheck => rcases hc with ⟨-, rfl | ⟨-, rfl⟩⟩ <;> exact inOrder_same rfl rfl rfl
  | reject f => rw [hc.2]; exact inOrder_stopped rfl ht
  | splice c =>
    cases hc with
    | refused hr => rw [hr.2]; exact inOrder_same rfl rfl rfl
    | bootstrap | overlap => exact inOrder_same rfl rfl rfl
  | clearFinishing => rw [show s' = _ from hc]; exact inOrder_same rfl rfl rfl
  | finished => rw [show s' = _ from hc]; exact inOrder_same rfl rfl rfl
  | publish => cases hc <;> exact inOrder_same rfl rfl rfl
  | fail f =>
    rcases hc with ⟨-, -, rfl⟩ | ⟨hend, rfl⟩
    · exact ⟨.keep, fun _ _ _ => rfl⟩
    · exact inOrder_stopped rfl (ht hend)
  | complete =>
    obtain ⟨-, future, result, rfl⟩ := hc
    refine inOrder_same rfl completed_epoch ?_
    unfold completed
    split <;> rfl
  | checkResponse window snap => rw [hc.2]; exact inOrder_same rfl rfl rfl
  | beginEpoch | emitReset | poll | clock | finishCheck | acceptRead | stateRead =>
    rw [show s' = s from hc]; exact inOrder_same rfl rfl rfl

/-- In the runs that meet the condition, no stale fault does any harm. -/
theorem staleFree {S : System Role Op RtcSection Env Rtc Failure}
    (hS : (outline p w False).Sound S) {c : Config Role RtcSection Env Rtc Failure}
    (hc : S.Reachable (fun _ l _ s => Prompt l s) (.init (init p)) c) :
    latching.StaleFree S (fun _ l _ s => Prompt l s) c := by
  refine Latching.staleFree ?_ (fun {c c' t l e r} hc hs => ?_) hc
  · intro f hf
    cases hf
  have hadm : ∀ (_ : Role) l (_ : Env) s, Prompt l s → Admits False l s :=
    fun _ _ _ _ _ => admits_free
  have ht : Prompt l c.shared := by
    cases hs with
    | sect _ ht => exact ht
  exact (step_meets hS (hc.mono hadm) (hs.mono hadm)).2.1.inOrder ht

end Rtc

end DualCollection
