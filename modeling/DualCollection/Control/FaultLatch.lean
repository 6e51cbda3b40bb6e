import DualCollection.Control.Exception
import DualCollection.Thread.Play

/-!
# Fault latches

Every command gateway keeps the first fault of a lease for the controller, which asks for it later
on.  `FaultLatch` is what there is to such a latch: the control epoch and the fault.  The latch is
used in order (`FaultLatch.Step`) if a fault is latched only in the control epoch under which the
failing work was begun, and has been taken when the next control epoch begins.  Then the latched
fault is always one of the current control epoch (`FaultLatch.Step.current`).

`Latching` says where a system of threads has its latch, and `StaleFree` that no stale fault does
any harm; `Latching.staleFree` derives it for all runs of a system whose steps use the latch in
order.
-/

namespace DualCollection

open Thread

/-- A fault latch, and the control epoch. -/
structure FaultLatch where
  /-- The control epoch. -/
  controlEpoch : ℕ
  /-- The latched fault. -/
  fault : Option Failure

namespace FaultLatch

/-- The latched fault belongs to the current control epoch. -/
def Current (x : FaultLatch) : Prop := ∀ f, x.fault = some f → f.epoch = x.controlEpoch

/-- One step of a latch that is used in order. -/
inductive Step (x : FaultLatch) : FaultLatch → Prop
  | keep : Step x x
  /-- The first fault stays. -/
  | latch (f : Failure) : f.epoch = x.controlEpoch →
      Step x ⟨x.controlEpoch, some (x.fault.getD f)⟩
  | take : Step x ⟨x.controlEpoch, none⟩
  | advance (controlEpoch : ℕ) : (x.controlEpoch ≠ controlEpoch → x.fault = none) →
      Step x ⟨controlEpoch, x.fault⟩

theorem Step.current {x x' : FaultLatch} (hs : Step x x') (h : x.Current) : x'.Current := by
  cases hs with
  | keep => exact h
  | latch f hf =>
    rintro f' hf'
    cases hx : x.fault with
    | none =>
      simp only [hx, Option.getD_none, Option.some.injEq] at hf'
      rw [← hf', hf]
    | some g =>
      simp only [hx, Option.getD_some, Option.some.injEq] at hf'
      rw [← hf']
      exact h g hx
  | take =>
    intro f hf
    cases hf
  | advance controlEpoch hadv =>
    intro f hf
    by_cases he : x.controlEpoch = controlEpoch
    · rw [← he]
      exact h f hf
    · have := hadv he
      rw [this] at hf
      cases hf

end FaultLatch

/-- Where a system of threads has its fault latch. -/
structure Latching (L σ G : Type) where
  /-- The gateway. -/
  gateway : σ → G
  /-- Its latch. -/
  latch : G → FaultLatch
  /-- The sections in which `take_fault` hands out the latched fault. -/
  takes : L → Bool
  /-- The sections that end a lease because of an error, and the control epoch under which the
  failing work was begun. -/
  handles : L → Option ℕ

namespace Latching

variable {τ Op L σ G : Type} [DecidableEq τ]

/-- A section uses the latch in order, and handles no error of an earlier control epoch. -/
structure InOrder (V : Latching L σ G) (l : L) (g g' : G) : Prop where
  /-- The latch is used in order. -/
  step : FaultLatch.Step (V.latch g) (V.latch g')
  /-- A stale error has no effect. -/
  kept : ∀ n, V.handles l = some n → n < (V.latch g).controlEpoch → g' = g

/-- A stale fault does no harm in the configuration `c`. -/
structure StaleFree (V : Latching L σ G) (S : System τ Op L Env σ Failure)
    (admits : τ → L → Env → σ → Prop) (c : Config τ L Env σ Failure) : Prop where
  /-- What `take_fault` returns belongs to the current control epoch: no `clear_pending` for a later
  one has come since. -/
  returned : ∀ {t l e r c' f}, S.Step admits c (.sect t l e r) c' → V.takes l = true →
    (V.latch (V.gateway c.shared)).fault = some f →
      f.epoch = (V.latch (V.gateway c.shared)).controlEpoch
  /-- An error of an earlier control epoch changes nothing: the gate stays as it is, and so do the
  queue, the pending request and the latch. -/
  kept : ∀ {t l e r c' n}, S.Step admits c (.sect t l e r) c' → V.handles l = some n →
    n < (V.latch (V.gateway c.shared)).controlEpoch → V.gateway c'.shared = V.gateway c.shared

variable {V : Latching L σ G} {S : System τ Op L Env σ Failure}
  {admits : τ → L → Env → σ → Prop} {c₀ c : Config τ L Env σ Failure}

/-- If every step uses the latch in order, the latched fault is current in every run. -/
theorem current (h₀ : (V.latch (V.gateway c₀.shared)).Current)
    (hstep : ∀ {c c' t l e r}, S.Reachable admits c₀ c → S.Step admits c (.sect t l e r) c' →
      V.InOrder l (V.gateway c.shared) (V.gateway c'.shared))
    (hc : S.Reachable admits c₀ c) : (V.latch (V.gateway c.shared)).Current := by
  induction hc with
  | refl => exact h₀
  | @tail c c' hc hst ih =>
    obtain ⟨x, hx⟩ := hst
    cases x with
    | start t o =>
      cases hx
      exact ih
    | sect t l e r => exact (hstep hc hx).step.current ih

/-- If every step uses the latch in order, no stale fault does any harm. -/
theorem staleFree (h₀ : (V.latch (V.gateway c₀.shared)).Current)
    (hstep : ∀ {c c' t l e r}, S.Reachable admits c₀ c → S.Step admits c (.sect t l e r) c' →
      V.InOrder l (V.gateway c.shared) (V.gateway c'.shared))
    (hc : S.Reachable admits c₀ c) : V.StaleFree S admits c where
  returned := fun _ _ hf => current h₀ hstep hc _ hf
  kept := fun hs hl hlt => (hstep hc hs).kept _ hl hlt

/-- The next section of thread `t` hands out a stale fault. -/
def returnsStale (V : Latching L σ G) (t : τ) (c : Config τ L Env σ Failure) : Bool :=
  match System.next c t {} with
  | some (l, _) => V.takes l && (V.latch (V.gateway c.shared)).fault.any fun f =>
    decide (f.epoch ≠ (V.latch (V.gateway c.shared)).controlEpoch)
  | none => false

theorem not_staleFree {t : τ} (h : V.returnsStale t c = true) :
    ¬ V.StaleFree S (fun _ _ _ _ => True) c := by
  intro hfree
  unfold returnsStale at h
  split at h
  · rename_i l r hn
    rw [Bool.and_eq_true, Option.any_eq_true] at h
    obtain ⟨htakes, f, hf, hne⟩ := h
    obtain ⟨c', hs⟩ := System.next_step S (fun _ _ _ _ => True) hn trivial
    exact of_decide_eq_true hne (hfree.returned hs htakes hf)
  · cases h

end Latching

end DualCollection
