import DualCollection.Sequential.Gateway
import DualCollection.Thread.History

/-!
# What the sections of the sequential gateway do

`Changes l s r s'` says everything that the section `l` can do to the state `s`: the exception `r`
in which it ends and the state `s'` that it leaves.  The lemmas `..._changes` are about one section
each, and no later proof unfolds a section again.

`sealedAt` reads from the log whether the controller has closed the gate for good: `some e` from
the moment on at which it closed the gate in the control epoch `e`, until the gate is opened for a
later epoch that the controller itself prepared.
-/

namespace DualCollection

open Thread

namespace Sequential

/-! ### Readings of the log -/

/-- Since it closed the gate last, the controller prepared the control epoch. -/
def PreparedSince (controlEpoch : ℕ) : List Event → Prop
  | [] => False
  | .closed .controller _ :: _ => False
  | .prepared .controller e :: log => e = controlEpoch ∨ PreparedSince controlEpoch log
  | _ :: log => PreparedSince controlEpoch log

/-- `PreparedSince` can be evaluated. -/
def decidePreparedSince (controlEpoch : ℕ) :
    (log : List Event) → Decidable (PreparedSince controlEpoch log)
  | [] => isFalse id
  | .closed .controller _ :: _ => isFalse id
  | .prepared .controller e :: log =>
    have := decidePreparedSince controlEpoch log
    inferInstanceAs (Decidable (e = controlEpoch ∨ PreparedSince controlEpoch log))
  | .closed .executor _ :: log | .closed .policy _ :: log | .cleared _ :: log
  | .prepared .executor _ :: log | .prepared .policy _ :: log | .opened _ _ :: log
  | .published _ :: log | .faultTaken _ :: log => decidePreparedSince controlEpoch log

instance (controlEpoch : ℕ) : DecidablePred (PreparedSince controlEpoch) :=
  decidePreparedSince controlEpoch

/-- The control epoch in which the controller closed the gate, unless the gate was opened since for
a later epoch that the controller prepared. -/
def sealedAt : List Event → Option ℕ
  | [] => none
  | .closed .controller e :: _ => some e
  | .opened _ e :: log =>
    (sealedAt log).filter fun e₀ => ¬ (e₀ < e ∧ PreparedSince e log)
  | _ :: log => sealedAt log

/-- What is expected of every event. -/
def Expected : Event → List Event → Prop
  | .closed _ e, log => ∀ caller e₀, .closed caller e₀ ∈ log → e₀ ≤ e
  | .published _, log => sealedAt log = none
  | .opened _ e, log => ∀ e₀, sealedAt log = some e₀ → e₀ < e ∧ PreparedSince e log
  | _, _ => True

/-! ### Inversion -/

/-- A section that does nothing but raise. -/
def Refused (s : Sequential) (r : Option Failure) (s' : Sequential) : Prop :=
  r.isSome = true ∧ s' = s

/-- What the section of `prepare_policy` does. -/
inductive PrepareStep (caller : Role) (s : Sequential) : Option Failure → Sequential → Prop
  | refused {r : Option Failure} {s' : Sequential} : Refused s r s' → PrepareStep caller s r s'
  | identified {f : Failure} (episodeId : String) :
      PrepareStep caller s (some f) (s.identified episodeId)
  | submitted (episodeId : String) :
      PrepareStep caller s none ((s.identified episodeId).submitted caller)

/-- What every section does. -/
def Changes : Section → Sequential → Option Failure → Sequential → Prop
  | .closeGate caller e, s, r, s' =>
    Refused s r s' ∨ r = none ∧ e = s.controlEpoch ∧ s' = s.closed caller
  | .clearPending e, s, r, s' =>
    Refused s r s' ∨ r = none ∧ s.controlEpoch ≤ e ∧ s' = s.clearedTo e
  | .prepare caller, s, r, s' => PrepareStep caller s r s'
  | .poll _ _, s, _, s' => s' = s ∨ s' = s.taken
  | .activate caller lease, s, r, s' => Refused s r s' ∨ r = none ∧
      lease.controlEpoch = s.controlEpoch ∧ s' = s.activated caller lease.commands
  | .publishNext, s, r, s' => Refused s r s' ∨ s.gateOpen = true ∧
      ∃ command rest, s.queue = command :: rest ∧ s' = s.published command rest
  | .latchFault f, s, r, s' => r = none ∧ s' = s.latched f
  | .takeFault, s, r, s' => r = none ∧ s' = s.faultTaken
  | .schedule, s, r, s' => r = none ∧ ∃ activeEpoch nextCommandS policyWaitStartedS,
      s' = s.scheduled activeEpoch nextCommandS policyWaitStartedS ∧
        ∀ e, activeEpoch = some e → e ≤ s.controlEpoch
  | .complete, s, r, s' => r = none ∧ ∃ future result, s' = s.completed future result
  | _, s, _, s' => s' = s

variable {e : Env} {s : Sequential} (epoch : ℕ)

theorem closeGate_changes {caller : Role} {controlEpoch : ℕ} :
    (closeGateLocked caller controlEpoch).Post e s fun r s' =>
      Changes (.closeGate caller controlEpoch) s (raised (markEpoch epoch r)) s' := by
  simp only [closeGateLocked, Locked.post_bind, Locked.post_get, Locked.post_ite]
  exact ⟨fun _ => .inl ⟨rfl, rfl⟩, fun h => .inr ⟨rfl, not_not.1 h, rfl⟩⟩

theorem clearPending_changes {controlEpoch : ℕ} :
    (clearPendingLocked controlEpoch).Post e s fun r s' =>
      Changes (.clearPending controlEpoch) s (raised (markEpoch epoch r)) s' := by
  simp only [clearPendingLocked, Locked.post_bind, Locked.post_get, Locked.post_ite]
  exact ⟨fun _ => .inl ⟨rfl, rfl⟩, fun h => .inr ⟨rfl, not_lt.1 h, rfl⟩⟩

theorem preparePolicy_changes {caller : Role} {episodeId : String} {controlEpoch : ℕ} :
    (preparePolicyLocked caller episodeId controlEpoch).Post e s fun r s' =>
      Changes (.prepare caller) s (raised (markEpoch epoch r)) s' := by
  simp only [preparePolicyLocked, Locked.post_bind, Locked.post_get, Locked.post_ite,
    Locked.post_modify]
  refine ⟨fun _ => .refused ⟨rfl, rfl⟩, fun _ => ⟨fun _ => .refused ⟨rfl, rfl⟩, fun _ => ?_⟩⟩
  exact Locked.post_call (.submitted episodeId) fun err => .identified episodeId

theorem poll_changes {caller : Role} {episodeId : String} {controlEpoch : ℕ} :
    (pollLocked episodeId controlEpoch).Post e s fun r s' =>
      Changes (.poll caller controlEpoch) s (raised (markEpoch epoch r)) s' := by
  simp only [pollLocked, Locked.post_bind, Locked.post_get, Locked.post_ite]
  refine ⟨fun _ => .inl rfl, fun _ => ⟨fun _ => .inl rfl, fun _ => ?_⟩⟩
  cases s.pending with
  | none => exact .inl rfl
  | some pending =>
    dsimp only
    cases s.futures pending with
    | none => exact .inl rfl
    | some result => exact .inr rfl

/-- A lease is activated: its control epoch and its Episode are the current ones, and the policy
mode can be enabled where it has to be. -/
structure Activates (lease : Lease) (e : Env) (s : Sequential) : Prop where
  /-- `control_epoch` -/
  epoch : lease.controlEpoch = s.controlEpoch
  /-- `episode_id` -/
  episodeId : some lease.episodeId = s.episodeId
  /-- `enable_policy_control` returns. -/
  enabled : lease.needsPolicyEnable = true → e.raises .enablePolicyControl = none

theorem activate_changes {caller : Role} {lease : Lease} :
    (activateLocked caller lease).Post e s fun r s' =>
      Changes (.activate caller lease) s (raised (markEpoch epoch r)) s' ∧
        (r = .ok () → Activates lease e s) := by
  simp only [activateLocked, Locked.post_bind, Locked.post_get, Locked.post_ite,
    Locked.post_modify]
  refine ⟨fun _ => ⟨.inl ⟨rfl, rfl⟩, (by simp)⟩, fun h => ?_⟩
  rw [not_or, not_not, not_not] at h
  refine ⟨fun hn => ?_, fun hn => ⟨.inr ⟨rfl, h.1, rfl⟩, fun _ => ⟨h.1, h.2, fun h => absurd h hn⟩⟩⟩
  unfold Locked.Post
  rw [Locked.call_run]
  cases hr : e.raises .enablePolicyControl with
  | none => exact ⟨.inr ⟨rfl, h.1, rfl⟩, fun _ => ⟨h.1, h.2, fun _ => hr⟩⟩
  | some err => exact ⟨.inl ⟨rfl, rfl⟩, (by simp)⟩

theorem publishNext_changes {controlEpoch : ℕ} :
    (publishNextLocked controlEpoch).Post e s fun r s' =>
      Changes .publishNext s (raised (markEpoch epoch r)) s' := by
  simp only [publishNextLocked, Locked.post_bind, Locked.post_get, Locked.post_ite]
  refine ⟨fun _ => .inl ⟨rfl, rfl⟩, fun h => ?_⟩
  have hgate : s.gateOpen = true := by
    rw [not_or, not_not, not_not] at h
    exact h.2
  cases hq : s.queue with
  | nil => exact .inl ⟨rfl, rfl⟩
  | cons command rest =>
    rw [Locked.post_bind, Locked.post_modify]
    exact Locked.post_call (.inr ⟨hgate, command, rest, hq, rfl⟩)
      fun err => .inr ⟨hgate, command, rest, hq, rfl⟩

end Sequential

end DualCollection
