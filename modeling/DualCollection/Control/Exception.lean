import Mathlib

/-!
# Exceptions and ports of the control plane

The controllers, the schedulers and the command gateway call injected objects (*ports*: the
policy, the state source, the command sink, the mode controllers, the diagnostic and status
sinks), each of which may raise.  They also raise exceptions of their own.  `Exc` keeps the two
apart, so that a statement about the code's own errors is not disturbed by what a port raises.

* `ErrorClass` has the exception classes that the source tells apart in its `except` clauses.
* `Port` names the injected calls and `Env` is what the environment answers during one atomic
  section: which ports raise, the clock readings and the joint feedback.
* `Failure` is an exception together with the control epoch under which the failing work was
  begun.  The epoch is not part of the source: it is recorded to say when an error is stale.
-/

namespace DualCollection

theorem bind_eq_ok {ε α β : Type} {x : Except ε α} {f : α → Except ε β} {b : β}
    (h : x >>= f = .ok b) : ∃ a, x = .ok a ∧ f a = .ok b := by
  cases x with
  | error err => cases h
  | ok a => exact ⟨a, rfl, h⟩

theorem bind_eq_error {ε α β : Type} {x : Except ε α} {f : α → Except ε β} {err : ε}
    (h : x >>= f = .error err) : x = .error err ∨ ∃ a, x = .ok a ∧ f a = .error err := by
  cases x with
  | error _ =>
    cases h
    exact .inl rfl
  | ok a => exact .inr ⟨a, rfl, h⟩

theorem mapM_ok {ε α β : Type} {R : α → β → Prop} {f : α → Except ε β}
    (hf : ∀ a b, f a = .ok b → R a b) {as : List α} {bs : List β} (h : as.mapM f = .ok bs) :
    List.Forall₂ R as bs := by
  induction as generalizing bs with
  | nil =>
    cases h
    exact .nil
  | cons a as ih =>
    rw [List.mapM_cons] at h
    obtain ⟨b, hb, h⟩ := bind_eq_ok h
    obtain ⟨bs', hbs, h⟩ := bind_eq_ok h
    cases h
    exact .cons (hf a b hb) (ih hbs)

theorem foldlM_ok {ε α β : Type} {P : β → Prop} {f : β → α → Except ε β}
    (hf : ∀ b a b', P b → f b a = .ok b' → P b') {as : List α} {b b' : β} (hb : P b)
    (h : as.foldlM f b = .ok b') : P b' := by
  induction as generalizing b with
  | nil =>
    cases h
    exact hb
  | cons a as ih =>
    rw [List.foldlM_cons] at h
    obtain ⟨b₁, hb₁, h⟩ := bind_eq_ok h
    exact ih (hf b a b₁ hb hb₁) h

/-- Raise a `ValueError` unless the condition holds. -/
def require (cond : Prop) [Decidable cond] (text : String) : Except String Unit :=
  if cond then .ok () else .error text

theorem require_ok {cond : Prop} [Decidable cond] {text : String} :
    require cond text = .ok () ↔ cond := by
  unfold require
  split_ifs with h
  · simp [h]
  · simp [h]

/-- The exception classes that the source tells apart. -/
inductive ErrorClass
  | runtimeError
  | valueError
  | assertionError
  | attributeError
  | typeError
  /-- Another subclass of `Exception`. -/
  | exception
  | keyboardInterrupt
  /-- Another subclass of `BaseException` that is no `Exception`. -/
  | baseException
  deriving DecidableEq, Repr

/-- `isinstance(error, Exception)`. -/
def ErrorClass.isException : ErrorClass → Bool
  | keyboardInterrupt | baseException => false
  | _ => true

/-- An exception object: its class and `str(error)`. -/
structure PyError where
  /-- The class of the exception. -/
  cls : ErrorClass
  /-- The text of the exception. -/
  text : String
  deriving DecidableEq, Repr

/-- The injected calls. -/
inductive Port
  | policySubmit
  | policyFinish
  | policyBeginEpoch
  | policyResult
  | stateRead
  | publish
  | enablePolicyControl
  | enableGravityCompensation
  | diagnosticSink (event : String)
  | statusSink
  deriving DecidableEq, Repr

/-- The arms. -/
inductive Side
  | left
  | right
  deriving DecidableEq, Repr

/-- The joint limits that an action can violate. -/
inductive Guard
  | initialStateStep
  | publishedTargetStep
  | withinWindowStep
  | measuredStateDeparture
  deriving DecidableEq, Repr

/-- The fields of `JointActionViolation.details`. -/
structure JointActionViolation where
  /-- The limit that is exceeded. -/
  guard : Guard
  /-- The arm. -/
  side : Side
  /-- The row of the window. -/
  actionIndex : ℕ
  /-- The first joint with the largest deviation. -/
  jointIndex : ℕ
  /-- The deviation. -/
  deltaRad : ℚ
  /-- The limit. -/
  limitRad : ℚ
  deriving DecidableEq, Repr

/-- The `RuntimeError`s of the action contract. -/
inductive ActionError
  /-- `action ticket belongs to a stale control epoch` -/
  | staleControlEpoch
  /-- `action ticket checkpoint does not match the Session` -/
  | checkpointMismatch
  /-- `action[index] is not a finite robot-space 14D action` -/
  | notRobotAction (index : ℕ)
  /-- `side action[index] normalized gripper value is outside accepted policy range` -/
  | gripperRange (side : Side) (index : ℕ) (value : ℚ)
  /-- `side action[index] joint step | departure ... exceeds ...` -/
  | violation (v : JointActionViolation)
  deriving DecidableEq, Repr

/-- The exceptions that the schedulers raise themselves. -/
inductive SchedulerError
  /-- `cannot close a stale RTC command lease` -/
  | closeStale
  /-- `control epoch must not move backwards` -/
  | epochBackwards
  /-- `cannot bootstrap a stale RTC epoch` -/
  | bootstrapStale
  /-- `RTC policy preparation is already active` -/
  | alreadyActive
  /-- `RTC policy identity is stale` -/
  | identityStale
  /-- `RTC bootstrap has not started` -/
  | bootstrapNotStarted
  /-- `RTC bootstrap inference timeout` -/
  | bootstrapTimeout
  /-- `RTC command publish watchdog expired` -/
  | watchdogExpired
  /-- `EXPO command watchdog expired` -/
  | expoWatchdogExpired
  /-- `RTC validated action queue underrun` -/
  | queueUnderrun
  /-- `EXPO selected window exhausted` -/
  | windowExhausted
  /-- `RTC queue cannot supply the configured action prefix` -/
  | prefixUnavailable
  /-- `assert self._episode_id is not None` -/
  | noEpisode
  /-- `RTC action prefix must match the estimated delay` -/
  | prefixLength
  /-- `RTC action prefix rows must not be empty` -/
  | prefixRowEmpty
  /-- `RTC response is not ready` -/
  | responseNotReady
  /-- `RTC response phase mismatch` -/
  | phaseMismatch
  /-- A future that carries candidates where a ticket is needed. -/
  | notATicket
  /-- `RTC hard prefix changed by ...` -/
  | hardPrefixChanged (error : ℚ)
  /-- `max() arg is an empty sequence` -/
  | maxOfNothing
  /-- `RTC bootstrap issued actions before policy readiness` -/
  | bootstrapIssued
  /-- `RTC actual delay ... is outside trained range ...` -/
  | delayOutsideRange (actualDelay : ℤ)
  /-- `RTC response cannot provide the required safe window` -/
  | safeWindowUnavailable
  /-- `RTC response became stale before splice` -/
  | spliceStale
  /-- `actual delay is outside the trained range` -/
  | observeOutsideRange
  /-- `EXPO fast-stage deadline missed` -/
  | deadlineMissed
  /-- `EXPO fast-stage deadline missed during window acceptance` -/
  | acceptanceMissed
  /-- `Missing EXPO finish request` -/
  | finishMissing
  /-- `EXPO prefix length mismatch` -/
  | prefixMismatch
  /-- `EXPO candidates missed fixed-delay boundary` -/
  | candidatesLate
  /-- A comparison with `None`. -/
  | noDeadline
  deriving DecidableEq, Repr

/-- The class of a scheduler error. -/
def SchedulerError.cls : SchedulerError → ErrorClass
  | noEpisode => .assertionError
  | prefixLength | prefixRowEmpty | maxOfNothing | observeOutsideRange => .valueError
  | notATicket => .attributeError
  | noDeadline => .typeError
  | _ => .runtimeError

/-- The exceptions that the sequential gateway and its executor raise themselves. -/
inductive GatewayError
  /-- `cannot close a stale command lease` -/
  | closeStale
  /-- `control epoch must not move backwards` -/
  | epochBackwards
  /-- `cannot prepare policy for a stale control epoch` -/
  | prepareStale
  /-- `policy preparation is already active` -/
  | alreadyActive
  /-- `cannot poll policy for a stale control epoch` -/
  | pollStale
  /-- `cannot poll policy for a different Episode` -/
  | pollOtherEpisode
  /-- `policy preparation has not started` -/
  | notStarted
  /-- A future that carries candidates where a ticket is needed. -/
  | notATicket
  /-- `policy became stale before lease activation` -/
  | activationStale
  /-- `command lease is closed or stale` -/
  | leaseClosed
  /-- `command queue is empty` -/
  | queueEmpty
  /-- `open command lease has no Episode` -/
  | leaseWithoutEpisode
  /-- `policy wait has no active deadline` -/
  | waitWithoutDeadline
  /-- `policy wait timeout` -/
  | policyWaitTimeout
  /-- `command publish watchdog expired` -/
  | watchdogExpired
  /-- `assert self._next_command_s is not None` -/
  | noSchedule
  deriving DecidableEq, Repr

/-- The class of a gateway error. -/
def GatewayError.cls : GatewayError → ErrorClass
  | noSchedule => .assertionError
  | notATicket => .attributeError
  | _ => .runtimeError

/-- The `ValueError`s of a control segment. -/
inductive SegmentError
  /-- `control segment start must be finite and non-negative` -/
  | negativeStart
  /-- `control segment end must not precede its start` -/
  | endsBeforeStart
  /-- `intervention_id must be positive` -/
  | interventionNotPositive
  /-- `human control segment requires intervention_id` -/
  | humanWithoutIntervention
  /-- `model control segment must not have intervention_id` -/
  | modelWithIntervention
  deriving DecidableEq, Repr

/-- The exceptions that the authority controllers raise themselves. -/
inductive AuthorityError
  /-- `Take-over episode cannot start` -/
  | cannotStart
  /-- `authority timeline is already active` -/
  | timelineActive
  /-- `authority timeline is not active` -/
  | timelineInactive
  /-- `authority event precedes Episode start` -/
  | precedesStart
  /-- `assert self.episode_id is not None` -/
  | noEpisode
  /-- Raised by a control segment. -/
  | segment (e : SegmentError)
  /-- `FAULT_HOLD is missing its failure record` -/
  | recordMissing
  /-- Raised by a trigger signal. -/
  | signal (e : PyError)
  deriving DecidableEq, Repr

/-- The class of an authority error. -/
def AuthorityError.cls : AuthorityError → ErrorClass
  | noEpisode => .assertionError
  | segment _ => .valueError
  | signal e => e.cls
  | _ => .runtimeError

/-- An exception of the control plane. -/
inductive Exc
  /-- Raised by the action contract. -/
  | action (e : ActionError)
  /-- Raised by a scheduler. -/
  | scheduler (e : SchedulerError)
  /-- Raised by the sequential gateway or its executor. -/
  | gateway (e : GatewayError)
  /-- `error; gate close failed: ...`, by which the executor replaces an error. -/
  | closeFailed (e : Exc)
  /-- Raised by an authority controller. -/
  | authority (e : AuthorityError)
  /-- `dual-arm G_COMPENSATION recovery failed: ...` -/
  | recoveryFailed (e : PyError)
  /-- Raised by a port. -/
  | port (p : Port) (e : PyError)
  deriving DecidableEq, Repr

/-- The class of an exception. -/
def Exc.cls : Exc → ErrorClass
  | action _ | closeFailed _ | recoveryFailed _ => .runtimeError
  | scheduler e => e.cls
  | gateway e => e.cls
  | authority e => e.cls
  | port _ e => e.cls

/-- `isinstance(error, Exception)`. -/
def Exc.isException (e : Exc) : Bool := e.cls.isException

/-- An exception and the control epoch under which the failing work was begun. -/
structure Failure where
  /-- The exception. -/
  error : Exc
  /-- The control epoch under which the failing work was begun. -/
  epoch : ℕ
  deriving DecidableEq, Repr

/-- The joint feedback of both arms: `DualArmJointState`, finite by its type. -/
structure DualArmJointState where
  /-- The joints of the left arm. -/
  left : List ℚ
  /-- The joints of the right arm. -/
  right : List ℚ
  /-- There are six joints. -/
  left_length : left.length = 6
  /-- There are six joints. -/
  right_length : right.length = 6
  deriving DecidableEq

/-- Both arms with every joint at zero. -/
def DualArmJointState.zero : DualArmJointState where
  left := List.replicate 6 0
  right := List.replicate 6 0
  left_length := List.length_replicate
  right_length := List.length_replicate

/-- What the environment answers during one atomic section. -/
structure Env where
  /-- The exception that a port raises when it is called. -/
  raises : Port → Option PyError := fun _ => none
  /-- `self.clock()`, the first time it is read. -/
  clock : ℚ := 0
  /-- `self.clock()`, the second time it is read. -/
  clockAgain : ℚ := 0
  /-- `monotonic_ns()`. -/
  clockNs : ℤ := 0
  /-- The joint feedback. -/
  jointState : DualArmJointState := .zero

end DualCollection
