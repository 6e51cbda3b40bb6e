import DualCollection.Rtc.Scheduler
import DualCollection.Thread.History

/-!
# What is observed of a scheduler

Readings of `Rtc.log` since the last reset, and what every event is expected to satisfy when it
happens.

* `ticks` counts the commands of the epoch, `lastAccepted` is the response that the queue comes
  from, `inFlight` the request that was submitted after it.
* `Submission`, `Splice` and `Publication` are the expectations, `Expected` puts them together.
* `Publication.prefix_row` is what follows for the prefix of a request in flight.
-/

namespace DualCollection

open Thread

/-- The row of the chunk that a response has for the tick `t`. -/
def Acceptance.rowAt (a : Acceptance) (t : ℕ) : Option ActionRow :=
  a.ticket.actionChunk[t - a.pending.issuedAtSubmit]?

namespace Rtc

/-- A command is the one that the contract maps a row of a chunk to. -/
def Validated (contract : Pi05JointActionContract) (row : ActionRow) (q : QueuedRtcAction) :
    Prop :=
  q.modelAction = row ∧
    (RobotAction.ofRow (row.map .finite)).map contract.commandOf = some q.command

/-! ### Readings of the log -/

/-- The commands published since the last reset. -/
def ticks : List RtcEvent → ℕ
  | [] => 0
  | .reset :: _ => 0
  | .published _ _ :: log => ticks log + 1
  | _ :: log => ticks log

/-- The last action published since the last reset. -/
def lastPublished : List RtcEvent → Option QueuedRtcAction
  | [] => none
  | .reset :: _ => none
  | .published _ q :: _ => some q
  | _ :: log => lastPublished log

/-- The last response accepted since the last reset. -/
def lastAccepted : List RtcEvent → Option Acceptance
  | [] => none
  | .reset :: _ => none
  | .accepted a :: _ => some a
  | _ :: log => lastAccepted log

/-- The last request submitted since the last reset, unless a response was accepted since. -/
def inFlight : List RtcEvent → Option PendingRtcInference
  | [] => none
  | .reset :: _ => none
  | .accepted _ :: _ => none
  | .submitted pending :: _ => some pending
  | .finishing pending :: _ => some pending
  | _ :: log => inFlight log

/-- The gate was opened, and neither closed by the controller nor reset since. -/
def Opened : List RtcEvent → Prop
  | [] => False
  | .closed :: _ => False
  | .reset :: _ => False
  | .opened :: _ => True
  | _ :: log => Opened log

/-- No request was submitted since the last reset. -/
def Fresh : List RtcEvent → Prop
  | [] => True
  | .reset :: _ => True
  | .submitted _ :: _ => False
  | _ :: log => Fresh log

/-- `Fresh` can be evaluated. -/
def decideFresh : (log : List RtcEvent) → Decidable (Fresh log)
  | [] => isTrue trivial
  | .reset :: _ => isTrue trivial
  | .submitted _ :: _ => isFalse id
  | .closed :: log | .opened :: log | .finishing _ :: log | .accepted _ :: log
  | .published _ _ :: log | .faultTaken _ :: log => decideFresh log

instance : DecidablePred Fresh := decideFresh

theorem lastPublished_eq_none {log : List RtcEvent} : lastPublished log = none ↔ ticks log = 0 := by
  induction log with
  | nil => simp [lastPublished, ticks]
  | cons x log ih => cases x <;> simp [lastPublished, ticks, ih]

/-! ### Expectations -/

variable (p : RtcParameters) (w : ℕ)

/-- What is expected of a request when it is submitted. -/
structure Submission (pending : PendingRtcInference) (log : List RtcEvent) : Prop where
  /-- It knows how many commands were issued. -/
  issued : pending.issuedAtSubmit = ticks log
  /-- The first request of a lease has no prefix. -/
  bootstrap : pending.bootstrap = true → pending.actionPrefix = []
  /-- Any other one is submitted when the window of the last response has been executed for
  `prefetch_after_steps` commands, and no request was submitted since. -/
  overlap : pending.bootstrap = false → 0 < ticks log ∧ inFlight log = none ∧
    ∃ a, lastAccepted log = some a ∧ a.pending.issuedAtSubmit ≤ ticks log ∧
      ticks log = a.pending.issuedAtSubmit + a.start + p.rollout.prefetchAfterSteps ∧
      pending.estimatedDelaySteps = some pending.actionPrefix.length ∧
      ∀ (j : ℕ) (row : ActionRow), pending.actionPrefix[j]? = some row →
        a.rowAt (ticks log + j) = some row

/-- What is expected of a response when it is accepted. -/
structure Splice (a : Acceptance) (log : List RtcEvent) : Prop where
  /-- It answers the request in flight. -/
  request : inFlight log = some a.pending
  /-- Its window starts at the row for the next command. -/
  start : ticks log = a.pending.issuedAtSubmit + a.start
  /-- The first response of a lease is executed from its first row on. -/
  bootstrap : a.pending.bootstrap = true → a.start = 0
  /-- The delay is one that the checkpoint was trained for, and there was a command before. -/
  overlap : a.pending.bootstrap = false → a.start < p.checkpoint.maxDelaySteps ∧ 0 < ticks log
  /-- The window is complete. -/
  length : a.window.length = w
  /-- The window consists of the validated rows of the chunk. -/
  rows : List.Forall₂ (Validated p.contract) ((a.ticket.actionChunk.drop a.start).take w) a.window
  /-- The window continues the commands that were published. -/
  window : p.contract.Window a.measured ((lastPublished log).map (·.command))
    (a.window.map (·.command))

/-- A command continues the last published one. -/
def Continues (a : Acceptance) (last : Option DualArmJointCommand)
    (command : DualArmJointCommand) : Prop :=
  match last with
  | none => a.pending.bootstrap = true ∧
      Within p.contract.safety.maxInitialJointStepRad command.joints a.measured.joints
  | some last => Within p.contract.safety.maxJointStepRad command.joints last.joints

/-- What is expected of a command that is published as number `t`. -/
structure Publication (t : ℕ) (q : QueuedRtcAction) (a : Acceptance) (log : List RtcEvent) :
    Prop where
  /-- Commands are numbered consecutively. -/
  tick : t = ticks log
  /-- The gate is open. -/
  opened : Opened log
  /-- It comes from the response that was accepted last. -/
  accepted : lastAccepted log = some a
  /-- It is part of the window of that response. -/
  window : q ∈ a.window
  /-- That response was requested before. -/
  submitted : a.pending.issuedAtSubmit ≤ t
  /-- It is the validated row for its tick. -/
  row : ∃ row, a.rowAt t = some row ∧ Validated p.contract row q
  /-- It stays close to the state in which its window was accepted. -/
  departure : Within p.contract.safety.maxJointDepartureRad q.command.joints a.measured.joints
  /-- It continues the last published command. -/
  continues : Continues p a ((lastPublished log).map (·.command)) q.command

/-- What is expected of every event. -/
def Expected : RtcEvent → List RtcEvent → Prop
  | .submitted pending, log => Submission p pending log
  | .finishing pending, log => ∃ old, inFlight log = some old ∧
      pending = { old with future := pending.future }
  | .accepted a, log => Splice p w a log
  | .published t q, log => ∃ a, Publication p t q a log
  | _, _ => True

variable {p w}

/-- The prefix of the request in flight lists rows of the response that was accepted last. -/
theorem inFlight_row {log : List RtcEvent} (h : Throughout (Expected p w) log)
    {pending : PendingRtcInference} {a : Acceptance} (hp : inFlight log = some pending)
    (ha : lastAccepted log = some a) {j : ℕ} {row : ActionRow}
    (hj : pending.actionPrefix[j]? = some row) :
    a.rowAt (pending.issuedAtSubmit + j) = some row := by
  induction log generalizing pending with
  | nil => simp [inFlight] at hp
  | cons x log ih =>
    obtain ⟨hx, hlog⟩ := h
    cases x with
    | reset => simp [inFlight] at hp
    | accepted b => simp [inFlight] at hp
    | submitted pd =>
      obtain rfl : pd = pending := by simpa [inFlight] using hp
      simp only [Expected] at hx
      cases hb : pd.bootstrap with
      | true => rw [hx.bootstrap hb] at hj; simp at hj
      | false =>
        obtain ⟨-, -, a', ha', -, -, -, hrow⟩ := hx.overlap hb
        obtain rfl : a' = a := by
          simp only [lastAccepted] at ha
          rw [ha'] at ha
          exact Option.some.inj ha
        rw [hx.issued]
        exact hrow j row hj
    | finishing pd =>
      obtain rfl : pd = pending := by simpa [inFlight] using hp
      simp only [Expected] at hx
      obtain ⟨old, hold, heq⟩ := hx
      rw [heq] at hj ⊢
      have hrow := ih hlog hold ha hj
      exact hrow
    | closed => exact ih hlog hp ha hj
    | opened => exact ih hlog hp ha hj
    | published t q => exact ih hlog hp ha hj
    | faultTaken f => exact ih hlog hp ha hj

/-- A command that is published while a request is in flight is the one that the prefix of the
request announced. -/
theorem Publication.prefix_row {t : ℕ} {q : QueuedRtcAction} {a : Acceptance}
    {log : List RtcEvent} (hq : Publication p t q a log) (h : Throughout (Expected p w) log)
    {pending : PendingRtcInference} (hp : inFlight log = some pending) {j : ℕ} {row : ActionRow}
    (hj : pending.actionPrefix[j]? = some row) (ht : t = pending.issuedAtSubmit + j) :
    q.modelAction = row := by
  have hrow := inFlight_row h hp hq.accepted hj
  obtain ⟨row', hrow', hv⟩ := hq.row
  rw [ht, hrow] at hrow'
  rw [hv.1, ← Option.some.inj hrow']

end Rtc

end DualCollection
