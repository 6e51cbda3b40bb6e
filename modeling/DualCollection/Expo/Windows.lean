import DualCollection.Expo.Threads

/-!
# Fixed windows

What an observer of an EXPO scheduler sees in one control epoch: the first response is executed
from its first row on, every later one from row `d` on, and each of them for `C` commands before
the next one is accepted.  The request for the next window goes out after `C - d` commands, with the
rest of the window as its prefix, and its second stage after `C` commands.

`Fixed` says this of every event when it happens.  `FixedWindows` is what follows for the events of
an epoch as a whole: the published actions are the windows of the accepted responses, one after the
other.
-/

namespace DualCollection

open Thread

namespace Expo

open Rtc (Expected Fresh Validated inFlight lastAccepted)

/-! ### Readings of the log -/

/-- The commands published since a response was accepted. -/
def sinceSplice : List RtcEvent → ℕ
  | [] => 0
  | .reset :: _ => 0
  | .accepted _ :: _ => 0
  | .published _ _ :: log => sinceSplice log + 1
  | _ :: log => sinceSplice log

/-- The requests submitted since a response was accepted. -/
def prepares : List RtcEvent → ℕ
  | [] => 0
  | .reset :: _ => 0
  | .accepted _ :: _ => 0
  | .submitted _ :: log => prepares log + 1
  | _ :: log => prepares log

/-- The second stages submitted since a response was accepted. -/
def finishes : List RtcEvent → ℕ
  | [] => 0
  | .reset :: _ => 0
  | .accepted _ :: _ => 0
  | .finishing _ :: log => finishes log + 1
  | _ :: log => finishes log

/-- The actions published since the last reset, oldest first. -/
def published : List RtcEvent → List QueuedRtcAction
  | [] => []
  | .reset :: _ => []
  | .published _ queued :: log => published log ++ [queued]
  | _ :: log => published log

/-- The responses accepted since the last reset, oldest first. -/
def acceptances : List RtcEvent → List Acceptance
  | [] => []
  | .reset :: _ => []
  | .accepted a :: log => acceptances log ++ [a]
  | _ :: log => acceptances log

/-- The last event is a command. -/
def AfterCommand (log : List RtcEvent) : Prop :=
  ∃ tick queued earlier, log = .published tick queued :: earlier

/-- The windows of responses, of which the last one was executed for `k` commands. -/
def executed (k : ℕ) : List Acceptance → List QueuedRtcAction
  | [] => []
  | [a] => a.window.take k
  | a :: b :: later => a.window ++ executed k (b :: later)

theorem executed_snoc (k : ℕ) (earlier : List Acceptance) (a : Acceptance) :
    executed k (earlier ++ [a]) = earlier.flatMap (·.window) ++ a.window.take k := by
  induction earlier with
  | nil => rfl
  | cons b earlier ih =>
    rw [List.flatMap_cons, List.append_assoc, ← ih]
    cases earlier <;> rfl

variable (p : ExpoParameters)

/-- A request at its place. -/
structure Prepared (pending : PendingRtcInference) (log : List RtcEvent) : Prop where
  /-- Only the first request of an epoch opens a lease. -/
  bootstrap : pending.bootstrap = true → Fresh log
  /-- Any other one comes right after command `C - d` of a window. -/
  place : pending.bootstrap = false → sinceSplice log = p.c - p.d ∧ AfterCommand log
  /-- Its prefix is the rest of the window. -/
  rest : pending.bootstrap = false → ∃ a, lastAccepted log = some a ∧
    pending.actionPrefix = (a.window.drop (p.c - p.d)).map (·.modelAction)

/-- A response at its place. -/
structure Spliced (a : Acceptance) (log : List RtcEvent) : Prop where
  /-- Only the first response of an epoch opens a lease. -/
  bootstrap : a.pending.bootstrap = true → acceptances log = []
  /-- Any other one is executed from row `d` on, when the window before it is exhausted. -/
  overlap : a.pending.bootstrap = false → a.start = p.d ∧ sinceSplice log = p.c

/-- A command at its place. -/
structure Issued (queued : QueuedRtcAction) (log : List RtcEvent) : Prop where
  /-- It is the next one of the window. -/
  row : ∃ a, lastAccepted log = some a ∧ a.window[sinceSplice log]? = some queued
  /-- The last `d` commands of a window come after the request for the next one. -/
  requested : p.c - p.d ≤ sinceSplice log → inFlight log ≠ none

/-- Every event at its place. -/
def Fixed : RtcEvent → List RtcEvent → Prop
  | .submitted pending, log => Prepared p pending log
  | .finishing _, log => sinceSplice log = p.c ∧ AfterCommand log
  | .accepted a, log => Spliced p a log
  | .published _ queued, log => Issued p queued log
  | _, _ => True

/-- What the events of a control epoch amount to. -/
structure FixedWindows (log : List RtcEvent) : Prop where
  /-- Every request, response and command came at its place. -/
  places : Throughout (Fixed p) log
  /-- The commands are the windows of the responses, the last one as far as it was executed. -/
  commands : published log = executed (sinceSplice log) (acceptances log)
  /-- No command lies beyond its window. -/
  bound : sinceSplice log ≤ p.c
  /-- The first window consists of the rows from `0` on, every other one of the rows from `d` on. -/
  windows : ∀ (i : ℕ) (a : Acceptance), (acceptances log)[i]? = some a →
    (a.pending.bootstrap = true ↔ i = 0) ∧ a.start = (if i = 0 then 0 else p.d) ∧
      a.window.length = p.c ∧
        List.Forall₂ (Validated p.contract) ((a.ticket.actionChunk.drop a.start).take p.c) a.window
  /-- A window is requested once, and before its last `d` commands are issued. -/
  prepares : prepares log ≤ 1 ∧ (p.c - p.d < sinceSplice log → prepares log = 1)
  /-- The second stage is submitted once. -/
  finishes : finishes log ≤ 1

variable {p} {log : List RtcEvent}

theorem lastAccepted_eq : lastAccepted log = (acceptances log).getLast? := by
  induction log with
  | nil => rfl
  | cons x log ih =>
    cases x with
    | accepted a => simp [lastAccepted, acceptances]
    | reset => rfl
    | closed | opened | submitted | finishing | published | faultTaken => exact ih

theorem acceptances_of_last {a : Acceptance} (h : lastAccepted log = some a) :
    ∃ earlier, acceptances log = earlier ++ [a] := by
  rw [lastAccepted_eq] at h
  exact List.getLast?_eq_some_iff.1 h

/-- Nothing happened in an epoch in which nothing was requested. -/
theorem fresh_readings {w : ℕ} (h : Throughout (Expected p.toRtcParameters w) log)
    (hf : Fresh log) : acceptances log = [] ∧ inFlight log = none := by
  induction log with
  | nil => exact ⟨rfl, rfl⟩
  | cons x log ih =>
    cases x with
    | reset => exact ⟨rfl, rfl⟩
    | submitted pending => exact absurd hf id
    | closed => exact ih h.2 hf
    | opened => exact ih h.2 hf
    | published t q => exact ih h.2 hf
    | faultTaken f => exact ih h.2 hf
    | accepted a =>
      have hnone := (ih h.2 hf).2
      rw [(show Rtc.Splice p.toRtcParameters w a log from h.1).request] at hnone
      cases hnone
    | finishing pending =>
      obtain ⟨old, hold, -⟩ := h.1
      rw [(ih h.2 hf).2] at hold
      cases hold

/-! ### Requests -/

theorem prepares_of_inFlight (h : inFlight log = none) : prepares log = 0 := by
  induction log with
  | nil => rfl
  | cons x log ih =>
    cases x with
    | reset => rfl
    | accepted a => rfl
    | submitted pending => cases h
    | finishing pending => cases h
    | closed => exact ih h
    | opened => exact ih h
    | published t q => exact ih h
    | faultTaken f => exact ih h

/-- A request is counted once. -/
theorem prepares_eq {w : ℕ} (h : Throughout (Expected p.toRtcParameters w) log)
    (hf : Throughout (Fixed p) log) :
    prepares log = if inFlight log = none then 0 else 1 := by
  induction log with
  | nil => rfl
  | cons x log ih =>
    cases x with
    | reset => rfl
    | accepted a => rfl
    | submitted pending =>
      have hsub : Rtc.Submission p.toRtcParameters pending log := h.1
      have hnone : inFlight log = none := by
        by_cases hb : pending.bootstrap = true
        · exact (fresh_readings h.2 ((show Prepared p pending log from hf.1).bootstrap hb)).2
        · exact (hsub.overlap (by simpa using hb)).2.1
      rw [prepares, prepares_of_inFlight hnone]
      rfl
    | finishing pending =>
      obtain ⟨old, hold, -⟩ := h.1
      show prepares log = 1
      rw [ih h.2 hf.2, hold]
      rfl
    | closed => exact ih h.2 hf.2
    | opened => exact ih h.2 hf.2
    | published t q => exact ih h.2 hf.2
    | faultTaken f => exact ih h.2 hf.2

theorem c_pos (p : ExpoParameters) : 0 < p.c := p.delay_range.1.trans p.delay_range.2

/-- A second stage comes right after the last command of a window, so that there is one. -/
theorem finishes_le (hf : Throughout (Fixed p) log) :
    finishes log ≤ 1 ∧ (finishes log ≠ 0 → p.c ≤ sinceSplice log ∧
      (AfterCommand log → p.c < sinceSplice log)) := by
  induction log with
  | nil => exact ⟨Nat.zero_le _, fun h => absurd rfl h⟩
  | cons x log ih =>
    obtain ⟨hle, hlast⟩ := ih hf.2
    cases x with
    | reset => exact ⟨Nat.zero_le _, fun h => absurd rfl h⟩
    | accepted a => exact ⟨Nat.zero_le _, fun h => absurd rfl h⟩
    | finishing pending =>
      obtain ⟨hsince, hafter⟩ : sinceSplice log = p.c ∧ AfterCommand log := hf.1
      -- an earlier second stage would have come before the last command
      have hzero : finishes log = 0 := by
        by_contra hne
        have := (hlast hne).2 hafter
        omega
      refine ⟨by rw [finishes, hzero], fun _ => ⟨hsince.ge, ?_⟩⟩
      rintro ⟨tick, queued, earlier, h⟩
      cases h
    | published tick queued =>
      refine ⟨hle, fun h => ?_⟩
      have hbound := (hlast h).1
      have hlt : p.c < sinceSplice log + 1 := Nat.lt_succ_of_le hbound
      exact ⟨hlt.le, fun _ => hlt⟩
    | closed | opened | submitted pending | faultTaken f =>
      refine ⟨hle, fun h => ⟨(hlast h).1, ?_⟩⟩
      rintro ⟨tick, queued, earlier, h⟩
      cases h

/-! ### Windows -/

/-- Nothing is issued before a response was accepted. -/
theorem sinceSplice_of_none (hf : Throughout (Fixed p) log) (h : acceptances log = []) :
    sinceSplice log = 0 := by
  induction log with
  | nil => rfl
  | cons x log ih =>
    cases x with
    | reset => rfl
    | accepted a => rfl
    | published tick queued =>
      obtain ⟨a, ha, -⟩ := (show Issued p queued log from hf.1).row
      rw [lastAccepted_eq, show acceptances log = [] from h] at ha
      cases ha
    | closed => exact ih hf.2 h
    | opened => exact ih hf.2 h
    | submitted pending => exact ih hf.2 h
    | finishing pending => exact ih hf.2 h
    | faultTaken f => exact ih hf.2 h

/-- The rows of the windows that were accepted in an epoch. -/
theorem windows_eq (h : Throughout (Expected p.toRtcParameters p.c) log)
    (hf : Throughout (Fixed p) log) (i : ℕ) (a : Acceptance)
    (ha : (acceptances log)[i]? = some a) :
    (a.pending.bootstrap = true ↔ i = 0) ∧ a.start = (if i = 0 then 0 else p.d) ∧
      a.window.length = p.c ∧
        List.Forall₂ (Validated p.contract) ((a.ticket.actionChunk.drop a.start).take p.c)
          a.window := by
  induction log with
  | nil => cases ha
  | cons x log ih =>
    cases x with
    | reset => cases ha
    | closed => exact ih h.2 hf.2 ha
    | opened => exact ih h.2 hf.2 ha
    | submitted pending => exact ih h.2 hf.2 ha
    | finishing pending => exact ih h.2 hf.2 ha
    | published tick queued => exact ih h.2 hf.2 ha
    | faultTaken f => exact ih h.2 hf.2 ha
    | accepted b =>
      rw [acceptances, List.getElem?_append] at ha
      split_ifs at ha with hlt
      · exact ih h.2 hf.2 ha
      have hi : i = (acceptances log).length := by
        obtain ⟨hi, -⟩ := List.getElem?_eq_some_iff.1 ha
        rw [List.length_singleton] at hi
        omega
      subst hi
      rw [Nat.sub_self] at ha
      obtain rfl : b = a := Option.some.inj ha
      have hsplice : Rtc.Splice p.toRtcParameters p.c b log := h.1
      have hplace : Spliced p b log := hf.1
      by_cases hb : b.pending.bootstrap = true
      · have hnone := hplace.bootstrap hb
        rw [hnone]
        exact ⟨⟨fun _ => rfl, fun _ => hb⟩, hsplice.bootstrap hb, hsplice.length, hsplice.rows⟩
      · obtain ⟨hstart, hsince⟩ := hplace.overlap (by simpa using hb)
        -- commands were issued since a response was accepted
        have hne : (acceptances log).length ≠ 0 := by
          intro hzero
          have hnone := List.eq_nil_of_length_eq_zero hzero
          have hpos := c_pos p
          rw [← hsince] at hpos
          exact absurd (sinceSplice_of_none hf.2 hnone) hpos.ne'
        rw [if_neg hne]
        exact ⟨⟨fun h => absurd h hb, fun h => absurd h hne⟩, hstart, hsplice.length, hsplice.rows⟩

/-- Windows that were executed to their ends. -/
theorem executed_full {k : ℕ} {as : List Acceptance} (h : ∀ a ∈ as, a.window.length ≤ k) :
    executed k as = as.flatMap (·.window) := by
  induction as with
  | nil => rfl
  | cons a as ih =>
    rw [List.flatMap_cons, ← ih fun b hb => h b (List.mem_cons_of_mem _ hb)]
    cases as with
    | nil =>
      rw [executed, executed, List.append_nil]
      exact List.take_of_length_le (h a List.mem_cons_self)
    | cons b as => rfl

/-- The published actions are those of the windows. -/
theorem published_eq (h : Throughout (Expected p.toRtcParameters p.c) log)
    (hf : Throughout (Fixed p) log) :
    published log = executed (sinceSplice log) (acceptances log) ∧ sinceSplice log ≤ p.c := by
  induction log with
  | nil => exact ⟨rfl, Nat.zero_le _⟩
  | cons x log ih =>
    obtain ⟨hpublished, hbound⟩ := ih h.2 hf.2
    cases x with
    | reset => exact ⟨rfl, Nat.zero_le _⟩
    | closed => exact ⟨hpublished, hbound⟩
    | opened => exact ⟨hpublished, hbound⟩
    | submitted pending => exact ⟨hpublished, hbound⟩
    | finishing pending => exact ⟨hpublished, hbound⟩
    | faultTaken f => exact ⟨hpublished, hbound⟩
    | published tick queued =>
      obtain ⟨a, ha, hrow⟩ := (show Issued p queued log from hf.1).row
      obtain ⟨earlier, hacc⟩ := acceptances_of_last ha
      have hlast : (acceptances log)[earlier.length]? = some a := by
        rw [hacc]
        exact List.getElem?_concat_length
      have hlen := (windows_eq h.2 hf.2 _ a hlast).2.2.1
      obtain ⟨hlt, -⟩ := List.getElem?_eq_some_iff.1 hrow
      refine ⟨?_, by rw [sinceSplice]; omega⟩
      rw [hacc, executed_snoc] at hpublished
      show published log ++ [queued] = executed (sinceSplice log + 1) (acceptances log)
      rw [hpublished, hacc, executed_snoc, List.append_assoc, List.take_add_one, hrow]
      rfl
    | accepted a =>
      have hplace : Spliced p a log := hf.1
      refine ⟨?_, Nat.zero_le _⟩
      show published log = executed 0 (acceptances log ++ [a])
      rw [executed_snoc, List.take_zero, List.append_nil, hpublished]
      by_cases hb : a.pending.bootstrap = true
      · rw [hplace.bootstrap hb]
        rfl
      · refine executed_full fun b hb' => ?_
        obtain ⟨i, hi⟩ := List.mem_iff_getElem?.1 hb'
        rw [(hplace.overlap (by simpa using hb)).2]
        exact (windows_eq h.2 hf.2 i b hi).2.2.1.le

/-- A window is requested before its last commands are issued. -/
theorem requested_of_lt (hf : Throughout (Fixed p) log) (h : p.c - p.d < sinceSplice log) :
    inFlight log ≠ none := by
  induction log with
  | nil => cases h
  | cons x log ih =>
    cases x with
    | reset => cases h
    | accepted a => cases h
    | submitted pending => rintro ⟨⟩
    | finishing pending => rintro ⟨⟩
    | closed => exact ih hf.2 h
    | opened => exact ih hf.2 h
    | faultTaken f => exact ih hf.2 h
    | published tick queued =>
      exact (show Issued p queued log from hf.1).requested (Nat.lt_succ_iff.1 h)

/-- Events at their places make up fixed windows. -/
theorem fixedWindows_of (h : Throughout (Expected p.toRtcParameters p.c) log)
    (hf : Throughout (Fixed p) log) : FixedWindows p log where
  places := hf
  commands := (published_eq h hf).1
  bound := (published_eq h hf).2
  windows := windows_eq h hf
  prepares := by
    rw [prepares_eq h hf]
    refine ⟨by split <;> omega, fun hlt => ?_⟩
    rw [if_neg (requested_of_lt hf hlt)]
  finishes := (finishes_le hf).1

end Expo

end DualCollection
