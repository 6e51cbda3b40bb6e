import DualCollection.Episode.Models

/-!
# The pedals

`PedalTrigger` of `episode/adapters/pedal.py`.  One wait reads both pedals, an abort goes before an
activation, and each pedal has a debounce interval of its own.  A history is a list of calls with
what the device and the clock answer, and `PedalTrigger.run` keeps the waits that return.

`debounce_law_iff` says when a history is as the two intervals promise: as long as no wait reads an
activation together with an abort that is too early.  Such an abort takes the activation with it.
-/

namespace DualCollection

/-- `round`, which rounds a half to the even neighbour. -/
def pyRound (q : ℚ) : ℤ :=
  let fraction := q - ⌊q⌋
  if fraction < 1 / 2 then ⌊q⌋
  else if 1 / 2 < fraction then ⌊q⌋ + 1
  else if ⌊q⌋ % 2 = 0 then ⌊q⌋ else ⌊q⌋ + 1

theorem pyRound_nonneg {q : ℚ} (h : 0 ≤ q) : 0 ≤ pyRound q := by
  have hfloor : 0 ≤ ⌊q⌋ := Int.floor_nonneg.2 h
  unfold pyRound
  simp only
  split_ifs <;> omega

/-- The two pedals. -/
inductive Pedal
  | activate
  | abort
  deriving DecidableEq, Repr

/-- What a pedal stands for. -/
def Pedal.event : Pedal → TriggerEvent
  | activate => .activate
  | abort => .abort

/-- `PRESS_REPORT` -/
def pressReport : List UInt8 := [0x66, 0xcc, 0x03, 0x00, 0x01] ++ List.replicate 59 0x00

/-- What the injected functions answer to a wait. -/
structure PedalAnswer where
  /-- The pedals that are readable, each with what is read from it; `OSError` has a text. -/
  readable : Except String (List (Pedal × Except String (List UInt8)))
  /-- The clock, afterwards. -/
  now : ℚ
  /-- A monotonic clock is not negative. -/
  now_nonneg : 0 ≤ now
  deriving DecidableEq

/-- The record trigger of a pair of pedals. -/
structure PedalTrigger where
  /-- `debounce_s` -/
  debounceS : ℚ
  /-- `conflict_event` -/
  conflictEvent : Option TriggerEvent
  /-- `_last_press`; `none` is `-inf`. -/
  lastPress : Pedal → Option ℚ
  /-- `_entered` -/
  entered : Bool
  /-- `_armed` -/
  armed : Bool
  /-- `debounce_s must not be negative` -/
  debounceS_nonneg : 0 ≤ debounceS

namespace PedalTrigger

theorem nonneg_of_not_neg {debounceS : ℚ} (h : ¬ debounceS < 0) : 0 ≤ debounceS := not_lt.1 h

/-- The constructor; the devices have different file descriptors, and stand for the pedals. -/
def make (debounceS : ℚ) (conflictEvent : Option TriggerEvent) : Except PyError PedalTrigger :=
  if h : debounceS < 0 then .error ⟨.valueError, "debounce_s must not be negative"⟩
  else .ok ⟨debounceS, conflictEvent, fun _ => none, false, false, nonneg_of_not_neg h⟩

/-- `__enter__` -/
def enter (t : PedalTrigger) : PedalTrigger := { t with entered := true }

/-- `close` -/
def close (t : PedalTrigger) : PedalTrigger :=
  if t.entered then { t with entered := false, armed := false } else t

/-- `disarm` -/
def disarm (t : PedalTrigger) : PedalTrigger := { t with armed := false }

/-- What a failing device raises. -/
def unreadable (text : String) : PyError :=
  ⟨.runtimeError, "pedal disconnected or unreadable: " ++ text⟩

/-- The presses among what is read. -/
def candidates : List (Pedal × Except String (List UInt8)) → Except PyError (List Pedal)
  | [] => .ok []
  | (_, .error text) :: _ => .error (unreadable text)
  | (pedal, .ok report) :: rest =>
    if report = [] then .error ⟨.runtimeError, "pedal disconnected"⟩
    else do
      let others ← candidates rest
      return if report = pressReport then pedal :: others else others

/-- `_drain_pending_reports`: the rounds until nothing is readable; `BlockingIOError` ends them. -/
def drainPendingReports :
    List (Except String (List (Pedal × Except String (List UInt8)))) → Except PyError Unit
  | [] => .ok ()
  | .error text :: _ => .error (unreadable text)
  | .ok [] :: _ => .ok ()
  | .ok readable :: rounds => do
    let _ ← candidates readable
    drainPendingReports rounds

/-- `arm` -/
def arm (t : PedalTrigger)
    (rounds : List (Except String (List (Pedal × Except String (List UInt8))))) :
    Except PyError Unit × PedalTrigger :=
  if t.entered = false then
    (.error ⟨.runtimeError, "pedal trigger must be used as a context manager"⟩, t)
  else match drainPendingReports rounds with
    | .error err => (.error err, t)
    | .ok () => (.ok (), { t with armed := true })

/-- The interval of a pedal has passed. -/
def debounced (t : PedalTrigger) (pedal : Pedal) (now : ℚ) : Bool :=
  (t.lastPress pedal).all fun last => t.debounceS ≤ now - last

/-- Note a press. -/
def press (t : PedalTrigger) (pedal : Pedal) (now : ℚ) : PedalTrigger :=
  { t with lastPress := Function.update t.lastPress pedal (some now) }

/-- `TriggerSignal(event, round(now * 1e9))` -/
def signal (event : TriggerEvent) (now : ℚ) : Except PyError (Option TriggerSignal) :=
  (TriggerSignal.make event (pyRound (now * 10 ^ 9)) none).map some

/-- What a wait makes of the presses it has read. -/
def deliver (t : PedalTrigger) (pressed : List Pedal) (now : ℚ) :
    Except PyError (Option TriggerSignal) × PedalTrigger :=
  match t.conflictEvent, decide (.activate ∈ pressed ∧ .abort ∈ pressed) with
  | some event, true => (signal event now, (t.press .activate now).press .abort now)
  | _, _ =>
    if .abort ∈ pressed then
      if t.debounced .abort now then (signal .abort now, t.press .abort now) else (.ok none, t)
    else if .activate ∈ pressed ∧ t.debounced .activate now then
      (signal .activate now, t.press .activate now)
    else (.ok none, t)

/-- `wait` -/
def wait (t : PedalTrigger) (timeoutS : ℚ) (answer : PedalAnswer) :
    Except PyError (Option TriggerSignal) × PedalTrigger :=
  if t.entered = false then
    (.error ⟨.runtimeError, "pedal trigger must be used as a context manager"⟩, t)
  else if t.armed = false then (.error ⟨.runtimeError, "pedal trigger is disarmed"⟩, t)
  else if timeoutS < 0 then (.error ⟨.valueError, "timeout_s must not be negative"⟩, t)
  else match answer.readable with
    | .error text => (.error (unreadable text), t)
    | .ok readable => match candidates readable with
      | .error err => (.error err, t)
      | .ok pressed => t.deliver pressed answer.now

/-! ### Histories -/

/-- A call of the trigger, with what is answered. -/
inductive Call
  | enter
  | close
  | arm (rounds : List (Except String (List (Pedal × Except String (List UInt8)))))
  | disarm
  | wait (timeoutS : ℚ) (answer : PedalAnswer)

/-- A wait that has returned. -/
structure Waited where
  /-- What was answered. -/
  answer : PedalAnswer
  /-- What it returned. -/
  result : Option TriggerSignal
  deriving DecidableEq

/-- The trigger after a call, and the wait if it was one that has returned. -/
def step (t : PedalTrigger) : Call → PedalTrigger × Option Waited
  | .enter => (t.enter, none)
  | .close => (t.close, none)
  | .arm rounds => ((t.arm rounds).2, none)
  | .disarm => (t.disarm, none)
  | .wait timeoutS answer => match t.wait timeoutS answer with
    | (.ok result, t') => (t', some ⟨answer, result⟩)
    | (.error _, t') => (t', none)

/-- The trigger after a history, and the waits that have returned. -/
def run (t : PedalTrigger) (calls : List Call) : PedalTrigger × List Waited :=
  calls.foldl (fun x call =>
    let y := x.1.step call
    (y.1, x.2 ++ y.2.toList)) (t, [])

namespace Waited

/-- The wait read a press of the pedal. -/
def Pressed (x : Waited) (pedal : Pedal) : Prop :=
  ∃ readable, x.answer.readable = .ok readable ∧ (pedal, .ok pressReport) ∈ readable

/-- The wait delivered the signal of the pedal. -/
def Delivers (x : Waited) (pedal : Pedal) : Prop :=
  ∃ signal, x.result = some signal ∧ signal.event = pedal.event ∧
    signal.monotonicTimeNs = pyRound (x.answer.now * 10 ^ 9)

/-- A delivery can be looked for. -/
instance (x : Waited) (pedal : Pedal) : Decidable (x.Delivers pedal) :=
  decidable_of_iff (x.result.any fun signal => signal.event = pedal.event ∧
    signal.monotonicTimeNs = pyRound (x.answer.now * 10 ^ 9)) (by
      simp [Delivers, Option.any_eq_true])

end Waited

/-- When the pedal was last delivered. -/
def lastDelivered (pedal : Pedal) (before : List Waited) : Option ℚ :=
  ((before.filter fun x => x.Delivers pedal).getLast?).map fun x => x.answer.now

/-- At least the interval has passed since the last delivery. -/
def Elapsed (debounceS : ℚ) (pedal : Pedal) (before : List Waited) (x : Waited) : Prop :=
  ∀ last ∈ lastDelivered pedal before, debounceS ≤ x.answer.now - last

/-- What the debounce of two pedals promises. -/
structure DebounceLaw (debounceS : ℚ) (history : List Waited) : Prop where
  /-- An abort is delivered unless it is too early. -/
  abort : ∀ before x after, history = before ++ x :: after →
    (x.Delivers .abort ↔ x.Pressed .abort ∧ Elapsed debounceS .abort before x)
  /-- Without an abort, so is an activation. -/
  activate : ∀ before x after, history = before ++ x :: after → ¬ x.Delivers .abort →
    (x.Delivers .activate ↔ x.Pressed .activate ∧ Elapsed debounceS .activate before x)
  /-- The deliveries of a pedal are apart. -/
  apart : ∀ pedal, (history.filter fun x => x.Delivers pedal).Pairwise fun x y =>
    debounceS ≤ y.answer.now - x.answer.now

/-- A wait reads an abort that is too early, and an activation that is not. -/
structure Discards (debounceS : ℚ) (before : List Waited) (x : Waited) : Prop where
  /-- The abort is read. -/
  abort : x.Pressed .abort
  /-- It is too early. -/
  early : ¬ Elapsed debounceS .abort before x
  /-- The activation is read. -/
  activate : x.Pressed .activate
  /-- It is not too early. -/
  elapsed : Elapsed debounceS .activate before x

/-! ### One wait -/

theorem mem_candidates {readable : List (Pedal × Except String (List UInt8))} {pressed : List Pedal}
    (h : candidates readable = .ok pressed) (pedal : Pedal) :
    pedal ∈ pressed ↔ (pedal, .ok pressReport) ∈ readable := by
  induction readable generalizing pressed with
  | nil =>
    cases h
    simp
  | cons entry rest ih =>
    obtain ⟨pedal', report⟩ := entry
    cases report with
    | error text => cases h
    | ok report =>
      unfold candidates at h
      by_cases hempty : report = []
      · rw [if_pos hempty] at h
        cases h
      rw [if_neg hempty] at h
      obtain ⟨others, hothers, h⟩ := bind_eq_ok h
      have ih := ih hothers
      cases h
      by_cases hreport : report = pressReport
      · simp [hreport, ih]
      · have hne : pressReport ≠ report := fun h => hreport h.symm
        simp [hreport, hne, ih]

/-- A signal of a pedal is what it says. -/
theorem signal_ok (pedal : Pedal) {now : ℚ} (hnow : 0 ≤ now) :
    ∃ s, signal pedal.event now = .ok (some s) ∧ s.event = pedal.event ∧
      s.monotonicTimeNs = pyRound (now * 10 ^ 9) := by
  have hns : 0 ≤ pyRound (now * 10 ^ 9) := pyRound_nonneg (by positivity)
  have hfail : pedal.event ≠ .fail := by cases pedal <;> decide
  unfold signal TriggerSignal.make
  rw [dif_pos hns, dif_pos fun h => absurd h hfail, dif_pos fun _ => rfl]
  exact ⟨_, rfl, rfl, rfl⟩

/-- What a wait does that returns, as long as there is no conflict event. -/
inductive WaitCase (t : PedalTrigger) (answer : PedalAnswer) (pressed : List Pedal) :
    Option TriggerSignal → PedalTrigger → Prop
  /-- An abort is delivered. -/
  | abort {s : TriggerSignal} (hpressed : .abort ∈ pressed)
    (hdebounced : t.debounced .abort answer.now) (hevent : s.event = Pedal.abort.event)
    (htime : s.monotonicTimeNs = pyRound (answer.now * 10 ^ 9)) :
    WaitCase t answer pressed (some s) (t.press .abort answer.now)
  /-- An abort is too early. -/
  | early (hpressed : .abort ∈ pressed) (hdebounced : ¬ t.debounced .abort answer.now) :
    WaitCase t answer pressed none t
  /-- An activation is delivered. -/
  | activate {s : TriggerSignal} (hnot : .abort ∉ pressed) (hpressed : .activate ∈ pressed)
    (hdebounced : t.debounced .activate answer.now) (hevent : s.event = Pedal.activate.event)
    (htime : s.monotonicTimeNs = pyRound (answer.now * 10 ^ 9)) :
    WaitCase t answer pressed (some s) (t.press .activate answer.now)
  /-- Nothing is delivered. -/
  | nothing (hnot : .abort ∉ pressed)
    (hactivate : ¬(.activate ∈ pressed ∧ t.debounced .activate answer.now)) :
    WaitCase t answer pressed none t

theorem deliver_case {t : PedalTrigger} (answer : PedalAnswer) (hconflict : t.conflictEvent = none)
    (pressed : List Pedal) :
    ∃ result, (t.deliver pressed answer.now).1 = .ok result ∧
      WaitCase t answer pressed result (t.deliver pressed answer.now).2 := by
  obtain ⟨s, hs, hevent, htime⟩ := signal_ok .abort answer.now_nonneg
  obtain ⟨s', hs', hevent', htime'⟩ := signal_ok .activate answer.now_nonneg
  unfold deliver
  simp only [hconflict]
  by_cases habort : .abort ∈ pressed
  · rw [if_pos habort]
    by_cases hdebounced : t.debounced .abort answer.now
    · rw [if_pos hdebounced]
      exact ⟨some s, hs, .abort habort hdebounced hevent htime⟩
    · rw [if_neg hdebounced]
      exact ⟨none, rfl, .early habort hdebounced⟩
  · rw [if_neg habort]
    by_cases hactivate : .activate ∈ pressed ∧ t.debounced .activate answer.now
    · rw [if_pos hactivate]
      exact ⟨some s', hs', .activate habort hactivate.1 hactivate.2 hevent' htime'⟩
    · rw [if_neg hactivate]
      exact ⟨none, rfl, .nothing habort hactivate⟩

/-- The trigger's presses and its configuration are left alone. -/
structure Same (t t' : PedalTrigger) : Prop where
  /-- The presses. -/
  lastPress : t'.lastPress = t.lastPress
  /-- The interval. -/
  debounceS : t'.debounceS = t.debounceS
  /-- The conflict event. -/
  conflictEvent : t'.conflictEvent = t.conflictEvent

theorem same_close (t : PedalTrigger) : t.Same t.close := by
  unfold close
  split_ifs
  · exact ⟨rfl, rfl, rfl⟩
  · exact ⟨rfl, rfl, rfl⟩

theorem same_arm (t : PedalTrigger)
    (rounds : List (Except String (List (Pedal × Except String (List UInt8))))) :
    t.Same (t.arm rounds).2 := by
  unfold arm
  by_cases h : t.entered = false
  · rw [if_pos h]
    exact ⟨rfl, rfl, rfl⟩
  · rw [if_neg h]
    cases drainPendingReports rounds with
    | error err => exact ⟨rfl, rfl, rfl⟩
    | ok u => exact ⟨rfl, rfl, rfl⟩

/-- A wait raises and leaves the trigger's presses alone, or it returns. -/
theorem wait_cases {t : PedalTrigger} (hconflict : t.conflictEvent = none) (timeoutS : ℚ)
    (answer : PedalAnswer) :
    (∃ err t', t.wait timeoutS answer = (.error err, t') ∧ t.Same t') ∨
    ∃ readable pressed result t', answer.readable = .ok readable ∧
      candidates readable = .ok pressed ∧ t.wait timeoutS answer = (.ok result, t') ∧
      WaitCase t answer pressed result t' := by
  unfold wait
  by_cases hentered : t.entered = false
  · rw [if_pos hentered]
    exact .inl ⟨_, _, rfl, rfl, rfl, rfl⟩
  rw [if_neg hentered]
  by_cases harmed : t.armed = false
  · rw [if_pos harmed]
    exact .inl ⟨_, _, rfl, rfl, rfl, rfl⟩
  rw [if_neg harmed]
  by_cases htimeout : timeoutS < 0
  · rw [if_pos htimeout]
    exact .inl ⟨_, _, rfl, rfl, rfl, rfl⟩
  rw [if_neg htimeout]
  cases hreadable : answer.readable with
  | error text => exact .inl ⟨_, _, rfl, rfl, rfl, rfl⟩
  | ok readable =>
    simp only
    cases hpressed : candidates readable with
    | error err => exact .inl ⟨_, _, rfl, rfl, rfl, rfl⟩
    | ok pressed =>
      obtain ⟨result, hresult, hcase⟩ := deliver_case answer hconflict pressed
      exact .inr ⟨readable, pressed, result, _, rfl, hpressed, Prod.ext hresult rfl, hcase⟩

/-- A call leaves the trigger's presses alone, or is a wait that returns. -/
theorem step_cases {t : PedalTrigger} (hconflict : t.conflictEvent = none) (call : Call) :
    ((t.step call).2 = none ∧ t.Same (t.step call).1) ∨
    ∃ answer readable pressed result, answer.readable = .ok readable ∧
      candidates readable = .ok pressed ∧ (t.step call).2 = some ⟨answer, result⟩ ∧
      WaitCase t answer pressed result (t.step call).1 := by
  cases call with
  | enter => exact .inl ⟨rfl, rfl, rfl, rfl⟩
  | close => exact .inl ⟨rfl, same_close t⟩
  | arm rounds => exact .inl ⟨rfl, same_arm t rounds⟩
  | disarm => exact .inl ⟨rfl, rfl, rfl, rfl⟩
  | wait timeoutS answer =>
    unfold step
    rcases wait_cases hconflict timeoutS answer with
      ⟨err, t', hwait, hsame⟩ | ⟨readable, pressed, result, t', hreadable, hpressed, hwait, hcase⟩
    · simp only [hwait]
      exact .inl ⟨trivial, hsame⟩
    · simp only [hwait]
      exact .inr ⟨answer, readable, pressed, result, hreadable, hpressed, rfl, hcase⟩

/-! ### Runs -/

theorem lastDelivered_snoc (pedal : Pedal) (before : List Waited) (x : Waited) :
    lastDelivered pedal (before ++ [x]) =
      if x.Delivers pedal then some x.answer.now else lastDelivered pedal before := by
  unfold lastDelivered
  rw [List.filter_append]
  by_cases h : x.Delivers pedal
  · simp [h]
  · simp [h]

/-- What a wait delivers, after the waits before it. -/
structure Sound (debounceS : ℚ) (before : List Waited) (x : Waited) : Prop where
  /-- An abort goes first. -/
  abort : x.Delivers .abort ↔ x.Pressed .abort ∧ Elapsed debounceS .abort before x
  /-- An activation is delivered when no abort is read. -/
  activate : x.Delivers .activate ↔
    ¬ x.Pressed .abort ∧ x.Pressed .activate ∧ Elapsed debounceS .activate before x

/-- The presses that the trigger has noted are the deliveries. -/
structure Kept (debounceS : ℚ) (x : PedalTrigger × List Waited) : Prop where
  /-- The interval. -/
  interval : x.1.debounceS = debounceS
  /-- There is no conflict event. -/
  conflictEvent : x.1.conflictEvent = none
  /-- The presses. -/
  lastPress : ∀ pedal, x.1.lastPress pedal = lastDelivered pedal x.2
  /-- Every wait is sound. -/
  sound : ∀ before y after, x.2 = before ++ y :: after → Sound debounceS before y

/-- The interval has passed for the trigger when it has passed since the last delivery. -/
theorem Kept.debounced_iff {debounceS : ℚ} {t : PedalTrigger} {log : List Waited}
    (h : Kept debounceS (t, log)) (pedal : Pedal) (x : Waited) :
    t.debounced pedal x.answer.now ↔ Elapsed debounceS pedal log x := by
  have hpress : t.lastPress pedal = lastDelivered pedal log := h.lastPress pedal
  have hdebounce : t.debounceS = debounceS := h.interval
  unfold debounced Elapsed
  rw [hpress, hdebounce]
  cases lastDelivered pedal log with
  | none => simp
  | some last => simp

theorem delivers_some {answer : PedalAnswer} {s : TriggerSignal} {pedal : Pedal}
    (htime : s.monotonicTimeNs = pyRound (answer.now * 10 ^ 9)) :
    Waited.Delivers ⟨answer, some s⟩ pedal ↔ s.event = pedal.event := by
  constructor
  · rintro ⟨s', ⟨⟩, hevent, -⟩
    exact hevent
  · intro hevent
    exact ⟨s, rfl, hevent, htime⟩

theorem not_delivers_none {answer : PedalAnswer} {pedal : Pedal} :
    ¬ Waited.Delivers ⟨answer, none⟩ pedal := by
  rintro ⟨s, hs, -⟩
  cases hs

/-- Splitting a list with one more element. -/
theorem snoc_eq_append_cons {α : Type} {l before after : List α} {x y : α}
    (h : l ++ [x] = before ++ y :: after) :
    (∃ rest, l = before ++ y :: rest) ∨ before = l ∧ y = x := by
  rcases List.eq_nil_or_concat after with rfl | ⟨rest, z, rfl⟩
  · obtain ⟨hl, hx⟩ := List.append_inj' h rfl
    exact .inr ⟨hl.symm, (List.singleton_inj.1 hx).symm⟩
  · rw [List.concat_eq_append, ← List.cons_append, ← List.append_assoc] at h
    exact .inl ⟨rest, (List.append_inj' h rfl).1⟩

/-- A wait delivers as it should, after the waits that the trigger has noted. -/
theorem WaitCase.sound {debounceS : ℚ} {t t' : PedalTrigger} {log : List Waited}
    {answer : PedalAnswer} {pressed : List Pedal} {result : Option TriggerSignal}
    (h : Kept debounceS (t, log))
    (hmem : ∀ pedal, pedal ∈ pressed ↔ Waited.Pressed ⟨answer, result⟩ pedal)
    (hcase : WaitCase t answer pressed result t') : Sound debounceS log ⟨answer, result⟩ := by
  have helapsed := fun pedal => h.debounced_iff pedal ⟨answer, result⟩
  cases hcase with
  | abort hin hdebounced hevent htime =>
    constructor
    · rw [delivers_some htime]
      exact iff_of_true hevent ⟨(hmem _).1 hin, (helapsed _).1 hdebounced⟩
    · rw [delivers_some htime, hevent]
      exact iff_of_false nofun fun hall => hall.1 ((hmem _).1 hin)
  | early hin hdebounced =>
    constructor
    · exact iff_of_false not_delivers_none fun hboth => hdebounced ((helapsed _).2 hboth.2)
    · exact iff_of_false not_delivers_none fun hall => hall.1 ((hmem _).1 hin)
  | activate hnot hin hdebounced hevent htime =>
    constructor
    · rw [delivers_some htime, hevent]
      exact iff_of_false nofun fun hboth => hnot ((hmem _).2 hboth.1)
    · rw [delivers_some htime]
      exact iff_of_true hevent
        ⟨fun hp => hnot ((hmem _).2 hp), (hmem _).1 hin, (helapsed _).1 hdebounced⟩
  | nothing hnot hactivate =>
    constructor
    · exact iff_of_false not_delivers_none fun hboth => hnot ((hmem _).2 hboth.1)
    · exact iff_of_false not_delivers_none fun hall =>
        hactivate ⟨(hmem _).2 hall.2.1, (helapsed _).2 hall.2.2⟩

/-- A trigger notes what it delivers. -/
theorem WaitCase.noted {t t' : PedalTrigger} {answer : PedalAnswer} {pressed : List Pedal}
    {result : Option TriggerSignal} (hcase : WaitCase t answer pressed result t') :
    t'.debounceS = t.debounceS ∧ t'.conflictEvent = t.conflictEvent ∧
      ∀ pedal, t'.lastPress pedal =
        if Waited.Delivers ⟨answer, result⟩ pedal then some answer.now else t.lastPress pedal := by
  cases hcase with
  | abort hin hdebounced hevent htime =>
    refine ⟨rfl, rfl, fun pedal => ?_⟩
    simp only [delivers_some htime, hevent]
    cases pedal <;> rfl
  | early hin hdebounced =>
    refine ⟨rfl, rfl, fun pedal => ?_⟩
    rw [if_neg not_delivers_none]
  | activate hnot hin hdebounced hevent htime =>
    refine ⟨rfl, rfl, fun pedal => ?_⟩
    simp only [delivers_some htime, hevent]
    cases pedal <;> rfl
  | nothing hnot hactivate =>
    refine ⟨rfl, rfl, fun pedal => ?_⟩
    rw [if_neg not_delivers_none]

/-- A wait that returns keeps the invariant. -/
theorem Kept.waited {debounceS : ℚ} {t t' : PedalTrigger} {log : List Waited} {answer : PedalAnswer}
    {readable : List (Pedal × Except String (List UInt8))} {pressed : List Pedal}
    {result : Option TriggerSignal} (h : Kept debounceS (t, log))
    (hreadable : answer.readable = .ok readable) (hpressed : candidates readable = .ok pressed)
    (hcase : WaitCase t answer pressed result t') :
    Kept debounceS (t', log ++ [⟨answer, result⟩]) := by
  have hmem : ∀ pedal, pedal ∈ pressed ↔ Waited.Pressed ⟨answer, result⟩ pedal := by
    intro pedal
    rw [mem_candidates hpressed]
    constructor
    · intro hmem
      exact ⟨readable, hreadable, hmem⟩
    · rintro ⟨readable', hreadable', hmem⟩
      obtain rfl : readable = readable' := Except.ok.inj (hreadable.symm.trans hreadable')
      exact hmem
  obtain ⟨hinterval, hconflict, hpress⟩ := hcase.noted
  refine ⟨hinterval.trans h.interval, hconflict.trans h.conflictEvent, fun pedal => ?_,
    fun before y after hsplit => ?_⟩
  · rw [lastDelivered_snoc, ← h.lastPress pedal]
    exact hpress pedal
  · rcases snoc_eq_append_cons hsplit with ⟨rest, hrest⟩ | ⟨rfl, rfl⟩
    · exact h.sound before y rest hrest
    · exact hcase.sound h hmem

/-- One call keeps the invariant. -/
theorem Kept.step {debounceS : ℚ} {t : PedalTrigger} {log : List Waited}
    (h : Kept debounceS (t, log)) (call : Call) :
    Kept debounceS ((t.step call).1, log ++ (t.step call).2.toList) := by
  rcases step_cases h.conflictEvent call with
    ⟨hnone, hsame⟩ | ⟨answer, readable, pressed, result, hreadable, hpressed, hsome, hcase⟩
  · rw [hnone, Option.toList_none, List.append_nil]
    refine ⟨hsame.debounceS.trans h.interval, hsame.conflictEvent.trans h.conflictEvent,
      fun pedal => ?_, h.sound⟩
    rw [hsame.lastPress]
    exact h.lastPress pedal
  · rw [hsome, Option.toList_some]
    exact h.waited hreadable hpressed hcase

/-- A history keeps the invariant. -/
theorem kept_run {debounceS : ℚ} {t : PedalTrigger} (hmake : make debounceS none = .ok t)
    (calls : List Call) : Kept debounceS (t.run calls) := by
  have hinit : Kept debounceS (t, []) := by
    unfold make at hmake
    split_ifs at hmake
    cases hmake
    exact ⟨rfl, rfl, fun _ => rfl, fun before y after hnil => by simp at hnil⟩
  unfold run
  induction calls using List.reverseRecOn with
  | nil => exact hinit
  | append_singleton calls call ih =>
    rw [List.foldl_append]
    exact ih.step call

/-! ### The law -/

/-- Deliveries that are each apart from the last one before are apart. -/
theorem pairwise_snoc {debounceS : ℚ} (hpos : 0 ≤ debounceS) {l : List Waited} {x : Waited}
    (h : l.Pairwise fun x y => debounceS ≤ y.answer.now - x.answer.now)
    (hlast : ∀ last ∈ l.getLast?, debounceS ≤ x.answer.now - last.answer.now) :
    (l ++ [x]).Pairwise fun x y => debounceS ≤ y.answer.now - x.answer.now := by
  rcases List.eq_nil_or_concat l with rfl | ⟨rest, last, rfl⟩
  · simp
  rw [List.concat_eq_append] at h hlast ⊢
  have hlast := hlast last (by simp)
  refine List.pairwise_append.2 ⟨h, List.pairwise_singleton _ _, fun y hy z hz => ?_⟩
  obtain rfl := List.mem_singleton.1 hz
  rcases List.mem_append.1 hy with hy | hy
  · have hyl := (List.pairwise_append.1 h).2.2 y hy last (List.mem_singleton_self last)
    linarith
  · obtain rfl := List.mem_singleton.1 hy
    exact hlast

/-- A delivery comes after the interval. -/
theorem Sound.elapsed {debounceS : ℚ} {before : List Waited} {x : Waited}
    (h : Sound debounceS before x) {pedal : Pedal} (hx : x.Delivers pedal) :
    Elapsed debounceS pedal before x := by
  cases pedal with
  | abort => exact (h.abort.1 hx).2
  | activate => exact (h.activate.1 hx).2.2

/-- The deliveries of a pedal are apart. -/
theorem apart_of_sound {debounceS : ℚ} (hpos : 0 ≤ debounceS) (pedal : Pedal) {log : List Waited}
    (h : ∀ before y after, log = before ++ y :: after → Sound debounceS before y) :
    (log.filter fun x => x.Delivers pedal).Pairwise fun x y =>
      debounceS ≤ y.answer.now - x.answer.now := by
  induction log using List.reverseRecOn with
  | nil => simp
  | append_singleton log x ih =>
    have ih := ih fun before y after hsplit =>
      h before y (after ++ [x]) (by rw [hsplit]; simp)
    rw [List.filter_append]
    by_cases hx : x.Delivers pedal
    · rw [List.filter_singleton, decide_eq_true hx, cond_true]
      refine pairwise_snoc hpos ih fun last hlast => ?_
      have helapsed := (h log x [] rfl).elapsed hx
      exact helapsed last.answer.now (by simp [lastDelivered, Option.mem_def.1 hlast])
    · rw [List.filter_singleton, decide_eq_false hx, cond_false, List.append_nil]
      exact ih

/-- A history is as the intervals promise exactly when no wait discards an activation. -/
theorem debounce_law_iff {debounceS : ℚ} {t : PedalTrigger} (hmake : make debounceS none = .ok t)
    (calls : List Call) :
    DebounceLaw debounceS (t.run calls).2 ↔
      ∀ before x after, (t.run calls).2 = before ++ x :: after → ¬ Discards debounceS before x := by
  have hkept := kept_run hmake calls
  have hpos : 0 ≤ debounceS := hkept.interval ▸ (t.run calls).1.debounceS_nonneg
  constructor
  · intro hlaw before x after hsplit hdiscards
    have hsound := hkept.sound before x after hsplit
    have hnot : ¬ x.Delivers .abort := fun hd => hdiscards.early (hsound.abort.1 hd).2
    have hdelivers := (hlaw.activate before x after hsplit hnot).2
      ⟨hdiscards.activate, hdiscards.elapsed⟩
    exact (hsound.activate.1 hdelivers).1 hdiscards.abort
  · intro hkeeps
    refine ⟨fun before x after hsplit => (hkept.sound before x after hsplit).abort,
      fun before x after hsplit hnot => ?_, fun pedal => apart_of_sound hpos pedal hkept.sound⟩
    have hsound := hkept.sound before x after hsplit
    rw [hsound.activate]
    constructor
    · exact And.right
    · rintro ⟨hpressed, helapsed⟩
      refine ⟨fun habort => ?_, hpressed, helapsed⟩
      -- an abort that was read and not delivered was too early
      have hearly : ¬ Elapsed debounceS .abort before x := fun he => hnot (hsound.abort.2 ⟨habort, he⟩)
      exact hkeeps before x after hsplit ⟨habort, hearly, hpressed, helapsed⟩

/-! ### A station -/

namespace Station

/-- The pedals are pressed at a time. -/
def pressed (pedals : List Pedal) (now : ℚ) (h : 0 ≤ now) : PedalAnswer :=
  ⟨.ok (pedals.map fun pedal => (pedal, .ok pressReport)), now, h⟩

theorem fifth_nonneg : (0 : ℚ) ≤ 1 / 5 := by norm_num

/-- A trigger with an interval of a fifth of a second. -/
def trigger : PedalTrigger := ⟨1 / 5, none, fun _ => none, false, false, fifth_nonneg⟩

theorem zero_nonneg : (0 : ℚ) ≤ 0 := le_rfl

/-- An abort, at the time `0`. -/
def first : PedalAnswer := pressed [.abort] 0 zero_nonneg

theorem tenth_nonneg : (0 : ℚ) ≤ 1 / 10 := by norm_num

/-- An activation and an abort, a tenth of a second later. -/
def second : PedalAnswer := pressed [.activate, .abort] (1 / 10) tenth_nonneg

/-- A signal of a pedal that says what it says. -/
def signalOf (event : TriggerEvent) (h : event ≠ .fail) (ns : ℕ) : TriggerSignal :=
  ⟨event, ns, none, Int.natCast_nonneg ns, fun hfail => absurd hfail h, fun _ => rfl⟩

theorem abort_ne_fail : TriggerEvent.abort ≠ .fail := nofun

theorem activate_ne_fail : TriggerEvent.activate ≠ .fail := nofun

/-- The signal of the abort. -/
def signal : TriggerSignal := signalOf .abort abort_ne_fail 0

/-- Both pedals are pressed while the abort is debounced. -/
def calls : List Call := [.enter, .arm [], .wait 1 first, .wait 1 second]

theorem run_calls : (trigger.run calls).2 = [⟨first, some signal⟩, ⟨second, none⟩] := by
  decide +kernel

theorem one_nonneg : (0 : ℚ) ≤ 1 := zero_le_one

/-- An activation, a second after the abort. -/
def third : PedalAnswer := pressed [.activate] 1 one_nonneg

/-- The signal of the activation. -/
def activation : TriggerSignal := signalOf .activate activate_ne_fail (10 ^ 9)

/-- The pedals are pressed one after the other. -/
def apart : List Call := [.enter, .arm [], .wait 1 first, .wait 1 third]

theorem run_apart : (trigger.run apart).2 = [⟨first, some signal⟩, ⟨third, some activation⟩] := by
  decide +kernel

end Station

/-- The second wait returns nothing: the abort is too early, and the activation is lost. -/
theorem debounce_discards :
    ¬ DebounceLaw Station.trigger.debounceS (Station.trigger.run Station.calls).2 := by
  rw [Station.run_calls]
  intro h
  have hnot : ¬ Waited.Delivers ⟨Station.second, none⟩ .abort := not_delivers_none
  have hpressed : Waited.Pressed ⟨Station.second, none⟩ .activate := ⟨_, rfl, by simp⟩
  have hnone : lastDelivered .activate [⟨Station.first, some Station.signal⟩] = none := by
    decide +kernel
  have helapsed : Elapsed Station.trigger.debounceS .activate
      [⟨Station.first, some Station.signal⟩] ⟨Station.second, none⟩ := by
    intro last hlast
    rw [hnone] at hlast
    cases hlast
  exact not_delivers_none ((h.activate [_] _ [] rfl hnot).2 ⟨hpressed, helapsed⟩)

/-- No wait of this history reads both pedals. -/
theorem debounce_law_apart :
    ∃ t, make (1 / 5) none = .ok t ∧ DebounceLaw (1 / 5) (t.run Station.apart).2 := by
  have hmake : make (1 / 5) none = .ok Station.trigger := by
    rw [make, dif_neg (by norm_num)]
    rfl
  refine ⟨_, hmake, (debounce_law_iff hmake _).2 fun before x after hsplit hdiscards => ?_⟩
  have hx : x ∈ (Station.trigger.run Station.apart).2 := by rw [hsplit]; simp
  rw [Station.run_apart] at hx
  obtain ⟨readable, hreadable, hactivate⟩ := hdiscards.activate
  obtain ⟨readable', hreadable', habort⟩ := hdiscards.abort
  obtain rfl : readable = readable' := Except.ok.inj (hreadable.symm.trans hreadable')
  rcases List.mem_cons.1 hx with rfl | hx
  · cases hreadable
    simp at hactivate
  · obtain rfl := List.mem_singleton.1 hx
    cases hreadable
    simp at habort

end PedalTrigger

end DualCollection
