import Mathlib

/-!
# The statistics of a stream

Three implementations count the messages of a stream: the `StreamTracker` of the camera source (in
C++, `multi_d405_source.cpp`) and that of `arx5_monitoring`, which forget a window with every
snapshot, and the `HeaderTiming` of `ros2_adapters/mcap_metrics.py`, which reads a whole recording.

`statistics_agree` compares them over a history of messages and snapshots: the two trackers publish
the same, and the windows add up to what the recording says.  Arithmetic is exact: the widths of the
C++ counters and of the fields of a message are left out.
-/

namespace DualCollection

/-- What is published of a stream. -/
structure StreamStatus where
  /-- `total_count` -/
  totalCount : ℕ
  /-- `window_count` -/
  windowCount : ℕ
  /-- `window_duration_s` -/
  windowDurationS : ℚ
  /-- `observed_hz` -/
  observedHz : ℚ
  /-- `max_gap_ms` -/
  maxGapMs : ℚ
  /-- `last_message_stamp`: seconds and nanoseconds. -/
  lastMessageStamp : ℤ × ℤ
  /-- `silence_s` -/
  silenceS : ℚ
  /-- `non_monotonic_count` -/
  nonMonotonicCount : ℕ
  deriving DecidableEq

/-! ### The camera source -/

namespace D405

/-- `StreamTracker`; `lastArrival` has `last_arrival_` when `has_arrival_` is set. -/
structure StreamTracker where
  /-- `total_count_` -/
  totalCount : ℕ
  /-- `window_count_` -/
  windowCount : ℕ
  /-- `window_gap_count_` -/
  windowGapCount : ℕ
  /-- `non_monotonic_count_` -/
  nonMonotonicCount : ℕ
  /-- `window_duration_ns_` -/
  windowDurationNs : ℤ
  /-- `window_max_gap_ns_` -/
  windowMaxGapNs : ℤ
  /-- `last_stamp_ns_` -/
  lastStampNs : ℤ
  /-- `last_arrival_` -/
  lastArrival : Option ℚ
  deriving DecidableEq

namespace StreamTracker

/-- A new tracker. -/
def new : StreamTracker := ⟨0, 0, 0, 0, 0, 0, -1, none⟩

/-- What `observe` makes of the gap to the last message. -/
def gap (t : StreamTracker) (stampNs : ℤ) : StreamTracker :=
  if 0 ≤ t.lastStampNs then
    if stampNs - t.lastStampNs ≤ 0 then { t with nonMonotonicCount := t.nonMonotonicCount + 1 }
    else { t with
      windowGapCount := t.windowGapCount + 1
      windowDurationNs := t.windowDurationNs + (stampNs - t.lastStampNs)
      windowMaxGapNs := max t.windowMaxGapNs (stampNs - t.lastStampNs) }
  else t

/-- `observe`, at the reading `now` of the steady clock. -/
def observe (t : StreamTracker) (stampNs : ℤ) (now : ℚ) : StreamTracker :=
  { t.gap stampNs with
    totalCount := t.totalCount + 1
    windowCount := t.windowCount + 1
    lastStampNs := stampNs
    lastArrival := some now }

/-- What `snapshot` publishes, at the reading `now` of the steady clock. -/
def status (t : StreamTracker) (now : ℚ) : StreamStatus where
  totalCount := t.totalCount
  windowCount := t.windowCount
  windowDurationS := t.windowDurationNs / 10 ^ 9
  observedHz :=
    if 0 < t.windowGapCount ∧ 0 < t.windowDurationNs then
      t.windowGapCount / (t.windowDurationNs / 10 ^ 9)
    else 0
  maxGapMs := t.windowMaxGapNs / 10 ^ 6
  lastMessageStamp :=
    if 0 ≤ t.lastStampNs then (t.lastStampNs.tdiv (10 ^ 9), t.lastStampNs.tmod (10 ^ 9)) else (0, 0)
  silenceS := t.lastArrival.elim 0 fun arrival => now - arrival
  nonMonotonicCount := t.nonMonotonicCount

/-- What `snapshot` leaves. -/
def reset (t : StreamTracker) : StreamTracker :=
  { t with windowCount := 0, windowGapCount := 0, windowDurationNs := 0, windowMaxGapNs := 0 }

end StreamTracker

end D405

/-! ### The monitor -/

namespace Monitoring

/-- `StreamTracker` -/
structure StreamTracker where
  /-- `total_count` -/
  totalCount : ℕ
  /-- `non_monotonic_count` -/
  nonMonotonicCount : ℕ
  /-- `last_message_stamp_ns` -/
  lastMessageStampNs : Option ℤ
  /-- `last_arrival_s` -/
  lastArrivalS : Option ℚ
  /-- `window_count` -/
  windowCount : ℕ
  /-- `window_gap_count` -/
  windowGapCount : ℕ
  /-- `window_duration_ns` -/
  windowDurationNs : ℤ
  /-- `window_max_gap_ns` -/
  windowMaxGapNs : ℤ
  deriving DecidableEq

/-- `StreamSnapshot` -/
structure StreamSnapshot where
  /-- `total_count` -/
  totalCount : ℕ
  /-- `window_count` -/
  windowCount : ℕ
  /-- `window_duration_s` -/
  windowDurationS : ℚ
  /-- `observed_hz` -/
  observedHz : ℚ
  /-- `max_gap_ms` -/
  maxGapMs : ℚ
  /-- `last_message_stamp_ns` -/
  lastMessageStampNs : Option ℤ
  /-- `silence_s` -/
  silenceS : ℚ
  /-- `non_monotonic_count` -/
  nonMonotonicCount : ℕ
  deriving DecidableEq

namespace StreamTracker

/-- A new tracker. -/
def new : StreamTracker := ⟨0, 0, none, none, 0, 0, 0, 0⟩

/-- What `observe` makes of the gap to the last message. -/
def gap (t : StreamTracker) (messageStampNs : ℤ) : StreamTracker :=
  match t.lastMessageStampNs with
  | none => t
  | some last =>
    if messageStampNs - last ≤ 0 then { t with nonMonotonicCount := t.nonMonotonicCount + 1 }
    else { t with
      windowGapCount := t.windowGapCount + 1
      windowDurationNs := t.windowDurationNs + (messageStampNs - last)
      windowMaxGapNs := max t.windowMaxGapNs (messageStampNs - last) }

/-- `observe` -/
def observe (t : StreamTracker) (messageStampNs : ℤ) (arrivalS : ℚ) :
    Except String StreamTracker :=
  if messageStampNs < 0 then .error "message_stamp_ns must not be negative"
  else if t.lastArrivalS.any fun last => arrivalS < last then .error "arrival_s must be monotonic"
  else .ok { t.gap messageStampNs with
    totalCount := t.totalCount + 1
    windowCount := t.windowCount + 1
    lastMessageStampNs := some messageStampNs
    lastArrivalS := some arrivalS }

/-- `snapshot`, which resets the window. -/
def snapshot (t : StreamTracker) (nowS : ℚ) : Except String (StreamTracker × StreamSnapshot) :=
  if t.lastArrivalS.any fun last => nowS < last then
    .error "now_s must not precede the last arrival"
  else
    let durationS : ℚ := t.windowDurationNs / 10 ^ 9
    .ok ({ t with windowCount := 0, windowGapCount := 0, windowDurationNs := 0, windowMaxGapNs := 0 },
      { totalCount := t.totalCount
        windowCount := t.windowCount
        windowDurationS := durationS
        observedHz :=
          if 0 < t.windowGapCount ∧ 0 < durationS then t.windowGapCount / durationS else 0
        maxGapMs := t.windowMaxGapNs / 10 ^ 6
        lastMessageStampNs := t.lastMessageStampNs
        silenceS := t.lastArrivalS.elim 0 fun arrival => nowS - arrival
        nonMonotonicCount := t.nonMonotonicCount })

end StreamTracker

/-- What `StreamStatusReporter.publish` makes of a snapshot. -/
def StreamSnapshot.status (s : StreamSnapshot) : StreamStatus where
  totalCount := s.totalCount
  windowCount := s.windowCount
  windowDurationS := s.windowDurationS
  observedHz := s.observedHz
  maxGapMs := s.maxGapMs
  lastMessageStamp :=
    s.lastMessageStampNs.elim (0, 0) fun ns => (ns.fdiv (10 ^ 9), ns.fmod (10 ^ 9))
  silenceS := s.silenceS
  nonMonotonicCount := s.nonMonotonicCount

end Monitoring

/-! ### The recording -/

/-- `HeaderTiming` -/
structure HeaderTiming where
  /-- `count` -/
  count : ℕ
  /-- `first_ns` -/
  firstNs : Option ℤ
  /-- `last_ns` -/
  lastNs : Option ℤ
  /-- `max_gap_ns` -/
  maxGapNs : ℤ
  /-- `non_monotonic_count` -/
  nonMonotonicCount : ℕ
  deriving DecidableEq

namespace HeaderTiming

/-- Nothing was read. -/
def new : HeaderTiming := ⟨0, none, none, 0, 0⟩

/-- What `add` makes of the gap to the last stamp. -/
def gap (h : HeaderTiming) (stampNs : ℤ) : HeaderTiming :=
  match h.lastNs with
  | none => h
  | some last =>
    if stampNs - last ≤ 0 then { h with nonMonotonicCount := h.nonMonotonicCount + 1 }
    else { h with maxGapNs := max h.maxGapNs (stampNs - last) }

/-- `add` -/
def add (h : HeaderTiming) (stampNs : ℤ) : HeaderTiming :=
  { h.gap stampNs with
    firstNs := some (h.firstNs.getD stampNs)
    lastNs := some stampNs
    count := h.count + 1 }

/-- `duration_s` of `metrics`. -/
def durationS (h : HeaderTiming) : ℚ :=
  match h.firstNs, h.lastNs with
  | some first, some last => max 0 ((last - first : ℤ) / 10 ^ 9)
  | _, _ => 0

/-- `max_gap_ms` of `metrics`. -/
def maxGapMs (h : HeaderTiming) : ℚ := h.maxGapNs / 10 ^ 6

/-- The statistics of a recording. -/
def ofStamps (stamps : List ℤ) : HeaderTiming := stamps.foldl add new

end HeaderTiming

/-! ### Histories -/

/-- What happens to a tracker. -/
inductive StreamEvent
  | message (stampNs : ℤ)
  | snapshot
  deriving DecidableEq

/-- A history: what happened, and what the clock read. -/
abbrev StreamHistory := List (StreamEvent × ℚ)

/-- The stamps of the messages. -/
def StreamHistory.stamps (history : StreamHistory) : List ℤ :=
  history.filterMap fun x => match x.1 with
    | .message stampNs => some stampNs
    | .snapshot => none

theorem StreamHistory.stamps_append (history history' : StreamHistory) :
    stamps (history ++ history') = stamps history ++ stamps history' := List.filterMap_append

namespace D405

/-- An event at the camera source. -/
def step (x : StreamTracker × List StreamStatus) : StreamEvent × ℚ →
    StreamTracker × List StreamStatus
  | (.message stampNs, now) => (x.1.observe stampNs now, x.2)
  | (.snapshot, now) => (x.1.reset, x.2 ++ [x.1.status now])

/-- A history at the camera source. -/
def run (history : StreamHistory) : StreamTracker × List StreamStatus :=
  history.foldl step (.new, [])

end D405

namespace Monitoring

/-- An event at the monitor. -/
def step (x : StreamTracker × List StreamSnapshot) : StreamEvent × ℚ →
    Except String (StreamTracker × List StreamSnapshot)
  | (.message stampNs, now) => (x.1.observe stampNs now).map fun t => (t, x.2)
  | (.snapshot, now) => (x.1.snapshot now).map fun y => (y.1, x.2 ++ [y.2])

/-- A history at the monitor. -/
def run (history : StreamHistory) : Except String (StreamTracker × List StreamSnapshot) :=
  history.foldlM step (.new, [])

end Monitoring

/-! ### The two trackers -/

/-- The two trackers have seen the same. -/
structure SameTracker (c : D405.StreamTracker) (m : Monitoring.StreamTracker) : Prop where
  /-- The messages. -/
  totalCount : c.totalCount = m.totalCount
  /-- The messages of the window. -/
  windowCount : c.windowCount = m.windowCount
  /-- The gaps of the window. -/
  windowGapCount : c.windowGapCount = m.windowGapCount
  /-- The steps back. -/
  nonMonotonicCount : c.nonMonotonicCount = m.nonMonotonicCount
  /-- The duration of the window. -/
  windowDurationNs : c.windowDurationNs = m.windowDurationNs
  /-- The largest gap of the window. -/
  windowMaxGapNs : c.windowMaxGapNs = m.windowMaxGapNs
  /-- The last stamp, which is `-1` before the first message. -/
  lastStamp : c.lastStampNs = m.lastMessageStampNs.getD (-1)
  /-- Stamps are not negative. -/
  stamp_nonneg : ∀ stampNs ∈ m.lastMessageStampNs, 0 ≤ stampNs
  /-- The last arrival. -/
  lastArrival : c.lastArrival = m.lastArrivalS

theorem sameTracker_new : SameTracker .new .new :=
  ⟨rfl, rfl, rfl, rfl, rfl, rfl, rfl, nofun, rfl⟩

/-- A gap is the same for both. -/
theorem SameTracker.gap {c : D405.StreamTracker} {m : Monitoring.StreamTracker}
    (h : SameTracker c m) (stampNs : ℤ) : SameTracker (c.gap stampNs) (m.gap stampNs) := by
  have hlast := h.lastStamp
  have hnonneg := h.stamp_nonneg
  unfold D405.StreamTracker.gap Monitoring.StreamTracker.gap
  cases hm : m.lastMessageStampNs with
  | none =>
    rw [hm, Option.getD_none] at hlast
    rw [if_neg (by omega)]
    exact h
  | some last =>
    rw [hm, Option.getD_some] at hlast
    have hlast_nonneg := hnonneg last hm
    rw [if_pos (by omega), hlast]
    simp only
    by_cases hgap : stampNs - last ≤ 0
    · rw [if_pos hgap, if_pos hgap]
      exact { h with
        nonMonotonicCount := by simp [h.nonMonotonicCount]
        lastStamp := rfl
        stamp_nonneg := by simpa using hlast_nonneg }
    · rw [if_neg hgap, if_neg hgap]
      exact { h with
        windowGapCount := by simp [h.windowGapCount]
        windowDurationNs := by simp [h.windowDurationNs]
        windowMaxGapNs := by simp [h.windowMaxGapNs]
        lastStamp := rfl
        stamp_nonneg := by simpa using hlast_nonneg }

/-- A message is the same for both. -/
theorem SameTracker.observe {c : D405.StreamTracker} {m : Monitoring.StreamTracker}
    (h : SameTracker c m) {stampNs : ℤ} {now : ℚ} (hstamp : 0 ≤ stampNs)
    (hnow : ∀ arrival ∈ m.lastArrivalS, arrival ≤ now) :
    ∃ m', m.observe stampNs now = .ok m' ∧ m'.lastArrivalS = some now ∧
      SameTracker (c.observe stampNs now) m' := by
  have hgap := h.gap stampNs
  have hclock : ¬ m.lastArrivalS.any (fun last => decide (now < last)) := by
    cases hm : m.lastArrivalS with
    | none => simp
    | some last => simpa using hnow last hm
  unfold Monitoring.StreamTracker.observe
  rw [if_neg (by omega), if_neg hclock]
  exact ⟨_, rfl, rfl, by simp [D405.StreamTracker.observe, h.totalCount],
    by simp [D405.StreamTracker.observe, h.windowCount], hgap.windowGapCount,
    hgap.nonMonotonicCount, hgap.windowDurationNs, hgap.windowMaxGapNs, rfl,
    by rintro s ⟨⟩; exact hstamp, rfl⟩

/-- A snapshot is the same for both. -/
theorem SameTracker.snapshot {c : D405.StreamTracker} {m : Monitoring.StreamTracker}
    (h : SameTracker c m) {now : ℚ} (hnow : ∀ arrival ∈ m.lastArrivalS, arrival ≤ now) :
    ∃ m' s, m.snapshot now = .ok (m', s) ∧ m'.lastArrivalS = m.lastArrivalS ∧
      s.status = c.status now ∧ SameTracker c.reset m' := by
  have hclock : ¬ m.lastArrivalS.any (fun last => decide (now < last)) := by
    cases hm : m.lastArrivalS with
    | none => simp
    | some last => simpa using hnow last hm
  have hduration : (0 : ℚ) < m.windowDurationNs / 10 ^ 9 ↔ 0 < m.windowDurationNs := by
    rw [lt_div_iff₀ (by norm_num), zero_mul]
    exact Int.cast_pos
  unfold Monitoring.StreamTracker.snapshot
  rw [if_neg hclock]
  refine ⟨_, _, rfl, rfl, ?_, h.totalCount, rfl, rfl, h.nonMonotonicCount, rfl, rfl, h.lastStamp,
    h.stamp_nonneg, h.lastArrival⟩
  simp only [Monitoring.StreamSnapshot.status, D405.StreamTracker.status, h.totalCount,
    h.windowCount, h.windowGapCount, h.nonMonotonicCount, h.windowDurationNs, h.windowMaxGapNs,
    h.lastArrival, hduration, StreamStatus.mk.injEq, true_and, and_true]
  -- division rounds down in one language and towards zero in the other
  have hlast := h.lastStamp
  have hnonneg := h.stamp_nonneg
  cases hm : m.lastMessageStampNs with
  | none =>
    rw [hm, Option.getD_none] at hlast
    rw [if_neg (by omega)]
    rfl
  | some last =>
    rw [hm, Option.getD_some] at hlast
    have hlast_nonneg := hnonneg last hm
    rw [if_pos (by omega), hlast]
    simp [Int.fdiv_eq_tdiv_of_nonneg, Int.fmod_eq_tmod_of_nonneg, hlast_nonneg]

/-- A history is the same for both, under a clock that does not go back. -/
theorem run_agree {history : StreamHistory}
    (hstamps : ∀ stampNs ∈ history.stamps, 0 ≤ stampNs)
    (hclock : (history.map Prod.snd).Pairwise (· ≤ ·)) :
    ∃ m snapshots, Monitoring.run history = .ok (m, snapshots) ∧
      snapshots.map Monitoring.StreamSnapshot.status = (D405.run history).2 ∧
      SameTracker (D405.run history).1 m ∧
      ∀ arrival ∈ m.lastArrivalS, ∃ x ∈ history, x.2 = arrival := by
  induction history using List.reverseRecOn with
  | nil => exact ⟨_, _, rfl, rfl, sameTracker_new, nofun⟩
  | append_singleton history x ih =>
    obtain ⟨event, now⟩ := x
    rw [List.map_append, List.pairwise_append] at hclock
    rw [StreamHistory.stamps_append] at hstamps
    have hstamps' : ∀ stampNs ∈ StreamHistory.stamps history, 0 ≤ stampNs := fun s hs =>
      hstamps s (List.mem_append_left _ hs)
    obtain ⟨m, snapshots, hrun, hstatus, hsame, harrival⟩ := ih hstamps' hclock.1
    have hnow : ∀ arrival ∈ m.lastArrivalS, arrival ≤ now := by
      intro arrival ha
      obtain ⟨x, hx, rfl⟩ := harrival arrival ha
      exact hclock.2.2 x.2 (List.mem_map_of_mem hx) now (by simp)
    have hstep : Monitoring.run (history ++ [(event, now)]) =
        Monitoring.step (m, snapshots) (event, now) := by
      rw [Monitoring.run, List.foldlM_append]
      rw [Monitoring.run] at hrun
      rw [hrun]
      change (List.foldlM Monitoring.step (m, snapshots) [(event, now)]) = _
      simp
    have hcpp : D405.run (history ++ [(event, now)]) =
        D405.step (D405.run history) (event, now) := by
      rw [D405.run, List.foldl_append]
      rfl
    rw [hstep, hcpp]
    cases event with
    | message stampNs =>
      have hstamp : 0 ≤ stampNs :=
        hstamps stampNs (List.mem_append_right _ (List.mem_singleton_self _))
      obtain ⟨m', hm', harrival', hsame'⟩ := hsame.observe hstamp hnow
      refine ⟨m', snapshots, by simp [Monitoring.step, hm', Except.map], hstatus, hsame', ?_⟩
      rw [harrival']
      rintro arrival ⟨⟩
      exact ⟨_, List.mem_append_right _ (List.mem_singleton_self _), rfl⟩
    | snapshot =>
      obtain ⟨m', s, hm', harrival', hs, hsame'⟩ := hsame.snapshot hnow
      refine ⟨m', snapshots ++ [s], by simp [Monitoring.step, hm', Except.map], ?_, hsame', ?_⟩
      · rw [List.map_append, hstatus, List.map_singleton, hs]
        rfl
      · rw [harrival']
        intro arrival ha
        obtain ⟨x, hx, hxa⟩ := harrival arrival ha
        exact ⟨x, List.mem_append_left _ hx, hxa⟩

/-! ### The recording and the windows -/

/-- The durations of the windows, the current one included. -/
def windowsDurationS (x : D405.StreamTracker × List StreamStatus) : ℚ :=
  (x.2.map StreamStatus.windowDurationS).sum + x.1.windowDurationNs / 10 ^ 9

/-- From the first stamp to the last. -/
def HeaderTiming.spanS (h : HeaderTiming) : ℚ := ((h.lastNs.getD 0 - h.firstNs.getD 0 : ℤ) : ℚ) / 10 ^ 9

/-- What a tracker and its windows have to do with the recording of the same messages. -/
structure Covers (x : D405.StreamTracker × List StreamStatus) (h : HeaderTiming) : Prop where
  /-- The messages. -/
  totalCount : x.1.totalCount = h.count
  /-- The steps back. -/
  nonMonotonicCount : x.1.nonMonotonicCount = h.nonMonotonicCount
  /-- The last stamp. -/
  lastStamp : x.1.lastStampNs = h.lastNs.getD (-1)
  /-- Stamps are not negative. -/
  stamp_nonneg : ∀ stampNs ∈ h.lastNs, 0 ≤ stampNs
  /-- There is a first stamp when there is a last one. -/
  first : h.firstNs.isSome = h.lastNs.isSome
  /-- A window has no gap that is larger than the largest. -/
  maxGap_le : (x.1.windowMaxGapNs ≤ h.maxGapNs) ∧ ∀ s ∈ x.2, s.maxGapMs ≤ h.maxGapMs
  /-- One window has the largest. -/
  maxGap_mem : x.1.windowMaxGapNs = h.maxGapNs ∨ ∃ s ∈ x.2, s.maxGapMs = h.maxGapMs
  /-- The largest gap is not negative, and that of the window is not. -/
  maxGap_nonneg : 0 ≤ x.1.windowMaxGapNs
  /-- Durations are not negative. -/
  duration_nonneg : 0 ≤ windowsDurationS x
  /-- A step back is not taken off the durations. -/
  span_le : h.spanS ≤ windowsDurationS x
  /-- Without a step back they add up. -/
  span_eq : h.nonMonotonicCount = 0 → windowsDurationS x = h.spanS

theorem covers_new : Covers (.new, []) .new := by
  refine ⟨rfl, rfl, rfl, nofun, rfl, ⟨le_rfl, nofun⟩, .inl rfl, le_rfl, ?_, ?_, ?_⟩
  · simp [windowsDurationS, D405.StreamTracker.new]
  · simp [windowsDurationS, D405.StreamTracker.new, HeaderTiming.spanS, HeaderTiming.new]
  · simp [windowsDurationS, D405.StreamTracker.new, HeaderTiming.spanS, HeaderTiming.new]

section Message

variable {c : D405.StreamTracker} {windows : List StreamStatus} {h : HeaderTiming} {stampNs : ℤ}

variable (stampNs) in
/-- The span grows by the gap. -/
theorem HeaderTiming.spanS_add {first last : ℤ} (hf : h.firstNs = some first)
    (hl : h.lastNs = some last) :
    (h.add stampNs).spanS = h.spanS + ((stampNs - last : ℤ) : ℚ) / 10 ^ 9 := by
  simp only [spanS, add, hf, hl, Option.getD_some]
  push_cast
  ring

/-- The first message. -/
theorem Covers.first_message (hx : Covers (c, windows) h) (hl : h.lastNs = none)
    (hstamp : 0 ≤ stampNs) (now : ℚ) : Covers (c.observe stampNs now, windows) (h.add stampNs) := by
  have hf : h.firstNs = none := by
    have hsome := hx.first
    rw [hl] at hsome
    simpa using hsome
  have hlast : c.lastStampNs = -1 := by
    have := hx.lastStamp
    rwa [hl] at this
  have hc : c.gap stampNs = c := if_neg (by omega)
  have hh : h.gap stampNs = h := by rw [HeaderTiming.gap, hl]
  have hspan : (h.add stampNs).spanS = h.spanS := by
    simp [HeaderTiming.spanS, HeaderTiming.add, hf, hl]
  have hmax : (h.add stampNs).maxGapMs = h.maxGapMs := by
    rw [HeaderTiming.maxGapMs, HeaderTiming.add, hh, HeaderTiming.maxGapMs]
  have hduration : windowsDurationS (c.observe stampNs now, windows) =
      windowsDurationS (c, windows) := by
    rw [windowsDurationS, D405.StreamTracker.observe, hc, windowsDurationS]
  constructor
  · exact congrArg (· + 1) hx.totalCount
  · rw [D405.StreamTracker.observe, hc, HeaderTiming.add, hh]
    exact hx.nonMonotonicCount
  · rfl
  · rintro s ⟨⟩
    exact hstamp
  · rfl
  · rw [hmax, D405.StreamTracker.observe, hc, HeaderTiming.add, hh]
    exact hx.maxGap_le
  · rw [hmax, D405.StreamTracker.observe, hc, HeaderTiming.add, hh]
    exact hx.maxGap_mem
  · rw [D405.StreamTracker.observe, hc]
    exact hx.maxGap_nonneg
  · rw [hduration]
    exact hx.duration_nonneg
  · rw [hduration, hspan]
    exact hx.span_le
  · rw [hduration, hspan, HeaderTiming.add, hh]
    exact hx.span_eq

/-- A message whose stamp is not later than the last. -/
theorem Covers.step_back (hx : Covers (c, windows) h) {first last : ℤ} (hf : h.firstNs = some first)
    (hl : h.lastNs = some last) (hgap : stampNs - last ≤ 0) (hstamp : 0 ≤ stampNs) (now : ℚ) :
    Covers (c.observe stampNs now, windows) (h.add stampNs) := by
  have hlast : c.lastStampNs = last := by
    have := hx.lastStamp
    rwa [hl] at this
  have hlast_nonneg := hx.stamp_nonneg last hl
  have hc : c.gap stampNs = { c with nonMonotonicCount := c.nonMonotonicCount + 1 } := by
    rw [D405.StreamTracker.gap, if_pos (by omega), if_pos (by omega)]
  have hh : h.gap stampNs = { h with nonMonotonicCount := h.nonMonotonicCount + 1 } := by
    rw [HeaderTiming.gap, hl]
    exact if_pos hgap
  have hspan := HeaderTiming.spanS_add stampNs hf hl
  have hmax : (h.add stampNs).maxGapMs = h.maxGapMs := by
    rw [HeaderTiming.maxGapMs, HeaderTiming.add, hh, HeaderTiming.maxGapMs]
  have hduration : windowsDurationS (c.observe stampNs now, windows) =
      windowsDurationS (c, windows) := by
    rw [windowsDurationS, D405.StreamTracker.observe, hc, windowsDurationS]
  constructor
  · exact congrArg (· + 1) hx.totalCount
  · rw [D405.StreamTracker.observe, hc, HeaderTiming.add, hh]
    exact congrArg (· + 1) hx.nonMonotonicCount
  · rfl
  · rintro s ⟨⟩
    exact hstamp
  · rfl
  · rw [hmax, D405.StreamTracker.observe, hc, HeaderTiming.add, hh]
    exact hx.maxGap_le
  · rw [hmax, D405.StreamTracker.observe, hc, HeaderTiming.add, hh]
    exact hx.maxGap_mem
  · rw [D405.StreamTracker.observe, hc]
    exact hx.maxGap_nonneg
  · rw [hduration]
    exact hx.duration_nonneg
  · have hback : ((stampNs - last : ℤ) : ℚ) / 10 ^ 9 ≤ 0 :=
      div_nonpos_of_nonpos_of_nonneg (by exact_mod_cast hgap) (by positivity)
    have hle := hx.span_le
    rw [hduration, hspan]
    linarith
  · intro hzero
    rw [HeaderTiming.add, hh] at hzero
    exact absurd hzero (Nat.succ_ne_zero _)

/-- A message whose stamp is later than the last. -/
theorem Covers.step_forward (hx : Covers (c, windows) h) {first last : ℤ}
    (hf : h.firstNs = some first) (hl : h.lastNs = some last) (hgap : ¬ stampNs - last ≤ 0)
    (hstamp : 0 ≤ stampNs) (now : ℚ) :
    Covers (c.observe stampNs now, windows) (h.add stampNs) := by
  have hlast : c.lastStampNs = last := by
    have := hx.lastStamp
    rwa [hl] at this
  have hlast_nonneg := hx.stamp_nonneg last hl
  have hc : c.gap stampNs = { c with
      windowGapCount := c.windowGapCount + 1
      windowDurationNs := c.windowDurationNs + (stampNs - last)
      windowMaxGapNs := max c.windowMaxGapNs (stampNs - last) } := by
    rw [D405.StreamTracker.gap, if_pos (by omega), if_neg (by omega), hlast]
  have hh : h.gap stampNs = { h with maxGapNs := max h.maxGapNs (stampNs - last) } := by
    rw [HeaderTiming.gap, hl]
    exact if_neg hgap
  have hspan := HeaderTiming.spanS_add stampNs hf hl
  have hmaxNs : (h.add stampNs).maxGapNs = max h.maxGapNs (stampNs - last) := by
    rw [HeaderTiming.add, hh]
  have hmax : h.maxGapMs ≤ (h.add stampNs).maxGapMs := by
    rw [HeaderTiming.maxGapMs, HeaderTiming.maxGapMs, hmaxNs]
    have : (h.maxGapNs : ℚ) ≤ (max h.maxGapNs (stampNs - last) : ℤ) := by
      exact_mod_cast le_max_left _ _
    exact div_le_div_of_nonneg_right this (by positivity)
  have hgap_pos : (0 : ℚ) ≤ ((stampNs - last : ℤ) : ℚ) / 10 ^ 9 :=
    div_nonneg (by exact_mod_cast (by omega : 0 ≤ stampNs - last)) (by positivity)
  have hduration : windowsDurationS (c.observe stampNs now, windows) =
      windowsDurationS (c, windows) + ((stampNs - last : ℤ) : ℚ) / 10 ^ 9 := by
    rw [windowsDurationS, D405.StreamTracker.observe, hc, windowsDurationS]
    push_cast
    ring
  obtain ⟨hle, hles⟩ := hx.maxGap_le
  have hnonneg := hx.maxGap_nonneg
  simp only at hle hles hnonneg
  constructor
  · exact congrArg (· + 1) hx.totalCount
  · rw [D405.StreamTracker.observe, hc, HeaderTiming.add, hh]
    exact hx.nonMonotonicCount
  · rfl
  · rintro s ⟨⟩
    exact hstamp
  · rfl
  · refine ⟨?_, fun s hs => (hles s hs).trans hmax⟩
    rw [hmaxNs, D405.StreamTracker.observe, hc]
    exact max_le_max_right _ hle
  · -- the gap is the largest, or the largest is where it was
    by_cases hlarge : stampNs - last ≤ h.maxGapNs
    · have hsame : (h.add stampNs).maxGapNs = h.maxGapNs := hmaxNs.trans (max_eq_left hlarge)
      rcases hx.maxGap_mem with hcur | ⟨s, hs, hmem⟩
      · refine .inl ?_
        simp only at hcur
        rw [hsame, D405.StreamTracker.observe, hc]
        simp only
        omega
      · refine .inr ⟨s, hs, ?_⟩
        rw [hmem, HeaderTiming.maxGapMs, HeaderTiming.maxGapMs, hsame]
    · refine .inl ?_
      rw [hmaxNs, D405.StreamTracker.observe, hc]
      simp only
      omega
  · rw [D405.StreamTracker.observe, hc]
    exact hnonneg.trans (le_max_left _ _)
  · rw [hduration]
    exact add_nonneg hx.duration_nonneg hgap_pos
  · rw [hduration, hspan]
    exact add_le_add_left hx.span_le _
  · intro hzero
    rw [HeaderTiming.add, hh] at hzero
    rw [hduration, hspan, hx.span_eq hzero]

/-- A message is counted by both. -/
theorem Covers.message (hx : Covers (c, windows) h) (hstamp : 0 ≤ stampNs) (now : ℚ) :
    Covers (c.observe stampNs now, windows) (h.add stampNs) := by
  cases hl : h.lastNs with
  | none => exact hx.first_message hl hstamp now
  | some last =>
    obtain ⟨first, hf⟩ : ∃ first, h.firstNs = some first := by
      have hsome := hx.first
      rw [hl, Option.isSome_some] at hsome
      exact Option.isSome_iff_exists.1 hsome
    by_cases hgap : stampNs - last ≤ 0
    · exact hx.step_back hf hl hgap hstamp now
    · exact hx.step_forward hf hl hgap hstamp now

/-- When a snapshot is taken, one of the windows has the largest gap. -/
theorem Covers.snapshot_mem (hx : Covers (c, windows) h) (now : ℚ) :
    ∃ s ∈ windows ++ [c.status now], s.maxGapMs = h.maxGapMs := by
  rcases hx.maxGap_mem with hcur | ⟨s, hs, hmem⟩
  · refine ⟨c.status now, List.mem_append_right _ (List.mem_singleton_self _), ?_⟩
    simp only at hcur
    rw [D405.StreamTracker.status, hcur, HeaderTiming.maxGapMs]
  · exact ⟨s, List.mem_append_left _ hs, hmem⟩

/-- A snapshot moves the window to the others. -/
theorem Covers.snapshot (hx : Covers (c, windows) h) (now : ℚ) :
    Covers (c.reset, windows ++ [c.status now]) h := by
  have hduration : windowsDurationS (c.reset, windows ++ [c.status now]) =
      windowsDurationS (c, windows) := by
    simp [windowsDurationS, D405.StreamTracker.reset, D405.StreamTracker.status]
  have hms : ∀ ns : ℤ, ns ≤ h.maxGapNs → (ns : ℚ) / 10 ^ 6 ≤ h.maxGapMs := by
    intro ns hns
    exact div_le_div_of_nonneg_right (by exact_mod_cast hns) (by positivity)
  obtain ⟨hle, hles⟩ := hx.maxGap_le
  have hnonneg := hx.maxGap_nonneg
  simp only at hle hles hnonneg
  refine ⟨hx.totalCount, hx.nonMonotonicCount, hx.lastStamp, hx.stamp_nonneg, hx.first,
    ⟨hnonneg.trans hle, ?_⟩, .inr (hx.snapshot_mem now), le_rfl, ?_, ?_, ?_⟩
  · intro s hs
    rcases List.mem_append.1 hs with hs | hs
    · exact hles s hs
    · obtain rfl := List.mem_singleton.1 hs
      exact hms _ hle
  · rw [hduration]
    exact hx.duration_nonneg
  · rw [hduration]
    exact hx.span_le
  · rw [hduration]
    exact hx.span_eq

end Message

/-- The tracker and the recording of the same history. -/
theorem covers_run {history : StreamHistory}
    (hstamps : ∀ stampNs ∈ StreamHistory.stamps history, 0 ≤ stampNs) :
    Covers (D405.run history) (.ofStamps (StreamHistory.stamps history)) := by
  induction history using List.reverseRecOn with
  | nil => exact covers_new
  | append_singleton history x ih =>
    obtain ⟨event, now⟩ := x
    rw [StreamHistory.stamps_append] at hstamps
    have ih := ih fun s hs => hstamps s (List.mem_append_left _ hs)
    have hrun : D405.run (history ++ [(event, now)]) =
        D405.step (D405.run history) (event, now) := by
      rw [D405.run, List.foldl_append]
      rfl
    rw [hrun, StreamHistory.stamps_append]
    cases event with
    | message stampNs =>
      have hstamp : 0 ≤ stampNs :=
        hstamps stampNs (List.mem_append_right _ (List.mem_singleton_self _))
      have hadd : HeaderTiming.ofStamps (StreamHistory.stamps history ++ [stampNs]) =
          (HeaderTiming.ofStamps (StreamHistory.stamps history)).add stampNs := by
        rw [HeaderTiming.ofStamps, List.foldl_append]
        rfl
      change Covers _ (.ofStamps (StreamHistory.stamps history ++ [stampNs]))
      rw [hadd]
      exact ih.message hstamp now
    | snapshot =>
      change Covers _ (.ofStamps (StreamHistory.stamps history ++ []))
      rw [List.append_nil]
      exact ih.snapshot now

/-! ### Agreement -/

/-- The statuses of a stream say what its recording says. -/
structure StatisticsAgree (statuses : List StreamStatus) (h : HeaderTiming) : Prop where
  /-- The last status has the counts of the recording. -/
  counts : ∃ last ∈ statuses.getLast?, last.totalCount = h.count ∧
    last.nonMonotonicCount = h.nonMonotonicCount
  /-- The largest gap is the largest of the windows' largest gaps. -/
  maxGap : h.maxGapMs ∈ statuses.map StreamStatus.maxGapMs ∧
    ∀ gap ∈ statuses.map StreamStatus.maxGapMs, gap ≤ h.maxGapMs
  /-- The windows are not shorter than the recording. -/
  duration_le : h.durationS ≤ (statuses.map StreamStatus.windowDurationS).sum
  /-- Without a step back they are not longer. -/
  duration_eq : h.nonMonotonicCount = 0 →
    (statuses.map StreamStatus.windowDurationS).sum = h.durationS

theorem HeaderTiming.durationS_eq {h : HeaderTiming} (hfirst : h.firstNs.isSome = h.lastNs.isSome) :
    h.durationS = max 0 h.spanS := by
  unfold durationS spanS
  cases hf : h.firstNs with
  | none =>
    cases hl : h.lastNs with
    | none => simp
    | some last => simp [hf, hl] at hfirst
  | some first =>
    cases hl : h.lastNs with
    | none => simp [hf, hl] at hfirst
    | some last => rfl

/-- The two trackers and the recording agree on a history that ends with a snapshot. -/
theorem statistics_agree {history : StreamHistory} {now : ℚ}
    (hstamps : ∀ stampNs ∈ StreamHistory.stamps history, 0 ≤ stampNs)
    (hclock : ((history ++ [(StreamEvent.snapshot, now)]).map Prod.snd).Pairwise (· ≤ ·)) :
    ∃ m snapshots, Monitoring.run (history ++ [(StreamEvent.snapshot, now)]) = .ok (m, snapshots) ∧
      snapshots.map Monitoring.StreamSnapshot.status =
        (D405.run (history ++ [(StreamEvent.snapshot, now)])).2 ∧
      StatisticsAgree (D405.run (history ++ [(StreamEvent.snapshot, now)])).2
        (.ofStamps (StreamHistory.stamps history)) := by
  have hstamps' : ∀ stampNs ∈ StreamHistory.stamps (history ++ [(StreamEvent.snapshot, now)]), 0 ≤ stampNs := by
    rw [StreamHistory.stamps_append]
    intro stampNs hmem
    rcases List.mem_append.1 hmem with hmem | hmem
    · exact hstamps stampNs hmem
    · cases hmem
  obtain ⟨m, snapshots, hrun, hstatus, -, -⟩ := run_agree hstamps' hclock
  refine ⟨m, snapshots, hrun, hstatus, ?_⟩
  have hcovers := covers_run hstamps
  have hfinal : D405.run (history ++ [(StreamEvent.snapshot, now)]) =
      D405.step (D405.run history) (.snapshot, now) := by
    rw [D405.run, List.foldl_append]
    rfl
  have hclosed := hcovers.snapshot now
  have hsum : windowsDurationS ((D405.run history).1.reset,
        (D405.run history).2 ++ [(D405.run history).1.status now]) =
      (((D405.run history).2 ++ [(D405.run history).1.status now]).map
        StreamStatus.windowDurationS).sum := by
    simp [windowsDurationS, D405.StreamTracker.reset]
  have hduration := HeaderTiming.durationS_eq hclosed.first
  rw [hfinal]
  refine ⟨⟨_, List.getLast?_concat, hcovers.totalCount, hcovers.nonMonotonicCount⟩,
    ⟨List.mem_map.2 (hcovers.snapshot_mem now), ?_⟩, ?_, ?_⟩
  · intro gap hgap
    obtain ⟨s, hs, rfl⟩ := List.mem_map.1 hgap
    exact hclosed.maxGap_le.2 s hs
  · rw [hduration]
    exact hsum ▸ max_le hclosed.duration_nonneg hclosed.span_le
  · intro hzero
    have hspan := hclosed.span_eq hzero
    have hnonneg := hclosed.duration_nonneg
    rw [hduration]
    rw [hspan] at hnonneg
    rw [max_eq_right hnonneg, ← hspan]
    exact hsum.symm

/-- Three messages, the last of which steps back, in two windows. -/
theorem statistics_agree_steps :
    let history : StreamHistory :=
      [(.message 0, 0), (.message (10 ^ 9), 1), (.snapshot, 1), (.message 5, 2)]
    ∃ m snapshots, Monitoring.run (history ++ [(StreamEvent.snapshot, 2)]) = .ok (m, snapshots) ∧
      snapshots.map Monitoring.StreamSnapshot.status =
        (D405.run (history ++ [(StreamEvent.snapshot, 2)])).2 ∧
      StatisticsAgree (D405.run (history ++ [(StreamEvent.snapshot, 2)])).2
        (.ofStamps (StreamHistory.stamps history)) :=
  statistics_agree (by decide) (by decide +kernel)

end DualCollection
