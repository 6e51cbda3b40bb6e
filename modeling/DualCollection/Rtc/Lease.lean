import DualCollection.Rtc.Sections

/-!
# The invariant of a scheduler

`Inv` ties the counters of a scheduler, its pending request and its log together; it holds in
every state.  `Good` says that, while the gate is open, the queue is what is left of the window of
the response that was accepted last.  It holds except between a publishing section that raised and
the `_fail` that follows it, so it is kept as an assertion of the scheduler's thread.

The lemmas go through the assignments of the sections; `Changes.inv` puts them together.
-/

namespace DualCollection

open Thread

namespace Rtc

variable (p : RtcParameters) (w : ℕ)

/-- The invariant. -/
structure Inv (s : Rtc) : Prop where
  /-- Everything that was observed was as expected. -/
  history : Throughout (Expected p w) s.log
  /-- `_issued_total` counts the commands of the epoch. -/
  ticks : s.issuedTotal = ticks s.log
  /-- `_last_published_command` is the last command of the epoch. -/
  published : s.lastPublishedCommand = (lastPublished s.log).map (·.command)
  /-- The pending request is the one that was submitted last. -/
  inFlight : ∀ pending, s.pending = some pending → inFlight s.log = some pending
  /-- A lease belongs to an Episode. -/
  episode : s.pending ≠ none ∨ s.gateOpen = true → s.episodeId ≠ none
  /-- While the first request of a lease is pending, nothing can be published. -/
  bootstrap : ∀ pending, s.pending = some pending → pending.bootstrap = true →
    s.gateOpen = false ∧ s.queue = [] ∧ pending.issuedAtSubmit = s.issuedTotal
  /-- Any other request was submitted after `prefetch_after_steps` commands of the window. -/
  overlap : ∀ pending, s.pending = some pending → pending.bootstrap = false →
    0 < pending.issuedAtSubmit ∧ p.rollout.prefetchAfterSteps ≤ s.issuedSinceSplice ∧
      pending.issuedAtSubmit + s.issuedSinceSplice =
        s.issuedTotal + p.rollout.prefetchAfterSteps ∧
      s.issuedSinceSplice + s.queue.length ≤ w
  /-- Before a request is submitted there is nothing. -/
  fresh : Fresh s.log → Cleared s
  /-- Delays are observed against the trained range. -/
  delay : s.delay.maximumExclusive = p.checkpoint.maxDelaySteps
  /-- The gate is open only after it was opened. -/
  opened : s.gateOpen = true → Opened s.log
  /-- The second stage of an EXPO request was begun before. -/
  finishing : ∀ e, s.finishing = some e → e ≤ s.controlEpoch

/-- The queue is what is left of the window of the response `a`. -/
structure LeaseOk (s : Rtc) (a : Acceptance) : Prop where
  /-- The queue is the rest of the window. -/
  queue : s.queue = a.window.drop s.issuedSinceSplice
  /-- The next command is the row for its tick. -/
  issued : s.issuedTotal = a.pending.issuedAtSubmit + a.start + s.issuedSinceSplice
  /-- No more commands were issued than the window has. -/
  bound : s.issuedSinceSplice ≤ w
  /-- The next command continues the last published one. -/
  head : ∀ q ∈ s.queue.head?, Continues p a s.lastPublishedCommand q.command
  /-- The next request is submitted after `prefetch_after_steps` commands. -/
  request : s.pending = none → s.issuedSinceSplice < p.rollout.prefetchAfterSteps
  /-- The request in flight is pending. -/
  inFlight : Rtc.inFlight s.log = s.pending

/-- While the gate is open, the queue belongs to the response that was accepted last. -/
def Good (s : Rtc) : Prop :=
  s.gateOpen = true → ∃ a, lastAccepted s.log = some a ∧ LeaseOk p w s a

variable {p w} {s s' : Rtc} {r : Option Failure}

theorem Good.of_closed (h : s.gateOpen = false) : Good p w s := fun h' => by rw [h] at h'; cases h'

/-- The response that was accepted last was as expected. -/
theorem lastAccepted_splice {log : List RtcEvent} (h : Throughout (Expected p w) log)
    {a : Acceptance} (ha : lastAccepted log = some a) : ∃ earlier, Splice p w a earlier := by
  induction log with
  | nil => simp [lastAccepted] at ha
  | cons x log ih =>
    cases x with
    | reset => simp [lastAccepted] at ha
    | accepted b =>
      obtain rfl : b = a := by simpa [lastAccepted] using ha
      exact ⟨log, h.1⟩
    | closed => exact ih h.2 ha
    | opened => exact ih h.2 ha
    | submitted pending => exact ih h.2 ha
    | finishing pending => exact ih h.2 ha
    | published t q => exact ih h.2 ha
    | faultTaken f => exact ih h.2 ha

theorem inv_init : Inv p w (init p) where
  history := trivial
  ticks := rfl
  published := rfl
  inFlight := (by intros; contradiction)
  episode := by simp [init]
  bootstrap := (by intros; contradiction)
  overlap := (by intros; contradiction)
  fresh := fun _ => ⟨rfl, rfl, rfl⟩
  delay := rfl
  opened := (by intros; contradiction)
  finishing := (by intros; contradiction)

/-! ### Assignments that keep the lease -/

theorem Inv.scheduled (h : Inv p w s) (nextS : Option ℚ) : Inv p w (s.scheduled nextS) :=
  ⟨h.history, h.ticks, h.published, h.inFlight, h.episode, h.bootstrap, h.overlap,
    fun hf => ⟨(h.fresh hf).gateOpen, (h.fresh hf).pending, (h.fresh hf).queue⟩, h.delay,
    h.opened, h.finishing⟩

theorem Inv.unfinished (h : Inv p w s) : Inv p w { s with finishing := none } :=
  ⟨h.history, h.ticks, h.published, h.inFlight, h.episode, h.bootstrap, h.overlap,
    fun hf => ⟨(h.fresh hf).gateOpen, (h.fresh hf).pending, (h.fresh hf).queue⟩, h.delay,
    h.opened, (by simp)⟩

theorem Inv.completed (h : Inv p w s) (future : ℕ) (result : Except PyError PolicyResult) :
    Inv p w (s.completed future result) := by
  unfold Rtc.completed
  split
  · exact ⟨h.history, h.ticks, h.published, h.inFlight, h.episode, h.bootstrap, h.overlap,
      fun hf => ⟨(h.fresh hf).gateOpen, (h.fresh hf).pending, (h.fresh hf).queue⟩, h.delay,
      h.opened, h.finishing⟩
  · exact h

theorem Inv.faultTaken (h : Inv p w s) : Inv p w s.faultTaken := by
  unfold Rtc.faultTaken
  cases s.fault with
  | none =>
    exact ⟨h.history, h.ticks, h.published, h.inFlight, h.episode, h.bootstrap, h.overlap,
      fun hf => ⟨(h.fresh hf).gateOpen, (h.fresh hf).pending, (h.fresh hf).queue⟩, h.delay,
      h.opened, h.finishing⟩
  | some f =>
    exact ⟨⟨trivial, h.history⟩, h.ticks, h.published, h.inFlight, h.episode, h.bootstrap,
      h.overlap, fun hf => ⟨(h.fresh hf).gateOpen, (h.fresh hf).pending, (h.fresh hf).queue⟩,
      h.delay, h.opened, h.finishing⟩

/-! ### Assignments that end the lease -/

theorem Inv.closed (h : Inv p w s) : Inv p w s.closed where
  history := ⟨trivial, h.history⟩
  ticks := h.ticks
  published := h.published
  inFlight := h.inFlight
  episode := fun he => h.episode (.inl (by simpa using he))
  bootstrap := fun pending hp hb => ⟨rfl, (h.bootstrap pending hp hb).2⟩
  overlap := h.overlap
  fresh := fun hf => ⟨rfl, (h.fresh hf).pending, (h.fresh hf).queue⟩
  delay := h.delay
  opened := (by simp)
  finishing := h.finishing

theorem Inv.resetTo (h : Inv p w s) {controlEpoch : ℕ} (hle : s.controlEpoch ≤ controlEpoch) :
    Inv p w (s.resetTo controlEpoch) where
  history := ⟨trivial, h.history⟩
  ticks := rfl
  published := rfl
  inFlight := (by simp)
  episode := by simp
  bootstrap := (by simp)
  overlap := (by simp)
  fresh := fun _ => ⟨rfl, rfl, rfl⟩
  delay := h.delay
  opened := (by simp)
  finishing := fun e he => (h.finishing e he).trans hle

theorem Inv.stopped (h : Inv p w s) (f : Failure) : Inv p w (s.stopped f) where
  history := h.history
  ticks := h.ticks
  published := h.published
  inFlight := (by simp)
  episode := by simp
  bootstrap := (by simp)
  overlap := (by simp)
  fresh := fun _ => ⟨rfl, rfl, rfl⟩
  delay := h.delay
  opened := (by simp)
  finishing := h.finishing

/-! ### Requests -/

theorem Inv.identified (h : Inv p w s) (hs : Cleared s) (episodeId : String) :
    Inv p w (s.identified episodeId) where
  history := h.history
  ticks := h.ticks
  published := h.published
  inFlight := h.inFlight
  episode := by simp
  bootstrap := h.bootstrap
  overlap := h.overlap
  fresh := fun _ => ⟨hs.gateOpen, hs.pending, hs.queue⟩
  delay := h.delay
  opened := h.opened
  finishing := h.finishing

/-- The first request of a lease. -/
theorem Inv.submitted_bootstrap (h : Inv p w s) (hs : Cleared s) {episodeId : String}
    {pending : PendingRtcInference} (hi : pending.issuedAtSubmit = s.issuedTotal)
    (ha : pending.actionPrefix = []) (hb : pending.bootstrap = true) :
    Inv p w ((s.identified episodeId).submitted pending) where
  history := ⟨⟨hi.trans h.ticks, fun _ => ha, fun h => by rw [hb] at h; cases h⟩, h.history⟩
  ticks := h.ticks
  published := h.published
  inFlight := fun pending' hp => hp
  episode := by simp
  bootstrap := by
    rintro pending' hp -
    obtain rfl : pending = pending' := by simpa using hp
    exact ⟨hs.gateOpen, hs.queue, hi⟩
  overlap := by
    rintro pending' hp hb'
    obtain rfl : pending = pending' := by simpa using hp
    rw [hb] at hb'
    cases hb'
  fresh := (by intros; contradiction)
  delay := h.delay
  opened := h.opened
  finishing := h.finishing

theorem PrepareStep.inv (h : Inv p w s) (hs : PrepareStep s r s') : Inv p w s' := by
  cases hs with
  | refused hr => rw [hr.2]; exact h
  | identified episodeId hc => exact h.identified hc episodeId
  | submitted episodeId hc hi ha hb => exact h.submitted_bootstrap hc hi ha hb

/-- Preparing a policy leaves the gate closed. -/
theorem PrepareStep.good (h : Good p w s) (hs : PrepareStep s r s') : Good p w s' := by
  cases hs with
  | refused hr => rw [hr.2]; exact h
  | identified episodeId hc => exact .of_closed hc.gateOpen
  | submitted episodeId hc hi ha hb => exact .of_closed hc.gateOpen

/-! ### Splicing a response -/

/-- What the log has to say about the state into which a candidate is spliced. -/
structure Spliceable (c : Candidate) (s : Rtc) : Prop where
  /-- `_issued_total` counts the commands of the epoch. -/
  ticks : s.issuedTotal = Rtc.ticks s.log
  /-- `_last_published_command` is the last command of the epoch. -/
  published : s.lastPublishedCommand = (lastPublished s.log).map (·.command)
  /-- The candidate was made for the state. -/
  fits : Matches c s
  /-- Its request is the one in flight. -/
  inFlight : Rtc.inFlight s.log = some c.snapshot.pending
  /-- A request that overlaps with execution comes after a command. -/
  overlap : c.snapshot.pending.bootstrap = false → 0 < c.snapshot.pending.issuedAtSubmit

theorem Inv.spliceable (h : Inv p w s) {c : Candidate} (hm : Matches c s) : Spliceable c s :=
  ⟨h.ticks, h.published, hm, h.inFlight _ hm.pending, fun hb => (h.overlap _ hm.pending hb).1⟩

theorem Spliceable.opened {c : Candidate} (h : Spliceable c s) (nowS : ℚ) :
    Spliceable c (s.opened nowS) :=
  ⟨h.ticks, h.published, ⟨h.fits.epoch, h.fits.episodeId, h.fits.pending,
    h.fits.issuedTotal, h.fits.lastPublished⟩, h.inFlight, h.overlap⟩

theorem Spliceable.delayed {c : Candidate} (h : Spliceable c s)
    (delay : RollingMaxDelayEstimator) : Spliceable c (s.delayed delay) :=
  ⟨h.ticks, h.published, ⟨h.fits.epoch, h.fits.episodeId, h.fits.pending,
    h.fits.issuedTotal, h.fits.lastPublished⟩, h.inFlight, h.overlap⟩

section Spliceable

variable {c : Candidate}

/-- The acceptance of a candidate is as expected. -/
theorem Spliceable.splice (h : Spliceable c s) (hc : Candidate.Checked p w c) :
    Splice p w c.acceptance s.log where
  request := h.inFlight
  start := by rw [← h.ticks, h.fits.issuedTotal]; exact hc.response.start
  bootstrap := hc.response.bootstrap
  overlap := fun hb => by
    refine ⟨(hc.response.overlap hb).2, ?_⟩
    have hpos := h.overlap hb
    have hstart := hc.response.start
    rw [← h.ticks, h.fits.issuedTotal]
    omega
  length := hc.length
  rows := by
    have hrows := hc.rows
    rw [hc.response.actions] at hrows
    exact hrows
  window := by
    rw [← h.published, h.fits.lastPublished]
    exact hc.window

/-- The first command of the window continues the last published one. -/
theorem Spliceable.head (h : Spliceable c s) (hc : Candidate.Checked p w c) :
    ∀ q ∈ c.replacement.head?, Continues p c.acceptance s.lastPublishedCommand q.command := by
  intro q hq
  have hfirst := hc.window.first q.command (by
    rw [List.head?_map]
    exact Option.mem_map_of_mem _ hq)
  rw [← h.fits.lastPublished] at hfirst
  unfold Continues
  cases hl : s.lastPublishedCommand with
  | some last => rw [hl] at hfirst; exact hfirst
  | none =>
    rw [hl] at hfirst
    refine ⟨?_, hfirst⟩
    -- a response that is no bootstrap is accepted after a command was published
    by_contra hb
    have hpos := ((h.splice hc).overlap (by simpa using hb)).2
    rw [h.published, Option.map_eq_none_iff, lastPublished_eq_none] at hl
    omega

/-- The lease that the spliced window starts. -/
theorem Spliceable.lease (h : Spliceable c s) (hc : Candidate.Checked p w c) :
    LeaseOk p w (s.spliced c) c.acceptance where
  queue := by simp [Candidate.acceptance]
  issued := by
    have hstart := (h.splice hc).start
    rw [← h.ticks] at hstart
    simpa using hstart
  bound := Nat.zero_le _
  head := h.head hc
  request := fun _ => p.rollout.prefetchAfterSteps_pos
  inFlight := rfl

theorem Spliceable.good (h : Spliceable c s) (hc : Candidate.Checked p w c) :
    Good p w (s.spliced c) := fun _ => ⟨_, rfl, h.lease hc⟩

theorem Spliceable.inv (h : Spliceable c s) (hc : Candidate.Checked p w c)
    (hh : Throughout (Expected p w) s.log) (he : s.episodeId ≠ none) (hf : ¬ Fresh s.log)
    (hd : s.delay.maximumExclusive = p.checkpoint.maxDelaySteps)
    (ho : s.gateOpen = true → Opened s.log) (hs : ∀ e, s.finishing = some e → e ≤ s.controlEpoch) :
    Inv p w (s.spliced c) where
  history := ⟨h.splice hc, hh⟩
  ticks := h.ticks
  published := h.published
  inFlight := (by simp)
  episode := fun _ => he
  bootstrap := (by simp)
  overlap := (by simp)
  fresh := fun hf' => absurd hf' hf
  delay := hd
  opened := ho
  finishing := hs

end Spliceable

theorem Inv.not_fresh (h : Inv p w s) {pending : PendingRtcInference}
    (hp : s.pending = some pending) : ¬ Fresh s.log := fun hf => by
  rw [(h.fresh hf).pending] at hp
  cases hp

theorem SpliceStep.inv {c : Candidate} (hc : Candidate.Checked p w c) (h : Inv p w s)
    (hs : SpliceStep c s r s') : Inv p w s' := by
  cases hs with
  | refused hr => rw [hr.2]; exact h
  | bootstrap nowS hm hb =>
    have he := h.episode (.inl (by simp [hm.pending]))
    exact ((h.spliceable hm).opened nowS).inv hc ⟨trivial, h.history⟩ he (h.not_fresh hm.pending)
      h.delay (fun _ => trivial) h.finishing
  | @overlap delay hm hb hd =>
    have he := h.episode (.inl (by simp [hm.pending]))
    exact ((h.spliceable hm).delayed delay).inv hc h.history he (h.not_fresh hm.pending)
      (hd.trans h.delay) h.opened h.finishing

theorem SpliceStep.good {c : Candidate} (hc : Candidate.Checked p w c) (h : Inv p w s)
    (hg : Good p w s) (hs : SpliceStep c s r s') : Good p w s' := by
  cases hs with
  | refused hr => rw [hr.2]; exact hg
  | bootstrap nowS hm hb => exact ((h.spliceable hm).opened nowS).good hc
  | @overlap delay hm hb hd => exact ((h.spliceable hm).delayed delay).good hc

/-! ### Publishing -/

theorem forall₂_getElem? {α β : Type} {R : α → β → Prop} {xs : List α} {ys : List β}
    (h : List.Forall₂ R xs ys) {i : ℕ} {y : β} (hy : ys[i]? = some y) :
    ∃ x, xs[i]? = some x ∧ R x y := by
  induction h generalizing i with
  | nil => simp at hy
  | cons hxy _ ih =>
    cases i with
    | zero =>
      obtain rfl : _ = y := by simpa using hy
      exact ⟨_, rfl, hxy⟩
    | succ i => exact ih hy

section Lease

variable {a : Acceptance}

/-- Every queued action is the validated row for its tick. -/
theorem LeaseOk.row (hl : LeaseOk p w s a) {log : List RtcEvent} (ha : Splice p w a log) {i : ℕ}
    {q : QueuedRtcAction} (hq : s.queue[i]? = some q) :
    ∃ row, a.rowAt (s.issuedTotal + i) = some row ∧ Validated p.contract row q := by
  rw [hl.queue, List.getElem?_drop] at hq
  obtain ⟨row, hrow, hv⟩ := forall₂_getElem? ha.rows hq
  refine ⟨row, ?_, hv⟩
  rw [List.getElem?_take] at hrow
  split_ifs at hrow
  rw [List.getElem?_drop] at hrow
  have hidx : s.issuedTotal + i - a.pending.issuedAtSubmit =
      a.start + (s.issuedSinceSplice + i) := by
    have := hl.issued
    omega
  rw [Acceptance.rowAt, hidx]
  exact hrow

/-- The head of the queue is published as expected. -/
theorem LeaseOk.publication (hl : LeaseOk p w s a) (h : Inv p w s)
    (hgate : s.gateOpen = true) (ha : lastAccepted s.log = some a) {queued : QueuedRtcAction}
    {rest : List QueuedRtcAction} (hq : s.queue = queued :: rest) :
    Publication p s.issuedTotal queued a s.log := by
  obtain ⟨earlier, hs⟩ := lastAccepted_splice h.history ha
  have hmem : queued ∈ a.window := by
    refine List.mem_of_mem_drop (i := s.issuedSinceSplice) ?_
    rw [← hl.queue, hq]
    exact List.mem_cons_self
  refine ⟨h.ticks, h.opened hgate, ha, hmem, ?_, ?_,
    hs.window.departure _ (List.mem_map_of_mem hmem), ?_⟩
  · rw [hl.issued]; omega
  · have hhead : s.queue[0]? = some queued := by simp [hq]
    exact hl.row hs hhead
  · rw [← h.published]
    exact hl.head queued (by simp [hq])

/-- What is left of the window after the head was published. -/
theorem LeaseOk.next (hl : LeaseOk p w s a) {log : List RtcEvent} (ha : Splice p w a log)
    {queued : QueuedRtcAction} {rest : List QueuedRtcAction} (hq : s.queue = queued :: rest) :
    rest = a.window.drop (s.issuedSinceSplice + 1) ∧ s.issuedSinceSplice + 1 ≤ w ∧
      ∀ q ∈ rest.head?, Continues p a (some queued.command) q.command := by
  have hdrop : a.window.drop s.issuedSinceSplice = queued :: rest := by rw [← hl.queue, hq]
  refine ⟨?_, ?_, fun q hmem => ?_⟩
  · rw [← List.drop_drop, hdrop]; rfl
  · have := congrArg List.length hdrop
    rw [List.length_drop, ha.length, List.length_cons] at this
    omega
  · have hchain := ha.window.chain.drop s.issuedSinceSplice
    rw [← List.map_drop, hdrop] at hchain
    cases rest with
    | nil => cases hmem
    | cons b rest =>
      obtain rfl : b = q := by simpa using hmem
      exact (List.isChain_cons_cons.1 hchain).1

/-- The lease after a command was published. -/
theorem LeaseOk.issued_lease (hl : LeaseOk p w s a) {log : List RtcEvent}
    (ha : Splice p w a log) {queued : QueuedRtcAction} {rest : List QueuedRtcAction}
    (hq : s.queue = queued :: rest) (dueS : Option ℚ) (nextS : ℚ)
    (hreq : s.pending = none → s.issuedSinceSplice + 1 < p.rollout.prefetchAfterSteps) :
    LeaseOk p w (((s.scheduled dueS).dequeued rest).issued queued nextS) a := by
  obtain ⟨hrest, hle, hhead⟩ := hl.next ha hq
  refine ⟨hrest, ?_, hle, hhead, hreq, hl.inFlight⟩
  have hissued := hl.issued
  simp only [issued_issuedTotal, dequeued_issuedTotal, scheduled_issuedTotal,
    issued_issuedSinceSplice, dequeued_issuedSinceSplice, scheduled_issuedSinceSplice]
  omega

/-- The second stage of a request does not change the lease. -/
theorem LeaseOk.finishingStage (hl : LeaseOk p w s a) (pending : PendingRtcInference) :
    LeaseOk p w (s.finishingStage pending) a :=
  ⟨hl.queue, hl.issued, hl.bound, hl.head, (by simp), rfl⟩

end Lease

/-- While the gate is open, only a request that overlaps with execution is pending. -/
theorem Inv.not_bootstrap (h : Inv p w s) (hgate : s.gateOpen = true)
    {pending : PendingRtcInference} (hp : s.pending = some pending) : pending.bootstrap = false := by
  by_contra hb
  have := (h.bootstrap pending hp (by simpa using hb)).1
  rw [hgate] at this
  cases this

/-- Before the next request is submitted, none is pending. -/
theorem Inv.pending_none (h : Inv p w s) (hgate : s.gateOpen = true)
    (hi : s.issuedSinceSplice < p.rollout.prefetchAfterSteps) : s.pending = none := by
  cases hp : s.pending with
  | none => rfl
  | some pending =>
    have := (h.overlap pending hp (h.not_bootstrap hgate hp)).2.1
    omega

theorem Inv.gate_not_fresh (h : Inv p w s) (hgate : s.gateOpen = true) : ¬ Fresh s.log :=
  fun hf => by
    have := (h.fresh hf).gateOpen
    rw [hgate] at this
    cases this

theorem Inv.dropped (h : Inv p w s) {queued : QueuedRtcAction} {rest : List QueuedRtcAction}
    (hgate : s.gateOpen = true) (hq : s.queue = queued :: rest) (dueS : Option ℚ) :
    Inv p w ((s.scheduled dueS).dequeued rest) where
  history := h.history
  ticks := h.ticks
  published := h.published
  inFlight := h.inFlight
  episode := h.episode
  bootstrap := fun pending hp hb => by
    rw [h.not_bootstrap hgate hp] at hb
    cases hb
  overlap := fun pending hp hb => by
    obtain ⟨hpos, hle, hsum, hlen⟩ := h.overlap pending hp hb
    rw [hq, List.length_cons] at hlen
    refine ⟨hpos, hle, hsum, ?_⟩
    simp only [dequeued_issuedSinceSplice, scheduled_issuedSinceSplice, dequeued_queue]
    omega
  fresh := fun hf => absurd hf (h.gate_not_fresh hgate)
  delay := h.delay
  opened := h.opened
  finishing := h.finishing

theorem Inv.issued (h : Inv p w s) (hg : Good p w s) {queued : QueuedRtcAction}
    {rest : List QueuedRtcAction} (hgate : s.gateOpen = true) (hq : s.queue = queued :: rest)
    (dueS : Option ℚ) (nextS : ℚ) :
    Inv p w (((s.scheduled dueS).dequeued rest).issued queued nextS) where
  history := by
    obtain ⟨a, ha, hl⟩ := hg hgate
    exact ⟨⟨a, hl.publication h hgate ha hq⟩, h.history⟩
  ticks := congrArg (· + 1) h.ticks
  published := rfl
  inFlight := h.inFlight
  episode := h.episode
  bootstrap := fun pending hp hb => by
    rw [h.not_bootstrap hgate hp] at hb
    cases hb
  overlap := fun pending hp hb => by
    obtain ⟨hpos, hle, hsum, hlen⟩ := h.overlap pending hp hb
    rw [hq, List.length_cons] at hlen
    simp only [issued_issuedTotal, dequeued_issuedTotal, scheduled_issuedTotal,
      issued_issuedSinceSplice, dequeued_issuedSinceSplice, scheduled_issuedSinceSplice,
      issued_queue, dequeued_queue]
    omega
  fresh := fun hf => absurd hf (h.gate_not_fresh hgate)
  delay := h.delay
  opened := h.opened
  finishing := h.finishing

theorem Inv.requested (h : Inv p w s) (hg : Good p w s) {queued : QueuedRtcAction}
    {rest : List QueuedRtcAction} {pending : PendingRtcInference} {estimate : ℕ}
    (hgate : s.gateOpen = true) (hq : s.queue = queued :: rest) (dueS : Option ℚ) (nextS : ℚ)
    (hi : s.issuedSinceSplice + 1 = p.rollout.prefetchAfterSteps)
    (hs : pending.issuedAtSubmit = s.issuedTotal + 1) (hb : pending.bootstrap = false)
    (hle : estimate ≤ rest.length)
    (hp : pending.actionPrefix = (rest.take estimate).map (·.modelAction))
    (he : pending.estimatedDelaySteps = some estimate) :
    Inv p w ((((s.scheduled dueS).dequeued rest).issued queued nextS).submitted pending) := by
  have h' := h.issued hg hgate hq dueS nextS
  obtain ⟨a, ha, hl⟩ := hg hgate
  obtain ⟨earlier, hsplice⟩ := lastAccepted_splice h.history ha
  have hnone : s.pending = none := h.pending_none hgate (by omega)
  have hissued := hl.issued
  have hticks := h.ticks
  have hlen := (hl.next hsplice hq).1
  have hsub : Submission p pending (.published s.issuedTotal queued :: s.log) := by
    refine ⟨?_, fun hb' => absurd hb' (by simp [hb]),
      fun _ => ⟨Nat.succ_pos _, ?_, a, ha, ?_, ?_, ?_, ?_⟩⟩
    · rw [hs, hticks]; rfl
    · rw [← hnone, ← hl.inFlight]; rfl
    · simp only [Rtc.ticks]; omega
    · simp only [Rtc.ticks]; omega
    · rw [he, hp, List.length_map, List.length_take, min_eq_left hle]
    · intro j row hj
      rw [hp, List.getElem?_map, Option.map_eq_some_iff] at hj
      obtain ⟨q, hjq, rfl⟩ := hj
      rw [List.getElem?_take] at hjq
      split_ifs at hjq
      have hnext : s.queue[j + 1]? = some q := by rw [hq]; exact hjq
      obtain ⟨row, hrow, hv⟩ := hl.row hsplice hnext
      rw [hv.1, ← hrow]
      congr 1
      simp only [Rtc.ticks]
      omega
  refine ⟨⟨hsub, h'.history⟩, h'.ticks, h'.published, fun pending' hp' => hp', fun _ => ?_,
    fun pending' hp' hb' => ?_, fun pending' hp' _ => ?_, (by intros; contradiction), h'.delay, h'.opened,
    h'.finishing⟩
  · exact h.episode (.inr hgate)
  · obtain rfl : pending = pending' := by simpa using hp'
    rw [hb] at hb'
    cases hb'
  · obtain rfl : pending = pending' := by simpa using hp'
    have hw : s.issuedSinceSplice + 1 + rest.length ≤ w := by
      have hlw := hsplice.length
      have hb := (hl.next hsplice hq).2.1
      rw [hlen, List.length_drop, hlw]
      omega
    simp only [submitted_issuedTotal, submitted_issuedSinceSplice, submitted_queue,
      issued_issuedTotal, dequeued_issuedTotal, scheduled_issuedTotal, issued_issuedSinceSplice,
      dequeued_issuedSinceSplice, scheduled_issuedSinceSplice, issued_queue, dequeued_queue]
    omega

theorem Inv.finishingStage (h : Inv p w s) (hgate : s.gateOpen = true)
    {pending : PendingRtcInference} (hp : s.pending = some pending) :
    Inv p w (s.finishingStage pending) where
  history := ⟨⟨pending, h.inFlight pending hp, rfl⟩, h.history⟩
  ticks := h.ticks
  published := h.published
  inFlight := fun pending' hp' => hp'
  episode := fun _ => h.episode (.inr hgate)
  bootstrap := by
    rintro pending' hp' hb
    obtain rfl := Option.some.inj hp'
    have := h.not_bootstrap hgate hp
    rw [this] at hb
    cases hb
  overlap := by
    rintro pending' hp' hb
    obtain rfl := Option.some.inj hp'
    exact h.overlap pending hp hb
  fresh := fun hf => absurd hf (h.gate_not_fresh hgate)
  delay := h.delay
  opened := h.opened
  finishing := fun e he => by
    obtain rfl : s.controlEpoch = e := by simpa using he
    exact le_rfl

theorem PublishStep.inv (h : Inv p w s) (hg : Good p w s) (hs : PublishStep p s r s') :
    Inv p w s' := by
  cases hs with
  | idle nextS => exact h.scheduled nextS
  | dropped dueS hgate hq => exact h.dropped hgate hq dueS
  | issued dueS nextS hgate hq => exact h.issued hg hgate hq dueS nextS
  | requested dueS nextS estimate hgate hq hi hs hb hle hp he =>
    exact h.requested hg hgate hq dueS nextS hi hs hb hle hp he
  | finishing dueS nextS hgate hq hp =>
    exact (h.issued hg hgate hq dueS nextS).finishingStage hgate hp

/-- A publishing section that does not raise keeps the lease. -/
theorem PublishStep.good (h : Inv p w s) (hg : Good p w s) (hs : PublishStep p s none s') :
    Good p w s' := by
  intro hgate'
  cases hs with
  | idle nextS =>
    obtain ⟨a, ha, hl⟩ := hg hgate'
    exact ⟨a, ha, ⟨hl.queue, hl.issued, hl.bound, hl.head, hl.request, hl.inFlight⟩⟩
  | issued dueS nextS hgate hq hi =>
    obtain ⟨a, ha, hl⟩ := hg hgate
    obtain ⟨earlier, hsplice⟩ := lastAccepted_splice h.history ha
    refine ⟨a, ha, hl.issued_lease hsplice hq dueS nextS fun hn => ?_⟩
    have := hl.request hn
    have := (hi rfl).resolve_right (not_not.2 hn)
    omega
  | requested dueS nextS estimate hgate hq hi hs hb hle hp he =>
    obtain ⟨a, ha, hl⟩ := hg hgate
    obtain ⟨earlier, hsplice⟩ := lastAccepted_splice h.history ha
    obtain ⟨hrest, hbound, hhead⟩ := hl.next hsplice hq
    refine ⟨a, ha, hrest, ?_, hbound, hhead, (by simp), rfl⟩
    have hissued := hl.issued
    simp only [submitted_issuedTotal, submitted_issuedSinceSplice, issued_issuedTotal,
      dequeued_issuedTotal, scheduled_issuedTotal, issued_issuedSinceSplice,
      dequeued_issuedSinceSplice, scheduled_issuedSinceSplice]
    omega
  | finishing dueS nextS hgate hq hp =>
    obtain ⟨a, ha, hl⟩ := hg hgate
    obtain ⟨earlier, hsplice⟩ := lastAccepted_splice h.history ha
    refine ⟨a, ha, (hl.issued_lease hsplice hq dueS nextS fun hn => ?_).finishingStage _⟩
    rw [hp] at hn
    cases hn

end Rtc

end DualCollection
