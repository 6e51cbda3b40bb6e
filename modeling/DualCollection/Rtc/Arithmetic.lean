import DualCollection.Rtc.Threads

/-!
# Queue arithmetic

The counters of the scheduler, its queue and its pending request move together
(`QueueArithmetic`), so that several of the scheduler's exceptions are never raised and a lease
only ends for the reasons in `LeaseEnd` (`SoundStep`).

Two things are not covered.

* An exception of a step that was begun in an earlier control epoch can reach `_fail` after the
  next lease was opened, and then ends that lease (`stale_error_ends_lease`).  `Timely` excludes
  such steps.
* The load-time check of the profiles reserves the window `prefetch_after_steps + max_delay_steps
  - 1`, but a response that is accepted after the delay `d` has to reach `d` rows further
  (`safeWindow_supplied`).
-/

namespace DualCollection

open Thread

namespace Rtc

variable {p : RtcParameters} {c c' : Config Role RtcSection Env Rtc Failure}

/-- The section in which `_fail` handles an error. -/
def failing : RtcSection → Option Failure
  | .fail f => some f
  | _ => none

/-- The section in which a response is checked for a window. -/
def checking : RtcSection → Option (ℕ × Snapshot)
  | .checkResponse window snap => some (window, snap)
  | _ => none

theorem failing_eq {l : RtcSection} {f : Failure} : failing l = some f ↔ l = .fail f := by
  cases l <;> simp [failing]

theorem checking_eq {l : RtcSection} {window : ℕ} {snap : Snapshot} :
    checking l = some (window, snap) ↔ l = .checkResponse window snap := by
  cases l <;> simp [checking]

/-- `_fail` handles an exception in the control epoch under which the failing work was begun, or
finds nothing to end. -/
def Timely : RtcSection → Rtc → Prop
  | .fail f, s => f.epoch = s.controlEpoch ∨ s.gateOpen = false ∧ s.pending = none
  | _, _ => True

theorem timely_iff {l : RtcSection} {s : Rtc} : Timely l s ↔
    ∀ f, failing l = some f → f.epoch = s.controlEpoch ∨ s.gateOpen = false ∧ s.pending = none := by
  cases l <;> simp [Timely, failing]

instance (l : RtcSection) (s : Rtc) : Decidable (Timely l s) := decidable_of_iff _ timely_iff.symm

/-- The controller calls the gateway as the controllers do, and failures are handled in time. -/
abbrev Regular : Role → RtcSection → Env → Rtc → Prop := fun _ l _ s =>
  Admits True l s ∧ Timely l s

/-- The counters of the scheduler, its queue and its pending request. -/
structure QueueArithmetic (p : RtcParameters) (c : Config Role RtcSection Env Rtc Failure) :
    Prop where
  /-- While the gate is open, the commands issued from the window and the queue add up to it. -/
  window : Orderly c → c.shared.gateOpen = true →
    c.shared.issuedSinceSplice + c.shared.queue.length =
      p.rollout.prefetchAfterSteps + p.checkpoint.maxDelaySteps - 1
  /-- The next request is in flight from the moment on at which `prefetch_after_steps` commands
  were issued from the window. -/
  inFlight : Orderly c → c.shared.gateOpen = true → (c.shared.pending = none ↔
    c.shared.issuedSinceSplice < p.rollout.prefetchAfterSteps)
  /-- A request that overlaps with execution is the only one since the last acceptance, and it is
  submitted at that moment. -/
  submitted : ∀ (pending : PendingRtcInference) (earlier : List RtcEvent),
    (.submitted pending :: earlier) <:+ c.shared.log → pending.bootstrap = false →
      Rtc.inFlight earlier = none ∧ ∃ a, lastAccepted earlier = some a ∧
        ticks earlier = a.pending.issuedAtSubmit + a.start + p.rollout.prefetchAfterSteps
  /-- A response is accepted with a delay of the trained range. -/
  accepted : ∀ (a : Acceptance) (earlier : List RtcEvent), (.accepted a :: earlier) <:+ c.shared.log →
    ∃ delay, ticks earlier = a.pending.issuedAtSubmit + delay ∧
      delay < p.checkpoint.maxDelaySteps ∧ (a.pending.bootstrap = true → delay = 0)

/-- What a section that thread `t` executes does to a lease. -/
structure SoundStep (p : RtcParameters) (t : Role) (l : RtcSection) (r : Option Failure)
    (s s' : Rtc) : Prop where
  /-- The exceptions that cannot occur do not occur. -/
  raises : ∀ f, r = some f → ¬ Impossible True f.error
  /-- When a request that overlaps with execution is submitted, the queue covers the estimate. -/
  estimate : ∀ pending, s'.log = .submitted pending :: s'.log.tail → s'.log ≠ s.log →
    pending.bootstrap = false → s'.issuedSinceSplice = p.rollout.prefetchAfterSteps ∧
      s'.delay.estimate ≤ s'.queue.length
  /-- The scheduler closes the gate only in `_fail` or when it rejects a window. -/
  closes : t = .scheduler → s.gateOpen = true → s'.gateOpen = false →
    ∃ f, l = .fail f ∨ l = .reject f
  /-- These end a lease only by underrun, by the watchdog, for a bad response or for a port. -/
  ends : t = .scheduler → ∀ f, l = .fail f ∨ l = .reject f →
    s.gateOpen = true ∨ s.pending ≠ none → LeaseEnd f.error

theorem Reachable.admits
    (hc : (system p).Reachable Regular (.init (init p)) c) :
    (system p).Reachable (fun _ l _ s => Admits True l s) (.init (init p)) c :=
  hc.mono fun _ _ _ _ h => h.1

/-- The queue arithmetic of every run. -/
theorem queueArithmetic (hc : (system p).Reachable (fun _ l _ s => Admits True l s)
    (.init (init p)) c) : QueueArithmetic p c := by
  have hi := reachable_inv (sound p True) hc
  refine ⟨fun ho hgate => ?_, fun ho hgate => ⟨fun hn => ?_, fun hlt => ?_⟩,
    fun pending earlier hs hb => ?_, fun a earlier hs => ?_⟩
  · exact Good.window_length (reachable_good (sound p True) hc ho) hi hgate
  · obtain ⟨a, ha, hl⟩ := reachable_good (sound p True) hc ho hgate
    exact hl.request hn
  · exact hi.pending_none hgate hlt
  · obtain ⟨-, hnone, a, ha, -, hticks, -⟩ := (hi.history.event hs).overlap hb
    exact ⟨hnone, a, ha, hticks⟩
  · have hs := hi.history.event hs
    refine ⟨a.start, hs.start, ?_, hs.bootstrap⟩
    cases hb : a.pending.bootstrap with
    | true =>
      rw [hs.bootstrap hb]
      exact p.checkpoint.maxDelaySteps_pos p.valid.policyType
    | false => exact (hs.overlap hb).1

section Step

variable {t : Role} {l : RtcSection} {r : Option Failure} {s s' : Rtc} {strict : Prop}

/-- A publishing section submits a request only when the queue covers the estimate. -/
theorem PublishStep.estimate (h : Inv p p.safeWindowSteps s) (hg : Good p p.safeWindowSteps s)
    (hs : PublishStep p s r s') {pending : PendingRtcInference}
    (hlog : s'.log = .submitted pending :: s'.log.tail) (hne : s'.log ≠ s.log) :
    s'.issuedSinceSplice = p.rollout.prefetchAfterSteps ∧ s'.delay.estimate ≤ s'.queue.length := by
  cases hs with
  | idle nextS => exact absurd rfl hne
  | dropped dueS hgate hq => exact absurd rfl hne
  | issued dueS nextS hgate hq hi => cases hlog
  | finishing dueS nextS hgate hq hp => cases hlog
  | requested dueS nextS estimate hgate hq hi =>
    refine ⟨hi, ?_⟩
    have hlen := hg.window_length h hgate
    have hest := s.delay.estimate_lt
    rw [h.delay] at hest
    rw [hq, List.length_cons, RtcParameters.safeWindowSteps,
      RtcRolloutProfile.safeWindowSteps] at hlen
    simp only [submitted_delay, issued_delay, dequeued_delay, scheduled_delay, submitted_queue,
      issued_queue, dequeued_queue]
    omega

/-- Only the publishing section submits a request that overlaps with execution. -/
theorem Changes.estimate (hpre : Pre p p.safeWindowSteps strict t l s)
    (h : Inv p p.safeWindowSteps s) (hc : Changes p l s r s') {pending : PendingRtcInference}
    (hlog : s'.log = .submitted pending :: s'.log.tail) (hne : s'.log ≠ s.log)
    (hb : pending.bootstrap = false) :
    s'.issuedSinceSplice = p.rollout.prefetchAfterSteps ∧ s'.delay.estimate ≤ s'.queue.length := by
  cases l with
  | publish => exact PublishStep.estimate h hpre.publish hc hlog hne
  | prepare =>
    cases hc with
    | refused hr => rw [hr.2] at hne; exact absurd rfl hne
    | identified => exact absurd rfl hne
    | submitted episodeId hs hi ha hb' =>
      obtain rfl : _ = pending := by simpa using hlog
      rw [hb'] at hb
      cases hb
  | closeGate =>
    rcases hc with hc | ⟨-, rfl⟩
    · rw [hc.2] at hne; exact absurd rfl hne
    · cases hlog
  | clearPending e =>
    rcases hc with hc | ⟨-, -, rfl⟩
    · rw [hc.2] at hne; exact absurd rfl hne
    · cases hlog
  | takeFault =>
    rw [hc.2] at hlog hne
    simp only [faultTaken_log] at hlog hne
    cases hf : s.fault with
    | none => rw [hf] at hne; exact absurd rfl hne
    | some f => rw [hf] at hlog; cases hlog
  | gateCheck =>
    rcases hc with ⟨-, rfl | ⟨-, rfl⟩⟩
    · exact absurd rfl hne
    · exact absurd rfl hne
  | reject f => rw [hc.2] at hne; exact absurd rfl hne
  | splice candidate =>
    cases hc with
    | refused hr => rw [hr.2] at hne; exact absurd rfl hne
    | bootstrap | overlap => cases hlog
  | clearFinishing => rw [show s' = _ from hc] at hne; exact absurd rfl hne
  | finished => rw [show s' = _ from hc] at hne; exact absurd rfl hne
  | fail f =>
    rcases hc with ⟨-, -, rfl⟩ | ⟨-, rfl⟩
    · exact absurd rfl hne
    · exact absurd rfl hne
  | complete =>
    obtain ⟨-, future, result, rfl⟩ := hc
    refine absurd ?_ hne
    unfold completed
    split <;> rfl
  | checkResponse window snap => rw [hc.2] at hne; exact absurd rfl hne
  | beginEpoch | emitReset | poll | clock | finishCheck | acceptRead | stateRead =>
    rw [show s' = s from hc] at hne; exact absurd rfl hne

/-- The scheduler's thread closes the gate only in `_fail` or when it rejects a window. -/
theorem Changes.closes (hpre : Pre p w strict .scheduler l s) (hc : Changes p l s r s')
    (hgate : s.gateOpen = true) (hgate' : s'.gateOpen = false) :
    ∃ f, l = .fail f ∨ l = .reject f := by
  have hkept : s'.gateOpen = s.gateOpen → ∃ f, l = .fail f ∨ l = .reject f := fun h => by
    rw [h, hgate] at hgate'
    cases hgate'
  cases l with
  | fail f => exact ⟨f, .inl rfl⟩
  | reject f => exact ⟨f, .inr rfl⟩
  | publish => cases hc <;> exact hkept rfl
  | gateCheck =>
    rcases hc with ⟨-, rfl | ⟨-, rfl⟩⟩
    · exact hkept rfl
    · exact hkept rfl
  | splice candidate =>
    cases hc with
    | refused hr => exact hkept (by rw [hr.2])
    | bootstrap nowS => cases hgate'
    | overlap => exact hkept rfl
  | finished => exact hkept (by rw [show s' = _ from hc])
  | checkResponse window snap => exact hkept (by rw [hc.2])
  | clock | finishCheck | acceptRead | stateRead => exact hkept (by rw [show s' = s from hc])
  | closeGate | clearPending | beginEpoch | emitReset | clearFinishing | prepare | poll | takeFault
  | complete => exact hpre.elim

end Step

/-- Every section of a run does to a lease what it should, as long as failures are handled in
time. -/
theorem soundStep {t : Role} {l : RtcSection} {e : Env} {r : Option Failure}
    (hc : (system p).Reachable Regular (.init (init p)) c)
    (hs : (system p).Step Regular c (.sect t l e r) c') :
    SoundStep p t l r c.shared c'.shared := by
  have hc₁ := Reachable.admits hc
  have htimely : Timely l c.shared := by
    cases hs with
    | sect _ hadm => exact hadm.2
  obtain ⟨hpre, hchanges, hr⟩ := step_meets (sound p True) hc₁ (hs.mono fun _ _ _ _ h => h.1)
  have hi := reachable_inv (sound p True) hc₁
  refine ⟨hr, fun pending hlog hne hb => hchanges.estimate hpre hi hlog hne hb, ?_, ?_⟩
  · rintro rfl hgate hgate'
    exact hchanges.closes hpre hgate hgate'
  · rintro rfl f (rfl | rfl) hlive
    · rcases htimely with he | ⟨hgate, hn⟩
      · exact hpre.2 trivial he
      · rcases hlive with hlive | hlive
        · rw [hgate] at hlive; cases hlive
        · exact absurd hn hlive
    · obtain ⟨-, -, err, herr⟩ := hpre
      rw [herr]
      exact .badResponse (.contract err)

/-- The queue arithmetic of every run, and what its sections do to a lease. -/
theorem lease_arithmetic (hc : (system p).Reachable Regular (.init (init p)) c) :
    QueueArithmetic p c ∧ ∀ t l e r c', (system p).Step Regular c (.sect t l e r) c' →
      SoundStep p t l r c.shared c'.shared :=
  ⟨queueArithmetic (Reachable.admits hc), fun _ _ _ _ _ hs => soundStep hc hs⟩

/-- A lease in which the second request is in flight. -/
theorem lease_arithmetic_inFlight :
    ∃ c, (system Station.three).Reachable Regular (.init (init Station.three)) c ∧
      (c.shared.gateOpen = true ∧ c.shared.pending ≠ none) ∧ QueueArithmetic Station.three c ∧
        ∀ t l e r c', (system Station.three).Step Regular c (.sect t l e r) c' →
          SoundStep Station.three t l r c.shared c'.shared := by
  obtain ⟨c, hc, ht⟩ := Station.shows Station.three (fun l s => Admits True l s ∧ Timely l s)
    (Station.openLease 0 0 (Station.ticket 3 (by decide) 0 0) ++ Station.publish 0)
    (fun c => decide (c.shared.gateOpen = true ∧ c.shared.pending ≠ none)) (by decide +kernel)
  exact ⟨c, hc, of_decide_eq_true ht, lease_arithmetic hc⟩

/-- The scheduler finds a response ready in one lease, the controller ends the lease and opens the
next one, and the scheduler misses the response: its exception ends the next lease. -/
theorem stale_error_ends_lease :
    ∃ c c' f, (system Station.two).Reachable (fun _ l _ s => Admits True l s)
        (.init (init Station.two)) c ∧
      (system Station.two).Step (fun _ l _ s => Admits True l s) c
        (.sect .scheduler (.fail f) {} none) c' ∧
      f = ⟨.scheduler .responseNotReady, 0⟩ ∧ c.shared.controlEpoch = 1 ∧
      c.shared.gateOpen = true ∧ c'.shared.gateOpen = false ∧ ¬ LeaseEnd f.error := by
  obtain ⟨c, hc, ht⟩ := Station.shows Station.two (Admits True)
    (Station.openLease 0 0 (Station.ticket 2 (by decide) 0 0) ++ Station.publish 0 ++
      Station.answer 1 (Station.ticket 2 (by decide) 0 0) ++
      Station.run .scheduler .step 2 {} ++ Station.run .controller (.closeGate 0) 1 {} ++
      Station.run .controller (.clearPending 1) 3 {} ++
      Station.openLease 1 2 (Station.ticket 2 (by decide) 1 0) ++ [.go .scheduler {}])
    (fun c => c.shared.gateOpen && decide (c.shared.controlEpoch = 1) &&
      (System.next c .scheduler {}).any fun x : RtcSection × Option Failure =>
        decide (failing x.1 = some ⟨.scheduler .responseNotReady, 0⟩ ∧ x.2 = none))
    (by decide +kernel)
  simp only [Bool.and_eq_true, decide_eq_true_eq, Option.any_eq_true] at ht
  obtain ⟨⟨hgate, he⟩, ⟨l, r⟩, hn, hl, hr⟩ := ht
  obtain rfl := failing_eq.1 hl
  obtain rfl : r = none := hr
  obtain ⟨c', hs⟩ := System.next_step (system Station.two)
    (fun _ l _ s => Admits True l s) hn trivial
  refine ⟨c, c', _, hc, hs, rfl, he, hgate, ?_, ?_⟩
  · rcases (step_meets (sound _ _) hc hs).2.1 with ⟨hgate', -⟩ | ⟨-, hstop⟩
    · rw [hgate] at hgate'
      cases hgate'
    · rw [hstop]
      rfl
  · intro h
    cases h with
    | badResponse h => cases h

/-! ### The window of a response -/

/-- A response supplies the safe window from its splice start on if and only if its chunk reaches
as many rows beyond the window as commands were issued in the meantime; otherwise it is refused,
unless it already was. -/
theorem safeWindow_supplied {t : Role} {e : Env} {r : Option Failure} {snap : Snapshot}
    {ticket : InferenceTicket}
    (hc : (system p).Reachable (fun _ _ _ _ => True) (.init (init p)) c)
    (hs : (system p).Step (fun _ _ _ _ => True) c
      (.sect t (.checkResponse p.safeWindowSteps snap) e r) c')
    (hresult : snap.result = .ok (.ticket ticket))
    (hwell : ticket.actionChunk.length = p.checkpoint.execution.actionChunkSize) :
    ∃ delay, snap.issuedTotal = snap.pending.issuedAtSubmit + delay ∧
      delay < p.checkpoint.maxDelaySteps ∧
      (((ticket.actionChunk.drop delay).take p.safeWindowSteps).length = p.safeWindowSteps ↔
        p.rollout.prefetchAfterSteps + p.checkpoint.maxDelaySteps - 1 + delay ≤
          p.checkpoint.execution.actionChunkSize) ∧
      (p.rollout.prefetchAfterSteps + p.checkpoint.maxDelaySteps - 1 + delay ≤
          p.checkpoint.execution.actionChunkSize →
        ∀ f, r = some f → f.error ≠ .scheduler .safeWindowUnavailable) ∧
      (p.checkpoint.execution.actionChunkSize <
          p.rollout.prefetchAfterSteps + p.checkpoint.maxDelaySteps - 1 + delay →
        p.contract.validateTicketIdentity ticket snap.epoch = .ok () →
        checkPrefix p.checkpoint.hardPrefixTolerance ticket snap.pending.actionPrefix = .ok () →
          r = some ⟨.scheduler .safeWindowUnavailable, snap.epoch⟩) := by
  obtain ⟨hpre, ⟨hr, -⟩, -⟩ := step_meets (sound p False) (reachable_free hc) (step_free hs)
  have hranged : Snapshot.Ranged p snap := by
    cases t with
    | controller => exact hpre.2
    | scheduler => exact hpre.2.2
    | policy => exact hpre.elim
  obtain ⟨hle, hlt⟩ : snap.pending.issuedAtSubmit ≤ snap.issuedTotal ∧
      snap.issuedTotal < snap.pending.issuedAtSubmit + p.checkpoint.maxDelaySteps := by
    cases hb : snap.pending.bootstrap with
    | true =>
      have := hranged.bootstrap hb
      have := p.checkpoint.maxDelaySteps_pos p.valid.policyType
      omega
    | false => exact hranged.overlap hb
  have hwindow : ∀ delay, ((ticket.actionChunk.drop delay).take p.safeWindowSteps).length =
      p.safeWindowSteps ↔ p.rollout.prefetchAfterSteps + p.checkpoint.maxDelaySteps - 1 + delay ≤
        p.checkpoint.execution.actionChunkSize := by
    intro delay
    have hpos := p.rollout.prefetchAfterSteps_pos
    rw [List.length_take, List.length_drop, hwell, RtcParameters.safeWindowSteps,
      RtcRolloutProfile.safeWindowSteps]
    omega
  obtain ⟨hunavailable, hrefused⟩ := checkResponse_window hranged hresult
  refine ⟨snap.issuedTotal - snap.pending.issuedAtSubmit, by omega, by omega, hwindow _,
    fun hfit f hf herr => ?_, fun hshort hid hp => ?_⟩
  · rw [hr, raised_markEpoch, Option.map_eq_some_iff] at hf
    obtain ⟨err, hraised, rfl⟩ := hf
    obtain rfl : err = _ := herr
    exact hunavailable (raised_eq_some.1 hraised) ((hwindow _).2 hfit)
  · rw [hr, hrefused (fun h => absurd ((hwindow _).1 h) (by omega)) hid hp]
    rfl

/-- Two commands are issued, and the second response comes after the delay `1`. -/
def lateResponse (ticket : InferenceTicket) : List (Move Role Op Env) :=
  Station.openLease 0 0 ticket ++ Station.publish 0 ++ Station.publish 1 ++
    Station.answer 1 ticket ++ Station.run .scheduler .step 3 {}

/-- With chunks of three rows, a window of two rows can be entered at row `1`. -/
theorem safeWindow_supplied_three :
    ∃ c c' snap r ticket, (system Station.three).Reachable (fun _ _ _ _ => True)
        (.init (init Station.three)) c ∧
      (system Station.three).Step (fun _ _ _ _ => True) c
        (.sect .scheduler (.checkResponse Station.three.safeWindowSteps snap) {} r) c' ∧
      (snap.result = .ok (.ticket ticket) ∧ ticket.actionChunk.length = 3) ∧
      ∃ delay, snap.issuedTotal = snap.pending.issuedAtSubmit + delay ∧ delay < 2 ∧
        (((ticket.actionChunk.drop delay).take Station.three.safeWindowSteps).length =
          Station.three.safeWindowSteps ↔ 1 + 2 - 1 + delay ≤ 3) := by
  obtain ⟨c, hc, ht⟩ := Station.shows Station.three (fun _ _ => True)
    (lateResponse (Station.ticket 3 (by decide) 0 0))
    (fun c => (System.next c .scheduler {}).any fun x : RtcSection × Option Failure =>
      (checking x.1).any fun y : ℕ × Snapshot =>
      decide (y.1 = Station.three.safeWindowSteps ∧
        y.2.result = .ok (.ticket (Station.ticket 3 (by decide) 0 0)))) (by decide +kernel)
  simp only [Option.any_eq_true, decide_eq_true_eq] at ht
  obtain ⟨⟨l, r⟩, hn, ⟨window, snap⟩, hl, hwindow, hresult⟩ := ht
  obtain rfl := checking_eq.1 hl
  obtain rfl : window = _ := hwindow
  obtain ⟨c', hs⟩ := System.next_step (system Station.three) (fun _ _ _ _ => True) hn trivial
  obtain ⟨delay, hd, hlt, hiff, -⟩ := safeWindow_supplied hc hs hresult rfl
  exact ⟨c, c', snap, r, _, hc, hs, ⟨hresult, rfl⟩, delay, hd, hlt, hiff⟩

/-- With chunks of two rows, which the load-time check accepts, a well formed response with the
delay `1` is refused. -/
theorem safeWindow_unavailable :
    ∃ c c' snap ticket, (system Station.two).Reachable (fun _ _ _ _ => True)
        (.init (init Station.two)) c ∧
      (system Station.two).Step (fun _ _ _ _ => True) c
        (.sect .scheduler (.checkResponse Station.two.safeWindowSteps snap) {}
          (some ⟨.scheduler .safeWindowUnavailable, 0⟩)) c' ∧
      Station.two.rollout.validateFor Station.two.checkpoint = .ok () ∧
      snap.result = .ok (.ticket ticket) ∧
      ticket.actionChunk.length = Station.two.checkpoint.execution.actionChunkSize ∧
      snap.issuedTotal - snap.pending.issuedAtSubmit = 1 ∧
      1 < Station.two.checkpoint.maxDelaySteps := by
  obtain ⟨c, hc, ht⟩ := Station.shows Station.two (fun _ _ => True)
    (lateResponse (Station.ticket 2 (by decide) 0 0))
    (fun c => (System.next c .scheduler {}).any fun x : RtcSection × Option Failure =>
      (checking x.1).any fun y : ℕ × Snapshot =>
      decide (y.1 = Station.two.safeWindowSteps ∧
        x.2 = some ⟨.scheduler .safeWindowUnavailable, 0⟩ ∧
        y.2.result = .ok (.ticket (Station.ticket 2 (by decide) 0 0)) ∧
        y.2.issuedTotal - y.2.pending.issuedAtSubmit = 1)) (by decide +kernel)
  simp only [Option.any_eq_true, decide_eq_true_eq] at ht
  obtain ⟨⟨l, r⟩, hn, ⟨window, snap⟩, hl, hwindow, hr, hresult, hd⟩ := ht
  obtain rfl := checking_eq.1 hl
  obtain rfl : window = _ := hwindow
  obtain rfl : r = _ := hr
  obtain ⟨c', hs⟩ := System.next_step (system Station.two) (fun _ _ _ _ => True) hn trivial
  exact ⟨c, c', snap, _, hc, hs, RtcRolloutProfile.validateFor_ok_iff.2 Station.two.valid,
    hresult, rfl, hd, by decide⟩

end Rtc

end DualCollection
