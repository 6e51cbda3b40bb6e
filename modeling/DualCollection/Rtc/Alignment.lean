import DualCollection.Rtc.Threads

/-!
# Time alignment of the published commands

Number the commands of a control epoch from `0` on.  Whatever the controller, the policy and the
clock do, the command published as number `t` is the row of the last accepted chunk that the
policy predicted for `t` (`TimeAligned.published`), the queue holds the rows for the numbers that
follow (`TimeAligned.queued`), a new chunk is entered at the row for the next number
(`TimeAligned.spliced`), and the prefix sent with a request is what is executed while the request
is in flight (`TimeAligned.executed`).
-/

namespace DualCollection

open Thread

namespace Rtc

/-- The commands are aligned in time with the chunks that they come from. -/
structure TimeAligned (p : RtcParameters) (c : Config Role RtcSection Env Rtc Failure) :
    Prop where
  /-- Commands are numbered consecutively, and the one with number `t` is the validated command of
  row `t - issued_at_submit` of the chunk that was accepted last. -/
  published : ∀ (t : ℕ) (q : QueuedRtcAction) (earlier : List RtcEvent),
    (.published t q :: earlier) <:+ c.shared.log → t = ticks earlier ∧
      ∃ a, lastAccepted earlier = some a ∧ a.pending.issuedAtSubmit ≤ t ∧
        ∃ row, a.ticket.actionChunk[t - a.pending.issuedAtSubmit]? = some row ∧
          Validated p.contract row q
  /-- While the gate is open, the queue holds the validated commands of the rows that follow. -/
  queued : Orderly c → c.shared.gateOpen = true → ∃ a, lastAccepted c.shared.log = some a ∧
    a.pending.issuedAtSubmit ≤ c.shared.issuedTotal ∧
      ∀ (i : ℕ) (q : QueuedRtcAction), c.shared.queue[i]? = some q →
        ∃ row, a.ticket.actionChunk[c.shared.issuedTotal - a.pending.issuedAtSubmit + i]? =
          some row ∧ Validated p.contract row q
  /-- A chunk is entered at the row for the number of the next command. -/
  spliced : ∀ (a : Acceptance) (earlier : List RtcEvent), (.accepted a :: earlier) <:+ c.shared.log →
    ticks earlier = a.pending.issuedAtSubmit + a.start
  /-- A request knows how many commands were issued, and sends as many rows as it announces. -/
  announced : ∀ (pending : PendingRtcInference) (earlier : List RtcEvent),
    (.submitted pending :: earlier) <:+ c.shared.log → pending.issuedAtSubmit = ticks earlier ∧
      (pending.bootstrap = false →
        pending.estimatedDelaySteps = some pending.actionPrefix.length)
  /-- The prefix of a request is executed while the request is in flight. -/
  executed : ∀ (t j : ℕ) (q : QueuedRtcAction) (earlier : List RtcEvent)
    (pending : PendingRtcInference) (row : ActionRow),
    (.published t q :: earlier) <:+ c.shared.log → inFlight earlier = some pending →
      pending.actionPrefix[j]? = some row → t = pending.issuedAtSubmit + j → q.modelAction = row

variable {p : RtcParameters} {c : Config Role RtcSection Env Rtc Failure}

/-- The commands of every run are aligned in time with the accepted chunks. -/
theorem timeAligned (hc : (system p).Reachable (fun _ _ _ _ => True) (.init (init p)) c) :
    TimeAligned p c := by
  have hc' := reachable_free hc
  have hi := reachable_inv (sound p False) hc'
  refine ⟨fun t q earlier hs => ?_, fun ho hgate => ?_, fun a earlier hs => ?_,
    fun pending earlier hs => ?_, fun t j q earlier pending row hs hp hj ht => ?_⟩
  · obtain ⟨a, ha⟩ := hi.history.event hs
    exact ⟨ha.tick, a, ha.accepted, ha.submitted, ha.row⟩
  · obtain ⟨a, ha, hl⟩ := reachable_good (sound p False) hc' ho hgate
    obtain ⟨earlier, hs⟩ := lastAccepted_splice hi.history ha
    have hle : a.pending.issuedAtSubmit ≤ c.shared.issuedTotal := by
      rw [hl.issued]; omega
    refine ⟨a, ha, hle, fun i q hq => ?_⟩
    obtain ⟨row, hrow, hv⟩ := hl.row hs hq
    refine ⟨row, ?_, hv⟩
    rw [Acceptance.rowAt, Nat.sub_add_comm hle] at hrow
    exact hrow
  · exact (hi.history.event hs).start
  · have hsub := hi.history.event hs
    exact ⟨hsub.issued, fun hb => (hsub.overlap hb).2.2.choose_spec.2.2.2.1⟩
  · obtain ⟨a, ha⟩ := hi.history.event hs
    exact ha.prefix_row (hi.history.past ((List.suffix_cons _ _).trans hs)) hp hj ht

/-- The first command of a lease is published, and the second chunk is spliced after it. -/
theorem timeAligned_spliced :
    ∃ c, (system Station.three).Reachable (fun _ _ _ _ => True) (.init (init Station.three)) c ∧
      (c.shared.issuedTotal = 2 ∧ c.shared.queue.length = 1) ∧ TimeAligned Station.three c := by
  obtain ⟨c, hc, ht⟩ := Station.shows Station.three (fun _ _ => True)
    (Station.openLease 0 0 (Station.ticket 3 (by decide) 0 0) ++ Station.publish 0 ++
      Station.answer 1 (Station.ticket 3 (by decide) 0 0) ++
        Station.run .scheduler .step 7 { clock := 1 })
    (fun c => decide (c.shared.issuedTotal = 2 ∧ c.shared.queue.length = 1)) (by decide +kernel)
  exact ⟨c, hc, of_decide_eq_true ht, timeAligned hc⟩

end Rtc

end DualCollection
