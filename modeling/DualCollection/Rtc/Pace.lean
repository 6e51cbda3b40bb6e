import DualCollection.Rtc.Timed

/-!
# The pace of a scheduler

`Pace` ties the commands that were published in each control epoch to the schedule: while the gate
is open, `_next_command_s` continues the due times of the epoch, which form a grid, and before the
first response of a lease was accepted there are none.  Every section keeps it, whatever the delays
and wherever a window is spliced, as long as the controller calls the gateway as the controllers of
the source do.
-/

namespace DualCollection

open Thread Timing

namespace Rtc

/-- The commands `l epoch` of every control epoch and the schedule. -/
structure Pace (P W : ℚ) (l : ℕ → List (Sending ℚ)) (s : Rtc) : Prop where
  /-- A control epoch that was not reached has no commands. -/
  past : ∀ epoch, s.controlEpoch < epoch → l epoch = []
  /-- Nothing is published before a request was submitted. -/
  fresh : Fresh s.log → l s.controlEpoch = []
  /-- Nothing is published while the first request of a lease is pending. -/
  bootstrap : ∀ pending, s.pending = some pending → pending.bootstrap = true →
    l s.controlEpoch = []
  /-- The schedule continues the commands of the epoch. -/
  schedule : s.gateOpen = true → ∃ d, s.nextCommandS = some d ∧ Grid P (l s.controlEpoch) d
  /-- No command was published before it was due, or too late. -/
  inTime : ∀ epoch, ∀ x ∈ l epoch, x.InTime W
  /-- The due times of an epoch form a grid. -/
  grid : ∀ epoch, ∃ d, Grid P (l epoch) d

variable {p : RtcParameters} {P W now : ℚ} {l : ℕ → List (Sending ℚ)} {s s' : Rtc}
  {r : Option Failure} {w : ℕ}

theorem pace_init : Pace P W (fun _ => []) (init p) where
  past := fun _ _ => rfl
  fresh := fun _ => rfl
  bootstrap := fun _ _ _ => rfl
  schedule := fun h => by cases h
  inTime := fun _ _ h => by cases h
  grid := fun _ => ⟨0, .nil⟩

/-- Changes that open nothing. -/
theorem Pace.of (h : Pace P W l s) (he : s'.controlEpoch = s.controlEpoch)
    (hf : Fresh s'.log → Fresh s.log)
    (hp : ∀ pending, s'.pending = some pending → pending.bootstrap = true →
      l s.controlEpoch = [])
    (hg : s'.gateOpen = true → s.gateOpen = true ∧ s'.nextCommandS = s.nextCommandS) :
    Pace P W l s' where
  past := fun epoch hlt => h.past epoch (he ▸ hlt)
  fresh := fun hfresh => by rw [he]; exact h.fresh (hf hfresh)
  bootstrap := fun pending hpending hb => by
    rw [he]
    exact hp pending hpending hb
  schedule := fun hgate => by
    obtain ⟨hgate, hnext⟩ := hg hgate
    rw [he, hnext]
    exact h.schedule hgate
  inTime := h.inTime
  grid := h.grid

/-- A later control epoch, or one in which nothing was published. -/
theorem Pace.resetTo (h : Pace P W l s) {e : ℕ} (hle : s.controlEpoch ≤ e)
    (hadm : s.controlEpoch < e ∨ Fresh s.log) : Pace P W l (s.resetTo e) := by
  have hnone : l e = [] := by
    rcases hadm with hlt | hfresh
    · exact h.past e hlt
    · rcases hle.lt_or_eq with hlt | rfl
      · exact h.past e hlt
      · exact h.fresh hfresh
  exact
    { past := fun epoch hlt => h.past epoch (hle.trans_lt hlt)
      fresh := fun _ => hnone
      bootstrap := fun _ _ _ => hnone
      schedule := fun hgate => by cases hgate
      inTime := h.inTime
      grid := h.grid }

/-- Accepting a response neither moves the schedule nor starts it anew, unless it is the first one
of a lease. -/
theorem Pace.splice {c : Candidate} (h : Pace P W l s) (hc : SpliceStep c s r s') :
    Pace P W l s' := by
  cases hc with
  | refused hr => rw [hr.2]; exact h
  | bootstrap nowS hm hb =>
    have hnone := h.bootstrap _ hm.pending hb
    exact
      { past := h.past
        fresh := fun _ => hnone
        bootstrap := fun _ hp => by cases hp
        schedule := fun _ => ⟨nowS, rfl, by
          show Grid P (l s.controlEpoch) nowS
          rw [hnone]
          exact .nil⟩
        inTime := h.inTime
        grid := h.grid }
  | overlap hm hb hd => exact h.of rfl id (fun _ hp => by cases hp) fun hgate => ⟨hgate, rfl⟩

/-- Every section that does not publish keeps the pace. -/
theorem Pace.quiet {sec : RtcSection} (h : Pace P W l s) (hadm : Admits True sec s)
    (hsec : sec ≠ .publish) (hc : Changes p sec s r s') : Pace P W l s' := by
  have hsame : s' = s → Pace P W l s' := fun heq => heq ▸ h
  cases sec with
  | closeGate =>
    rcases hc with hc | ⟨-, rfl⟩
    · exact hsame hc.2
    · exact h.of rfl id h.bootstrap fun hgate => by cases hgate
  | clearPending e =>
    rcases hc with hc | ⟨-, hle, rfl⟩
    · exact hsame hc.2
    · exact h.resetTo hle (hadm trivial)
  | prepare =>
    cases hc with
    | refused hr => exact hsame hr.2
    | identified => exact h.of rfl id h.bootstrap fun hgate => ⟨hgate, rfl⟩
    | submitted =>
      exact h.of rfl (fun hf => by cases hf) (fun _ _ _ => h.fresh (hadm trivial))
        fun hgate => ⟨hgate, rfl⟩
  | takeFault =>
    rw [hc.2]
    refine h.of rfl (fun hf => ?_) h.bootstrap fun hgate => ⟨hgate, rfl⟩
    rw [faultTaken_log] at hf
    cases hfault : s.fault with
    | none => rw [hfault] at hf; exact hf
    | some f => rw [hfault] at hf; exact hf
  | gateCheck =>
    rcases hc with ⟨-, heq | ⟨hgate, rfl⟩⟩
    · exact hsame heq
    · exact h.of rfl id h.bootstrap fun hopen => by
        rw [show s.gateOpen = true from hopen] at hgate
        cases hgate
  | reject f =>
    rw [hc.2]
    exact h.of rfl id (fun _ hp => by cases hp) fun hgate => by cases hgate
  | splice c => exact h.splice hc
  | clearFinishing =>
    rw [show s' = _ from hc]
    exact h.of rfl id h.bootstrap fun hgate => ⟨hgate, rfl⟩
  | finished =>
    rw [show s' = _ from hc]
    exact h.of rfl id h.bootstrap fun hgate => ⟨hgate, rfl⟩
  | publish => exact absurd rfl hsec
  | fail f =>
    rcases hc with ⟨-, -, heq⟩ | ⟨-, rfl⟩
    · exact hsame heq
    · exact h.of rfl id (fun _ hp => by cases hp) fun hgate => by cases hgate
  | complete =>
    obtain ⟨-, future, result, rfl⟩ := hc
    unfold completed
    split
    · exact h.of rfl id h.bootstrap fun hgate => ⟨hgate, rfl⟩
    · exact h
  | checkResponse window snap => exact hsame hc.2
  | beginEpoch | emitReset | poll | clock | finishCheck | acceptRead | stateRead =>
    exact hsame hc

/-! ### Publishing -/

/-- The publishing section stays in its lease. -/
theorem PublishStep.lease (hc : PublishStep p s r s') : s'.controlEpoch = s.controlEpoch ∧
    s'.gateOpen = s.gateOpen ∧ (Fresh s'.log → Fresh s.log) ∧
      ∀ pending, s'.pending = some pending → pending.bootstrap = true →
        ∃ earlier, s.pending = some earlier ∧ earlier.bootstrap = true := by
  cases hc with
  | idle | dropped | issued => exact ⟨rfl, rfl, id, fun pending hp hb => ⟨pending, hp, hb⟩⟩
  | requested dueS nextS estimate _ _ _ _ hboot =>
    refine ⟨rfl, rfl, (fun hf => by cases hf), fun pending hp hb => ?_⟩
    obtain rfl := Option.some.inj hp
    rw [hboot] at hb
    cases hb
  | finishing dueS nextS _ _ hpending =>
    refine ⟨rfl, rfl, id, fun pending hp hb => ?_⟩
    obtain rfl := Option.some.inj hp
    exact ⟨_, hpending, hb⟩

/-- A section that publishes no command. -/
theorem sent_idle {epoch : ℕ} {x : Executed Role RtcSection Env Rtc Failure}
    (hx : x.after.issuedTotal = x.before.issuedTotal) : sent now epoch x = none := by
  unfold sent
  split
  · rw [if_neg (by rw [hx]; exact fun h => lt_irrefl _ h.2)]
  · rfl

/-- A section that publishes a command. -/
theorem sent_issued {epoch : ℕ} {x : Executed Role RtcSection Env Rtc Failure}
    (hname : x.name = .publish) (hx : x.after.issuedTotal = x.before.issuedTotal + 1) :
    sent now epoch x = if x.before.controlEpoch = epoch then
      some ⟨x.before.nextCommandS.getD now, now⟩ else none := by
  unfold sent
  rw [hname]
  simp only [hx, Nat.lt_succ_self, and_true]

/-- The publishing section keeps the pace. -/
theorem Pace.publish {t : Role} {e : Env} (h : Pace P W l s) (hi : Inv p w s)
    (hc : PublishStep p s r s') (hd : Due W P now s s') :
    Pace P W (fun epoch => l epoch ++ (sent now epoch ⟨t, .publish, e, s, r, s'⟩).toList) s' := by
  obtain ⟨he, hg, hf, hp⟩ := hc.lease
  cases hd with
  | idle hissued hnext =>
    have hl : (fun epoch => l epoch ++ (sent now epoch ⟨t, .publish, e, s, r, s'⟩).toList) = l := by
      funext epoch
      rw [sent_idle hissued]
      exact List.append_nil _
    rw [hl]
    refine h.of he hf (fun pending hpending hb => ?_) fun hgate => ?_
    · obtain ⟨earlier, hearlier, hb⟩ := hp pending hpending hb
      exact h.bootstrap earlier hearlier hb
    · rw [hg] at hgate
      obtain ⟨d, hd, -⟩ := h.schedule hgate
      exact ⟨hgate, by rw [hd]; exact hnext d hgate hd⟩
  | issued d hgate hdue hle hlate hissued hnext =>
    obtain ⟨d', hd', hgrid⟩ := h.schedule hgate
    obtain rfl : d' = d := by rw [← hdue, hd', Option.getD_some]
    have hother : ∀ epoch, s.controlEpoch ≠ epoch →
        l epoch ++ (sent now epoch ⟨t, .publish, e, s, r, s'⟩).toList = l epoch := fun epoch hne => by
      rw [sent_issued rfl hissued, if_neg hne]
      exact List.append_nil _
    have hcurrent : l s.controlEpoch ++
        (sent now s.controlEpoch ⟨t, .publish, e, s, r, s'⟩).toList =
          l s.controlEpoch ++ [⟨d', now⟩] := by
      rw [sent_issued rfl hissued, if_pos rfl, hdue]
      rfl
    -- the gate is open, so the first request of the lease was answered
    have hbusy : ¬ Fresh s.log := fun hfresh => by
      have := (hi.fresh hfresh).gateOpen
      rw [hgate] at this
      cases this
    refine ⟨fun epoch hlt => ?_, fun hfresh => absurd (hf hfresh) hbusy,
      fun pending hpending hb => ?_, fun _ => ⟨d' + P, hnext, ?_⟩, fun epoch => ?_, fun epoch => ?_⟩
    · rw [he] at hlt
      rw [hother epoch hlt.ne]
      exact h.past epoch hlt
    · obtain ⟨earlier, hearlier, hb⟩ := hp pending hpending hb
      have := (hi.bootstrap earlier hearlier hb).1
      rw [hgate] at this
      cases this
    · rw [he, hcurrent]
      exact hgrid.snoc rfl
    · by_cases hepoch : s.controlEpoch = epoch
      · subst hepoch
        intro x hx
        rw [hcurrent, List.mem_append, List.mem_singleton] at hx
        rcases hx with hx | rfl
        · exact h.inTime _ x hx
        · exact ⟨hle, hlate⟩
      · rw [hother epoch hepoch]
        exact h.inTime epoch
    · by_cases hepoch : s.controlEpoch = epoch
      · subst hepoch
        exact ⟨d' + P, by rw [hcurrent]; exact hgrid.snoc rfl⟩
      · rw [hother epoch hepoch]
        exact h.grid epoch

/-! ### Runs -/

/-- What is expected of the commands of one control epoch: they are paced, and their due times are
`s`, `s + P`, `s + 2 * P`, .... -/
structure OnSchedule (P W : ℚ) (l : List (Sending ℚ)) : Prop extends Paced P W l where
  /-- The due times are exact. -/
  exact : ∃ s, ∀ (k : ℕ) (h : k < l.length), l[k].due = s + k * P

theorem periodS_pos (p : RtcParameters) : 0 < p.periodS :=
  one_div_pos.2 p.checkpoint.execution.controlRateHz_pos

theorem Pace.onSchedule (h : Pace p.periodS p.commandWatchdogS l s) (epoch : ℕ) :
    OnSchedule p.periodS p.commandWatchdogS (l epoch) := by
  obtain ⟨d, hd⟩ := h.grid epoch
  have hpaced := (hd.spaced (periodS_pos p)).paced (periodS_pos p) p.timeouts_pos.2.le (h.inTime epoch)
  obtain ⟨s, hs, -⟩ := hd
  exact ⟨hpaced, s, hs⟩

/-- The commands of a scheduler keep the pace along every run. -/
theorem pace_recorded {S : System Role Op RtcSection Env Rtc Failure} {clock : Env → Record → ℚ}
    {T : Option ℚ} (hS : ((outline p w False).extend (timing p clock T)).Sound S.recorded)
    {c : Config Role RtcSection Env (Rtc × Record) Failure}
    (hc : S.recorded.Reachable (fun _ l e x => Admits True l x.1 ∧ ∀ bound ∈ T, Answered bound e x.1)
      (.init (init p, [])) c) :
    Pace p.periodS p.commandWatchdogS (fun epoch => sendings clock epoch c.shared.2) c.shared.1 := by
  have h₀ : ((outline p w False).extend (timing p clock T)).inv (init p, ([] : Record)) :=
    ⟨inv_init, trivial⟩
  have hid : ∀ t, ((outline p w False).extend (timing p clock T)).idle t
      (init p, ([] : Record)) := fun t => ⟨idle_init t, trivial⟩
  refine hS.keeps (J := fun x => Pace p.periodS p.commandWatchdogS
    (fun epoch => sendings clock epoch x.2) x.1) (fun _ _ _ _ h => ⟨admits_free, h.2⟩) h₀ hid
    pace_init (fun t sec e x r x' hi hpre hadm hg h => ?_) hc
  obtain ⟨⟨hchanges, -⟩, e', hrec, hdue⟩ := hg
  rw [hrec]
  by_cases hsec : sec = .publish
  · subst hsec
    have ht : t = .scheduler := by
      cases t with
      | controller => exact hpre.1.elim
      | scheduler => rfl
      | policy => exact hpre.1.elim
    exact h.publish hi.1 hchanges (hdue ht rfl).1
  · have hquiet := h.quiet hadm.1 hsec hchanges
    have hsame : ∀ epoch, sendings clock epoch (⟨t, sec, e', x.1, r, x'.1⟩ :: x.2) =
        sendings clock epoch x.2 := fun epoch => by
      rw [sendings, sent_of_ne hsec]
      exact List.append_nil _
    simpa only [hsame] using hquiet

end Rtc

end DualCollection
