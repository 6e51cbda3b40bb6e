import DualCollection.Expo.Continuity
import DualCollection.Rtc.Pace

/-!
# The pace of an EXPO scheduler

An EXPO scheduler reads the clock once more in its publishing section, and never sets
`_next_command_s` back when it finds the gate closed.  Its commands keep the same pace as those of
an RTC scheduler.
-/

namespace DualCollection

open Thread Timing

namespace Expo

open Rtc (Due underrun Admits OnSchedule timing perform)

variable {p : ExpoParameters} {e : Env} {s : Rtc} {start : StepStart}

/-- The commands of an EXPO scheduler.  The time of a command is the reading of its publishing
section; the sink is called after it. -/
def commands (epoch : ℕ) (record : Rtc.Record) : List (Sending ℚ) :=
  Rtc.sendings (fun e _ => e.clock) epoch record

theorem prefetch_schedule :
    (prefetch p).Post e s fun r s' => s'.issuedTotal = s.issuedTotal ∧
      s'.nextCommandS = s.nextCommandS ∧ r ≠ .error underrun := by
  rw [prefetch, Locked.post_bind, Locked.post_get]
  dsimp only
  rw [Locked.post_ite, Locked.post_ite]
  refine ⟨fun _ => ⟨fun _ => ⟨rfl, rfl, by rintro ⟨⟩⟩, fun _ => ?_⟩,
    fun _ => ⟨rfl, rfl, by rintro ⟨⟩⟩⟩
  cases hmake : RtcPolicyContext.make p.d (s.queue.map (·.modelAction)) with
  | error err =>
    refine ⟨rfl, rfl, ?_⟩
    rcases RtcPolicyContext.make_error hmake with rfl | rfl <;> rintro ⟨⟩
  | ok context => exact Rtc.submitLocked_schedule

theorem finish_schedule :
    (finish p).Post e s fun r s' => s'.issuedTotal = s.issuedTotal ∧
      s'.nextCommandS = s.nextCommandS ∧ r ≠ .error underrun := by
  rw [finish, Locked.post_bind, Locked.post_get]
  dsimp only
  rw [Locked.post_ite]
  refine ⟨fun _ => ?_, fun _ => ⟨rfl, rfl, by rintro ⟨⟩⟩⟩
  cases s.pending with
  | none => exact ⟨rfl, rfl, by rintro ⟨⟩⟩
  | some pending =>
    dsimp only
    cases s.futures pending.future with
    | none => exact ⟨rfl, rfl, by rintro ⟨⟩⟩
    | some result =>
      cases result with
      | error err => exact ⟨rfl, rfl, by rintro ⟨⟩⟩
      | ok result =>
        rw [Locked.post_bind]
        exact Locked.post_call ⟨rfl, rfl, by rintro ⟨⟩⟩ fun err => ⟨rfl, rfl, by rintro ⟨⟩⟩

/-- The publishing section of an EXPO scheduler. -/
theorem publishDue_due :
    (publishDue p start).Post e s fun r s' =>
      Due p.commandWatchdogS p.periodS e.clock s s' ∧ r ≠ .error underrun := by
  have hidle : ∀ r : Except Exc Bool, r ≠ .error underrun →
      Due p.commandWatchdogS p.periodS e.clock s s ∧ r ≠ .error underrun := fun r hr =>
    ⟨.idle rfl fun _ _ hd => hd, hr⟩
  rw [publishDue, Locked.post_bind, Locked.post_get]
  dsimp only
  rw [Locked.post_ite]
  refine ⟨fun _ => hidle _ (by rintro ⟨⟩), fun hopen => ?_⟩
  have hgate : s.gateOpen = true := not_not.1 hopen
  rw [Locked.post_bind, Locked.post_ask]
  dsimp only
  rw [Locked.post_ite]
  refine ⟨fun _ => hidle _ (by rintro ⟨⟩), fun _ => ?_⟩
  cases hdue : s.nextCommandS with
  | none => exact hidle _ (by rintro ⟨⟩)
  | some due =>
    dsimp only
    rw [Locked.post_ite, Locked.post_ite]
    refine ⟨fun _ => hidle _ (by rintro ⟨⟩), fun hlt => ⟨fun _ => hidle _ (by rintro ⟨⟩),
      fun hwatch => ?_⟩⟩
    have hle : due ≤ e.clock := not_lt.1 hlt
    rw [Locked.post_bind, Rtc.issue, Locked.post_bind, Locked.post_get]
    dsimp only
    cases hq : s.queue with
    | nil => exact hidle _ (by rintro ⟨⟩)
    | cons queued rest =>
      simp only [Locked.post_bind, Locked.post_modify]
      refine Locked.post_call ?_ fun err => ⟨.idle rfl fun _ _ hd => hd, by rintro ⟨⟩⟩
      have hissued : ∀ s' : Rtc, s'.issuedTotal = s.issuedTotal + 1 →
          s'.nextCommandS = some (due + p.periodS) →
          Due p.commandWatchdogS p.periodS e.clock s s' := fun s' hi hn =>
        .issued due hgate (by rw [hdue, Option.getD_some]) hle (by linarith [not_lt.1 hwatch]) hi hn
      refine Locked.post_mono prefetch_schedule fun r s' h => ?_
      cases r with
      | error err =>
        exact ⟨hissued s' h.1 h.2.1, fun hr => h.2.2 (congrArg _ (Except.error.inj hr))⟩
      | ok u =>
        refine Locked.post_mono finish_schedule fun r s'' h' => ?_
        have hdue' := hissued s'' (h'.1.trans h.1) (h'.2.1.trans h.2.1)
        cases r with
        | error err => exact ⟨hdue', fun hr => h'.2.2 (congrArg _ (Except.error.inj hr))⟩
        | ok u => exact ⟨hdue', by rintro ⟨⟩⟩

section Step

variable {x : Rtc × Rtc.Record}

/-- The outline of the recorded programs. -/
abbrev timed (p : ExpoParameters) : Outline Rtc.Role RtcSection Env (Rtc × Rtc.Record) Failure :=
  timing p.toRtcParameters (fun e _ => e.clock) none

theorem wp_publishStage_timed :
    wp (timed p) .scheduler (fun _ _ => True) ((publishStage p start).recorded .scheduler) x := by
  rw [publishStage, Prog.recorded_bind]
  refine wp_bind_true (Rtc.wp_timed_publish (fun _ _ _ h => by cases h) fun y _ e =>
    Locked.post_mono publishDue_due fun r s' h => ⟨h.1, fun hr => absurd hr h.2⟩) fun missed y => ?_
  split <;> trivial

theorem wp_finishStage_timed {now : ℚ} {begun : ℕ} :
    wp (timed p) .scheduler (fun _ _ => True)
      ((finishStage p start now begun).recorded .scheduler) x := by
  refine Rtc.wp_timing_only ?_
  unfold finishStage
  split_ifs
  · trivial
  cases start.pending with
  | none => trivial
  | some pending =>
    refine Prog.only_bind (Prog.only_atomic (by simp)) fun done => ?_
    cases done with
    | false => trivial
    | true =>
      refine Prog.only_bind Rtc.only_acceptPending fun u => ?_
      exact Prog.only_bind (Prog.only_atomic (by simp)) fun u => trivial

/-- A step of an EXPO scheduler publishes at the time that it reads in the publishing section. -/
theorem wp_step_timed :
    wp (timed p) .scheduler (fun _ _ => True) ((step p).recorded .scheduler) x := by
  rw [step, Prog.recorded_tryCatch, wp_tryCatch]
  suffices h : wp (timed p) .scheduler (fun _ _ => True) ((stepBody p).recorded .scheduler) x by
    refine wp_mono h fun r y _ => ?_
    cases r with
    | ok u => trivial
    | error f => exact Rtc.wp_timing_only (Prog.only_atomic (by simp))
  rw [stepBody, Prog.recorded_bind]
  refine wp_bind_true (Rtc.wp_timing_only (Prog.only_atomic (by simp))) fun now y => ?_
  rw [Prog.recorded_bind]
  refine wp_bind_true (Rtc.wp_timing_only (Prog.only_atomic (by simp))) fun check y => ?_
  cases check with
  | none => trivial
  | some start =>
    dsimp only
    cases start.finishing with
    | none => exact wp_publishStage_timed
    | some begun =>
      dsimp only
      rw [Prog.recorded_bind]
      refine wp_bind_true wp_finishStage_timed fun done y => ?_
      cases done with
      | false => trivial
      | true => exact wp_publishStage_timed

end Step

/-- The outline of the recorded programs of an EXPO scheduler. -/
theorem timed_sound (p : ExpoParameters) :
    ((Rtc.outline p.toRtcParameters p.c False).extend (timed p)).Sound (system p).recorded :=
  Rtc.timing_sound (sound p) fun o x => by
    cases o with
    | step => exact wp_step_timed
    | _ => trivial

end Expo

/-- In every run with controllers like those of the source, the commands of either scheduler are
paced within each control epoch, and their due times form one grid, across every splice.  The times
are the readings of the clock that were compared with the schedule. -/
theorem commands_onSchedule :
    (∀ (p : RtcParameters) c, (Rtc.system p).recorded.Reachable
        (fun _ l _ x => Rtc.Admits True l x.1) (.init (Rtc.init p, [])) c → ∀ epoch,
          Rtc.OnSchedule p.periodS p.commandWatchdogS (Rtc.commands epoch c.shared.2)) ∧
      ∀ (p : ExpoParameters) c, (Expo.system p).recorded.Reachable
        (fun _ l _ x => Rtc.Admits True l x.1) (.init (Rtc.init p.toRtcParameters, [])) c → ∀ epoch,
          Rtc.OnSchedule p.periodS p.commandWatchdogS (Expo.commands epoch c.shared.2) := by
  refine ⟨fun p c hc epoch => ?_, fun p c hc epoch => ?_⟩
  · have hpace := Rtc.pace_recorded (Rtc.timed_sound p False none)
      (hc.mono fun _ _ _ _ h => ⟨h, fun bound hb => by cases hb⟩)
    exact hpace.onSchedule epoch
  · have hpace := Rtc.pace_recorded (Expo.timed_sound p)
      (hc.mono fun _ _ _ _ h => ⟨h, fun bound hb => by cases hb⟩)
    exact hpace.onSchedule epoch

/-- Both schedulers publish across a splice, at a pace of one command in a second. -/
theorem commands_onSchedule_spliced :
    (∃ c, (Rtc.system Rtc.Station.three).recorded.Reachable (fun _ l _ x => Rtc.Admits True l x.1)
        (.init (Rtc.init Rtc.Station.three, [])) c ∧
      (Rtc.commands 0 c.shared.2).length = 2 ∧
        Rtc.OnSchedule Rtc.Station.three.periodS Rtc.Station.three.commandWatchdogS
          (Rtc.commands 0 c.shared.2)) ∧
    ∃ c, (Expo.system Expo.Station.parameters).recorded.Reachable
        (fun _ l _ x => Rtc.Admits True l x.1)
        (.init (Rtc.init Expo.Station.parameters.toRtcParameters, [])) c ∧
      (Expo.commands 0 c.shared.2).length = 3 ∧
        Rtc.OnSchedule Expo.Station.parameters.periodS Expo.Station.parameters.commandWatchdogS
          (Expo.commands 0 c.shared.2) := by
  obtain ⟨c, hc, ht⟩ := System.shows (Rtc.system Rtc.Station.three).recorded
    (fun _ _ _ => trivial) (fun l x => Rtc.Admits True l x.1)
    (.init (Rtc.init Rtc.Station.three, []))
    (Rtc.Station.openLease 0 0 (Rtc.Station.ticket 3 (by decide) 0 0) ++ Rtc.Station.publish 0 ++
      Rtc.Station.answer 1 (Rtc.Station.ticket 3 (by decide) 0 1) ++
        Rtc.Station.run .scheduler .step 7 { clock := 1 })
    (fun c => decide ((Rtc.commands 0 c.shared.2).length = 2)) (by decide +kernel)
  obtain ⟨c', hc', ht'⟩ := System.shows (Expo.system Expo.Station.parameters).recorded
    (fun _ _ _ => trivial) (fun l x => Rtc.Admits True l x.1)
    (.init (Rtc.init Expo.Station.parameters.toRtcParameters, []))
    (Expo.Station.window 0 ++ Expo.Station.nextWindow 1)
    (fun c => decide ((Expo.commands 0 c.shared.2).length = 3)) (by decide +kernel)
  exact ⟨⟨c, hc, of_decide_eq_true ht, commands_onSchedule.1 _ c hc 0⟩,
    c', hc', of_decide_eq_true ht', commands_onSchedule.2 _ c' hc' 0⟩

end DualCollection
