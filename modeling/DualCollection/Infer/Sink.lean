import DualCollection.Infer.Controller

/-!
# The schedulers and their sink

A publishing section takes a command from the queue and hands it to the sink before it does anything
else that is observed (`Rtc.Heeds`): whether it hands one over does not depend on what the sink
answers, and it raises when the sink raises.  So `InferWorld.via` calls `RecordedControl.publish`
where the source does.

`Records` lists what an inference controller relies on in addition to `Drives`, so that the argument
is the same for both schedulers.
-/

namespace DualCollection

open Thread

namespace Rtc

variable {β : Type} {e : Env} {s : Rtc}

/-- A publishing section heeds its sink. -/
def Heeds (l : RtcSection) (act : Env → Rtc → Except Failure β × Rtc) : Prop :=
  l = .publish → ∀ e s, (act e s).2.queue ≠ s.queue → ∀ raised,
    (act (e.publishing raised) s).2.queue ≠ s.queue ∧
      (raised ≠ none → ∃ f, (act (e.publishing raised) s).1 = .error f)

/-- The outcome of a body that hands over a command exactly when `D` holds. -/
def Hands (D : Prop) (e : Env) (s : Rtc) (r : Except Exc β) (s' : Rtc) : Prop :=
  (s'.queue ≠ s.queue ↔ D) ∧ (D → e.raises .publish ≠ none → ∃ err, r = .error err)

theorem Hands.not {D : Prop} {r : Except Exc β} {s' : Rtc} (h : ¬ D) (hq : s'.queue = s.queue) :
    Hands D e s r s' :=
  ⟨⟨fun hne => absurd hq hne, fun hD => absurd hD h⟩, fun hD => absurd hD h⟩

/-- A body heeds its sink when what it decides on is not what the sink answers. -/
theorem heeds_locked {l : RtcSection} {epoch : Rtc → ℕ} {body : Locked Rtc β}
    (D : Env → Rtc → Prop) (hD : ∀ e s raised, D e s → D (e.publishing raised) s)
    (h : ∀ e s, body.Post e s (Hands (D e s) e s)) :
    Heeds l fun e s => (markEpoch (epoch s) (body e s).1, (body e s).2) := by
  intro _ e s hq raised
  have hd : D (e.publishing raised) s := hD e s raised ((h e s).1.1 hq)
  refine ⟨(h _ s).1.2 hd, fun hraised => ?_⟩
  have hport : (e.publishing raised).raises .publish = raised := by simp [Env.publishing]
  obtain ⟨err, herr⟩ := (h _ s).2 hd (by rwa [hport])
  refine ⟨⟨err, epoch s⟩, ?_⟩
  dsimp only
  rw [herr]
  rfl

/-! ### The publishing sections -/

theorem submitLocked_queue {b : Bool} {context : Option RtcPolicyContext} :
    (submitLocked b context).Post e s fun _ s' => s'.queue = s.queue := by
  simp only [submitLocked, Locked.post_bind, Locked.post_get, Locked.post_ite, Locked.post_raise]
  refine ⟨fun _ => by trivial, fun _ => Locked.post_call ?_ fun _ => rfl⟩
  simp only [Locked.post_ask, Locked.post_modify]
  exact Locked.post_emit rfl fun _ => rfl

theorem prefetch_queue {p : RtcParameters} :
    (prefetch p).Post e s fun _ s' => s'.queue = s.queue := by
  simp only [prefetch, Locked.post_bind, Locked.post_get, Locked.post_ite]
  refine ⟨fun _ => ⟨fun _ => rfl, fun _ => ?_⟩, fun _ => rfl⟩
  split
  · rfl
  · exact submitLocked_queue

/-- `issue` hands over the first command of the queue, if there is one. -/
theorem issue_hands {empty : SchedulerError} {periodS due : ℚ} {f : Locked Rtc β}
    (hf : ∀ s, f.Post e s fun _ s' => s'.queue = s.queue) :
    (do issue empty periodS due; f : Locked Rtc β).Post e s (Hands (s.queue ≠ []) e s) := by
  rw [Locked.post_bind, issue, Locked.post_bind, Locked.post_get]
  dsimp only
  cases hq : s.queue with
  | nil => exact .not (· rfl) (by trivial)
  | cons queued rest =>
    have hne : rest ≠ s.queue := by
      rw [hq]
      exact (List.cons_ne_self _ _).symm
    have htaken : ∀ {r : Except Exc β} {s' : Rtc}, s'.queue = rest →
        (e.raises .publish ≠ none → ∃ err, r = .error err) →
          Hands (queued :: rest ≠ []) e s r s' := fun hs hr => by
      refine ⟨⟨fun _ => List.cons_ne_nil _ _, fun _ => ?_⟩, fun _ => hr⟩
      rw [hs]
      exact hne
    simp only [Locked.post_bind, Locked.post_modify]
    unfold Locked.Post
    rw [Locked.call_run]
    cases hport : e.raises .publish with
    | some err => exact htaken rfl fun _ => ⟨_, rfl⟩
    | none => exact htaken (hf _) fun h => absurd hport h

/-- A publishing section of the RTC scheduler heeds its sink. -/
theorem publishDue_heeds {p : RtcParameters} {now : ℚ} :
    Heeds .publish fun e s =>
      (markEpoch s.controlEpoch (publishDue p now e s).1, (publishDue p now e s).2) := by
  refine heeds_locked (fun _ s => s.gateOpen = true ∧ ¬ now < s.nextCommandS.getD now ∧
    ¬ p.commandWatchdogS < now - s.nextCommandS.getD now ∧ s.queue ≠ []) (fun _ _ _ h => h)
    fun e s => ?_
  rw [publishDue, Locked.post_bind, Locked.post_get]
  dsimp only
  rw [Locked.post_ite]
  refine ⟨fun hgate => .not (fun h => hgate h.1) rfl, fun hgate => ?_⟩
  rw [Locked.post_bind, Locked.post_modify]
  dsimp only
  rw [Locked.post_ite, Locked.post_ite]
  refine ⟨fun hlate => .not (fun h => h.2.1 hlate) rfl, fun hlate =>
    ⟨fun hwatch => .not (fun h => h.2.2.1 hwatch) rfl, fun hwatch => ?_⟩⟩
  refine Locked.post_mono (issue_hands fun s' => ?_) fun r s' h => ?_
  · rw [Locked.post_bind]
    exact Locked.post_emit prefetch_queue fun _ => rfl
  · exact ⟨h.1.trans ⟨fun hq => ⟨not_not.1 hgate, hlate, hwatch, hq⟩, fun h => h.2.2.2⟩,
      fun hd => h.2 hd.2.2.2⟩

end Rtc

namespace Expo

open Rtc (Heeds Hands heeds_locked)

variable {e : Env} {s : Rtc} {p : ExpoParameters}

theorem prefetch_queue : (prefetch p).Post e s fun _ s' => s'.queue = s.queue := by
  simp only [prefetch, Locked.post_bind, Locked.post_get, Locked.post_ite]
  refine ⟨fun _ => ⟨fun _ => rfl, fun _ => ?_⟩, fun _ => rfl⟩
  split
  · rfl
  · exact Rtc.submitLocked_queue

theorem finish_queue : (finish p).Post e s fun _ s' => s'.queue = s.queue := by
  simp only [finish, Locked.post_bind, Locked.post_get, Locked.post_ite]
  refine ⟨fun _ => ?_, fun _ => rfl⟩
  split
  · rfl
  · split
    · rfl
    · rfl
    · rw [Locked.post_bind]
      exact Locked.post_call rfl fun _ => rfl

/-- A publishing section of the EXPO scheduler heeds its sink. -/
theorem publishDue_heeds {start : StepStart} :
    Heeds .publish fun e s =>
      (markEpoch s.controlEpoch (publishDue p start e s).1, (publishDue p start e s).2) := by
  refine heeds_locked (fun e s => s.gateOpen = true ∧
    ¬ (start.finishing.isSome ∧ start.missed e.clock) ∧ ∃ due, s.nextCommandS = some due ∧
      ¬ e.clock < due ∧ ¬ p.commandWatchdogS < e.clock - due ∧ s.queue ≠ []) (fun _ _ _ h => h)
    fun e s => ?_
  rw [publishDue, Locked.post_bind, Locked.post_get]
  dsimp only
  rw [Locked.post_ite]
  refine ⟨fun hgate => .not (fun h => hgate h.1) rfl, fun hgate => ?_⟩
  rw [Locked.post_bind, Locked.post_ask]
  dsimp only
  rw [Locked.post_ite]
  refine ⟨fun hmissed => .not (fun h => h.2.1 hmissed) rfl, fun hmissed => ?_⟩
  cases hdue : s.nextCommandS with
  | none => exact .not (fun ⟨_, _, due, h, _⟩ => by cases h) rfl
  | some due =>
    dsimp only
    rw [Locked.post_ite, Locked.post_ite]
    refine ⟨fun hlate => .not ?_ rfl, fun hlate => ⟨fun hwatch => .not ?_ rfl, fun hwatch => ?_⟩⟩
    · rintro ⟨-, -, _, ⟨⟩, h, -⟩
      exact h hlate
    · rintro ⟨-, -, _, ⟨⟩, -, h, -⟩
      exact h hwatch
    refine Locked.post_mono (Rtc.issue_hands fun s' => ?_) fun r s' h => ?_
    · rw [Locked.post_bind]
      refine Locked.post_mono prefetch_queue fun r s₁ h₁ => ?_
      cases r with
      | error err => exact h₁
      | ok u =>
        dsimp only
        rw [Locked.post_bind]
        refine Locked.post_mono finish_queue fun r s₂ h₂ => ?_
        cases r with
        | error err => exact h₂.trans h₁
        | ok u => exact h₂.trans h₁
    · refine ⟨h.1.trans ⟨fun hq => ⟨not_not.1 hgate, hmissed, due, rfl, hlate, hwatch, hq⟩, ?_⟩, ?_⟩
      · rintro ⟨-, -, _, -, -, -, h⟩
        exact h
      · rintro ⟨-, -, _, -, -, -, hq⟩
        exact h.2 hq

end Expo

/-! ### What an inference controller relies on -/

/-- The programs of a gateway and of its scheduler, as far as an inference controller relies on
them in addition to `Drives`. -/
structure Records (gw : CommandGateway RtcSection Rtc) (step : Rtc.Program Unit) : Type 1 where
  /-- `close_gate` ends with its first exception. -/
  closeGate : ∀ e, (gw.closeGate e).Strict
  /-- So does `clear_pending`. -/
  clearPending : ∀ e, (gw.clearPending e).Strict
  /-- So does `prepare_policy`. -/
  preparePolicy : ∀ episodeId e, (gw.preparePolicy episodeId e).Strict
  /-- So does `policy_ready`. -/
  policyReady : ∀ episodeId e, (gw.policyReady episodeId e).Strict
  /-- So does `take_fault`. -/
  takeFault : gw.takeFault.Strict
  /-- `prepare_policy` is one section. -/
  preparePolicy_only : ∀ episodeId e, (gw.preparePolicy episodeId e).Only (· = .prepare)
  /-- `policy_ready` prepares nothing. -/
  policyReady_only : ∀ episodeId e, (gw.policyReady episodeId e).Only (· ≠ .prepare)
  /-- `_step` -/
  body : Rtc.Program Unit
  /-- `step` handles the exceptions of `_step` with `_fail`. -/
  step_eq : step = body.tryCatch Rtc.fail
  /-- `_step` ends with its first exception. -/
  body_strict : body.Strict
  /-- It heeds its sink. -/
  body_heeds : body.Each Rtc.Heeds

namespace Rtc

variable {p : RtcParameters}

theorem heeds_of_ne {β : Type} {l : RtcSection} {act : Env → Rtc → Except Failure β × Rtc}
    (h : l ≠ .publish) : Heeds l act := fun hl => absurd hl h

theorem acceptPending_strict {w begun : ℕ} {b : Bool} : (acceptPending p w begun b).Strict := by
  refine Prog.strict_bind Prog.strict_atomic fun snap => Prog.strict_bind Prog.strict_atomic
    fun response => Prog.strict_bind Prog.strict_atomic fun measured => ?_
  split
  · exact Prog.strict_atomic
  · exact Prog.strict_atomic

theorem acceptPending_heeds {w begun : ℕ} {b : Bool} : (acceptPending p w begun b).Each Heeds := by
  refine Prog.each_bind (Prog.each_atomic (heeds_of_ne (by simp))) fun snap =>
    Prog.each_bind (Prog.each_atomic (heeds_of_ne (by simp))) fun response =>
      Prog.each_bind (Prog.each_atomic (heeds_of_ne (by simp))) fun measured => ?_
  split
  · exact Prog.each_atomic (heeds_of_ne (by simp))
  · exact Prog.each_atomic (heeds_of_ne (by simp))

theorem acceptPending_asks {w begun : ℕ} {b : Bool} :
    (acceptPending p w begun b).Only (· ≠ .prepare) := by
  refine Prog.only_bind (Prog.only_atomic (by simp)) fun snap =>
    Prog.only_bind (Prog.only_atomic (by simp)) fun response =>
      Prog.only_bind (Prog.only_atomic (by simp)) fun measured => ?_
  split
  · exact Prog.only_atomic (by simp)
  · exact Prog.only_atomic (by simp)

theorem clearPending_strict {e : ℕ} : (clearPending e).Strict :=
  Prog.strict_bind Prog.strict_atomic fun _ =>
    Prog.strict_bind Prog.strict_atomic fun _ => Prog.strict_atomic

theorem policyReady_strict {w : ℕ} {episodeId : String} {e : ℕ} :
    (policyReady p w episodeId e).Strict := by
  refine Prog.strict_bind Prog.strict_atomic fun ready => ?_
  split
  · exact Prog.strict_bind acceptPending_strict fun _ => trivial
  · trivial

theorem policyReady_asks {w : ℕ} {episodeId : String} {e : ℕ} :
    (policyReady p w episodeId e).Only (· ≠ .prepare) := by
  refine Prog.only_bind (Prog.only_atomic (by simp)) fun ready => ?_
  split
  · exact Prog.only_bind acceptPending_asks fun _ => trivial
  · trivial

theorem stepBody_strict : (stepBody p).Strict := by
  refine Prog.strict_bind Prog.strict_atomic fun now => Prog.strict_bind Prog.strict_atomic
    fun check => ?_
  split
  · trivial
  · split
    · exact Prog.strict_bind acceptPending_strict fun _ => Prog.strict_atomic
    · exact Prog.strict_atomic

theorem stepBody_heeds : (stepBody p).Each Heeds := by
  refine Prog.each_bind (Prog.each_atomic (heeds_of_ne (by simp))) fun now =>
    Prog.each_bind (Prog.each_atomic (heeds_of_ne (by simp))) fun check => ?_
  split
  · trivial
  · split
    · exact Prog.each_bind acceptPending_heeds fun _ => Prog.each_atomic publishDue_heeds
    · exact Prog.each_atomic publishDue_heeds

/-- What a controller relies on holds of the RTC scheduler. -/
def records (p : RtcParameters) : Records (gateway p) (step p) where
  closeGate := fun _ => Prog.strict_atomic
  clearPending := fun _ => clearPending_strict
  preparePolicy := fun _ _ => Prog.strict_atomic
  policyReady := fun _ _ => policyReady_strict
  takeFault := Prog.strict_atomic
  preparePolicy_only := fun _ _ => Prog.only_atomic rfl
  policyReady_only := fun _ _ => policyReady_asks
  body := stepBody p
  step_eq := rfl
  body_strict := stepBody_strict
  body_heeds := stepBody_heeds

end Rtc

namespace Expo

open Rtc (Heeds heeds_of_ne)

variable {p : ExpoParameters} {start : StepStart}

theorem publishStage_strict : (publishStage p start).Strict := by
  refine Prog.strict_bind Prog.strict_atomic fun missed => ?_
  split <;> trivial

theorem publishStage_heeds : (publishStage p start).Each Heeds := by
  refine Prog.each_bind (Prog.each_atomic publishDue_heeds) fun missed => ?_
  split <;> trivial

theorem finishStage_strict {now : ℚ} {begun : ℕ} : (finishStage p start now begun).Strict := by
  unfold finishStage
  split
  · trivial
  · split
    · trivial
    · refine Prog.strict_bind Prog.strict_atomic fun done => ?_
      split
      · exact Prog.strict_bind Rtc.acceptPending_strict fun _ =>
          Prog.strict_bind Prog.strict_atomic fun _ => trivial
      · trivial

theorem finishStage_heeds {now : ℚ} {begun : ℕ} : (finishStage p start now begun).Each Heeds := by
  unfold finishStage
  split
  · trivial
  · split
    · trivial
    · refine Prog.each_bind (Prog.each_atomic (heeds_of_ne (by simp))) fun done => ?_
      split
      · exact Prog.each_bind Rtc.acceptPending_heeds fun _ =>
          Prog.each_bind (Prog.each_atomic (heeds_of_ne (by simp))) fun _ => trivial
      · trivial

theorem stepBody_strict : (stepBody p).Strict := by
  refine Prog.strict_bind Prog.strict_atomic fun now => Prog.strict_bind Prog.strict_atomic
    fun check => ?_
  split
  · trivial
  · split
    · exact publishStage_strict
    · refine Prog.strict_bind finishStage_strict fun done => ?_
      split
      · exact publishStage_strict
      · trivial

theorem stepBody_heeds : (stepBody p).Each Heeds := by
  refine Prog.each_bind (Prog.each_atomic (heeds_of_ne (by simp))) fun now =>
    Prog.each_bind (Prog.each_atomic (heeds_of_ne (by simp))) fun check => ?_
  split
  · trivial
  · split
    · exact publishStage_heeds
    · refine Prog.each_bind finishStage_heeds fun done => ?_
      split
      · exact publishStage_heeds
      · trivial

/-- What a controller relies on holds of the EXPO scheduler. -/
def records (p : ExpoParameters) : Records (gateway p) (step p) where
  closeGate := fun _ => Prog.strict_atomic
  clearPending := fun _ => Prog.strict_bind Rtc.clearPending_strict fun _ => Prog.strict_atomic
  preparePolicy := fun _ _ => Prog.strict_atomic
  policyReady := fun _ _ => Rtc.policyReady_strict
  takeFault := Prog.strict_atomic
  preparePolicy_only := fun _ _ => Prog.only_atomic rfl
  policyReady_only := fun _ _ => Rtc.policyReady_asks
  body := stepBody p
  step_eq := rfl
  body_strict := stepBody_strict
  body_heeds := stepBody_heeds

end Expo

end DualCollection
