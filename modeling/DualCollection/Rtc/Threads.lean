import DualCollection.Rtc.Lease
import DualCollection.Thread.Play

/-!
# The threads around a scheduler

A controller calls the command gateway, the scheduler's own thread calls `step`, the policy
completes futures.  `outline` is the proof outline of the three:

* `Pre` says what holds when a thread is about to execute a section;
* `Interferes` bounds what the scheduler's thread has to expect of the two others, `Yields` what
  the controller has to expect;
* `guar` says that every section does what `Changes` says of it.

The outline holds for any calls of the controller.  With `strict`, the controller is taken to
behave as the controllers of the source do: it prepares the policy once for a cleared lease, and
clears a lease that was prepared only for a later control epoch.
-/

namespace DualCollection

open Thread

namespace Rtc

/-- The threads. -/
inductive Role
  | controller
  | scheduler
  | policy
  deriving DecidableEq

/-- The gate is closed and stays so until the first response of a lease is accepted. -/
def Quiet (s : Rtc) : Prop :=
  s.gateOpen = false ∧ ∀ pending, s.pending = some pending → pending.bootstrap = true

/-- What the scheduler's thread and the policy do to the state. -/
structure Yields (s s' : Rtc) : Prop where
  /-- The control epoch is the controller's. -/
  epoch : s'.controlEpoch = s.controlEpoch
  /-- So is the Episode. -/
  episodeId : s'.episodeId = s.episodeId
  /-- The gate is not opened. -/
  gate : s'.gateOpen = true → s.gateOpen = true
  /-- Nothing is asked for while the gate is closed. -/
  pending : s.gateOpen = false → s'.pending = s.pending ∨ s'.pending = none
  /-- A cleared queue stays so. -/
  queue : Cleared s → s'.queue = []

/-- What the controller and the policy do to the state. -/
structure Interferes (p : RtcParameters) (w : ℕ) (strict : Prop) (s s' : Rtc) : Prop where
  /-- A lease is replaced by a good one. -/
  good : Good p w s → Good p w s'
  /-- The control epoch does not move backwards. -/
  epoch : s.controlEpoch ≤ s'.controlEpoch
  /-- A future that is done keeps its result. -/
  futures : ∀ n r, s.futures n = some r → s'.futures n = some r
  /-- Within a control epoch, a request that overlaps with execution is left alone. -/
  lease : strict → ∀ pending, s.pending = some pending → pending.bootstrap = false →
    s'.controlEpoch = s.controlEpoch → s'.pending = s.pending ∧ s'.episodeId = s.episodeId ∧
      s'.issuedTotal = s.issuedTotal ∧ s'.lastPublishedCommand = s.lastPublishedCommand

/-- A failure ends the lease under which the failing work was begun, for one of the reasons that
there are. -/
def Ends (strict : Prop) (f : Failure) (s : Rtc) : Prop :=
  f.epoch ≤ s.controlEpoch ∧ (strict → f.epoch = s.controlEpoch → LeaseEnd f.error)

/-- What holds when a thread is about to execute a section. -/
def Pre (p : RtcParameters) (w : ℕ) (strict : Prop) : Role → RtcSection → Rtc → Prop
  | .controller, .splice c, _ => Candidate.Checked p w c ∧ c.snapshot.pending.bootstrap = true
  | .controller, .reject _, s => Quiet s
  | .controller, .checkResponse window snap, _ => window = w ∧ Snapshot.Ranged p snap
  | .controller, .clock, _ | .controller, .gateCheck, _ | .controller, .finishCheck, _
  | .controller, .finished, _ | .controller, .publish, _ | .controller, .fail _, _
  | .controller, .complete, _ => False
  | .controller, _, _ => True
  | .scheduler, .splice c, s => Good p w s ∧ Candidate.Checked p w c ∧
      c.snapshot.pending.bootstrap = false
  | .scheduler, .reject f, s => Good p w s ∧ Ends strict f s ∧ ∃ err, f.error = .action err
  | .scheduler, .checkResponse window snap, s => Good p w s ∧ window = w ∧ Snapshot.Ranged p snap
  | .scheduler, .clock, s | .scheduler, .gateCheck, s | .scheduler, .finishCheck, s
  | .scheduler, .finished, s | .scheduler, .publish, s | .scheduler, .acceptRead, s
  | .scheduler, .stateRead, s => Good p w s
  | .scheduler, .fail f, s => Ends strict f s
  | .scheduler, _, _ => False
  | .policy, .complete, _ => True
  | .policy, _, _ => False

/-- The calls of the controller that are considered. -/
def Admits (strict : Prop) : RtcSection → Rtc → Prop
  | .clearPending e, s => strict → s.controlEpoch < e ∨ Fresh s.log
  | .prepare, s => strict → Fresh s.log
  | _, _ => True

instance {strict : Prop} [Decidable strict] (l : RtcSection) (s : Rtc) :
    Decidable (Admits strict l s) := by
  cases l <;> dsimp only [Admits] <;> infer_instance

/-- The proof outline of the three threads. -/
def outline (p : RtcParameters) (w : ℕ) (strict : Prop) :
    Outline Role RtcSection Env Rtc Failure where
  inv := Inv p w
  admits := fun _ l _ s => Admits strict l s
  pre := Pre p w strict
  rely := fun
    | .controller, s, s' => Yields s s'
    | .scheduler, s, s' => Interferes p w strict s s'
    | .policy, _, _ => True
  guar := fun t l s r s' => Changes p l s r s' ∧
    (∀ f, r = some f → ¬ Impossible strict f.error) ∧
    (t ≠ .scheduler → Interferes p w strict s s') ∧ (t ≠ .controller → Yields s s')
  idle := fun
    | .scheduler, s => Good p w s
    | _, _ => True

variable {p : RtcParameters} {w : ℕ} {strict : Prop} {s s' s'' : Rtc}

/-! ### Interference -/

theorem Yields.refl : Yields s s := ⟨rfl, rfl, id, fun _ => .inl rfl, fun h => h.queue⟩

theorem Yields.cleared (h : Yields s s') (hs : Cleared s) : Cleared s' where
  gateOpen := by
    by_contra hg
    have := h.gate (by simpa using hg)
    rw [hs.gateOpen] at this
    cases this
  pending := by
    rcases h.pending hs.gateOpen with hp | hp
    · rw [hp, hs.pending]
    · exact hp
  queue := h.queue hs

theorem Yields.closed (h : Yields s s') (hs : s.gateOpen = false) : s'.gateOpen = false := by
  by_contra hg
  have := h.gate (by simpa using hg)
  rw [hs] at this
  cases this

theorem Yields.quiet (h : Yields s s') (hs : Quiet s) : Quiet s' := by
  refine ⟨h.closed hs.1, fun pending hp => ?_⟩
  rcases h.pending hs.1 with h' | h'
  · exact hs.2 pending (h' ▸ hp)
  · rw [h'] at hp; cases hp

theorem Yields.trans (h : Yields s s') (h' : Yields s' s'') : Yields s s'' where
  epoch := h'.epoch.trans h.epoch
  episodeId := h'.episodeId.trans h.episodeId
  gate := fun hg => h.gate (h'.gate hg)
  pending := fun hg => by
    rcases h'.pending (h.closed hg) with hp | hp
    · rw [hp]; exact h.pending hg
    · exact .inr hp
  queue := fun hs => h'.queue (h.cleared hs)

theorem Interferes.refl : Interferes p w strict s s :=
  ⟨id, le_rfl, fun _ _ h => h, fun _ _ _ _ _ => ⟨rfl, rfl, rfl, rfl⟩⟩

theorem Interferes.trans (h : Interferes p w strict s s') (h' : Interferes p w strict s' s'') :
    Interferes p w strict s s'' where
  good := fun hg => h'.good (h.good hg)
  epoch := h.epoch.trans h'.epoch
  futures := fun n r hf => h'.futures n r (h.futures n r hf)
  lease := fun hs pending hp hb he => by
    have h₁ := h.epoch
    have h₂ := h'.epoch
    obtain ⟨hp₁, he₁, hi₁, hl₁⟩ := h.lease hs pending hp hb (by omega)
    obtain ⟨hp₂, he₂, hi₂, hl₂⟩ := h'.lease hs pending (hp₁.trans hp) hb (by omega)
    exact ⟨hp₂.trans hp₁, he₂.trans he₁, hi₂.trans hi₁, hl₂.trans hl₁⟩

/-- A failure that ends a lease still does so after the others interfered. -/
theorem Ends.stable {f : Failure} (h : Ends strict f s) (hr : Interferes p w strict s s') :
    Ends strict f s' := by
  have hle := hr.epoch
  refine ⟨h.1.trans hle, fun hs he => h.2 hs ?_⟩
  have := h.1
  omega

/-! ### What a section does under its precondition -/

section Changes

variable {t : Role} {l : RtcSection} {r : Option Failure}

/-- A window is spliced only after it was checked. -/
theorem Pre.checked {c : Candidate} (h : Pre p w strict t (.splice c) s) :
    Candidate.Checked p w c := by
  cases t with
  | controller => exact h.1
  | scheduler => exact h.2.1
  | policy => exact h.elim

theorem Pre.publish (h : Pre p w strict t .publish s) : Good p w s := by
  cases t with
  | controller => exact h.elim
  | scheduler => exact h
  | policy => exact h.elim

/-- Every section keeps the invariant. -/
theorem Changes.inv (hpre : Pre p w strict t l s) (h : Inv p w s) (hc : Changes p l s r s') :
    Inv p w s' := by
  cases l with
  | closeGate =>
    rcases hc with hc | ⟨-, rfl⟩
    · rw [hc.2]; exact h
    · exact h.closed
  | clearPending e =>
    rcases hc with hc | ⟨-, hle, rfl⟩
    · rw [hc.2]; exact h
    · exact h.resetTo hle
  | prepare => exact PrepareStep.inv h hc
  | takeFault => rw [hc.2]; exact h.faultTaken
  | gateCheck =>
    rcases hc with ⟨-, rfl | ⟨-, rfl⟩⟩
    · exact h
    · exact h.scheduled none
  | reject f => rw [hc.2]; exact h.stopped f
  | splice c => exact SpliceStep.inv hpre.checked h hc
  | clearFinishing => rw [show s' = _ from hc]; exact h.unfinished
  | finished => rw [show s' = _ from hc]; exact h.unfinished
  | publish => exact PublishStep.inv h hpre.publish hc
  | fail f =>
    rcases hc with ⟨-, -, rfl⟩ | ⟨-, rfl⟩
    · exact h
    · exact h.stopped f
  | complete =>
    obtain ⟨-, future, result, rfl⟩ := hc
    exact h.completed future result
  | checkResponse window snap => rw [hc.2]; exact h
  | beginEpoch | emitReset | poll | clock | finishCheck | acceptRead | stateRead =>
    rw [show s' = s from hc]; exact h

theorem completed_epoch {future : ℕ} {result : Except PyError PolicyResult} :
    (s.completed future result).controlEpoch = s.controlEpoch := by
  unfold completed
  split <;> rfl

/-- The control epoch never moves backwards. -/
theorem Changes.epoch_le (hc : Changes p l s r s') : s.controlEpoch ≤ s'.controlEpoch := by
  cases l with
  | closeGate =>
    rcases hc with hc | ⟨-, rfl⟩
    · rw [hc.2]
    · exact le_rfl
  | clearPending e =>
    rcases hc with hc | ⟨-, hle, rfl⟩
    · rw [hc.2]
    · exact hle
  | prepare => exact (PrepareStep.epoch hc).ge
  | takeFault => rw [hc.2]; exact le_rfl
  | gateCheck => rcases hc with ⟨-, rfl | ⟨-, rfl⟩⟩ <;> exact le_rfl
  | reject f => rw [hc.2]; exact le_rfl
  | splice c => exact (SpliceStep.epoch hc).ge
  | clearFinishing => rw [show s' = _ from hc]
  | finished => rw [show s' = _ from hc]
  | publish => cases hc <;> exact le_rfl
  | fail f => rcases hc with ⟨-, -, rfl⟩ | ⟨-, rfl⟩ <;> exact le_rfl
  | complete =>
    obtain ⟨-, future, result, rfl⟩ := hc
    exact completed_epoch.ge
  | checkResponse window snap => rw [hc.2]
  | beginEpoch | emitReset | poll | clock | finishCheck | acceptRead | stateRead =>
    rw [show s' = s from hc]

theorem yields_completed {future : ℕ} {result : Except PyError PolicyResult} :
    Yields s (s.completed future result) := by
  unfold completed
  split
  · exact ⟨rfl, rfl, id, fun _ => .inl rfl, fun h => h.queue⟩
  · exact .refl

theorem yields_stopped {f : Failure} : Yields s (s.stopped f) :=
  ⟨rfl, rfl, (by simp), fun _ => .inr rfl, fun _ => rfl⟩

theorem PublishStep.yields (h : PublishStep p s r s') : Yields s s' := by
  cases h with
  | idle nextS => exact ⟨rfl, rfl, id, fun _ => .inl rfl, fun h => h.queue⟩
  | dropped dueS hgate hq | issued dueS nextS hgate hq | requested dueS nextS estimate hgate hq
  | finishing dueS nextS hgate hq =>
    exact ⟨rfl, rfl, fun _ => hgate, fun hg => absurd hg (by simp [hgate]),
      fun hs => absurd hs.queue (by simp [hq])⟩

/-- What the scheduler's thread and the policy do is what the controller expects. -/
theorem Changes.yields (ht : t ≠ .controller) (hpre : Pre p w strict t l s)
    (hc : Changes p l s r s') : Yields s s' := by
  cases l with
  | closeGate | clearPending e | prepare | takeFault =>
    cases t with
    | controller => exact absurd rfl ht
    | scheduler => exact hpre.elim
    | policy => exact hpre.elim
  | gateCheck =>
    rcases hc with ⟨-, rfl | ⟨-, rfl⟩⟩
    · exact .refl
    · exact ⟨rfl, rfl, id, fun _ => .inl rfl, fun h => h.queue⟩
  | reject f => rw [hc.2]; exact yields_stopped
  | splice c =>
    have hb : c.snapshot.pending.bootstrap = false := by
      cases t with
      | controller => exact absurd rfl ht
      | scheduler => exact hpre.2.2
      | policy => exact hpre.elim
    cases hc with
    | refused hr => rw [hr.2]; exact .refl
    | bootstrap nowS hm hb' => rw [hb] at hb'; cases hb'
    | overlap hm _ hd =>
      refine ⟨rfl, rfl, id, fun _ => .inr rfl, fun hs => ?_⟩
      have := hm.pending
      rw [hs.pending] at this
      cases this
  | clearFinishing =>
    rw [show s' = _ from hc]
    exact ⟨rfl, rfl, id, fun _ => .inl rfl, fun h => h.queue⟩
  | finished =>
    rw [show s' = _ from hc]
    exact ⟨rfl, rfl, id, fun _ => .inl rfl, fun h => h.queue⟩
  | publish => exact PublishStep.yields hc
  | fail f =>
    rcases hc with ⟨-, -, rfl⟩ | ⟨-, rfl⟩
    · exact .refl
    · exact yields_stopped
  | complete =>
    obtain ⟨-, future, result, rfl⟩ := hc
    exact yields_completed
  | checkResponse window snap => rw [hc.2]; exact .refl
  | beginEpoch | emitReset | poll | clock | finishCheck | acceptRead | stateRead =>
    rw [show s' = s from hc]; exact .refl

theorem Good.congr (h : Good p w s) (hg : s'.gateOpen = s.gateOpen) (hp : s'.pending = s.pending)
    (hq : s'.queue = s.queue) (hl : s'.lastPublishedCommand = s.lastPublishedCommand)
    (hi : s'.issuedTotal = s.issuedTotal) (hs : s'.issuedSinceSplice = s.issuedSinceSplice)
    (ha : lastAccepted s'.log = lastAccepted s.log) (hf : inFlight s'.log = inFlight s.log) :
    Good p w s' := by
  intro hgate
  obtain ⟨a, hla, hok⟩ := h (hg ▸ hgate)
  refine ⟨a, ha.trans hla, ?_, ?_, ?_, ?_, ?_, ?_⟩
  · rw [hq, hs]; exact hok.queue
  · rw [hi, hs]; exact hok.issued
  · rw [hs]; exact hok.bound
  · rw [hq, hl]; exact hok.head
  · rw [hp, hs]; exact hok.request
  · rw [hf, hp]; exact hok.inFlight

theorem interferes_completed {future : ℕ} {result : Except PyError PolicyResult} :
    Interferes p w strict s (s.completed future result) := by
  unfold completed
  split
  · rename_i hf
    refine ⟨fun h => h.congr rfl rfl rfl rfl rfl rfl rfl rfl, le_rfl, fun n r hn => ?_,
      fun _ _ _ _ _ => ⟨rfl, rfl, rfl, rfl⟩⟩
    have hne : n ≠ future := by
      rintro rfl
      rw [hf.2] at hn
      cases hn
    simpa [Function.update_of_ne hne] using hn
  · exact .refl

theorem good_faultTaken (h : Good p w s) : Good p w s.faultTaken := by
  refine h.congr rfl rfl rfl rfl rfl rfl ?_ ?_ <;>
    simp only [faultTaken_log] <;> cases s.fault <;> rfl

/-- What the controller does is what the scheduler's thread expects, as long as the controller
behaves. -/
theorem Changes.interferes (ht : t = .controller) (hpre : Pre p w strict t l s)
    (hadm : Admits strict l s) (h : Inv p w s) (hc : Changes p l s r s') :
    Interferes p w strict s s' := by
  subst ht
  cases l with
  | closeGate =>
    rcases hc with hc | ⟨-, rfl⟩
    · rw [hc.2]; exact .refl
    · exact ⟨fun _ => .of_closed rfl, le_rfl, fun _ _ hf => hf,
        fun _ _ _ _ _ => ⟨rfl, rfl, rfl, rfl⟩⟩
  | clearPending e =>
    rcases hc with hc | ⟨-, hle, rfl⟩
    · rw [hc.2]; exact .refl
    · refine ⟨fun _ => .of_closed rfl, hle, fun _ _ hf => hf, fun hs pending hp _ he => ?_⟩
      rcases hadm hs with hlt | hfresh
      · exact absurd he (Nat.ne_of_gt hlt)
      · exact absurd hfresh (h.not_fresh hp)
  | prepare =>
    refine ⟨fun hg => PrepareStep.good hg hc, ?_, ?_, fun _ pending hp _ _ => ?_⟩
    · exact (PrepareStep.epoch hc).ge
    · cases hc with
      | refused hr => rw [hr.2]; exact fun _ _ hf => hf
      | identified | submitted => exact fun _ _ hf => hf
    · cases hc with
      | refused hr => rw [hr.2]; exact ⟨rfl, rfl, rfl, rfl⟩
      | identified _ hs | submitted _ hs => rw [hs.pending] at hp; cases hp
  | takeFault =>
    rw [hc.2]
    exact ⟨good_faultTaken, le_rfl, fun _ _ hf => hf, fun _ _ _ _ _ => ⟨rfl, rfl, rfl, rfl⟩⟩
  | reject f =>
    rw [hc.2]
    refine ⟨fun _ => .of_closed rfl, le_rfl, fun _ _ hf => hf, fun _ pending hp hb _ => ?_⟩
    have := hpre.2 pending hp
    rw [hb] at this
    cases this
  | splice c =>
    refine ⟨fun hg => SpliceStep.good hpre.1 h hg hc, ?_, ?_, fun _ pending hp hb _ => ?_⟩
    · exact (SpliceStep.epoch hc).ge
    · cases hc with
      | refused hr => rw [hr.2]; exact fun _ _ hf => hf
      | bootstrap | overlap => exact fun _ _ hf => hf
    · -- the controller accepts only the first response of a lease
      cases hc with
      | refused hr => rw [hr.2]; exact ⟨rfl, rfl, rfl, rfl⟩
      | bootstrap nowS hm hb' | overlap hm hb' hd =>
        have heq := hm.pending
        rw [hp] at heq
        have hboot := hpre.2
        rw [← Option.some.inj heq, hb] at hboot
        cases hboot
  | clearFinishing =>
    rw [show s' = _ from hc]
    exact ⟨fun h => h.congr rfl rfl rfl rfl rfl rfl rfl rfl, le_rfl, fun _ _ hf => hf,
      fun _ _ _ _ _ => ⟨rfl, rfl, rfl, rfl⟩⟩
  | gateCheck | finished | publish | fail f | complete => exact hpre.elim
  | checkResponse window snap => rw [hc.2]; exact .refl
  | beginEpoch | emitReset | poll | clock | finishCheck | acceptRead | stateRead =>
    rw [show s' = s from hc]; exact .refl

/-- The policy only completes futures. -/
theorem Changes.interferes_policy (hpre : Pre p w strict .policy l s) (hc : Changes p l s r s') :
    Interferes p w strict s s' := by
  cases l with
  | complete =>
    obtain ⟨-, future, result, rfl⟩ := hc
    exact interferes_completed
  | _ => exact hpre.elim

/-- A section that does what `Changes` says meets the outline. -/
theorem meets (hpre : Pre p w strict t l s) (hadm : Admits strict l s) (h : Inv p w s)
    (hc : Changes p l s r s') (hr : ∀ f, r = some f → ¬ Impossible strict f.error) :
    (outline p w strict).inv s' ∧ (outline p w strict).guar t l s r s' := by
  refine ⟨hc.inv hpre h, hc, hr, fun ht => ?_, fun ht => hc.yields ht hpre⟩
  cases t with
  | controller => exact hc.interferes rfl hpre hadm h
  | scheduler => exact absurd rfl ht
  | policy => exact hc.interferes_policy hpre

end Changes

/-- The rule of a section. -/
theorem wp_section {α : Type} {t : Role} {l : RtcSection} {epoch : Rtc → ℕ} {body : Locked Rtc α}
    {Q : Except Failure α → Rtc → Prop}
    (h : ∀ s', (outline p w strict).rely t s s' → Inv p w s' → Pre p w strict t l s' ∧
      (Admits strict l s' → ∀ e, body.Post e s' fun r s'' =>
        Changes p l s' (raised (markEpoch (epoch s') r)) s'' ∧
          (∀ err, r = .error err → ¬ Impossible strict err) ∧
            Q (markEpoch (epoch s') r) s'')) :
    wp (outline p w strict) t Q (locked epoch l body) s := by
  rw [wp_locked]
  intro s' hrely hinv
  obtain ⟨hpre, hpost⟩ := h s' hrely hinv
  refine ⟨hpre, fun e hadm => (hpost hadm e).elim fun hc hrest => ?_⟩
  obtain ⟨hinv', hguar⟩ := meets hpre hadm hinv hc fun f hf => by
    rw [raised_markEpoch, Option.map_eq_some_iff] at hf
    obtain ⟨err, herr, rfl⟩ := hf
    exact hrest.1 err (raised_eq_some.1 herr)
  exact ⟨hinv', hguar, hrest.2⟩

/-- The rule of a section that only reads. -/
theorem wp_read {α : Type} {t : Role} {l : RtcSection} {epoch : Rtc → ℕ} {body : Locked Rtc α}
    {Q : Except Failure α → Rtc → Prop} (hl : ∀ s r s', s' = s → Changes p l s r s')
    (hpre : ∀ s', (outline p w strict).rely t s s' → Pre p w strict t l s')
    (h : ∀ s', (outline p w strict).rely t s s' → Inv p w s' → ∀ e,
      body.Post e s' fun r s'' => s'' = s' ∧
        (∀ err, r = .error err → ¬ Impossible strict err) ∧
          Q (markEpoch (epoch s') r) s') :
    wp (outline p w strict) t Q (locked epoch l body) s := by
  refine wp_section fun s' hrely hinv => ⟨hpre s' hrely, fun _ e => ?_⟩
  refine Locked.post_mono (h s' hrely hinv e) fun r s'' hr => ?_
  obtain ⟨rfl, herr, hQ⟩ := hr
  exact ⟨hl _ _ _ rfl, herr, hQ⟩

/-! ### Accepting a response -/

/-- The delay of a response is in the trained range whenever one is accepted. -/
theorem Snapshot.Shows.ranged {snap : Snapshot} (hs : Snapshot.Shows snap s) (h : Inv p w s)
    (hw : w < p.rollout.prefetchAfterSteps + p.checkpoint.maxDelaySteps) :
    Snapshot.Ranged p snap where
  bootstrap := fun hb => by
    rw [hs.issuedTotal]
    exact (h.bootstrap _ hs.pending hb).2.2.symm
  overlap := fun hb => by
    obtain ⟨-, hle, hsum, hlen⟩ := h.overlap _ hs.pending hb
    rw [hs.issuedTotal]
    omega

theorem LeaseEnd.not_impossible {err : Exc} (h : LeaseEnd err) : ¬ Impossible strict err := by
  intro hi
  cases hi <;> cases h <;> rename_i h <;> cases h

/-- The rule of `_accept_pending`: `A` holds before the response is read and `B` from then on, and
both survive the other threads. -/
theorem wp_acceptPending {t : Role} {begun : ℕ} {b : Bool} (A : Rtc → Prop)
    (B : Snapshot → Rtc → Prop) {Q : Except Failure Unit → Rtc → Prop}
    (hw : w < p.rollout.prefetchAfterSteps + p.checkpoint.maxDelaySteps)
    (hstabA : ∀ {s s'}, A s → (outline p w strict).rely t s s' → A s')
    (hstabB : ∀ {snap s s'}, B snap s → (outline p w strict).rely t s s' → B snap s')
    (hpreA : ∀ {s}, A s → Pre p w strict t .acceptRead s)
    (hpreB : ∀ {snap s}, B snap s → Snapshot.Ranged p snap →
      Pre p w strict t (.checkResponse w snap) s ∧ Pre p w strict t .stateRead s)
    (hready : ∀ s err, A s → ¬ Ready b s →
      err = .scheduler .responseNotReady ∨ err = .scheduler .phaseMismatch →
        Q (.error ⟨err, begun⟩) s)
    (hread : ∀ s snap, A s → Inv p w s → Snapshot.Shows snap s → snap.pending.bootstrap = b →
      B snap s)
    (hbad : ∀ s snap err, B snap s → LeaseEnd err → Q (.error ⟨err, snap.epoch⟩) s)
    (hreject : ∀ s snap err, B snap s →
      Pre p w strict t (.reject ⟨.action err, snap.epoch⟩) s ∧
        Q (.error ⟨.action err, snap.epoch⟩) (s.stopped ⟨.action err, snap.epoch⟩))
    (hsplice : ∀ s c, B c.snapshot s → Inv p w s → Candidate.Checked p w c →
      Pre p w strict t (.splice c) s ∧
        (¬ Matches c s → Q (.error ⟨.scheduler .spliceStale, c.snapshot.epoch⟩) s) ∧
        ∀ r s', SpliceStep c s r s' → Q (.ok ()) s' ∧
          ∀ port x, Q (.error ⟨.port port x, c.snapshot.epoch⟩) s')
    (hA : A s) : wp (outline p w strict) t Q (acceptPending p w begun b) s := by
  rw [acceptPending, wp_bind]
  refine wp_read (fun _ _ _ h => h) (fun _ hr => hpreA (hstabA hA hr)) fun s₁ hr₁ hi₁ e => ?_
  refine Locked.post_mono acceptRead_changes fun r s' hr => ⟨hr.1, ?_⟩
  obtain ⟨-, hr⟩ := hr
  cases r with
  | error err =>
    refine ⟨?_, hready s₁ err (hstabA hA hr₁) hr.1 hr.2⟩
    rintro _ ⟨⟩ hi
    rcases hr.2 with rfl | rfl <;> cases hi
  | ok snap =>
    refine ⟨(by simp), ?_⟩
    have hB := hread s₁ snap (hstabA hA hr₁) hi₁ hr.1 hr.2
    have hranged := hr.1.ranged hi₁ hw
    dsimp only [markEpoch_ok]
    rw [wp_bind]
    refine wp_section fun s₂ hr₂ hi₂ => ?_
    have hB₂ := hstabB hB hr₂
    refine ⟨(hpreB hB₂ hranged).1, fun _ e => ⟨⟨rfl, rfl⟩, ?_⟩⟩
    dsimp only
    cases hresp : checkResponse p w snap with
    | error err =>
      have hend : LeaseEnd err := .badResponse (checkResponse_error hranged hresp)
      exact ⟨by rintro _ ⟨⟩; exact hend.not_impossible, hbad _ _ _ hB₂ hend⟩
    | ok response =>
      have hsound := checkResponse_ok hresp
      refine ⟨(by simp), ?_⟩
      dsimp only [markEpoch_ok]
      rw [wp_bind]
      refine wp_read (fun _ _ _ h => h) (fun _ hr => (hpreB (hstabB hB₂ hr) hranged).2)
        fun s₃ hr₃ hi₃ e => ?_
      have hB₃ := hstabB hB₂ hr₃
      rw [Locked.post_bind]
      refine Locked.post_call ?_ fun err => ⟨rfl, ?_, hbad _ _ _ hB₃ (.port _ err)⟩
      · simp only [Locked.post_bind, Locked.post_ask, Locked.post_pure, markEpoch_ok]
        refine ⟨by trivial, (by simp), ?_⟩
        cases hval : p.contract.validateActions (response.actions.map (·.map .finite))
          e.jointState snap.lastPublished with
        | error err =>
          refine wp_section fun s₄ hr₄ hi₄ => ?_
          obtain ⟨hp, hQ⟩ := hreject s₄ snap err (hstabB hB₃ hr₄)
          refine ⟨hp, fun _ e => ⟨⟨rfl, rfl⟩, ?_, hQ⟩⟩
          rintro _ ⟨⟩ hi
          cases hi
        | ok result =>
          obtain ⟨commands, saturations⟩ := result
          have hchecked := validateActions_checked hsound hval
          refine wp_section fun s₄ hr₄ hi₄ => ?_
          obtain ⟨hp, hstale, hdone⟩ := hsplice s₄ _ (hstabB hB₃ hr₄) hi₄ hchecked
          refine ⟨hp, fun _ e =>
            Locked.post_mono (splice_changes snap.epoch hchecked hi₄.delay) ?_⟩
          rintro r s₅ ⟨hc, herr⟩
          refine ⟨hc, fun err hr => ?_, ?_⟩
          · rcases herr err hr with ⟨rfl, -⟩ | ⟨port, x, rfl⟩
            · rintro ⟨⟩
            · rintro ⟨⟩
          · cases r with
            | ok u => exact (hdone _ _ hc).1
            | error err =>
              rcases herr err rfl with ⟨rfl, hm⟩ | ⟨port, x, rfl⟩
              · have h₅ : s₅ = s₄ := by
                  cases hc with
                  | refused hr => exact hr.2
                  | bootstrap nowS hm' | overlap hm' => exact absurd hm' hm
                rw [h₅]
                exact hstale hm
              · exact (hdone _ _ hc).2 port x
      · rintro _ ⟨⟩ hi
        cases hi

/-! ### The calls of the controller -/

section Controller

/-- `close_gate` succeeds for the current control epoch, and leaves the gate closed. -/
theorem wp_closeGate {controlEpoch : ℕ} :
    wp (outline p w strict) .controller (fun r s' => s'.controlEpoch = s.controlEpoch ∧
      (s.controlEpoch = controlEpoch → r = .ok () ∧ s'.gateOpen = false))
      (closeGate controlEpoch) s := by
  refine wp_section fun s₁ (hr : Yields s s₁) hi => ⟨trivial, fun _ e => ?_⟩
  refine Locked.post_mono (closeGate_changes p s₁.controlEpoch) fun r s₂ h => ?_
  obtain ⟨hc, herr, hok⟩ := h
  refine ⟨hc, herr strict, ?_, fun he => ?_⟩
  · rcases hc with hc | ⟨-, rfl⟩
    · rw [hc.2, hr.epoch]
    · exact hr.epoch
  · obtain ⟨rfl, rfl⟩ := hok (hr.epoch.trans he)
    exact ⟨rfl, rfl⟩

/-- A call of a port outside of the lock leaves the state alone. -/
theorem wp_call {l : RtcSection} {port : Port} {Q : Except Failure Unit → Rtc → Prop}
    (hl : l = .beginEpoch ∨ l = .emitReset)
    (hQ : ∀ r s', Yields s s' → Inv p w s' → Q r s') :
    wp (outline p w strict) .controller Q (perform l (.call port)) s := by
  have hpre : ∀ s', Pre p w strict .controller l s' := by
    rcases hl with rfl | rfl <;> exact fun _ => trivial
  have hc : ∀ s r s', s' = s → Changes p l s r s' := by
    rcases hl with rfl | rfl <;> exact fun _ _ _ h => h
  refine wp_read hc (fun s' _ => hpre s') fun s₁ (hr : Yields s s₁) hi e => ?_
  refine Locked.post_call ⟨rfl, (by simp), hQ _ _ hr hi⟩ fun err => ⟨rfl, ?_, hQ _ _ hr hi⟩
  rintro _ ⟨⟩ hi
  cases hi

/-- After `clear_pending` nothing can be published, even when the policy or the diagnostic sink
raised. -/
theorem wp_clearPending {controlEpoch : ℕ} :
    wp (outline p w strict) .controller (fun _ s' => s.controlEpoch ≤ controlEpoch →
      s'.controlEpoch = controlEpoch ∧ Cleared s') (clearPending controlEpoch) s := by
  rw [clearPending, wp_bind]
  refine wp_section fun s₁ (hr : Yields s s₁) hi => ⟨trivial, fun _ e => ?_⟩
  refine Locked.post_mono (clearPending_changes p s₁.controlEpoch) fun r s₂ h => ?_
  obtain ⟨hc, herr, hok⟩ := h
  refine ⟨hc, herr strict, ?_⟩
  by_cases hle : s₁.controlEpoch ≤ controlEpoch
  case neg =>
    -- the control epoch would move backwards, so the section raised
    rcases hc with ⟨hr', rfl⟩ | ⟨-, hle', -⟩
    · cases r with
      | ok u => cases hr'
      | error err => exact fun hle' => absurd (hr.epoch.trans_le hle') hle
    · exact absurd hle' hle
  obtain ⟨rfl, rfl⟩ := hok hle
  have hs₂ : Cleared (s₁.resetTo controlEpoch) := ⟨rfl, rfl, rfl⟩
  dsimp only [markEpoch_ok]
  rw [wp_bind]
  refine wp_call (.inl rfl) fun r s₃ hr₃ _ => ?_
  have hs₃ := hr₃.cleared hs₂
  cases r with
  | error f => exact fun _ => ⟨hr₃.epoch, hs₃⟩
  | ok u =>
    refine wp_call (.inr rfl) fun r s₄ hr₄ _ => ?_
    exact fun _ => ⟨hr₄.epoch.trans hr₃.epoch, hr₄.cleared hs₃⟩

/-- A call that the controller may make in any state. -/
theorem wp_preparePolicy {episodeId : String} {controlEpoch : ℕ} :
    wp (outline p w strict) .controller (fun _ s' => s'.controlEpoch = s.controlEpoch)
      (preparePolicy episodeId controlEpoch) s := by
  refine wp_section fun s₁ (hr : Yields s s₁) hi => ⟨trivial, fun hadm e => ?_⟩
  refine Locked.post_mono (preparePolicy_changes p s₁.controlEpoch) fun r s₂ h => ?_
  obtain ⟨hc, herr⟩ := h
  refine ⟨hc, herr strict fun hs => hi.fresh (hadm hs), ?_⟩
  exact hc.epoch.trans hr.epoch

theorem wp_takeFault :
    wp (outline p w strict) .controller
      (fun _ s' => s'.controlEpoch = s.controlEpoch ∧ (Cleared s → Cleared s')) takeFault s := by
  refine wp_section fun s₁ (hr : Yields s s₁) hi => ⟨trivial, fun _ e => ?_⟩
  refine Locked.post_mono (takeFault_changes p s₁.controlEpoch) fun r s₂ h => ?_
  obtain ⟨hc, rfl, rfl⟩ := h
  refine ⟨hc, (by simp), hr.epoch, fun hs => ?_⟩
  have hs₁ := hr.cleared hs
  exact ⟨hs₁.gateOpen, hs₁.pending, hs₁.queue⟩

theorem wp_policyReady {episodeId : String} {controlEpoch : ℕ}
    (hw : w < p.rollout.prefetchAfterSteps + p.checkpoint.maxDelaySteps) :
    wp (outline p w strict) .controller (fun _ s' => s'.controlEpoch = s.controlEpoch)
      (policyReady p w episodeId controlEpoch) s := by
  rw [policyReady, wp_bind]
  refine wp_read (fun _ _ _ h => h) (fun _ _ => trivial) fun s₁ (hr : Yields s s₁) hi e => ?_
  refine Locked.post_mono poll_changes fun r s₂ h => ⟨h.1, h.2 strict, ?_⟩
  match r with
  | .error err => exact hr.epoch
  | .ok false => exact hr.epoch
  | .ok true =>
    dsimp only [markEpoch_ok]
    rw [if_pos rfl, wp_bind]
    refine wp_acceptPending (fun s' => s'.controlEpoch = s.controlEpoch)
      (fun snap s' => s'.controlEpoch = s.controlEpoch ∧ Quiet s' ∧
        snap.pending.bootstrap = true) hw ?_ ?_ ?_ ?_ ?_ ?_ ?_ ?_ ?_ hr.epoch
    · exact fun h (hr : Yields _ _) => hr.epoch.trans h
    · exact fun h (hr : Yields _ _) => ⟨hr.epoch.trans h.1, hr.quiet h.2.1, h.2.2⟩
    · exact fun _ => trivial
    · exact fun _ hranged => ⟨⟨rfl, hranged⟩, trivial⟩
    · exact fun _ _ h _ _ => h
    · intro s' snap h hi hs hb
      refine ⟨h, ⟨(hi.bootstrap _ hs.pending hb).1, fun pending hp => ?_⟩, hb⟩
      rw [hs.pending] at hp
      rw [← Option.some.inj hp, hb]
    · exact fun _ _ _ h _ => h.1
    · exact fun _ _ _ h => ⟨h.2.1, h.1⟩
    · intro s' c h hi hc
      refine ⟨⟨hc, h.2.2⟩, fun _ => h.1, fun r s'' hs => ?_⟩
      have he := hs.epoch.trans h.1
      exact ⟨he, fun _ _ => he⟩

end Controller

/-! ### The scheduler's thread -/

section Scheduler

theorem wp_fail {f : Failure} (h : Ends strict f s) :
    wp (outline p w strict) .scheduler (fun _ s' => Good p w s') (fail f) s := by
  refine wp_section fun s₁ (hr : Interferes p w strict s s₁) hi => ⟨h.stable hr, fun _ e => ?_⟩
  refine Locked.post_mono (fail_changes p f.epoch) fun r s₂ h => ⟨h.1, h.2 strict, ?_⟩
  rcases h.1 with ⟨hg, -, rfl⟩ | ⟨-, rfl⟩
  · exact .of_closed hg
  · exact .of_closed rfl

/-- What holds while the scheduler's thread is about to accept the response to `snap`. -/
structure Accepting (p : RtcParameters) (w : ℕ) (strict : Prop) (snap : Snapshot) (s : Rtc) :
    Prop where
  /-- The lease is good. -/
  good : Good p w s
  /-- The response is not the first one of a lease. -/
  bootstrap : snap.pending.bootstrap = false
  /-- The snapshot was taken before. -/
  epoch : snap.epoch ≤ s.controlEpoch
  /-- In the same control epoch, it still shows the state. -/
  shows : strict → snap.epoch = s.controlEpoch → s.pending = some snap.pending ∧
    s.episodeId = snap.episodeId ∧ s.issuedTotal = snap.issuedTotal ∧
      s.lastPublishedCommand = snap.lastPublished

theorem Accepting.stable {snap : Snapshot} (h : Accepting p w strict snap s)
    (hr : Interferes p w strict s s') : Accepting p w strict snap s' := by
  have hle := hr.epoch
  have hle' := h.epoch
  refine ⟨hr.good h.good, h.bootstrap, by omega, fun hs he => ?_⟩
  obtain ⟨hp, hepisode, hi, hl⟩ := h.shows hs (by omega)
  obtain ⟨hp', hepisode', hi', hl'⟩ := hr.lease hs _ hp h.bootstrap (by omega)
  exact ⟨hp'.trans hp, hepisode'.trans hepisode, hi'.trans hi, hl'.trans hl⟩

/-- Outcomes of a step: a good lease, or a failure that ends it. -/
def Stepped {α : Type} (p : RtcParameters) (w : ℕ) (strict : Prop) (r : Except Failure α)
    (s : Rtc) : Prop :=
  match r with
  | .ok _ => Good p w s
  | .error f => Ends strict f s

/-- What holds while the scheduler's thread is about to read the response that it found ready. -/
structure Awaiting (p : RtcParameters) (w : ℕ) (strict : Prop) (begun : ℕ) (s : Rtc) : Prop where
  /-- The lease is good. -/
  good : Good p w s
  /-- The step was begun before. -/
  epoch : begun ≤ s.controlEpoch
  /-- In the same control epoch, the response is still there. -/
  ready : strict → begun = s.controlEpoch → Ready false s

theorem Awaiting.stable {begun : ℕ} (h : Awaiting p w strict begun s)
    (hr : Interferes p w strict s s') : Awaiting p w strict begun s' := by
  have hle := hr.epoch
  have hle' := h.epoch
  refine ⟨hr.good h.good, by omega, fun hs he => ?_⟩
  obtain ⟨pending, hp, hf, hb⟩ := h.ready hs (by omega)
  obtain ⟨hp', -⟩ := hr.lease hs pending hp hb (by omega)
  obtain ⟨result, hres⟩ := Option.isSome_iff_exists.1 hf
  exact ⟨pending, hp'.trans hp, by rw [hr.futures _ _ hres]; rfl, hb⟩

theorem wp_accept {begun : ℕ}
    (hw : w < p.rollout.prefetchAfterSteps + p.checkpoint.maxDelaySteps)
    (h : Awaiting p w strict begun s) :
    wp (outline p w strict) .scheduler (Stepped p w strict) (acceptPending p w begun false) s := by
  refine wp_acceptPending (Awaiting p w strict begun) (Accepting p w strict) hw
    Awaiting.stable Accepting.stable Awaiting.good
    (fun h hranged => ⟨⟨h.good, rfl, hranged⟩, h.good⟩) ?_ ?_ ?_ ?_ ?_ h
  · intro s err h hn _
    exact ⟨h.epoch, fun hs he => absurd (h.ready hs he) hn⟩
  · intro s snap h hi hs hb
    exact ⟨h.good, hb, hs.epoch.le, fun _ _ =>
      ⟨hs.pending, hs.episodeId.symm, hs.issuedTotal.symm, hs.lastPublished.symm⟩⟩
  · exact fun s snap err h hend => ⟨h.epoch, fun _ _ => hend⟩
  · intro s snap err h
    exact ⟨⟨h.good, ⟨h.epoch, fun _ _ => .badResponse (.contract err)⟩, err, rfl⟩, h.epoch,
      fun _ _ => .badResponse (.contract err)⟩
  · intro s c h hi hc
    refine ⟨⟨h.good, hc, h.bootstrap⟩, fun hm => ⟨h.epoch, fun hs he => ?_⟩, fun r s' hsp => ?_⟩
    · obtain ⟨hp, hepisode, hi, hl⟩ := h.shows hs he
      exact absurd ⟨he.symm, hepisode, hp, hi, hl⟩ hm
    · refine ⟨hsp.good hc hi h.good, fun port x => ⟨?_, fun _ _ => .port port x⟩⟩
      exact h.epoch.trans hsp.epoch.ge

/-- What the first sections of a step find. -/
theorem wp_gateCheck {f : Option (ℕ × Bool) → Program Unit}
    (hclosed : ∀ s', Good p w s' → wp (outline p w strict) .scheduler (Stepped p w strict) (f none) s')
    (hopen : ∀ s' begun pendingDone, Good p w s' →
      (pendingDone = true → Awaiting p w strict begun s') →
        wp (outline p w strict) .scheduler (Stepped p w strict) (f (some (begun, pendingDone))) s')
    (hg : Good p w s) :
    wp (outline p w strict) .scheduler (Stepped p w strict)
      (perform .gateCheck gateCheck >>= f) s := by
  rw [wp_bind]
  refine wp_section fun s₁ (hr : Interferes p w strict s s₁) hi => ⟨hr.good hg, fun _ e => ?_⟩
  refine Locked.post_mono (gateCheck_changes p s₁.controlEpoch) fun r s₂ h => ?_
  obtain ⟨hc, hopen'⟩ := h
  have hg₂ : Good p w s₂ := by
    rcases hc.2 with rfl | ⟨hgate, rfl⟩
    · exact hr.good hg
    · exact .of_closed hgate
  refine ⟨hc, ?_, ?_⟩
  · rintro err rfl
    cases hc.1
  match r with
  | .error err => cases hc.1
  | .ok none => exact hclosed s₂ hg₂
  | .ok (some (begun, pendingDone)) =>
    obtain ⟨rfl, hgate, rfl, hdone⟩ := hopen' begun pendingDone rfl
    refine hopen s₂ _ _ hg₂ fun hd => ⟨hg₂, le_rfl, fun _ _ => ?_⟩
    obtain ⟨pending, hp, hf⟩ := hdone hd
    exact ⟨pending, hp, hf, hi.not_bootstrap hgate hp⟩

/-- While the gate is open, the commands issued from the window and the queue add up to it. -/
theorem Good.window_length (hg : Good p w s) (h : Inv p w s) (hgate : s.gateOpen = true) :
    s.issuedSinceSplice + s.queue.length = w := by
  obtain ⟨a, ha, hl⟩ := hg hgate
  obtain ⟨earlier, hs⟩ := lastAccepted_splice h.history ha
  have hlen := congrArg List.length hl.queue
  have hbound := hl.bound
  rw [List.length_drop, hs.length] at hlen
  omega

/-- What a good lease offers to the publishing section. -/
theorem Good.publishable (hg : Good p w s) (h : Inv p w s) (hw : w = p.safeWindowSteps)
    (hgate : s.gateOpen = true) : Publishable p s := by
  obtain ⟨a, ha, hl⟩ := hg hgate
  obtain ⟨earlier, hs⟩ := lastAccepted_splice h.history ha
  refine ⟨h.episode (.inr hgate), fun q hq => ?_, fun _ => ?_, h.delay⟩
  · obtain ⟨i, hi, rfl⟩ := List.mem_iff_getElem.1 hq
    obtain ⟨row, -, hv⟩ := hl.row hs (List.getElem?_eq_getElem hi)
    exact hv.ne_nil
  · rw [hg.window_length h hgate, hw]

theorem wp_publishDue {now : ℚ} (hw : w = p.safeWindowSteps) (hg : Good p w s) :
    wp (outline p w strict) .scheduler (Stepped p w strict)
      (perform .publish (publishDue p now)) s := by
  refine wp_section fun s₁ (hr : Interferes p w strict s s₁) hi => ⟨hr.good hg, fun _ e => ?_⟩
  have hg₁ := hr.good hg
  refine Locked.post_mono (publishDue_changes s₁.controlEpoch (hg₁.publishable hi hw))
    fun r s₂ h => ⟨h.1, fun err he => (h.2 err he).not_impossible, ?_⟩
  obtain ⟨hc, hend⟩ := h
  cases r with
  | ok u => exact PublishStep.good hi hg₁ hc
  | error err => exact ⟨(PublishStep.yields hc).epoch.ge, fun _ _ => hend err rfl⟩

/-- A step of the scheduler keeps the lease good, or ends it. -/
theorem wp_step (hg : Good p p.safeWindowSteps s) :
    wp (outline p p.safeWindowSteps strict) .scheduler (fun _ s' => Good p p.safeWindowSteps s')
      (step p) s := by
  rw [step, wp_tryCatch]
  suffices h : wp (outline p p.safeWindowSteps strict) .scheduler
      (Stepped p p.safeWindowSteps strict) (stepBody p) s by
    refine wp_mono h fun r s' hr => ?_
    cases r with
    | ok u => exact hr
    | error f => exact wp_fail hr
  rw [stepBody, wp_bind]
  refine wp_read (fun _ _ _ h => h) (fun _ (hr : Interferes p _ strict s _) => hr.good hg)
    fun s₁ (hr : Interferes p _ strict s s₁) hi e => ⟨rfl, (by simp), ?_⟩
  have hg₁ := hr.good hg
  refine wp_gateCheck (fun s' hg' => hg') (fun s' begun pendingDone hg' ha => ?_) hg₁
  cases pendingDone with
  | false => exact wp_publishDue rfl hg'
  | true =>
    refine wp_bind.2 (wp_mono (wp_accept p.window_lt (ha rfl)) fun r s₃ hr₃ => ?_)
    cases r with
    | error f => exact hr₃
    | ok u => exact wp_publishDue rfl hr₃

end Scheduler

/-! ### The policy -/

theorem wp_complete {future : ℕ} {result : Except PyError PolicyResult} :
    wp (outline p w strict) .policy (fun _ _ => True) (complete future result) s :=
  wp_section fun _ _ _ => ⟨trivial, fun _ _ => ⟨⟨rfl, future, result, rfl⟩, (by simp), trivial⟩⟩

/-! ### The system -/

/-- What the threads do. -/
inductive Op
  | closeGate (controlEpoch : ℕ)
  | clearPending (controlEpoch : ℕ)
  | preparePolicy (episodeId : String) (controlEpoch : ℕ)
  | policyReady (episodeId : String) (controlEpoch : ℕ)
  | takeFault
  | step
  | complete (future : ℕ) (result : Except PyError PolicyResult)

/-- A controller that makes any calls, the scheduler's thread, and the policy. -/
def system (p : RtcParameters) : System Role Op RtcSection Env Rtc Failure where
  op
    | .controller, .closeGate e => closeGate e
    | .controller, .clearPending e => clearPending e
    | .controller, .preparePolicy episodeId e => preparePolicy episodeId e
    | .controller, .policyReady episodeId e => do
      let _ ← policyReady p p.safeWindowSteps episodeId e
    | .controller, .takeFault => do
      let _ ← takeFault
    | .scheduler, .step => step p
    | .policy, .complete future result => complete future result
    | _, _ => pure ()

theorem wp_ignore {α : Type} {t : Role} {q : Program α} {Q : Rtc → Prop}
    (h : wp (outline p w strict) t (fun _ s' => Q s') q s) :
    wp (outline p w strict) t (fun _ s' => Q s') (do let _ ← q) s := by
  rw [wp_bind]
  refine wp_mono h fun r s' hr => ?_
  cases r <;> exact hr

/-- The outline is sound for a system whose operations meet it. -/
theorem outline_sound {S : System Role Op RtcSection Env Rtc Failure}
    (hop : ∀ t o s, Inv p w s → (outline p w strict).idle t s →
      wp (outline p w strict) t (fun _ s' => (outline p w strict).idle t s') (S.op t o) s) :
    (outline p w strict).Sound S where
  refl := fun t s => by
    cases t with
    | controller => exact Yields.refl
    | scheduler => exact Interferes.refl
    | policy => trivial
  trans := fun t {a b c} h h' => by
    cases t with
    | controller => exact Yields.trans h h'
    | scheduler => exact Interferes.trans h h'
    | policy => trivial
  compat := fun {t t'} {l s r s'} hne _ _ _ hg => by
    cases t' with
    | controller => exact hg.2.2.2 hne
    | scheduler => exact hg.2.2.1 hne
    | policy => trivial
  idle_stable := fun {t s s'} hi hr => by
    cases t with
    | controller => trivial
    | scheduler => exact Interferes.good hr hi
    | policy => trivial
  op := fun t o s hi hidle _ => hop t o s hi hidle

/-- The outline is sound for the system. -/
theorem sound (p : RtcParameters) (strict : Prop) :
    (outline p p.safeWindowSteps strict).Sound (system p) :=
  outline_sound fun t o s _ hidle => by
    cases t with
    | controller =>
      cases o with
      | closeGate e => exact wp_mono wp_closeGate fun _ _ _ => trivial
      | clearPending e => exact wp_mono wp_clearPending fun _ _ _ => trivial
      | preparePolicy episodeId e => exact wp_mono wp_preparePolicy fun _ _ _ => trivial
      | policyReady episodeId e =>
        exact wp_ignore (wp_mono (wp_policyReady p.window_lt) fun _ _ _ => trivial)
      | takeFault => exact wp_ignore (wp_mono wp_takeFault fun _ _ _ => trivial)
      | step | complete => trivial
    | scheduler =>
      cases o with
      | step => exact wp_step hidle
      | _ => exact hidle
    | policy =>
      cases o with
      | complete future result => exact wp_complete
      | _ => trivial

/-- The scheduler's thread is not between an exception and the `_fail` that handles it. -/
def Orderly (c : Config Role RtcSection Env Rtc Failure) : Prop :=
  c.prog .scheduler = none ∨ ∃ (β : Type) (l : RtcSection) (act : Env → Rtc → Except Failure β × Rtc)
    (k : Except Failure β → Program Unit), c.prog .scheduler = some (.sect l act k) ∧ ∀ f, l ≠ .fail f

theorem Pre.good {l : RtcSection} (h : Pre p w strict .scheduler l s) (hl : ∀ f, l ≠ .fail f) :
    Good p w s := by
  cases l with
  | fail f => exact absurd rfl (hl f)
  | splice c => exact h.1
  | reject f => exact h.1
  | checkResponse window snap => exact h.1
  | clock | gateCheck | finishCheck | finished | publish | acceptRead | stateRead => exact h
  | closeGate | clearPending | beginEpoch | emitReset | clearFinishing | prepare | poll | takeFault
  | complete => exact h.elim

section Reachable

variable {S : System Role Op RtcSection Env Rtc Failure}
  {c c' : Config Role RtcSection Env Rtc Failure}

/-- Nothing is required of a controller that is not strict. -/
theorem admits_free {l : RtcSection} {s : Rtc} : Admits False l s := by
  cases l <;> first | trivial | exact False.elim

theorem reachable_free {c₀ : Config Role RtcSection Env Rtc Failure}
    (hc : S.Reachable (fun _ _ _ _ => True) c₀ c) :
    S.Reachable (fun _ l _ s => Admits False l s) c₀ c :=
  hc.mono fun _ _ _ _ _ => admits_free

theorem step_free {x : Label Role Op RtcSection Env Failure}
    (hs : S.Step (fun _ _ _ _ => True) c x c') :
    S.Step (fun _ l _ s => Admits False l s) c x c' :=
  hs.mono fun _ _ _ _ _ => admits_free

theorem idle_init (t : Role) : (outline p w strict).idle t (init p) := by
  cases t with
  | scheduler => exact Good.of_closed rfl
  | _ => trivial

theorem reachable_inv (hS : (outline p w strict).Sound S)
    (hc : S.Reachable (fun _ l _ s => Admits strict l s) (.init (init p)) c) :
    Inv p w c.shared :=
  hS.inv inv_init idle_init hc

/-- Unless the scheduler's thread is about to handle an exception, the lease is good. -/
theorem reachable_good (hS : (outline p w strict).Sound S)
    (hc : S.Reachable (fun _ l _ s => Admits strict l s) (.init (init p)) c) (ho : Orderly c) :
    Good p w c.shared := by
  rcases ho with hn | ⟨β, l, act, k, hp, hl⟩
  · exact hS.idle inv_init idle_init hc hn
  · exact Pre.good (hS.pre inv_init idle_init hc hp) hl

/-- Every section that is executed meets its precondition, and does what it may do. -/
theorem step_meets (hS : (outline p w strict).Sound S) {t : Role} {l : RtcSection} {e : Env}
    {r : Option Failure}
    (hc : S.Reachable (fun _ l _ s => Admits strict l s) (.init (init p)) c)
    (hs : S.Step (fun _ l _ s => Admits strict l s) c (.sect t l e r) c') :
    Pre p w strict t l c.shared ∧ Changes p l c.shared r c'.shared ∧
      ∀ f, r = some f → ¬ Impossible strict f.error := by
  have hg := hS.guar inv_init idle_init hc hs
  refine ⟨?_, hg.1, hg.2.1⟩
  cases hs with
  | sect hp _ => exact hS.pre inv_init idle_init hc hp

end Reachable

/-! ### A small station

Parameters for which schedules can be evaluated: windows of two rows, delays `0` and `1`, and a
policy whose chunks consist of zeros. -/

namespace Station

theorem rate_pos : (0 : ℚ) < 1 := by decide

theorem timeouts_pos : (0 : ℚ) < 1 ∧ (0 : ℚ) < 1 := by decide

theorem dimension_pos : 0 < 14 := by decide

theorem delay_pos : PolicyType.trainingTimeRtc = .trainingTimeRtc → 0 < 2 := fun _ => by decide

theorem tolerance_pos : PolicyType.trainingTimeRtc = .trainingTimeRtc → (0 : ℚ) < 1 :=
  fun _ => by decide

/-- A contract with unit limits. -/
def contract : Pi05JointActionContract where
  checkpointSha256 := "sha"
  grippers := ⟨0, 1, 0, 0, by decide, by decide⟩
  safety := ⟨1, 1, 0, 1, 0, 1, 1, by decide, by decide, by decide⟩

/-- Chunks of `rows` rows. -/
def execution (rows : ℕ) (h : 0 < rows) : PolicyExecutionProfile :=
  ⟨rows, 14, 1, 1, h, dimension_pos, ⟨Nat.one_pos, h⟩, rate_pos⟩

/-- A checkpoint for the delays `0` and `1`. -/
def checkpoint (rows : ℕ) (h : 0 < rows) : Pi05CheckpointProfile :=
  ⟨.trainingTimeRtc, execution rows h, 2, 1, delay_pos, tolerance_pos⟩

/-- A rollout that asks for the next chunk after one command. -/
def rollout : RtcRolloutProfile := ⟨1, 0, 1, Nat.one_pos, Nat.one_pos⟩

/-- A scheduler for chunks of `rows` rows. -/
def parameters (rows : ℕ) (h : 2 ≤ rows) : RtcParameters where
  contract := contract
  checkpoint := checkpoint rows (Nat.zero_lt_two.trans_le h)
  rollout := rollout
  policyWaitTimeoutS := 1
  commandWatchdogS := 1
  bootstrapTimeoutS := 1
  valid := ⟨rfl, Nat.zero_lt_two, h⟩
  timeouts_pos := timeouts_pos
  bootstrapTimeoutS_pos := rate_pos

/-- A scheduler for chunks of two rows. -/
def two : RtcParameters := parameters 2 (by decide)

/-- A scheduler for chunks of three rows. -/
def three : RtcParameters := parameters 3 (by decide)

/-- A chunk of rows whose joints are `x`. -/
def ticket (rows : ℕ) (h : 0 < rows) (controlEpoch : ℕ) (x : ℚ) : InferenceTicket where
  inferenceId := "id"
  controlEpoch := controlEpoch
  checkpointSha256 := "sha"
  actionChunk := List.replicate rows
    (List.replicate 6 x ++ [0] ++ List.replicate 6 x ++ [0])
  execution := execution rows h
  actionChunk_length := by simp [execution]
  actionChunk_row := by simp [execution]

/-- Begin an operation and execute `n` of its sections. -/
def run (t : Role) (o : Op) (n : ℕ) (e : Env) : List (Move Role Op Env) := Move.run t o n e

/-- The policy answers request `future`. -/
def answer (future : ℕ) (ticket : InferenceTicket) : List (Move Role Op Env) :=
  run .policy (.complete future (.ok (.ticket ticket))) 1 {}

/-- The controller opens a lease: it prepares the policy, request `future` is answered, and the
response is accepted. -/
def openLease (controlEpoch future : ℕ) (ticket : InferenceTicket) : List (Move Role Op Env) :=
  run .controller (.preparePolicy "episode" controlEpoch) 1 {} ++ answer future ticket ++
    run .controller (.policyReady "episode" controlEpoch) 5 {}

/-- The scheduler publishes a command at the time `nowS`. -/
def publish (nowS : ℚ) : List (Move Role Op Env) := run .scheduler .step 3 { clock := nowS }

/-- What a schedule shows is shown by a reachable configuration. -/
theorem shows (p : RtcParameters) (admits : RtcSection → Rtc → Prop)
    [∀ l s, Decidable (admits l s)] (schedule : List (Move Role Op Env))
    (test : Config Role RtcSection Env Rtc Failure → Bool)
    (h : ((system p).play (fun _ l _ s => decide (admits l s)) (.init (init p)) schedule).any
      test = true) :
    ∃ c, (system p).Reachable (fun _ l _ s => admits l s) (.init (init p)) c ∧ test c = true :=
  System.play_shows (fun _ _ _ => trivial) (fun _ _ _ _ h => of_decide_eq_true h) test h

end Station

end Rtc

end DualCollection
