import DualCollection.Expo.Continuity
import DualCollection.Expo.Windows
import DualCollection.Thread.Both
import DualCollection.Thread.Recorded

/-!
# The two stages of a request

What the thread of an EXPO scheduler knows between its sections: `_finishing` is set exactly when a
window is exhausted and its second stage was submitted.  `stages` is the proof outline that keeps
track of it, on top of the outline of `Expo.Threads`; `Keeps` is what the thread relies on.

From it, `fixed_windows` shows that every event comes at its place (`Expo.Windows`).
-/

namespace DualCollection

open Thread

namespace Expo

open Rtc (Changes PublishStep Inv Good Yields Role Op Cleared Fresh Matches Pre Admits outline
  perform acceptPending lastAccepted)

variable (p : ExpoParameters)

/-- Any response other than the first one belongs to a window that is exhausted. -/
def Spent (s : Rtc) : Prop :=
  ∀ pending, s.pending = some pending → pending.bootstrap = false → s.issuedSinceSplice = p.c

/-- The window is not exhausted while commands are issued. -/
def Unfinished (s : Rtc) : Prop := s.gateOpen = true → s.issuedSinceSplice ≠ p.c

/-- What the scheduler's thread finds between two steps. -/
structure Settled (s : Rtc) : Prop where
  /-- The second stage is submitted for an exhausted window. -/
  spent : s.finishing ≠ none → Spent p s
  /-- The second stage of an exhausted window was submitted. -/
  finishing : s.gateOpen = true → s.issuedSinceSplice = p.c → s.finishing ≠ none

/-- What the other threads leave of what the scheduler's thread has seen. -/
structure Keeps (s s' : Rtc) : Prop where
  /-- Requests that overlap with execution are the scheduler's. -/
  pending : ∀ pending, s'.pending = some pending → pending.bootstrap = false →
    s.pending = some pending ∧ s'.finishing = s.finishing ∧
      s'.issuedSinceSplice = s.issuedSinceSplice
  /-- The second stage is submitted by the scheduler. -/
  finishing : s.finishing = none → s'.finishing = none
  /-- An exhausted window is the scheduler's. -/
  full : s'.gateOpen = true → s'.issuedSinceSplice = p.c →
    s.gateOpen = true ∧ s.issuedSinceSplice = p.c ∧ s'.finishing = s.finishing

/-- What a publishing section does to a window. -/
structure Dispatch (s : Rtc) (r : Option Exc) (s' : Rtc) : Prop where
  /-- The second stage is submitted when the window is exhausted. -/
  full : s'.finishing = s.finishing ∨ s'.issuedSinceSplice = p.c
  /-- When the window is exhausted, the second stage is submitted. -/
  done : r = none → s'.issuedSinceSplice = p.c → s'.finishing ≠ none ∨
    s'.issuedSinceSplice = s.issuedSinceSplice ∧ s'.gateOpen = s.gateOpen
  /-- The prefix of a request is the queue. -/
  rest : s.pending = none → ∀ pending, s'.pending = some pending →
    pending.actionPrefix = s'.queue.map (·.modelAction)
  /-- `EXPO prefix length mismatch` -/
  mismatch : r = some (.scheduler .prefixMismatch) → s.gateOpen = true ∧
    s.issuedSinceSplice + 1 = p.c - p.d ∧ s.queue.length ≠ p.d + 1
  /-- `EXPO selected window exhausted` -/
  exhausted : r = some (.scheduler .windowExhausted) → s.gateOpen = true ∧ s.queue = []

/-- The proof outline of the two stages. -/
def stages : Outline Role RtcSection Env Rtc Failure where
  inv := fun _ => True
  pre := fun
    | .scheduler, .publish, s => s.finishing = none ∧ Unfinished p s
    | .scheduler, .splice _, s => Spent p s
    | .controller, .clearFinishing, s => Cleared s
    | _, _, _ => True
  rely := fun
    | .controller, s, s' => Yields s s'
    | .scheduler, s, s' => Keeps p s s'
    | .policy, _, _ => True
  guar := fun t l s r s' => t = .scheduler → l = .publish →
    Dispatch p s (r.map (·.error)) s'
  idle := fun
    | .scheduler, s => Settled p s
    | _, _ => True

variable {p} {e : Env} {s s' s'' : Rtc} {r : Option Failure} {start : StepStart}

/-! ### Interference -/

theorem Keeps.refl : Keeps p s s := ⟨fun _ h _ => ⟨h, rfl, rfl⟩, id, fun h h' => ⟨h, h', rfl⟩⟩

theorem Keeps.trans (h : Keeps p s s') (h' : Keeps p s' s'') : Keeps p s s'' where
  pending := fun pending hp hb => by
    obtain ⟨hp', hf', hi'⟩ := h'.pending pending hp hb
    obtain ⟨hp, hf, hi⟩ := h.pending pending hp' hb
    exact ⟨hp, hf'.trans hf, hi'.trans hi⟩
  finishing := fun hf => h'.finishing (h.finishing hf)
  full := fun hg hi => by
    obtain ⟨hg', hi', hf'⟩ := h'.full hg hi
    obtain ⟨hg, hi, hf⟩ := h.full hg' hi'
    exact ⟨hg, hi, hf'.trans hf⟩

theorem Spent.stable (h : Spent p s) (hk : Keeps p s s') : Spent p s' := fun pending hp hb => by
  obtain ⟨hp', -, hi⟩ := hk.pending pending hp hb
  exact hi.trans (h pending hp' hb)

theorem Unfinished.stable (h : Unfinished p s) (hk : Keeps p s s') : Unfinished p s' :=
  fun hg hi => by
    obtain ⟨hg', hi', -⟩ := hk.full hg hi
    exact h hg' hi'

theorem Settled.stable (h : Settled p s) (hk : Keeps p s s') : Settled p s' where
  spent := fun hf pending hp hb => by
    obtain ⟨hp', hf', hi⟩ := hk.pending pending hp hb
    exact hi.trans (h.spent (by rw [← hf']; exact hf) pending hp' hb)
  finishing := fun hg hi => by
    obtain ⟨hg', hi', hf'⟩ := hk.full hg hi
    rw [hf']
    exact h.finishing hg' hi'

theorem Settled.of_closed (hg : s.gateOpen = false) (hp : s.pending = none) : Settled p s where
  spent := fun _ _ h => by rw [hp] at h; cases h
  finishing := fun h => by rw [hg] at h; cases h

/-- Changes that leave alone what the scheduler's thread looks at. -/
theorem Keeps.of_eq (hp : s'.pending = s.pending) (hf : s'.finishing = s.finishing)
    (hi : s'.issuedSinceSplice = s.issuedSinceSplice)
    (hg : s'.gateOpen = true → s.gateOpen = true) : Keeps p s s' where
  pending := fun _ h _ => ⟨hp ▸ h, hf, hi⟩
  finishing := fun h => hf.trans h
  full := fun h h' => ⟨hg h, hi ▸ h', hf⟩

/-- Nothing that the other threads do concerns an exhausted window. -/
theorem Keeps.of_closed (hp : ∀ pending, s'.pending = some pending → pending.bootstrap = true)
    (hf : s'.finishing = s.finishing ∨ s'.finishing = none) (hg : s'.gateOpen = false) :
    Keeps p s s' where
  pending := fun pending h hb => by
    rw [hp pending h] at hb
    cases hb
  finishing := fun h => by
    rcases hf with hf | hf
    · rw [hf, h]
    · exact hf
  full := fun h => by rw [hg] at h; cases h

/-- The sections of the other threads keep what the scheduler's thread has seen. -/
theorem Changes.keeps {t : Role} {l : RtcSection} {w : ℕ} {strict : Prop} (ht : t ≠ .scheduler)
    (hpre : Pre p.toRtcParameters w strict t l s) (hpre' : (stages p).pre t l s)
    (hc : Changes p.toRtcParameters l s r s') : Keeps p s s' := by
  cases l with
  | closeGate =>
    rcases hc with hc | ⟨-, rfl⟩
    · rw [hc.2]; exact .refl
    · exact .of_eq rfl rfl rfl (by rintro ⟨⟩)
  | clearPending e =>
    rcases hc with hc | ⟨-, -, rfl⟩
    · rw [hc.2]; exact .refl
    · exact .of_closed (by rintro _ ⟨⟩) (.inl rfl) rfl
  | prepare =>
    cases hc with
    | refused hr => rw [hr.2]; exact .refl
    | identified => exact .of_eq rfl rfl rfl id
    | @submitted _ pending episodeId hs _ _ hb =>
      refine .of_closed (fun last hlast => ?_) (.inl rfl) hs.gateOpen
      obtain rfl : pending = last := Option.some.inj hlast
      exact hb
  | takeFault => rw [hc.2]; exact .of_eq rfl rfl rfl id
  | reject f =>
    rw [hc.2]
    exact .of_closed (by rintro _ ⟨⟩) (.inl rfl) rfl
  | splice c =>
    cases hc with
    | refused hr => rw [hr.2]; exact .refl
    | bootstrap nowS hm hb =>
      refine ⟨by rintro _ ⟨⟩, id, fun _ hi => ?_⟩
      exact absurd hi (c_pos p).ne
    | overlap hm hb =>
      cases t with
      | controller => rw [hpre.2] at hb; cases hb
      | scheduler => exact absurd rfl ht
      | policy => exact hpre.elim
  | clearFinishing =>
    have hs : Cleared s := by
      cases t with
      | controller => exact hpre'
      | scheduler => exact absurd rfl ht
      | policy => exact hpre.elim
    rw [show s' = _ from hc]
    refine .of_closed (fun pending hp => ?_) (.inr rfl) hs.gateOpen
    have hnone := hs.pending
    rw [show s.pending = some pending from hp] at hnone
    cases hnone
  | complete =>
    obtain ⟨-, future, result, rfl⟩ := hc
    unfold Rtc.completed
    split
    · exact .of_eq rfl rfl rfl id
    · exact .refl
  | checkResponse window snap => rw [hc.2]; exact .refl
  | gateCheck | finished | publish | fail f =>
    cases t with
    | controller => exact hpre.elim
    | scheduler => exact absurd rfl ht
    | policy => exact hpre.elim
  | beginEpoch | emitReset | poll | clock | finishCheck | acceptRead | stateRead =>
    rw [show s' = s from hc]; exact .refl

/-! ### Publishing -/

/-- What submitting the request for the next window does. -/
inductive Asked (p : ExpoParameters) (s : Rtc) (r : Except Exc Unit) (s' : Rtc) : Prop
  | early : s.issuedSinceSplice ≠ p.c - p.d → r = .ok () → s' = s → Asked p s r s'
  | due : s.issuedSinceSplice = p.c - p.d → s'.issuedSinceSplice = s.issuedSinceSplice →
      s'.finishing = s.finishing → s'.queue = s.queue →
      (s'.pending = s.pending ∨ ∃ pending, s'.pending = some pending ∧
        pending.actionPrefix = s.queue.map (·.modelAction)) →
      (r = .error (.scheduler .prefixMismatch) → s.queue.length ≠ p.d) →
      r ≠ .error (.scheduler .windowExhausted) → Asked p s r s'

theorem prefetch_asked : (prefetch p).Post e s (Asked p s) := by
  rw [prefetch, Locked.post_bind, Locked.post_get]
  dsimp only
  rw [Locked.post_ite]
  refine ⟨fun hi => ?_, fun hi => .early hi rfl rfl⟩
  have hfailed : ∀ err, (err = .scheduler .prefixMismatch → s.queue.length ≠ p.d) →
      err ≠ .scheduler .windowExhausted → Asked p s (.error err) s := fun err hm hu =>
    .due hi rfl rfl rfl (.inl rfl) (fun h => hm (Except.error.inj h))
      fun h => hu (Except.error.inj h)
  rw [Locked.post_ite]
  refine ⟨fun hlen => hfailed _ (fun _ => by simpa using hlen) (by rintro ⟨⟩), fun _ => ?_⟩
  cases hmake : RtcPolicyContext.make p.d (s.queue.map (·.modelAction)) with
  | error err =>
    rcases RtcPolicyContext.make_error hmake with rfl | rfl <;>
      exact hfailed _ (by rintro ⟨⟩) (by rintro ⟨⟩)
  | ok context =>
    obtain ⟨-, hpre⟩ := RtcPolicyContext.make_eq hmake
    refine Rtc.submitLocked_post (fun _ => hfailed _ (by rintro ⟨⟩) (by rintro ⟨⟩))
      (fun err => hfailed _ (by rintro ⟨⟩) (by rintro ⟨⟩)) fun r hr pending _ _ _ ha => ?_
    refine .due hi rfl rfl rfl (.inr ⟨pending, rfl, by simpa [hpre] using ha⟩) ?_ ?_
    · rintro rfl
      obtain h | ⟨event, err, h⟩ := hr <;> cases h
    · rintro rfl
      obtain h | ⟨event, err, h⟩ := hr <;> cases h

/-- What submitting the second stage of a request does. -/
inductive Finished (p : ExpoParameters) (s : Rtc) (r : Except Exc Unit) (s' : Rtc) : Prop
  | early : s.issuedSinceSplice ≠ p.c → r = .ok () → s' = s → Finished p s r s'
  | due : s.issuedSinceSplice = p.c → s'.issuedSinceSplice = s.issuedSinceSplice →
      (r = .ok () → s'.finishing ≠ none) → (s.pending = none → s'.pending = none) →
      r ≠ .error (.scheduler .prefixMismatch) → r ≠ .error (.scheduler .windowExhausted) →
      Finished p s r s'

theorem finish_finished : (finish p).Post e s (Finished p s) := by
  rw [finish, Locked.post_bind, Locked.post_get]
  dsimp only
  rw [Locked.post_ite]
  refine ⟨fun hi => ?_, fun hi => .early hi rfl rfl⟩
  have hfailed : ∀ err, err ≠ .scheduler .prefixMismatch → err ≠ .scheduler .windowExhausted →
      Finished p s (.error err) s := fun err hm hu =>
    .due hi rfl (by rintro ⟨⟩) id (fun h => hm (Except.error.inj h))
      fun h => hu (Except.error.inj h)
  cases hp : s.pending with
  | none => exact hfailed _ (by rintro ⟨⟩) (by rintro ⟨⟩)
  | some pending =>
    dsimp only
    cases s.futures pending.future with
    | none => exact hfailed _ (by rintro ⟨⟩) (by rintro ⟨⟩)
    | some result =>
      cases result with
      | error err => exact hfailed _ (by rintro ⟨⟩) (by rintro ⟨⟩)
      | ok result =>
        rw [Locked.post_bind]
        refine Locked.post_call ?_ fun err => hfailed _ (by rintro ⟨⟩) (by rintro ⟨⟩)
        rw [Locked.post_modify]
        refine .due hi rfl (fun _ => by rintro ⟨⟩) (fun hnone => ?_) (by rintro ⟨⟩)
          (by rintro ⟨⟩)
        rw [hp] at hnone
        cases hnone

section Dispatch

variable {queued : QueuedRtcAction} {rest : List QueuedRtcAction} {nextS : ℚ} {s₁ s₂ : Rtc}

/-- A command after which the window goes on, or is exhausted. -/
theorem Finished.dispatch {r : Except Exc Unit}
    (h : Finished p ((s.dequeued rest).issued queued nextS) r s₁) :
    Dispatch p s (raised r) s₁ := by
  cases h with
  | early hi hr heq =>
    subst heq hr
    refine ⟨.inl rfl, fun _ h => absurd h hi, fun hn pending hp => ?_, by rintro ⟨⟩, by rintro ⟨⟩⟩
    rw [show s.pending = some pending from hp] at hn
    cases hn
  | due hi hi' hf hp hm hu =>
    refine ⟨.inr (hi'.trans hi), fun hr _ => .inl (hf ?_), fun hn pending hpending => ?_,
      fun h => absurd (raised_eq_some.1 h) hm, fun h => absurd (raised_eq_some.1 h) hu⟩
    · cases r with
      | ok u => rfl
      | error err => cases hr
    · rw [hp hn] at hpending
      cases hpending

/-- A command after which the next window is requested. -/
theorem Asked.dispatch {r : Except Exc Unit} (hgate : s.gateOpen = true)
    (hq : s.queue = queued :: rest) (h : Asked p ((s.dequeued rest).issued queued nextS) r s₁)
    (hi : s.issuedSinceSplice + 1 = p.c - p.d) : Dispatch p s (raised r) s₁ := by
  have hpos := p.delay_range
  have hne : s.issuedSinceSplice + 1 ≠ p.c := by
    rw [hi, ExpoParameters.c, ExpoParameters.d]
    omega
  cases h with
  | early hi' => exact absurd hi hi'
  | due _ hi' hf hq' hp hm hu =>
    refine ⟨.inl hf, fun _ h => absurd (hi'.symm.trans h) hne, fun hn pending hpending => ?_,
      fun h => ⟨hgate, hi, fun hlen => ?_⟩, fun h => absurd (raised_eq_some.1 h) hu⟩
    · rcases hp with hp | ⟨last, hlast, hprefix⟩
      · rw [hp] at hpending
        rw [show s.pending = some pending from hpending] at hn
        cases hn
      · obtain rfl : last = pending := Option.some.inj (hlast.symm.trans hpending)
        rw [hq']
        exact hprefix
    · refine hm (raised_eq_some.1 h) ?_
      rw [hq, List.length_cons] at hlen
      exact Nat.succ_injective hlen

end Dispatch

/-- The publishing section. -/
theorem publishDue_dispatch :
    (publishDue p start).Post e s fun r s' => Dispatch p s (raised r) s' := by
  have hidle : ∀ r : Except Exc Bool, r ≠ .error (.scheduler .prefixMismatch) →
      r ≠ .error (.scheduler .windowExhausted) → Dispatch p s (raised r) s := fun r hm hu =>
    ⟨.inl rfl, fun _ _ => .inr ⟨rfl, rfl⟩, fun hn pending hp => (by rw [hn] at hp; cases hp),
      fun h => absurd (raised_eq_some.1 h) hm, fun h => absurd (raised_eq_some.1 h) hu⟩
  rw [publishDue, Locked.post_bind, Locked.post_get]
  dsimp only
  rw [Locked.post_ite]
  refine ⟨fun _ => hidle _ (by rintro ⟨⟩) (by rintro ⟨⟩), fun hopen => ?_⟩
  have hgate : s.gateOpen = true := not_not.1 hopen
  rw [Locked.post_bind, Locked.post_ask]
  dsimp only
  rw [Locked.post_ite]
  refine ⟨fun _ => hidle _ (by rintro ⟨⟩) (by rintro ⟨⟩), fun _ => ?_⟩
  cases hdue : s.nextCommandS with
  | none => exact hidle _ (by rintro ⟨⟩) (by rintro ⟨⟩)
  | some due =>
    dsimp only
    rw [Locked.post_ite, Locked.post_ite]
    refine ⟨fun _ => hidle _ (by rintro ⟨⟩) (by rintro ⟨⟩),
      fun _ => ⟨fun _ => hidle _ (by rintro ⟨⟩) (by rintro ⟨⟩), fun _ => ?_⟩⟩
    rw [Locked.post_bind, Rtc.issue, Locked.post_bind, Locked.post_get]
    dsimp only
    cases hq : s.queue with
    | nil =>
      refine ⟨.inl rfl, fun _ _ => .inr ⟨rfl, rfl⟩, fun hn pending hp => ?_, by rintro ⟨⟩,
        fun _ => ⟨hgate, hq⟩⟩
      rw [show s.pending = some pending from hp] at hn
      cases hn
    | cons queued rest =>
      simp only [Locked.post_bind, Locked.post_modify]
      refine Locked.post_call ?_ fun err => ?_
      swap
      · -- the sink raised, so that nothing was counted
        refine ⟨.inl rfl, by rintro ⟨⟩, fun hn pending hp => ?_, by rintro ⟨⟩, by rintro ⟨⟩⟩
        rw [show s.pending = some pending from hp] at hn
        cases hn
      refine Locked.post_mono prefetch_asked fun r s₁ hasked => ?_
      by_cases hi : s.issuedSinceSplice + 1 = p.c - p.d
      · have hdispatch := hasked.dispatch hgate hq hi
        cases r with
        | error err => exact hdispatch
        | ok u =>
          -- the window is not exhausted when the next one is requested
          refine Locked.post_mono finish_finished fun r s₂ h => ?_
          cases h with
          | early _ hr heq =>
            subst heq hr
            exact hdispatch
          | due hfull =>
            cases hasked with
            | early hne => exact absurd hi hne
            | due _ hsince =>
              have hrange := p.delay_range
              rw [hsince] at hfull
              have : s.issuedSinceSplice + 1 = p.c := hfull
              rw [ExpoParameters.c] at *
              rw [ExpoParameters.d] at hi
              omega
      · cases hasked with
        | due hdue => exact absurd hdue hi
        | early _ hr heq =>
          subst heq hr
          dsimp only
          refine Locked.post_mono finish_finished fun r s₂ h => ?_
          have hdispatch := h.dispatch
          cases r with
          | error err => exact hdispatch
          | ok u => exact hdispatch

/-! ### The scheduler's thread -/

/-- The rule of a section that does not publish. -/
theorem wp_stage {α : Type} {l : RtcSection} {epoch : Rtc → ℕ} {body : Locked Rtc α}
    {Q : Except Failure α → Rtc → Prop} (hl : l ≠ .publish)
    (hpre : ∀ y, Keeps p s y → (stages p).pre .scheduler l y)
    (h : ∀ y, Keeps p s y → ∀ e, body.Post e y fun r s' => Q (markEpoch (epoch y) r) s') :
    wp (stages p) .scheduler Q (locked epoch l body) s :=
  fun y hk _ => ⟨hpre y hk, fun e _ => ⟨trivial, fun _ hpublish => absurd hpublish hl, h y hk e⟩⟩

/-- The rule of the publishing section. -/
theorem wp_dispatch {α : Type} {epoch : Rtc → ℕ} {body : Locked Rtc α}
    {Q : Except Failure α → Rtc → Prop}
    (hpre : ∀ y, Keeps p s y → y.finishing = none ∧ Unfinished p y)
    (h : ∀ y, Keeps p s y → ∀ e, body.Post e y fun r s' =>
      Dispatch p y (raised r) s' ∧ Q (markEpoch (epoch y) r) s') :
    wp (stages p) .scheduler Q (locked epoch .publish body) s := by
  intro y hk _
  refine ⟨hpre y hk, fun e _ => ⟨trivial, fun _ _ => ?_, (h y hk e).2⟩⟩
  have hdispatch := (h y hk e).1
  rw [raised_markEpoch, Option.map_map]
  simpa [Function.comp_def] using hdispatch

/-- After a failure was handled, nothing is left of the window. -/
theorem wp_fail_settled {f : Failure} :
    wp (stages p) .scheduler (fun _ s' => Settled p s') (Rtc.fail f) s := by
  refine wp_stage (by simp) (fun _ _ => trivial) fun y _ e => ?_
  refine Locked.post_mono (Rtc.fail_changes p.toRtcParameters f.epoch) fun r s' h => ?_
  rcases h.1 with ⟨hgate, hpending, rfl⟩ | ⟨-, rfl⟩
  · exact .of_closed hgate hpending
  · exact .of_closed rfl rfl

/-- A spliced window has not been executed. -/
theorem splice_unfinished {c : Candidate} {saturated : Bool} :
    (Rtc.splice c saturated).Post e s fun r s' => r = .ok () → Unfinished p s' := by
  rw [Rtc.splice, Locked.post_bind, Locked.post_get]
  dsimp only
  rw [Locked.post_ite, Locked.post_ite]
  have hrest : ∀ s₁ : Rtc, (do
      .modify (·.spliced c)
      .emit "inference_accepted"
      if saturated then .emit "gripper_saturated" : Locked Rtc Unit).Post e s₁
        fun r s' => r = .ok () → Unfinished p s' := fun s₁ => by
    rw [Locked.post_bind, Locked.post_modify]
    exact Rtc.report_post fun r _ _ _ h => (c_pos p).ne h
  refine ⟨fun _ => by rintro ⟨⟩, fun _ => ⟨fun _ => ?_, fun _ => ?_⟩⟩
  · rw [Locked.post_bind]
    refine Locked.post_call ?_ fun err => by rintro ⟨⟩
    simp only [Locked.post_bind, Locked.post_ask, Locked.post_modify]
    exact Locked.post_bind.1 (Locked.post_bind.1 (hrest _))
  · cases s.delay.observe c.response.actualDelay with
    | error err => rintro ⟨⟩
    | ok delay =>
      simp only [Locked.post_bind, Locked.post_modify]
      exact Locked.post_bind.1 (Locked.post_bind.1 (hrest _))

/-- A response is accepted for an exhausted window, and then there is a new one. -/
theorem wp_accept_stage {begun : ℕ} {b : Bool} (hs : Spent p s) :
    wp (stages p) .scheduler (fun r s' => r = .ok () → Unfinished p s')
      (acceptPending p.toRtcParameters p.c begun b) s := by
  rw [acceptPending, wp_bind]
  refine wp_stage (by simp) (fun _ _ => trivial) fun s₁ hk₁ e => ?_
  refine Locked.post_mono Rtc.acceptRead_changes fun r s' h => ?_
  obtain ⟨rfl, -⟩ := h
  have hs₁ := hs.stable hk₁
  cases r with
  | error err => rintro ⟨⟩
  | ok snap =>
    dsimp only [markEpoch_ok]
    rw [wp_bind]
    refine wp_stage (by simp) (fun _ _ => trivial) fun s₂ hk₂ e => ?_
    have hs₂ := hs₁.stable hk₂
    dsimp only [Locked.Post]
    cases Rtc.checkResponse p.toRtcParameters p.c snap with
    | error err => rintro ⟨⟩
    | ok response =>
      dsimp only [markEpoch_ok]
      rw [wp_bind]
      refine wp_stage (by simp) (fun _ _ => trivial) fun s₃ hk₃ e => ?_
      have hs₃ := hs₂.stable hk₃
      rw [Locked.post_bind]
      refine Locked.post_call ?_ fun err => by rintro ⟨⟩
      simp only [Locked.post_bind, Locked.post_ask, Locked.post_pure, markEpoch_ok]
      split
      · exact wp_stage (by simp) (fun _ _ => trivial) fun _ _ e => by rintro ⟨⟩
      · refine wp_stage (by simp) (fun y hk => hs₃.stable hk) fun y _ e => ?_
        refine Locked.post_mono splice_unfinished fun r s' h hr => h ?_
        cases r with
        | ok u => rfl
        | error err => cases hr

/-- The publishing part of a step. -/
theorem wp_publish_stage (hf : s.finishing = none) (hs : Unfinished p s) :
    wp (stages p) .scheduler (fun r s' => ∀ u, r = .ok u → Settled p s')
      (publishStage p start) s := by
  rw [publishStage, wp_bind]
  refine wp_dispatch (fun y hk => ⟨hk.finishing hf, hs.stable hk⟩) fun y hk e => ?_
  have hf' := hk.finishing hf
  have hs' := hs.stable hk
  refine Locked.post_mono publishDue_dispatch fun r s' h => ⟨h, ?_⟩
  cases r with
  | error err => rintro _ ⟨⟩
  | ok missed =>
    have hsettled : Settled p s' := by
      refine ⟨fun hne pending _ _ => ?_, fun hg hi => ?_⟩
      · rcases h.full with hsame | hfull
        · exact absurd (hsame.trans hf') hne
        · exact hfull
      · rcases h.done rfl hi with hne | ⟨hsame, hgate⟩
        · exact hne
        · exact absurd (hsame.symm.trans hi) (hs' (hgate ▸ hg))
    dsimp only [markEpoch_ok]
    split
    · rintro _ ⟨⟩
    · exact fun _ _ => hsettled

/-- The part of a step that waits for the second stage. -/
theorem wp_finish_stage {now : ℚ} {begun : ℕ} (hs : Settled p s) (hspent : Spent p s) :
    wp (stages p) .scheduler (fun r s' => (r = .ok true → s'.finishing = none ∧ Unfinished p s') ∧
      (r = .ok false → Settled p s')) (finishStage p start now begun) s := by
  unfold finishStage
  split_ifs
  · exact ⟨by rintro ⟨⟩, by rintro ⟨⟩⟩
  cases start.pending with
  | none => exact ⟨by rintro ⟨⟩, by rintro ⟨⟩⟩
  | some pending =>
    rw [wp_bind]
    refine wp_stage (by simp) (fun _ _ => trivial) fun s₁ hk e => ?_
    simp only [finishCheck, Locked.post_bind, Locked.post_get, Locked.post_pure, markEpoch_ok]
    split_ifs
    · rw [wp_bind]
      refine wp_mono (wp_accept_stage (hspent.stable hk)) fun r s₂ h => ?_
      cases r with
      | error f => exact ⟨by rintro ⟨⟩, by rintro ⟨⟩⟩
      | ok u =>
        rw [wp_bind]
        refine wp_stage (by simp) (fun _ _ => trivial) fun s₃ hk₃ e => ?_
        exact ⟨fun _ => ⟨rfl, fun hg hi => (h rfl).stable hk₃ hg hi⟩, by rintro ⟨⟩⟩
    · exact ⟨by rintro ⟨⟩, fun _ => hs.stable hk⟩

/-- A step leaves the stages settled. -/
theorem wp_step_stages (hs : Settled p s) :
    wp (stages p) .scheduler (fun _ s' => Settled p s') (step p) s := by
  rw [step, wp_tryCatch]
  suffices h : wp (stages p) .scheduler (fun r s' => ∀ u, r = .ok u → Settled p s')
      (stepBody p) s by
    refine wp_mono h fun r s' hr => ?_
    cases r with
    | ok u => exact hr u rfl
    | error f => exact wp_fail_settled
  rw [stepBody, wp_bind]
  refine wp_stage (by simp) (fun _ _ => trivial) fun s₁ hk₁ e => ?_
  simp only [Locked.post_bind, Locked.post_ask, Locked.post_pure, markEpoch_ok]
  rw [wp_bind]
  refine wp_stage (by simp) (fun _ _ => trivial) fun s₂ hk₂ e => ?_
  have hs₂ := (hs.stable hk₁).stable hk₂
  simp only [gateCheck, Locked.post_bind, Locked.post_get, Locked.post_ite, Locked.post_pure,
    markEpoch_ok]
  refine ⟨fun _ _ _ => hs₂, fun _ => ?_⟩
  cases hf : s₂.finishing with
  | none => exact wp_publish_stage hf fun hg hi => hs₂.finishing hg hi hf
  | some begun =>
    dsimp only
    rw [wp_bind]
    have hspent := hs₂.spent (by rw [hf]; rintro ⟨⟩)
    refine wp_mono (wp_finish_stage hs₂ hspent) fun r s₃ h => ?_
    match r with
    | .error f => rintro _ ⟨⟩
    | .ok false => exact fun _ _ => h.2 rfl
    | .ok true => exact wp_publish_stage (h.1 rfl).1 (h.1 rfl).2

/-- `_finishing` is cleared for a lease that was cleared before. -/
theorem wp_clearPending_stages {controlEpoch : ℕ} :
    wp (stages p) .controller (fun _ _ => True) (clearPending controlEpoch) s := by
  have hsect : ∀ {α : Type} {l : RtcSection} {body : Locked Rtc α}
      {Q : Except Failure α → Rtc → Prop} {s : Rtc}, (∀ y, Yields s y →
        (stages p).pre .controller l y ∧ ∀ e, body.Post e y fun r s' =>
          Q (markEpoch y.controlEpoch r) s') →
      wp (stages p) .controller Q (perform l body) s := fun h y hy _ =>
    ⟨(h y hy).1, fun e _ => ⟨trivial, by rintro ⟨⟩, (h y hy).2 e⟩⟩
  rw [clearPending, Rtc.clearPending, wp_bind, wp_bind]
  refine hsect fun s₁ _ => ⟨trivial, fun e => ?_⟩
  refine Locked.post_mono (Rtc.clearPending_changes p.toRtcParameters s₁.controlEpoch)
    fun r s₂ h => ?_
  cases r with
  | error err => trivial
  | ok u =>
    have hs₂ : Cleared s₂ := by
      rcases h.1 with ⟨hr, -⟩ | ⟨-, -, rfl⟩
      · cases hr
      · exact ⟨rfl, rfl, rfl⟩
    dsimp only [markEpoch_ok]
    rw [wp_bind]
    refine hsect fun s₃ hy₃ => ⟨trivial, fun e => ?_⟩
    have hs₃ := hy₃.cleared hs₂
    refine Locked.post_call ?_ fun err => trivial
    refine hsect fun s₄ hy₄ => ⟨trivial, fun e => ?_⟩
    have hs₄ := hy₄.cleared hs₃
    refine Locked.post_emit ?_ fun err => trivial
    exact hsect fun s₅ hy₅ => ⟨hy₅.cleared hs₄, fun _ => trivial⟩

/-! ### The system -/

/-- The programs of the other threads. -/
theorem wp_others {α : Type} {t : Role} {q : Rtc.Program α} (ht : t ≠ .scheduler)
    (hq : q.Only (· ≠ .clearFinishing)) : wp (stages p) t (fun _ _ => True) q s := by
  induction q generalizing s with
  | ret r => trivial
  | halt => trivial
  | sect l act k ih =>
    intro y _ _
    refine ⟨?_, fun e _ => ⟨trivial, fun h => absurd h ht, ih _ (hq.2 _)⟩⟩
    cases t with
    | controller =>
      cases l with
      | clearFinishing => exact absurd rfl hq.1
      | _ => trivial
    | scheduler => exact absurd rfl ht
    | policy => trivial

theorem only_policyReady {episodeId : String} {e : ℕ} :
    (policyReady p episodeId e).Only (· ≠ .clearFinishing) := by
  refine Prog.only_bind (Prog.only_atomic (by simp)) fun ready => ?_
  split_ifs
  · refine Prog.only_bind ?_ fun _ => trivial
    refine Prog.only_bind (Prog.only_atomic (by simp)) fun snap => ?_
    refine Prog.only_bind (Prog.only_atomic (by simp)) fun response => ?_
    refine Prog.only_bind (Prog.only_atomic (by simp)) fun measured => ?_
    split
    · exact Prog.only_atomic (by simp)
    · exact Prog.only_atomic (by simp)
  · trivial

/-- The outline of the scheduler, and of the stages of its requests. -/
theorem stages_sound (p : ExpoParameters) :
    ((outline p.toRtcParameters p.c False).both (stages p)).Sound (system p) := by
  refine (sound p).both (fun t s => ?_) (fun t {a b c} h h' => ?_) (fun {t t' l s r s'} hne _ hp hg hp' _ => ?_)
    (fun {t s s'} h hr => ?_) (fun t o s _ hid => ?_)
  · cases t with
    | controller => exact Yields.refl
    | scheduler => exact Keeps.refl
    | policy => trivial
  · cases t with
    | controller => exact Yields.trans h h'
    | scheduler => exact Keeps.trans h h'
    | policy => trivial
  · cases t' with
    | controller => exact hg.2.2.2 hne
    | scheduler => exact Changes.keeps hne hp hp' hg.1
    | policy => trivial
  · cases t with
    | controller => trivial
    | scheduler => exact Settled.stable h hr
    | policy => trivial
  · cases t with
    | controller =>
      cases o with
      | closeGate e => exact wp_others (by simp) (Prog.only_atomic (by simp))
      | clearPending e => exact wp_clearPending_stages
      | preparePolicy episodeId e => exact wp_others (by simp) (Prog.only_atomic (by simp))
      | policyReady episodeId e =>
        exact wp_others (by simp) (Prog.only_bind only_policyReady fun _ => trivial)
      | takeFault =>
        exact wp_others (by simp) (Prog.only_bind (Prog.only_atomic (by simp)) fun _ => trivial)
      | step | complete => trivial
    | scheduler =>
      cases o with
      | step => exact wp_step_stages hid
      | _ => exact hid
    | policy =>
      cases o with
      | complete future result => exact wp_others (by simp) (Prog.only_atomic (by simp))
      | _ => trivial

theorem stages_init (t : Role) : ((outline p.toRtcParameters p.c False).both (stages p)).idle t
    (Rtc.init p.toRtcParameters) := by
  refine ⟨Rtc.idle_init t, ?_⟩
  cases t with
  | scheduler => exact .of_closed rfl rfl
  | _ => trivial

/-! ### Places of the events -/

/-- Every event came at its place, and the counters of the scheduler agree with them. -/
structure Lawful (p : ExpoParameters) (s : Rtc) : Prop where
  /-- Every event came at its place. -/
  places : Throughout (Fixed p) s.log
  /-- `_issued_since_splice` -/
  since : s.issuedSinceSplice = sinceSplice s.log
  /-- The first request of an epoch is pending before a response was accepted. -/
  bootstrap : ∀ pending, s.pending = some pending → pending.bootstrap = true →
    acceptances s.log = []

/-- Changes that are not observed. -/
theorem Lawful.of (h : Lawful p s) (hlog : s'.log = s.log)
    (hi : s'.issuedSinceSplice = s.issuedSinceSplice)
    (hp : ∀ pending, s'.pending = some pending → s.pending = some pending) : Lawful p s' where
  places := hlog ▸ h.places
  since := by rw [hi, hlog, h.since]
  bootstrap := fun pending hpending hb => by
    rw [hlog]
    exact h.bootstrap pending (hp pending hpending) hb

section Step

variable {queued : QueuedRtcAction} {rest : List QueuedRtcAction}

/-- A published command is the next one of the window. -/
theorem Lawful.issued (h : Lawful p s) (hi : Inv p.toRtcParameters p.c s)
    (hg : Good p.toRtcParameters p.c s) (hgate : s.gateOpen = true) (hq : s.queue = queued :: rest)
    (dueS : Option ℚ) (nextS : ℚ) :
    Lawful p (((s.scheduled dueS).dequeued rest).issued queued nextS) ∧
      ∃ a, lastAccepted s.log = some a ∧ rest = a.window.drop (s.issuedSinceSplice + 1) := by
  obtain ⟨a, ha, hl⟩ := hg hgate
  obtain ⟨earlier, hsplice⟩ := Rtc.lastAccepted_splice hi.history ha
  have hhead : a.window[s.issuedSinceSplice]? = some queued := by
    have := congrArg (·[0]?) hl.queue
    rw [hq] at this
    simpa using this.symm
  refine ⟨⟨⟨⟨⟨a, ha, h.since ▸ hhead⟩, fun hle => ?_⟩, h.places⟩, congrArg (· + 1) h.since,
    fun pending hp hb => ?_⟩, a, ha, (hl.next hsplice hq).1⟩
  · -- the request for the next window is in flight
    have hprefetch : p.rollout.prefetchAfterSteps = p.c - p.d := p.prefetch
    change p.c - p.d ≤ sinceSplice s.log at hle
    rw [← h.since, ← hprefetch] at hle
    show Rtc.inFlight s.log ≠ none
    rw [hl.inFlight]
    exact fun hnone => absurd (hl.request hnone) (not_lt.2 hle)
  · rw [hi.not_bootstrap hgate hp] at hb
    cases hb

/-- The publishing section leaves every event at its place. -/
theorem Lawful.publish (h : Lawful p s) (hi : Inv p.toRtcParameters p.c s)
    (hg : Good p.toRtcParameters p.c s) (hf : s.finishing = none)
    (hc : PublishStep p.toRtcParameters s r s') (hd : Dispatch p s (r.map (·.error)) s') :
    Lawful p s' := by
  cases hc with
  | idle nextS => exact h.of rfl rfl fun _ hp => hp
  | dropped dueS hgate hq => exact h.of rfl rfl fun _ hp => hp
  | issued dueS nextS hgate hq => exact (h.issued hi hg hgate hq dueS nextS).1
  | @requested _ queued rest pending dueS nextS estimate hgate hq hprefetch _ hb =>
    obtain ⟨h', a, ha, hrest⟩ := h.issued hi hg hgate hq dueS nextS
    have hnone : s.pending = none := hi.pending_none hgate (by omega)
    have hplace : s.issuedSinceSplice + 1 = p.c - p.d := hprefetch.trans p.prefetch
    refine ⟨⟨⟨fun hb' => ?_, fun _ => ⟨?_, _, queued, s.log, rfl⟩, fun _ => ⟨a, ha, ?_⟩⟩,
      h'.places⟩, h'.since, fun last hlast hb' => ?_⟩
    · rw [hb] at hb'
      cases hb'
    · show sinceSplice s.log + 1 = p.c - p.d
      rw [← h.since]
      exact hplace
    · rw [hd.rest hnone pending rfl, ← hplace, ← hrest]
      rfl
    · obtain rfl : pending = last := Option.some.inj hlast
      rw [hb] at hb'
      cases hb'
  | @finishing _ queued rest pending dueS nextS hgate hq hp =>
    obtain ⟨h', -⟩ := h.issued hi hg hgate hq dueS nextS
    have hfull : s.issuedSinceSplice + 1 = p.c := by
      rcases hd.full with hsame | hfull
      · rw [hf] at hsame
        cases hsame
      · exact hfull
    refine ⟨⟨⟨?_, _, queued, s.log, rfl⟩, h'.places⟩, h'.since, fun last hlast hb => ?_⟩
    · show sinceSplice s.log + 1 = p.c
      rw [← h.since]
      exact hfull
    · obtain rfl := Option.some.inj hlast
      rw [hi.not_bootstrap hgate hp] at hb
      cases hb

/-- Accepting a response leaves every event at its place. -/
theorem Lawful.splice {c : Candidate} (h : Lawful p s) (hi : Inv p.toRtcParameters p.c s)
    (hs : c.snapshot.pending.bootstrap = false → Spent p s)
    (hchecked : Rtc.Candidate.Checked p.toRtcParameters p.c c) (hc : Rtc.SpliceStep c s r s') : Lawful p s' := by
  cases hc with
  | refused hr => rw [hr.2]; exact h
  | bootstrap nowS hm hb =>
    refine ⟨⟨⟨fun _ => h.bootstrap _ hm.pending hb, fun hb' => ?_⟩, trivial, h.places⟩, rfl,
      by rintro _ ⟨⟩⟩
    rw [show c.snapshot.pending.bootstrap = false from hb'] at hb
    cases hb
  | overlap hm hb =>
    have hspent := hs hb _ hm.pending hb
    obtain ⟨-, -, hsum, -⟩ := hi.overlap _ hm.pending hb
    have hstart := ((hi.spliceable hm).splice hchecked).start
    have hprefetch := p.prefetch
    have hrange := p.delay_range
    refine ⟨⟨⟨fun hb' => ?_, fun _ => ⟨?_, h.since ▸ hspent⟩⟩, h.places⟩, rfl, by rintro _ ⟨⟩⟩
    · rw [show c.snapshot.pending.bootstrap = true from hb'] at hb
      cases hb
    · rw [← hi.ticks] at hstart
      rw [hspent, hprefetch, ExpoParameters.c] at hsum
      rw [ExpoParameters.d]
      change s.issuedTotal = c.snapshot.pending.issuedAtSubmit + c.acceptance.start at hstart
      omega

end Step

/-- Every section leaves every event at its place. -/
theorem Lawful.step {t : Role} {l : RtcSection} (h : Lawful p s)
    (hi : Inv p.toRtcParameters p.c s) (hpre : Pre p.toRtcParameters p.c False t l s)
    (hpre' : (stages p).pre t l s) (hadm : Admits True l s)
    (hc : Changes p.toRtcParameters l s r s') (hg : (stages p).guar t l s r s') : Lawful p s' := by
  cases l with
  | closeGate =>
    rcases hc with hc | ⟨-, rfl⟩
    · rw [hc.2]; exact h
    · exact ⟨⟨trivial, h.places⟩, h.since, h.bootstrap⟩
  | clearPending e =>
    rcases hc with hc | ⟨-, -, rfl⟩
    · rw [hc.2]; exact h
    · exact ⟨⟨trivial, h.places⟩, rfl, by rintro _ ⟨⟩⟩
  | prepare =>
    cases hc with
    | refused hr => rw [hr.2]; exact h
    | identified => exact h.of rfl rfl fun _ hp => hp
    | @submitted _ pending episodeId _ _ _ hb =>
      have hfresh : Fresh s.log := hadm trivial
      refine ⟨⟨⟨fun _ => hfresh, fun hb' => ?_, fun hb' => ?_⟩, h.places⟩, h.since,
        fun _ _ _ => (fresh_readings hi.history hfresh).1⟩
      all_goals
        rw [hb] at hb'
        cases hb'
  | takeFault =>
    rw [hc.2]
    unfold Rtc.faultTaken
    cases s.fault with
    | none => exact h.of rfl rfl fun _ hp => hp
    | some f => exact ⟨⟨trivial, h.places⟩, h.since, h.bootstrap⟩
  | gateCheck =>
    rcases hc with ⟨-, rfl | ⟨-, rfl⟩⟩
    · exact h
    · exact h.of rfl rfl fun _ hp => hp
  | reject f =>
    rw [hc.2]
    exact h.of rfl rfl (by rintro _ ⟨⟩)
  | splice c =>
    have hboth : Rtc.Candidate.Checked p.toRtcParameters p.c c ∧
        (c.snapshot.pending.bootstrap = false → Spent p s) := by
      cases t with
      | controller =>
        refine ⟨hpre.1, fun hb => ?_⟩
        rw [hpre.2] at hb
        cases hb
      | scheduler => exact ⟨hpre.2.1, fun _ => hpre'⟩
      | policy => exact hpre.elim
    exact h.splice hi hboth.2 hboth.1 hc
  | clearFinishing =>
    rw [show s' = _ from hc]
    exact h.of rfl rfl fun _ hp => hp
  | finished =>
    rw [show s' = _ from hc]
    exact h.of rfl rfl fun _ hp => hp
  | publish =>
    cases t with
    | controller => exact hpre.elim
    | scheduler => exact h.publish hi hpre hpre'.1 hc (hg rfl rfl)
    | policy => exact hpre.elim
  | fail f =>
    rcases hc with ⟨-, -, rfl⟩ | ⟨-, rfl⟩
    · exact h
    · exact h.of rfl rfl (by rintro _ ⟨⟩)
  | complete =>
    obtain ⟨-, future, result, rfl⟩ := hc
    unfold Rtc.completed
    split
    · exact h.of rfl rfl fun _ hp => hp
    · exact h
  | checkResponse window snap => rw [hc.2]; exact h
  | beginEpoch | emitReset | poll | clock | finishCheck | acceptRead | stateRead =>
    rw [show s' = s from hc]
    exact h

section Reachable

variable {c c' : Config Role RtcSection Env Rtc Failure}

theorem reachable_lawful
    (hc : (system p).Reachable (fun _ l _ s => Admits True l s)
      (.init (Rtc.init p.toRtcParameters)) c) : Lawful p c.shared :=
  (stages_sound p).keeps (fun _ _ _ _ _ => ⟨Rtc.admits_free, trivial⟩) ⟨Rtc.inv_init, trivial⟩
    stages_init ⟨trivial, rfl, by rintro _ ⟨⟩⟩
    (fun _ _ _ _ _ _ hi hpre hadm hg h => h.step hi.1 hpre.1 hpre.2 hadm hg.1.1 hg.2) hc

/-- A publishing section finds neither a wrong number of queued actions when it requests the next
window, nor an empty queue. -/
theorem publish_raises {t : Role} {e : Env}
    (hc : (system p).Reachable (fun _ l _ s => Admits True l s)
      (.init (Rtc.init p.toRtcParameters)) c)
    (hs : (system p).Step (fun _ l _ s => Admits True l s) c (.sect t .publish e r) c') :
    ∀ f, r = some f → f.error ≠ .scheduler .prefixMismatch ∧
      f.error ≠ .scheduler .windowExhausted := by
  have hfree : ∀ (t : Role) (l : RtcSection) (e : Env) (s : Rtc), Admits True l s →
      ((outline p.toRtcParameters p.c False).both (stages p)).admits t l e s :=
    fun _ _ _ _ _ => ⟨Rtc.admits_free, trivial⟩
  have hS := stages_sound p
  have h₀ : ((outline p.toRtcParameters p.c False).both (stages p)).inv
    (Rtc.init p.toRtcParameters) := ⟨Rtc.inv_init, trivial⟩
  have hc' := System.Reachable.mono hfree hc
  have hi := (hS.inv h₀ stages_init hc').1
  have hguar := (hS.guar h₀ stages_init hc' (hs.mono hfree)).2
  have hpre : ((outline p.toRtcParameters p.c False).both (stages p)).pre t .publish c.shared := by
    cases hs with
    | sect hp _ => exact hS.pre h₀ stages_init hc' hp
  cases t with
  | controller => exact hpre.1.elim
  | policy => exact hpre.1.elim
  | scheduler =>
    obtain ⟨hg, hfinishing, hunfinished⟩ : Good p.toRtcParameters p.c c.shared ∧
      c.shared.finishing = none ∧ Unfinished p c.shared := ⟨hpre.1, hpre.2⟩
    have hdispatch : Dispatch p c.shared (r.map (·.error)) c'.shared := hguar rfl rfl
    rintro f rfl
    refine ⟨fun herr => ?_, fun herr => ?_⟩
    · obtain ⟨hgate, hplace, hlen⟩ := hdispatch.mismatch (congrArg some herr)
      have hwindow := hg.window_length hi hgate
      have hrange := p.delay_range
      rw [ExpoParameters.c, ExpoParameters.d] at *
      omega
    · obtain ⟨hgate, hq⟩ := hdispatch.exhausted (congrArg some herr)
      have hwindow := hg.window_length hi hgate
      rw [hq] at hwindow
      exact hunfinished hgate hwindow

end Reachable

end Expo

/-- In every run with controllers like those of the source, the commands of a control epoch of an
EXPO scheduler are fixed windows of the responses, requested at their places, and a publishing
section finds neither a prefix of a wrong length nor an empty window. -/
theorem expo_fixed_windows {p : ExpoParameters}
    {c : Config Rtc.Role RtcSection Env Rtc Failure}
    (hc : (Expo.system p).Reachable (fun _ l _ s => Rtc.Admits True l s)
      (.init (Rtc.init p.toRtcParameters)) c) :
    Expo.FixedWindows p c.shared.log ∧ ∀ t e r c',
      (Expo.system p).Step (fun _ l _ s => Rtc.Admits True l s) c (.sect t .publish e r) c' →
        ∀ f, r = some f → f.error ≠ .scheduler .prefixMismatch ∧
          f.error ≠ .scheduler .windowExhausted :=
  ⟨Expo.fixedWindows_of (Rtc.reachable_inv (Expo.sound p) (hc.mono fun _ _ _ _ _ =>
    Rtc.admits_free)).history (Expo.reachable_lawful hc).places,
    fun _ _ _ _ hs => Expo.publish_raises hc hs⟩

/-- An epoch in which the second window is executed. -/
theorem expo_fixed_windows_second :
    ∃ c, (Expo.system Expo.Station.parameters).Reachable (fun _ l _ s => Rtc.Admits True l s)
        (.init (Rtc.init Expo.Station.parameters.toRtcParameters)) c ∧
      ((Expo.acceptances c.shared.log).length = 2 ∧
        (Expo.published c.shared.log).length = 3) ∧
      Expo.FixedWindows Expo.Station.parameters c.shared.log := by
  obtain ⟨c, hc, ht⟩ := System.shows (Expo.system Expo.Station.parameters) (fun _ _ _ => trivial)
    (Rtc.Admits True) (.init (Rtc.init Expo.Station.parameters.toRtcParameters))
    (Expo.Station.window 0 ++ Expo.Station.nextWindow 1)
    (fun c => decide ((Expo.acceptances c.shared.log).length = 2 ∧
      (Expo.published c.shared.log).length = 3)) (by decide +kernel)
  exact ⟨c, hc, of_decide_eq_true ht, (expo_fixed_windows hc).1⟩

end DualCollection
