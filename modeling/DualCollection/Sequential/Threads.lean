import DualCollection.Sequential.Sections
import DualCollection.Thread.Play

/-!
# Closing the sequential gate is sticky

A controller calls the gateway, the executor's thread calls `step` over and over, the policy
completes futures.  The executor reads the gate, the control epoch, the Episode and the pending
request one after the other, and drives `policy_ready` itself, so that a takeover can come between
any two of them.  `Fenced` is what the executor still knows of a control epoch for which it asked
for a response: if the controller has closed the gate for good since, then not before that epoch.

What is not excluded is an acceptance for the very control epoch in which the gate was closed: the
second lock section of `policy_ready` compares epochs, which are the same until `clear_pending`
(`closeGate_reopened`).
-/

namespace DualCollection

open Thread

namespace Sequential

/-! ### The invariant -/

/-- What the log says, while the control epoch is `n`. -/
structure LogOk (n : ℕ) (log : List Event) : Prop where
  /-- Everything that was observed was as expected. -/
  history : Throughout Expected log
  /-- The gate was closed in a control epoch that was reached. -/
  sealed_le : ∀ e, sealedAt log = some e → e ≤ n
  /-- Control epochs are prepared when they are reached. -/
  prepared_le : ∀ caller e, .prepared caller e ∈ log → e ≤ n
  /-- The gate is closed in the current control epoch. -/
  closed_le : ∀ caller e, .closed caller e ∈ log → e ≤ n
  /-- A control epoch after the one in which the gate was closed was prepared after that. -/
  since : ∀ e e₀, .prepared .controller e ∈ log → sealedAt log = some e₀ → e₀ < e →
    PreparedSince e log

/-- The invariant. -/
structure Inv (strict : Prop) (s : Sequential) : Prop where
  /-- The log is as expected. -/
  log : strict → LogOk s.controlEpoch s.log
  /-- The gate is not open when the controller has closed it for good. -/
  gate : strict → s.gateOpen = true → sealedAt s.log = none
  /-- The executor has seen its control epoch. -/
  active : ∀ e, s.activeEpoch = some e → e ≤ s.controlEpoch

variable {n m : ℕ} {log : List Event} {strict : Prop} {s s' : Sequential}

theorem LogOk.mono (h : LogOk n log) (hle : n ≤ m) : LogOk m log :=
  ⟨h.history, fun e he => (h.sealed_le e he).trans hle,
    fun c e he => (h.prepared_le c e he).trans hle, fun c e he => (h.closed_le c e he).trans hle,
    h.since⟩

/-- An event that neither closes, prepares nor opens. -/
theorem LogOk.cons {x : Event} (h : LogOk n log) (hx : Expected x log)
    (hs : sealedAt (x :: log) = sealedAt log)
    (hp : ∀ e, PreparedSince e log → PreparedSince e (x :: log))
    (hm : ∀ caller e, x ≠ .prepared caller e ∧ x ≠ .closed caller e) : LogOk n (x :: log) where
  history := ⟨hx, h.history⟩
  sealed_le := fun e he => h.sealed_le e (hs ▸ he)
  prepared_le := fun caller e he => by
    rcases List.mem_cons.1 he with he | he
    · exact absurd he.symm (hm caller e).1
    · exact h.prepared_le caller e he
  closed_le := fun caller e he => by
    rcases List.mem_cons.1 he with he | he
    · exact absurd he.symm (hm caller e).2
    · exact h.closed_le caller e he
  since := fun e e₀ he h₀ hlt => by
    rcases List.mem_cons.1 he with he | he
    · exact absurd he.symm (hm _ e).1
    · exact hp e (h.since e e₀ he (hs ▸ h₀) hlt)

theorem LogOk.closed (h : LogOk n log) (caller : Role) : LogOk n (.closed caller n :: log) where
  history := ⟨h.closed_le, h.history⟩
  sealed_le := fun e he => by
    cases caller with
    | controller => exact (Option.some.inj he).ge
    | executor => exact h.sealed_le e he
    | policy => exact h.sealed_le e he
  prepared_le := fun caller' e he => by
    rcases List.mem_cons.1 he with he | he
    · cases he
    · exact h.prepared_le caller' e he
  closed_le := fun caller' e he => by
    rcases List.mem_cons.1 he with he | he
    · cases he; exact le_rfl
    · exact h.closed_le caller' e he
  since := fun e e₀ he h₀ hlt => by
    rcases List.mem_cons.1 he with hx | hx
    · cases hx
    cases caller with
    | controller =>
      have := h.prepared_le _ e hx
      obtain rfl := Option.some.inj h₀
      omega
    | executor => exact h.since e e₀ hx h₀ hlt
    | policy => exact h.since e e₀ hx h₀ hlt

theorem LogOk.prepared (h : LogOk n log) (caller : Role) : LogOk n (.prepared caller n :: log) where
  history := ⟨trivial, h.history⟩
  sealed_le := fun e he => h.sealed_le e (by cases caller <;> exact he)
  prepared_le := fun caller' e he => by
    rcases List.mem_cons.1 he with he | he
    · cases he; exact le_rfl
    · exact h.prepared_le caller' e he
  closed_le := fun caller' e he => by
    rcases List.mem_cons.1 he with he | he
    · cases he
    · exact h.closed_le caller' e he
  since := fun e e₀ he h₀ hlt => by
    have h₀' : sealedAt log = some e₀ := by cases caller <;> exact h₀
    rcases List.mem_cons.1 he with he | he
    · cases he; exact .inl rfl
    · have := h.since e e₀ he h₀' hlt
      cases caller with
      | controller => exact .inr this
      | executor => exact this
      | policy => exact this

/-- The gate is opened only for a later control epoch that the controller prepared. -/
theorem LogOk.opened (h : LogOk n log) (caller : Role)
    (ho : ∀ e₀, sealedAt log = some e₀ → e₀ < n ∧ PreparedSince n log) :
    LogOk n (.opened caller n :: log) ∧ sealedAt (.opened caller n :: log) = none := by
  have hs : sealedAt (.opened caller n :: log) = none := by
    simp only [sealedAt, Option.filter_eq_none_iff]
    intro e₀ he₀ hf
    simp [ho e₀ he₀] at hf
  refine ⟨⟨⟨ho, h.history⟩, fun e he => ?_, fun caller e he => ?_, fun caller e he => ?_,
    fun e e₀ _ h₀ => ?_⟩, hs⟩
  · rw [hs] at he; cases he
  · rcases List.mem_cons.1 he with he | he
    · cases he
    · exact h.prepared_le caller e he
  · rcases List.mem_cons.1 he with he | he
    · cases he
    · exact h.closed_le caller e he
  · rw [hs] at h₀; cases h₀

theorem inv_init : Inv strict {} :=
  ⟨fun _ => ⟨trivial, (by intros; contradiction), fun _ _ h => (List.not_mem_nil h).elim,
    fun _ _ h => (List.not_mem_nil h).elim, fun _ _ h => (List.not_mem_nil h).elim⟩,
    (by simp), (by simp)⟩

/-- Opening the gate is in order. -/
def Reopens (s : Sequential) : Prop :=
  ∀ e₀, sealedAt s.log = some e₀ → e₀ < s.controlEpoch ∧ PreparedSince s.controlEpoch s.log

section Changes

variable {l : Section} {r : Option Failure}

theorem inv_completed (h : Inv strict s) {future : ℕ} {result : Except PyError PolicyResult} :
    Inv strict (s.completed future result) := by
  unfold completed
  split
  · exact ⟨h.log, h.gate, h.active⟩
  · exact h

theorem inv_faultTaken (h : Inv strict s) : Inv strict s.faultTaken := by
  unfold Sequential.faultTaken
  cases s.fault with
  | none => exact ⟨h.log, h.gate, h.active⟩
  | some f =>
    exact ⟨fun hs => (h.log hs).cons trivial rfl (fun _ hp => hp) fun _ _ => ⟨(by simp), (by simp)⟩,
      h.gate, h.active⟩

/-- Every section keeps the invariant, as long as the gate is opened in order. -/
theorem Changes.inv (h : Inv strict s) (hc : Changes l s r s')
    (ho : strict → ∀ caller lease, l = .activate caller lease → r = none → Reopens s) :
    Inv strict s' := by
  cases l with
  | closeGate caller e =>
    rcases hc with hc | ⟨-, -, rfl⟩
    · rw [hc.2]; exact h
    · exact ⟨fun hs => (h.log hs).closed caller, (by simp), h.active⟩
  | clearPending e =>
    rcases hc with hc | ⟨-, hle, rfl⟩
    · rw [hc.2]; exact h
    · exact ⟨fun hs => ((h.log hs).mono hle).cons trivial rfl (fun _ hp => hp) fun _ _ =>
        ⟨(by simp), (by simp)⟩, (by simp), fun e he => (h.active e he).trans hle⟩
  | prepare caller =>
    cases hc with
    | refused hr => rw [hr.2]; exact h
    | identified episodeId => exact ⟨h.log, h.gate, h.active⟩
    | submitted episodeId =>
      refine ⟨fun hs => (h.log hs).prepared caller, fun hs hg => ?_, h.active⟩
      have := h.gate hs hg
      cases caller <;> exact this
  | poll caller e =>
    rcases hc with rfl | rfl
    · exact h
    · exact ⟨h.log, h.gate, h.active⟩
  | activate caller lease =>
    rcases hc with hc | ⟨rfl, -, rfl⟩
    · rw [hc.2]; exact h
    · have hopened := fun hs => (h.log hs).opened caller (ho hs caller lease rfl rfl)
      exact ⟨fun hs => (hopened hs).1, fun hs _ => (hopened hs).2, h.active⟩
  | publishNext =>
    rcases hc with hc | ⟨hgate, command, rest, -, rfl⟩
    · rw [hc.2]; exact h
    · exact ⟨fun hs => (h.log hs).cons (h.gate hs hgate) rfl (fun _ hp => hp) fun _ _ =>
        ⟨(by simp), (by simp)⟩, h.gate, h.active⟩
  | latchFault f => rw [hc.2]; exact ⟨h.log, (by simp), h.active⟩
  | takeFault => rw [hc.2]; exact inv_faultTaken h
  | schedule =>
    obtain ⟨-, a, n, w, rfl, ha⟩ := hc
    exact ⟨h.log, h.gate, ha⟩
  | complete =>
    obtain ⟨-, future, result, rfl⟩ := hc
    exact inv_completed h
  | beginEpoch | stateRead | read | clock => rw [show s' = s from hc]; exact h

/-- Nothing is taken out of the log. -/
theorem Changes.suffix (hc : Changes l s r s') : s.log <:+ s'.log := by
  have hrefl : s'.log = s.log → s.log <:+ s'.log := fun h => h ▸ List.suffix_refl _
  cases l with
  | closeGate caller e =>
    rcases hc with hc | ⟨-, -, rfl⟩
    · exact hrefl (by rw [hc.2])
    · exact List.suffix_cons _ _
  | clearPending e =>
    rcases hc with hc | ⟨-, -, rfl⟩
    · exact hrefl (by rw [hc.2])
    · exact List.suffix_cons _ _
  | prepare caller =>
    cases hc with
    | refused hr => exact hrefl (by rw [hr.2])
    | identified episodeId => exact List.suffix_refl _
    | submitted episodeId => exact List.suffix_cons _ _
  | poll caller e => rcases hc with rfl | rfl <;> exact List.suffix_refl _
  | activate caller lease =>
    rcases hc with hc | ⟨-, -, rfl⟩
    · exact hrefl (by rw [hc.2])
    · exact List.suffix_cons _ _
  | publishNext =>
    rcases hc with hc | ⟨-, command, rest, -, rfl⟩
    · exact hrefl (by rw [hc.2])
    · exact List.suffix_cons _ _
  | latchFault f => exact hrefl (by rw [hc.2]; rfl)
  | takeFault =>
    rw [hc.2, faultTaken_log]
    cases s.fault with
    | none => exact List.suffix_refl _
    | some f => exact List.suffix_cons _ _
  | schedule =>
    obtain ⟨-, a, n, w, rfl, -⟩ := hc
    exact List.suffix_refl _
  | complete =>
    obtain ⟨-, future, result, rfl⟩ := hc
    refine hrefl ?_
    unfold completed
    split <;> rfl
  | beginEpoch | stateRead | read | clock => exact hrefl (by rw [show s' = s from hc])

end Changes

/-! ### The threads -/

/-- What the executor still knows of a control epoch that it has seen while the gate was not closed
for good. -/
structure Fenced (strict : Prop) (e : ℕ) (s : Sequential) : Prop where
  /-- The control epoch was reached. -/
  epoch : e ≤ s.controlEpoch
  /-- The gate was not closed for good before. -/
  fence : strict → ∀ c, sealedAt s.log = some c → e ≤ c

/-- What the controller and the policy do to the state. -/
structure Shields (s s' : Sequential) : Prop where
  /-- The control epoch does not move backwards. -/
  epoch : s.controlEpoch ≤ s'.controlEpoch
  /-- The attributes of the executor are its own. -/
  active : s'.activeEpoch = s.activeEpoch
  /-- The attributes of the executor are its own. -/
  waiting : s'.policyWaitStartedS = s.policyWaitStartedS
  /-- The gate is closed in the current control epoch. -/
  fence : ∀ c, sealedAt s'.log = some c → sealedAt s.log = some c ∨ s.controlEpoch ≤ c

theorem Shields.refl : Shields s s := ⟨le_rfl, rfl, rfl, fun _ h => .inl h⟩

theorem Shields.trans {s'' : Sequential} (h : Shields s s') (h' : Shields s' s'') :
    Shields s s'' where
  epoch := h.epoch.trans h'.epoch
  active := h'.active.trans h.active
  waiting := h'.waiting.trans h.waiting
  fence := fun c hc => by
    rcases h'.fence c hc with hc | hc
    · exact h.fence c hc
    · exact .inr (h.epoch.trans hc)

theorem Fenced.stable {e : ℕ} (h : Fenced strict e s) (hr : Shields s s') :
    Fenced strict e s' := by
  refine ⟨h.epoch.trans hr.epoch, fun hs c hc => ?_⟩
  rcases hr.fence c hc with hc | hc
  · exact h.fence hs c hc
  · exact h.epoch.trans hc

/-- What holds when a thread is about to execute a section. -/
def Pre (strict : Prop) : Role → Section → Sequential → Prop
  | t, .closeGate caller _, _ | t, .prepare caller, _ | t, .poll caller _, _ =>
    caller = t ∧ t ≠ .policy
  | .controller, .activate caller lease, s =>
    caller = .controller ∧ (strict → .prepared .controller lease.controlEpoch ∈ s.log)
  | .executor, .activate caller lease, s =>
    caller = .executor ∧ Fenced strict lease.controlEpoch s
  | t, .clearPending _, _ | t, .beginEpoch, _ | t, .takeFault, _ => t = .controller
  | t, .publishNext, _ | t, .latchFault _, _ | t, .schedule, _ | t, .clock, _ => t = .executor
  | t, .stateRead, _ | t, .read, _ => t ≠ .policy
  | .policy, .activate _ _, _ => False
  | t, .complete, _ => t = .policy

/-- The controller polls a control epoch only after it prepared it. -/
def Disciplined : Section → Sequential → Prop
  | .poll .controller controlEpoch, s => .prepared .controller controlEpoch ∈ s.log
  | _, _ => True

/-- A lease is not activated in the very control epoch in which the controller has closed the
gate. -/
def Unsealed : Section → Env → Sequential → Prop
  | .activate _ lease, e, s => Activates lease e s → sealedAt s.log ≠ some s.controlEpoch
  | _, _, _ => True

/-- The steps that are considered. -/
abbrev Admits (l : Section) (e : Env) (s : Sequential) : Prop := Disciplined l s ∧ Unsealed l e s

/-- The proof outline of the three threads.  With `strict`, only the steps that `Admits` has are
considered, and closing the gate is sticky. -/
def outline (strict : Prop) : Outline Role Section Env Sequential Failure where
  inv := Inv strict
  admits := fun _ l e s => strict → Admits l e s
  pre := Pre strict
  rely := fun
    | .controller, s, s' => s.log <:+ s'.log
    | .executor, s, s' => Shields s s'
    | .policy, _, _ => True
  guar := fun t l s r s' => Changes l s r s' ∧ (t ≠ .executor → Shields s s')

section Meets

variable {t : Role} {l : Section} {r : Option Failure} {e : Env}

/-- A lease that is activated opens the gate in order. -/
theorem Pre.reopens {caller : Role} {lease : Lease} (hstrict : strict)
    (hpre : Pre strict t (.activate caller lease) s) (hadm : Admits (.activate caller lease) e s)
    (hact : Activates lease e s) (h : Inv strict s) : Reopens s := by
  intro e₀ he₀
  have hne : e₀ ≠ s.controlEpoch := by
    rintro rfl
    exact hadm.2 hact he₀
  have hlog := h.log hstrict
  have hle := hlog.sealed_le e₀ he₀
  cases t with
  | controller =>
    have hp := hpre.2 hstrict
    rw [hact.epoch] at hp
    exact ⟨by omega, hlog.since _ e₀ hp he₀ (by omega)⟩
  | executor =>
    -- the executor was fenced off, so the gate was closed in this very control epoch
    have hfence := hpre.2.fence hstrict e₀ he₀
    rw [hact.epoch] at hfence
    omega
  | policy => exact hpre.elim

theorem shields_completed {future : ℕ} {result : Except PyError PolicyResult} :
    Shields s (s.completed future result) := by
  unfold completed
  split
  · exact ⟨le_rfl, rfl, rfl, fun _ h => .inl h⟩
  · exact .refl

/-- What the controller and the policy do is what the executor expects. -/
theorem Changes.shields (ht : t ≠ .executor) (hpre : Pre strict t l s) (hc : Changes l s r s') :
    Shields s s' := by
  have hneutral : ∀ x, sealedAt (x :: s.log) = sealedAt s.log → ∀ c,
      sealedAt (x :: s.log) = some c → sealedAt s.log = some c ∨ s.controlEpoch ≤ c :=
    fun x hx c hc => .inl (hx ▸ hc)
  cases l with
  | closeGate caller e =>
    rcases hc with hc | ⟨-, -, rfl⟩
    · rw [hc.2]; exact .refl
    · refine ⟨le_rfl, rfl, rfl, fun c hc => ?_⟩
      cases caller with
      | controller => exact .inr (Option.some.inj hc).le
      | executor => exact .inl hc
      | policy => exact .inl hc
  | clearPending e =>
    rcases hc with hc | ⟨-, hle, rfl⟩
    · rw [hc.2]; exact .refl
    · exact ⟨hle, rfl, rfl, hneutral _ rfl⟩
  | prepare caller =>
    cases hc with
    | refused hr => rw [hr.2]; exact .refl
    | identified episodeId => exact ⟨le_rfl, rfl, rfl, fun _ h => .inl h⟩
    | submitted episodeId =>
      refine ⟨le_rfl, rfl, rfl, fun c hc => .inl ?_⟩
      cases caller <;> exact hc
  | poll caller e =>
    rcases hc with rfl | rfl
    · exact .refl
    · exact ⟨le_rfl, rfl, rfl, fun _ h => .inl h⟩
  | activate caller lease =>
    rcases hc with hc | ⟨-, -, rfl⟩
    · rw [hc.2]; exact .refl
    · exact ⟨le_rfl, rfl, rfl, fun c hc => .inl (Option.filter_eq_some_iff.1 hc).1⟩
  | takeFault =>
    rw [hc.2]
    refine ⟨le_rfl, rfl, rfl, fun c hc => .inl ?_⟩
    rw [faultTaken_log] at hc
    cases hf : s.fault with
    | none => rw [hf] at hc; exact hc
    | some f => rw [hf] at hc; exact hc
  | complete =>
    obtain ⟨-, future, result, rfl⟩ := hc
    exact shields_completed
  | publishNext | latchFault f | schedule | clock =>
    cases t with
    | controller => cases hpre
    | executor => exact absurd rfl ht
    | policy => cases hpre
  | beginEpoch | stateRead | read => rw [show s' = s from hc]; exact .refl

/-- A section that does what `Changes` says meets the outline. -/
theorem meets (hpre : Pre strict t l s) (hadm : strict → Admits l e s) (h : Inv strict s)
    (hc : Changes l s r s')
    (hact : ∀ caller lease, l = .activate caller lease → r = none → Activates lease e s) :
    (outline strict).inv s' ∧ (outline strict).guar t l s r s' := by
  refine ⟨hc.inv h ?_, hc, fun ht => hc.shields ht hpre⟩
  rintro hs caller lease rfl hr
  exact hpre.reopens hs (hadm hs) (hact caller lease rfl hr) h

end Meets

/-! ### Rules -/

/-- The rule of a section. -/
theorem wp_section {α : Type} {t : Role} {l : Section} {epoch : Sequential → ℕ}
    {body : Locked Sequential α} {Q : Except Failure α → Sequential → Prop}
    (hl : ∀ caller lease, l ≠ .activate caller lease)
    (h : ∀ s', (outline strict).rely t s s' → Inv strict s' → Pre strict t l s' ∧
      ∀ e, (strict → Admits l e s') →
      body.Post e s' fun r s'' => Changes l s' (raised (markEpoch (epoch s') r)) s'' ∧
        Q (markEpoch (epoch s') r) s'') :
    wp (outline strict) t Q (locked epoch l body) s := by
  rw [wp_locked]
  intro s' hrely hinv
  obtain ⟨hpre, hpost⟩ := h s' hrely hinv
  refine ⟨hpre, fun e hadm => (hpost e hadm).elim fun hc hQ => ?_⟩
  obtain ⟨hinv', hguar⟩ := meets hpre hadm hinv hc fun caller lease hl' => absurd hl' (hl caller lease)
  exact ⟨hinv', hguar, hQ⟩

/-- The rule of the section that activates a lease. -/
theorem wp_activate {t caller : Role} {lease : Lease} {epoch : Sequential → ℕ}
    {Q : Except Failure Unit → Sequential → Prop}
    (hpre : ∀ s', (outline strict).rely t s s' → Inv strict s' → Pre strict t (.activate caller lease) s')
    (hQ : ∀ r s', Q r s') :
    wp (outline strict) t Q (locked epoch (.activate caller lease) (activateLocked caller lease)) s := by
  rw [wp_locked]
  intro s' hrely hinv
  have hp := hpre s' hrely hinv
  refine ⟨hp, fun e hadm => Locked.post_mono (activate_changes (epoch s')) fun r s'' h => ?_⟩
  obtain ⟨hinv', hguar⟩ := meets hp hadm hinv h.1 fun caller' lease' hl hr => by
    cases hl
    refine h.2 ?_
    cases r with
    | ok u => rfl
    | error err => cases hr
  exact ⟨hinv', hguar, hQ _ _⟩

/-- The rule of a section that reads. -/
theorem wp_read {α : Type} {t : Role} {property : Sequential → α}
    {Q : Except Failure α → Sequential → Prop} (ht : t ≠ .policy)
    (h : ∀ s', (outline strict).rely t s s' → Inv strict s' → Q (.ok (property s')) s') :
    wp (outline strict) t Q (read property) s := by
  refine wp_section (fun _ _ => by simp) fun s' hr hi => ⟨?_, fun _ _ => ⟨rfl, h s' hr hi⟩⟩
  cases t with
  | controller => rintro ⟨⟩
  | executor => rintro ⟨⟩
  | policy => exact absurd rfl ht

/-! ### The calls of the gateway -/

theorem wp_closeGate {t : Role} {controlEpoch : ℕ} {Q : Except Failure Unit → Sequential → Prop}
    (ht : t ≠ .policy) (hQ : ∀ r s', Q r s') :
    wp (outline strict) t Q (closeGate t controlEpoch) s :=
  wp_section (fun _ _ => by simp) fun s' _ _ => ⟨by cases t <;> exact ⟨rfl, ht⟩, fun e _ =>
    Locked.post_mono (closeGate_changes controlEpoch) fun _ _ h => ⟨h, hQ _ _⟩⟩

theorem wp_preparePolicy {t : Role} {episodeId : String} {controlEpoch : ℕ}
    {Q : Except Failure Unit → Sequential → Prop} (ht : t ≠ .policy) (hQ : ∀ r s', Q r s') :
    wp (outline strict) t Q (preparePolicy t episodeId controlEpoch) s :=
  wp_section (fun _ _ => by simp) fun s' _ _ => ⟨by cases t <;> exact ⟨rfl, ht⟩, fun e _ =>
    Locked.post_mono (preparePolicy_changes controlEpoch) fun _ _ h => ⟨h, hQ _ _⟩⟩

theorem wp_clearPending {controlEpoch : ℕ} :
    wp (outline strict) .controller (fun _ _ => True) (clearPending controlEpoch) s := by
  rw [clearPending, wp_bind]
  refine wp_section (fun _ _ => by simp) fun s' _ _ => ⟨rfl, fun e _ =>
    Locked.post_mono (clearPending_changes controlEpoch) fun r s'' h => ⟨h, ?_⟩⟩
  cases r with
  | error err => trivial
  | ok u =>
    exact wp_section (fun _ _ => by simp) fun _ _ _ => ⟨rfl, fun _ _ =>
      Locked.post_call ⟨rfl, trivial⟩ fun _ => ⟨rfl, trivial⟩⟩

theorem wp_takeFault : wp (outline strict) .controller (fun _ _ => True) takeFault s :=
  wp_section (fun _ _ => by simp) fun _ _ _ => ⟨rfl, fun _ _ => ⟨⟨rfl, rfl⟩, trivial⟩⟩

/-- The rule of `policy_ready`: `B` holds from the moment on at which the response is taken. -/
theorem wp_policyReady {t : Role} {p : SequentialParameters} {episodeId : String}
    {controlEpoch : ℕ} (B : Sequential → Prop) {Q : Except Failure Bool → Sequential → Prop}
    (ht : t ≠ .policy) (hstab : ∀ {s s'}, B s → (outline strict).rely t s s' → B s')
    (hB : ∀ s' e, (outline strict).rely t s s' → (strict → Admits (.poll t controlEpoch) e s') →
      B s' ∧ B s'.taken)
    (hpre : ∀ s' lease, B s' → lease.controlEpoch = controlEpoch →
      Pre strict t (.activate t lease) s')
    (hQ : ∀ r s', Q r s') :
    wp (outline strict) t Q (policyReady p t episodeId controlEpoch) s := by
  rw [policyReady, wp_bind]
  refine wp_section (fun _ _ => by simp) fun s₁ hr₁ _ => ⟨by cases t <;> exact ⟨rfl, ht⟩,
    fun e hadm => Locked.post_mono (poll_changes controlEpoch) fun r s₂ h => ⟨h, ?_⟩⟩
  have hB₂ : B s₂ := by
    obtain ⟨hB₁, hB₁'⟩ := hB s₁ e hr₁ hadm
    rcases h with rfl | rfl
    · exact hB₁
    · exact hB₁'
  match r with
  | .error err => exact hQ _ _
  | .ok none => exact hQ _ _
  | .ok (some ⟨.error err, needs⟩) => exact hQ _ _
  | .ok (some ⟨.ok result, needs⟩) =>
    simp only [markEpoch_ok]
    rw [wp_bind, accept, wp_bind]
    refine wp_section (fun _ _ => by simp) fun s₃ hr₃ _ =>
      ⟨by cases t <;> exact ht, fun e _ => ?_⟩
    have hB₃ := hstab hB₂ hr₃
    rw [Locked.post_bind]
    refine Locked.post_call ?_ fun err => ⟨rfl, hQ _ _⟩
    simp only [Locked.post_bind, Locked.post_ask, Locked.post_pure, markEpoch_ok]
    refine ⟨rfl, ?_⟩
    cases result with
    | prepared => exact hQ _ _
    | ticket ticket =>
      dsimp only
      cases p.contract.validate ticket e.jointState controlEpoch with
      | error err => exact hQ _ _
      | ok commands =>
        refine wp_activate (fun s₄ hr₄ _ => hpre s₄ _ (hstab hB₃ hr₄) rfl) fun r s₅ => ?_
        cases r <;> exact hQ _ _

/-- The controller polls a control epoch that it prepared. -/
theorem wp_policyReady_controller {p : SequentialParameters} {episodeId : String}
    {controlEpoch : ℕ} :
    wp (outline strict) .controller (fun _ _ => True) (policyReady p .controller episodeId controlEpoch) s :=
  wp_policyReady (fun s' => strict → .prepared .controller controlEpoch ∈ s'.log) (by simp)
    (fun h (hr : _ <:+ _) hs => hr.subset (h hs))
    (fun _ e _ hadm => ⟨fun hs => (hadm hs).1, fun hs => (hadm hs).1⟩)
    (fun s' lease h he => ⟨rfl, by rw [he]; exact h⟩) fun _ _ => trivial

/-! ### The executor's thread -/

theorem wp_schedule {f : Sequential → Sequential} {Q : Except Failure Unit → Sequential → Prop}
    (h : ∀ s', Shields s s' → Inv strict s' →
      (∃ a n w, f s' = s'.scheduled a n w ∧ ∀ e, a = some e → e ≤ s'.controlEpoch) ∧
        Q (.ok ()) (f s')) :
    wp (outline strict) .executor Q (schedule f) s := by
  refine wp_section (fun _ _ => by simp) fun s' hr hi => ⟨rfl, fun _ _ => ?_⟩
  obtain ⟨⟨a, n, w, heq, ha⟩, hQ⟩ := h s' hr hi
  exact ⟨⟨rfl, a, n, w, heq, ha⟩, hQ⟩

theorem wp_resetSchedule {Q : Except Failure Unit → Sequential → Prop} (hQ : ∀ r s', Q r s') :
    wp (outline strict) .executor Q resetSchedule s :=
  wp_schedule fun _ _ _ => ⟨⟨none, none, none, rfl, (by simp)⟩, hQ _ _⟩

/-- Reset the schedule and return. -/
theorem wp_reset_pure {a : ExecutorStep} :
    wp (outline strict) .executor (fun _ _ => True) (do resetSchedule; pure a) s := by
  rw [wp_bind]
  refine wp_resetSchedule fun r s' => ?_
  cases r <;> trivial

/-- `_fail` may come at any time. -/
theorem wp_fail {f : Failure} : wp (outline strict) .executor (fun _ _ => True) (fail f) s := by
  rw [fail, wp_bind]
  refine wp_read (by simp) fun s₁ _ _ => ?_
  dsimp only
  split_ifs
  · exact wp_reset_pure
  rw [wp_bind]
  refine wp_read (by simp) fun s₂ _ _ => ?_
  dsimp only
  split_ifs
  swap
  · exact wp_reset_pure
  rw [wp_andThen]
  refine wp_closeGate (by simp) fun r s₃ => ?_
  rw [wp_bind]
  exact wp_section (fun _ _ => by simp) fun s' _ _ => ⟨rfl, fun _ _ => ⟨⟨rfl, rfl⟩, wp_reset_pure⟩⟩

/-- The executor waits for a response only in a control epoch from which it was not fenced off. -/
theorem wp_waitForPolicy {p : SequentialParameters} {episodeId : String} {epoch : ℕ} {now : ℚ}
    (h : s.policyWaitStartedS ≠ none → Fenced strict epoch s) :
    wp (outline strict) .executor (fun _ _ => True) (waitForPolicy p episodeId epoch now) s := by
  rw [waitForPolicy, wp_bind]
  refine wp_read (by simp) fun s₁ (hr₁ : Shields s s₁) _ => ?_
  rw [hr₁.waiting]
  cases hw : s.policyWaitStartedS with
  | none => exact wp_fail
  | some startedS =>
    have hf : Fenced strict epoch s₁ := (h (by simp [hw])).stable hr₁
    dsimp only
    split_ifs
    · exact wp_fail
    rw [wp_andThen]
    refine wp_policyReady (Fenced strict epoch) (by simp) (fun h hr => h.stable hr)
      (fun s₂ e hr _ => ?_)
      (fun s₂ lease h he => ⟨rfl, by rw [he]; exact h⟩) fun r s₂ => ?_
    · have hf₂ := hf.stable hr
      exact ⟨hf₂, hf₂.epoch, hf₂.fence⟩
    · match r with
      | .error f => exact wp_fail
      | .ok false => trivial
      | .ok true =>
        refine wp_bind.2 (wp_schedule fun s₃ _ hi => ⟨⟨_, _, _, rfl, hi.active⟩, trivial⟩)

theorem wp_requestChunk {episodeId : String} {epoch : ℕ} {now : ℚ} :
    wp (outline strict) .executor (fun _ _ => True) (requestChunk episodeId epoch now) s := by
  rw [requestChunk, wp_bind]
  refine wp_read (by simp) fun s₁ _ _ => ?_
  dsimp only
  split_ifs
  · trivial
  rw [wp_andThen]
  refine wp_preparePolicy (by simp) fun r s₂ => ?_
  match r with
  | .error f => exact wp_fail
  | .ok () => exact wp_bind.2 (wp_schedule fun s₃ _ hi => ⟨⟨_, _, _, rfl, hi.active⟩, trivial⟩)

theorem wp_publishDue {p : SequentialParameters} {epoch : ℕ} {now : ℚ} :
    wp (outline strict) .executor (fun _ _ => True) (publishDue p epoch now) s := by
  rw [publishDue, wp_bind]
  refine wp_read (by simp) fun s₁ _ _ => ?_
  cases s₁.nextCommandS with
  | none => trivial
  | some nextS =>
    dsimp only
    split_ifs
    · trivial
    · exact wp_fail
    rw [wp_andThen]
    refine wp_section (fun _ _ => by simp) fun s₂ _ _ => ⟨rfl, fun e _ =>
      Locked.post_mono (publishNext_changes epoch) fun r s₃ h => ⟨h, ?_⟩⟩
    match r with
    | .error f => exact wp_fail
    | .ok () => exact wp_bind.2 (wp_schedule fun s₃ _ hi => ⟨⟨_, _, _, rfl, hi.active⟩, trivial⟩)

/-- A step may be interrupted anywhere. -/
theorem wp_step {p : SequentialParameters} :
    wp (outline strict) .executor (fun _ _ => True) (step p) s := by
  rw [step, wp_bind]
  refine wp_section (fun _ _ => by simp) fun s₁ _ _ => ⟨rfl, fun e _ => ⟨rfl, ?_⟩⟩
  simp only [Locked.bind_run, Locked.ask_run, Locked.pure_run, markEpoch_ok]
  rw [wp_bind]
  refine wp_read (by simp) fun s₂ _ hi₂ => ?_
  dsimp only
  split_ifs with hgate
  swap
  · exact wp_reset_pure
  -- the gate is open, so the control epochs seen so far are not fenced off
  have hfence₂ : ∀ n ≤ s₂.controlEpoch, Fenced strict n s₂ := fun n hn => by
    refine ⟨hn, fun hs c hc => ?_⟩
    rw [hi₂.gate hs hgate] at hc
    cases hc
  rw [wp_bind]
  refine wp_read (by simp) fun s₃ (hr₃ : Shields s₂ s₃) _ => ?_
  dsimp only
  rw [wp_bind]
  refine wp_read (by simp) fun s₄ (hr₄ : Shields s₃ s₄) _ => ?_
  dsimp only
  split_ifs
  · exact wp_fail
  rw [wp_bind]
  refine wp_schedule fun s₅ hr₅ hi₅ => ?_
  have hle : s₃.controlEpoch ≤ s₅.controlEpoch := hr₄.epoch.trans hr₅.epoch
  refine ⟨?_, ?_⟩
  · unfold enter
    split_ifs
    · exact ⟨_, _, _, rfl, by rintro _ ⟨⟩; exact hle⟩
    · exact ⟨s₅.activeEpoch, s₅.nextCommandS, s₅.policyWaitStartedS, rfl, hi₅.active⟩
  have hwait : (s₅.enter s₃.controlEpoch e.clock).policyWaitStartedS ≠ none →
      Fenced strict s₃.controlEpoch (s₅.enter s₃.controlEpoch e.clock) := by
    unfold enter
    split_ifs with hne
    · exact fun h => absurd rfl h
    · intro _
      -- the executor was in this control epoch before the step
      have hactive : s₂.activeEpoch = some s₃.controlEpoch := by
        rw [← hr₃.active, ← hr₄.active, ← hr₅.active]
        exact not_not.1 hne
      exact (((hfence₂ _ (hi₂.active _ hactive)).stable hr₃).stable hr₄).stable hr₅
  dsimp only
  rw [wp_bind]
  refine wp_read (by simp) fun s₆ (hr₆ : Shields _ s₆) _ => ?_
  dsimp only
  split_ifs
  · refine wp_waitForPolicy fun h => (hwait ?_).stable hr₆
    rw [← hr₆.waiting]
    exact h
  rw [wp_bind]
  refine wp_read (by simp) fun s₇ _ _ => ?_
  dsimp only
  split_ifs
  · exact wp_requestChunk
  · exact wp_publishDue

/-! ### The system -/

/-- What the threads do. -/
inductive Op
  | closeGate (controlEpoch : ℕ)
  | clearPending (controlEpoch : ℕ)
  | preparePolicy (episodeId : String) (controlEpoch : ℕ)
  | policyReady (episodeId : String) (controlEpoch : ℕ)
  | takeFault
  | step
  | complete (future : ℕ) (result : Except PyError PolicyResult)

/-- A controller that makes any calls, the executor's thread, and the policy. -/
def system (p : SequentialParameters) : System Role Op Section Env Sequential Failure where
  op
    | .controller, .closeGate e => closeGate .controller e
    | .controller, .clearPending e => clearPending e
    | .controller, .preparePolicy episodeId e => preparePolicy .controller episodeId e
    | .controller, .policyReady episodeId e => do
      let _ ← policyReady p .controller episodeId e
    | .controller, .takeFault => do
      let _ ← takeFault
    | .executor, .step => do
      let _ ← step p
    | .policy, .complete future result => complete future result
    | _, _ => pure ()

theorem wp_ignore {α : Type} {t : Role} {q : Program α}
    (h : wp (outline strict) t (fun _ _ => True) q s) :
    wp (outline strict) t (fun _ _ => True) (do let _ ← q) s := by
  rw [wp_bind]
  refine wp_mono h fun r s' _ => ?_
  cases r <;> trivial

/-- The outline is sound for the system. -/
theorem sound (p : SequentialParameters) (strict : Prop) :
    (outline strict).Sound (system p) where
  refl := fun t s => by
    cases t with
    | controller => exact List.suffix_refl _
    | executor => exact Shields.refl
    | policy => trivial
  trans := fun t {a b c} h h' => by
    cases t with
    | controller => exact List.IsSuffix.trans h h'
    | executor => exact Shields.trans h h'
    | policy => trivial
  compat := fun {t t'} {l s r s'} hne _ _ _ hg => by
    cases t' with
    | controller => exact hg.1.suffix
    | executor => exact hg.2 hne
    | policy => trivial
  idle_stable := fun _ _ => trivial
  op := fun t o s _ _ _ => by
    cases t with
    | controller =>
      cases o with
      | closeGate e => exact wp_closeGate (by simp) fun _ _ => trivial
      | clearPending e => exact wp_clearPending
      | preparePolicy episodeId e => exact wp_preparePolicy (by simp) fun _ _ => trivial
      | policyReady episodeId e => exact wp_ignore wp_policyReady_controller
      | takeFault => exact wp_ignore wp_takeFault
      | step | complete => trivial
    | executor =>
      cases o with
      | step => exact wp_ignore wp_step
      | _ => trivial
    | policy =>
      cases o with
      | complete future result =>
        exact wp_section (fun _ _ => by simp) fun _ _ _ => ⟨rfl, fun _ _ =>
          ⟨⟨rfl, future, result, rfl⟩, trivial⟩⟩
      | _ => trivial

end Sequential

end DualCollection
