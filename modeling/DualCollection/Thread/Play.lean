import DualCollection.Thread.Outline

/-!
# Schedules

A *schedule* is a list of moves: a thread begins an operation, or executes its next section with
given answers of the environment.  `System.play` carries out a schedule, so that a particular
interleaving can be evaluated; `System.play_reachable` says that what it ends in is reachable.
-/

namespace DualCollection

namespace Thread

/-- One step of a schedule. -/
inductive Move (τ Op E : Type)
  /-- Thread `t` begins the operation `o`. -/
  | start (t : τ) (o : Op)
  /-- Thread `t` executes its next section. -/
  | go (t : τ) (e : E)

/-- Begin an operation and execute `n` of its sections, with the same answers. -/
def Move.run {τ Op E : Type} (t : τ) (o : Op) (n : ℕ) (e : E) : List (Move τ Op E) :=
  .start t o :: List.replicate n (.go t e)

namespace System

variable {τ Op L E σ ε : Type} [DecidableEq τ] (S : System τ Op L E σ ε)
  (ok : τ → L → E → σ → Bool)

/-- Carry out one move, unless the thread is not ready for it. -/
def move (c : Config τ L E σ ε) : Move τ Op E → Option (Config τ L E σ ε)
  | .start t o => match c.prog t with
    | none => some (S.begin c t o)
    | some _ => none
  | .go t e => match c.prog t with
    | some (.sect l act k) =>
      if ok t l e c.shared then
        some ⟨(act e c.shared).2, Function.update c.prog t (settle (k (act e c.shared).1))⟩
      else none
    | _ => none

/-- Carry out a schedule. -/
def play : Config τ L E σ ε → List (Move τ Op E) → Option (Config τ L E σ ε)
  | c, [] => some c
  | c, m :: ms => match S.move ok c m with
    | some c' => play c' ms
    | none => none

variable {S ok} {admits : τ → L → E → σ → Prop} {c c' : Config τ L E σ ε}

theorem move_step (hS : ∀ t o s, S.allowed t o s)
    (hok : ∀ t l e s, ok t l e s = true → admits t l e s) {m : Move τ Op E}
    (h : S.move ok c m = some c') : ∃ x, S.Step admits c x c' := by
  cases m with
  | start t o =>
    simp only [move] at h
    split at h
    · rename_i hn
      cases h
      exact ⟨_, .start hn (hS t o _)⟩
    · cases h
  | go t e =>
    simp only [move] at h
    split at h
    · rename_i hp
      split_ifs at h with ha
      cases h
      exact ⟨_, .sect hp (hok _ _ _ _ ha)⟩
    · cases h

/-- What a schedule ends in is reachable. -/
theorem play_reachable (hS : ∀ t o s, S.allowed t o s)
    (hok : ∀ t l e s, ok t l e s = true → admits t l e s) {ms : List (Move τ Op E)}
    (h : S.play ok c ms = some c') : S.Reachable admits c c' := by
  induction ms generalizing c with
  | nil =>
    cases h
    exact .refl
  | cons m ms ih =>
    simp only [play] at h
    split at h
    · rename_i c₁ hm
      exact .head (move_step hS hok hm) (ih h)
    · cases h

/-- The next section of a thread, and the exception in which it ends with the answers `e`. -/
def next (c : Config τ L E σ ε) (t : τ) (e : E) : Option (L × Option ε) :=
  match c.prog t with
  | some (.sect l act _) => some (l, raised (act e c.shared).1)
  | _ => none

variable (S) (admits) in
theorem next_step {t : τ} {e : E} {l : L} {r : Option ε} (h : next c t e = some (l, r))
    (hadm : admits t l e c.shared) : ∃ c', S.Step admits c (.sect t l e r) c' := by
  unfold next at h
  split at h
  · rename_i hp
    cases h
    exact ⟨_, .sect hp hadm⟩
  · cases h

/-- What a schedule shows is shown by a reachable configuration. -/
theorem play_shows (hS : ∀ t o s, S.allowed t o s)
    (hok : ∀ t l e s, ok t l e s = true → admits t l e s) {ms : List (Move τ Op E)}
    (test : Config τ L E σ ε → Bool) (h : (S.play ok c ms).any test = true) :
    ∃ c', S.Reachable admits c c' ∧ test c' = true := by
  obtain ⟨c', hc', ht⟩ := (Option.any_eq_true _ _).1 h
  exact ⟨c', play_reachable hS hok hc', ht⟩

/-- What a schedule shows, if all of its sections are admitted in the states in which they are
executed. -/
theorem shows (S : System τ Op L E σ ε) (hS : ∀ t o s, S.allowed t o s) (P : L → σ → Prop)
    [∀ l s, Decidable (P l s)] (c : Config τ L E σ ε) (schedule : List (Move τ Op E))
    (test : Config τ L E σ ε → Bool)
    (h : (S.play (fun _ l _ s => decide (P l s)) c schedule).any test = true) :
    ∃ c', S.Reachable (fun _ l _ s => P l s) c c' ∧ test c' = true :=
  play_shows hS (fun _ _ _ _ h => of_decide_eq_true h) test h

/-! ### Operations that are not always allowed -/

/-- Carry out a schedule whose operations begin in the states in which they are allowed. -/
def playIf (S : System τ Op L E σ ε) (may : τ → Op → σ → Bool) (ok : τ → L → E → σ → Bool) :
    Config τ L E σ ε → List (Move τ Op E) → Option (Config τ L E σ ε)
  | c, [] => some c
  | c, .start t o :: ms =>
    if may t o c.shared then (S.move ok c (.start t o)).bind fun c' => playIf S may ok c' ms
    else none
  | c, .go t e :: ms => (S.move ok c (.go t e)).bind fun c' => playIf S may ok c' ms

theorem move_start_step {t : τ} {o : Op} (hmay : S.allowed t o c.shared)
    (h : S.move ok c (.start t o) = some c') : ∃ x, S.Step admits c x c' := by
  simp only [move] at h
  split at h
  · rename_i hn
    cases h
    exact ⟨_, .start hn hmay⟩
  · cases h

theorem move_go_step (hok : ∀ t l e s, ok t l e s = true → admits t l e s) {t : τ} {e : E}
    (h : S.move ok c (.go t e) = some c') : ∃ x, S.Step admits c x c' := by
  simp only [move] at h
  split at h
  · rename_i hp
    split_ifs at h with ha
    cases h
    exact ⟨_, .sect hp (hok _ _ _ _ ha)⟩
  · cases h

theorem playIf_reachable {may : τ → Op → σ → Bool}
    (hmay : ∀ t o s, may t o s = true → S.allowed t o s)
    (hok : ∀ t l e s, ok t l e s = true → admits t l e s) {ms : List (Move τ Op E)}
    (h : S.playIf may ok c ms = some c') : S.Reachable admits c c' := by
  induction ms generalizing c with
  | nil =>
    cases h
    exact .refl
  | cons m ms ih =>
    cases m with
    | start t o =>
      simp only [playIf] at h
      split_ifs at h with ha
      obtain ⟨c₁, hm, hms⟩ := Option.bind_eq_some_iff.1 h
      exact .head (move_start_step (hmay _ _ _ ha) hm) (ih hms)
    | go t e =>
      simp only [playIf] at h
      obtain ⟨c₁, hm, hms⟩ := Option.bind_eq_some_iff.1 h
      exact .head (move_go_step hok hm) (ih hms)

end System

end Thread

end DualCollection
