import DualCollection.Thread.Serve

/-!
# One thread among others

`Prog.among p` is the program `p` of one thread whose state other threads work on too: what they did
to the state before a section is a part of what the environment answers to it.  What may be relied
on is said where the answers are restricted.
-/

namespace DualCollection

namespace Thread

namespace Prog

variable {L E σ ε α β : Type}

/-- A program whose state other threads may change before every section. -/
def among : Prog L E σ ε α → Prog L (E × (σ → σ)) σ ε α
  | ret r => ret r
  | halt => halt
  | sect l act k => sect l (fun e s => act e.1 (e.2 s)) fun r => (k r).among

@[simp] theorem among_pure {a : α} : (pure a : Prog L E σ ε α).among = pure a := rfl

@[simp] theorem among_raise {e : ε} : (raise e : Prog L E σ ε α).among = raise e := rfl

theorem among_andThen (p : Prog L E σ ε α) (f : Except ε α → Prog L E σ ε β) :
    (p.andThen f).among = p.among.andThen fun r => (f r).among := by
  induction p with
  | ret r => rfl
  | halt => rfl
  | sect l act k ih =>
    rw [andThen_sect]
    simp only [among, andThen_sect, ih]

theorem among_bind (p : Prog L E σ ε α) (f : α → Prog L E σ ε β) :
    (p >>= f).among = p.among >>= fun a => (f a).among := by
  rw [bind_eq, bind_eq, among_andThen]
  congr 1
  funext r
  cases r <;> rfl

theorem among_tryCatch (p : Prog L E σ ε α) (f : ε → Prog L E σ ε α) :
    (p.tryCatch f).among = p.among.tryCatch fun e => (f e).among := by
  rw [tryCatch, tryCatch, among_andThen]
  congr 1
  funext r
  cases r <;> rfl

theorem among_ite {c : Prop} [Decidable c] (p q : Prog L E σ ε α) :
    (if c then p else q).among = if c then p.among else q.among := by
  split <;> rfl

variable {κ : Type} {serve : κ → L × E × (σ → σ) → κ → Prop} {s : σ} {k : κ}

/-- The rule of a section among other threads. -/
theorem under_among_atomic {l : L} {act : E → σ → Except ε α × σ} {Q : Except ε α → σ → κ → Prop}
    (h : ∀ e f k', serve k (l, e, f) k' → Q (act e (f s)).1 (act e (f s)).2 k') :
    (atomic l act).among.Under serve s k Q :=
  under_atomic fun e k' hk => h e.1 e.2 k' hk

/-- A component of the state that neither the program nor the others touch. -/
theorem under_among_embed {L' E' σ' τ : Type} {serve : κ → L' × E' × (σ' → σ') → κ → Prop}
    [Preorder κ] {lab : L → L'} {env : E' → E} {get : σ' → σ} {set : σ' → σ → σ'} {rest : σ' → τ}
    (hset : ∀ s g, rest (set s g) = rest s)
    (hserve : ∀ {k x k'}, serve k x k' → k ≤ k' ∧ ∀ s, rest (x.2.2 s) = rest s)
    {p : Prog L E σ ε α} {s : σ'} {k : κ} :
    (p.embed lab env get set).among.Under serve s k fun _ s' k' => k ≤ k' ∧ rest s' = rest s := by
  induction p generalizing s k with
  | ret r => exact under_ret ⟨le_rfl, rfl⟩
  | halt =>
    rintro tr r s' k' ⟨⟩
  | sect l act g ih =>
    rintro tr r s' k' (_ | ⟨e, hrun⟩) (_ | ⟨hx, htr⟩)
    obtain ⟨hle, hrest⟩ := hserve hx
    obtain ⟨hle', hrest'⟩ := ih _ _ _ _ _ hrun htr
    exact ⟨hle.trans hle', hrest'.trans ((hset _ _).trans (hrest _))⟩

end Prog

end Thread

end DualCollection
