import DualCollection.Thread.Outline

/-!
# Components

A component of a system may have an outline over threads of its own.  `Outline.onThread` is what
that outline says of one of its threads, for any thread of the system that runs it; `wp_component`
is then the rule `wp_embed` for a component with other threads.
-/

namespace DualCollection

namespace Thread

variable {τ τ' L E σ ε α : Type}

/-- What an outline says of the thread `t`, as an outline over other threads. -/
def Outline.onThread (O : Outline τ L E σ ε) (t : τ) (τ' : Type) : Outline τ' L E σ ε where
  inv := O.inv
  admits _ := O.admits t
  pre _ := O.pre t
  rely _ := O.rely t
  guar _ := O.guar t
  idle _ := O.idle t

variable {O : Outline τ L E σ ε} {t : τ} {t' : τ'} {Q : Except ε α → σ → Prop}
  {p : Prog L E σ ε α} {s : σ}

theorem wp_onThread : wp (O.onThread t τ') t' Q p s ↔ wp O t Q p s := by
  induction p generalizing s with
  | ret r => rfl
  | halt => rfl
  | sect l act k ih =>
    simp only [wp, ih]
    rfl

/-- The invariant holds at the end of a program. -/
theorem wp_inv (h : wp O t Q p s) (hs : O.inv s) : wp O t (fun r s => Q r s ∧ O.inv s) p s := by
  induction p generalizing s with
  | ret r => exact ⟨h, hs⟩
  | halt => trivial
  | sect l act k ih =>
    intro s' hr hi
    obtain ⟨hpre, hstep⟩ := h s' hr hi
    refine ⟨hpre, fun e hadm => ?_⟩
    obtain ⟨hi', hg, hk⟩ := hstep e hadm
    exact ⟨hi', hg, ih _ hk hi'⟩

/-- A program of a component keeps the outline of the system, when it is run by the thread `t'` of
the system and meets the outline of the component as its thread `t`. -/
theorem wp_component {L' E' σ' : Type} {O' : Outline τ' L' E' σ' ε} {lab : L → L'} {env : E' → E}
    {get : σ' → σ} {set : σ' → σ → σ'} {F : σ' → Prop}
    (hrely : ∀ {s s'}, F s → O'.rely t' s s' → O'.inv s' →
      F s' ∧ O.rely t (get s) (get s'))
    (hinv : ∀ {s}, F s → O'.inv s → O.inv (get s))
    (hpre : ∀ {s l}, F s → O.pre t l (get s) → O'.pre t' (lab l) s)
    (hadm : ∀ {s l e}, F s → O'.admits t' (lab l) e s → O.admits t l (env e) (get s))
    (hset : ∀ {s g}, F s → F (set s g) ∧ get (set s g) = g)
    (hguar : ∀ {s l r g}, F s → O'.inv s → O.inv g → O.guar t l (get s) r g →
      O'.inv (set s g) ∧ O'.guar t' (lab l) s r (set s g))
    {s : σ'} (hF : F s) (h : wp O t Q p (get s)) :
    wp O' t' (fun r s => F s ∧ Q r (get s)) (p.embed lab env get set) s :=
  wp_embed (P := O.onThread t τ') hrely hinv (fun hF _ hp => hpre hF hp) hadm hset
    (fun hF _ hi _ hg hguar' => hguar hF hi hg hguar') (A := fun _ => True) Prog.only_true hF
    (wp_onThread.2 h)

end Thread

end DualCollection
