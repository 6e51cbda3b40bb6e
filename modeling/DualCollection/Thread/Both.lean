import DualCollection.Thread.Outline

/-!
# Two outlines of one system

A second outline of a system may say what the first one does not: it is shown for the operations of
each thread on its own, and its interference conditions may use what the first outline knows of a
section.  `Outline.both` is the conjunction of the two, and `Outline.Sound.both` says what has to be
shown of the second one.
-/

namespace DualCollection

namespace Thread

variable {τ L E σ ε α Op : Type} [DecidableEq τ] {S : System τ Op L E σ ε}

namespace Outline

/-- Both of two outlines. -/
def both (O O' : Outline τ L E σ ε) : Outline τ L E σ ε where
  inv s := O.inv s ∧ O'.inv s
  admits t l e s := O.admits t l e s ∧ O'.admits t l e s
  pre t l s := O.pre t l s ∧ O'.pre t l s
  rely t s s' := O.rely t s s' ∧ O'.rely t s s'
  guar t l s r s' := O.guar t l s r s' ∧ O'.guar t l s r s'
  idle t s := O.idle t s ∧ O'.idle t s

end Outline

variable {O O' : Outline τ L E σ ε} {t : τ} {s : σ}

omit [DecidableEq τ] in
/-- A program that meets each of two outlines meets both of them. -/
theorem wp_both {Q Q' : Except ε α → σ → Prop} {p : Prog L E σ ε α} (h : wp O t Q p s)
    (h' : wp O' t Q' p s) : wp (O.both O') t (fun r s => Q r s ∧ Q' r s) p s := by
  induction p generalizing s with
  | ret r => exact ⟨h, h'⟩
  | halt => trivial
  | sect l act k ih =>
    intro s₁ hr hi
    obtain ⟨hpre, hstep⟩ := h s₁ hr.1 hi.1
    obtain ⟨hpre', hstep'⟩ := h' s₁ hr.2 hi.2
    refine ⟨⟨hpre, hpre'⟩, fun e hadm => ?_⟩
    obtain ⟨hi₁, hg, hk⟩ := hstep e hadm.1
    obtain ⟨hi₁', hg', hk'⟩ := hstep' e hadm.2
    exact ⟨⟨hi₁, hi₁'⟩, ⟨hg, hg'⟩, ih _ hk hk'⟩

namespace Outline.Sound

omit [DecidableEq τ] in
/-- A sound outline together with a second one, whose interference may be bounded by what the first
one says of a section. -/
theorem both (hO : O.Sound S) (hrefl : ∀ t s, O'.rely t s s)
    (htrans : ∀ t {a b c}, O'.rely t a b → O'.rely t b c → O'.rely t a c)
    (hcompat : ∀ {t t' l s r s'}, t ≠ t' → O.inv s → O.pre t l s → O.guar t l s r s' →
      O'.pre t l s → O'.guar t l s r s' → O'.rely t' s s')
    (hidle : ∀ {t s s'}, O'.idle t s → O'.rely t s s' → O'.idle t s')
    (hop : ∀ t o s, O'.inv s → O'.idle t s → wp O' t (fun _ s => O'.idle t s) (S.op t o) s) :
    (O.both O').Sound S where
  refl t s := ⟨hO.refl t s, hrefl t s⟩
  trans t _ _ _ h h' := ⟨hO.trans t h.1 h'.1, htrans t h.2 h'.2⟩
  compat hne hi hp hi' hg :=
    ⟨hO.compat hne hi.1 hp.1 hi'.1 hg.1, hcompat hne hi.1 hp.1 hg.1 hp.2 hg.2⟩
  idle_stable h hr := ⟨hO.idle_stable h.1 hr.1, hidle h.2 hr.2⟩
  op t o s hi hid ha := wp_both (hO.op t o s hi.1 hid.1 ha) (hop t o s hi.2 hid.2)

end Outline.Sound

end Thread

end DualCollection
