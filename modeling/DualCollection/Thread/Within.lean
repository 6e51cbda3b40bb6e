import DualCollection.Thread.Outline

/-!
# Programs within larger ones

A component may be used through an interface that answers some of its calls: a section of the
component is executed with answers that the rest of the state decides on, and the rest of the state
changes with it.  `Prog.within via` runs a program of the component so; its outcome is a value of
the surrounding program, which has exceptions of its own.

`wp_within` carries a proof outline of the component over.  It is for programs in which an exception
ends the program (`Prog.Strict`), so that what is kept of the surroundings (`F`) may be given up
by a section that raises.
-/

namespace DualCollection

namespace Thread

variable {τ τ' L L' E E' σ σ' ε ε' α β γ : Type}

namespace Prog

/-- Run a program of a component; `via` executes its sections. -/
def within (lab : L → L')
    (via : ∀ {β : Type}, L → (E → σ → Except ε β × σ) → E' → σ' → Except ε β × σ') :
    Prog L E σ ε α → Prog L' E' σ' ε' (Except ε α)
  | ret r => ret (.ok r)
  | halt => halt
  | sect l act k => sect (lab l) (fun e s => (.ok (via l act e s).1, (via l act e s).2)) fun
    | .ok r => (k r).within lab via
    | .error e => ret (.error e)

/-- An exception ends the program. -/
def Strict : Prog L E σ ε α → Prop
  | ret _ => True
  | halt => True
  | sect _ _ k => (∀ e, k (.error e) = ret (.error e)) ∧ ∀ a, (k (.ok a)).Strict

/-- All sections of a program are among `A`. -/
def Each (A : ∀ {β : Type}, L → (E → σ → Except ε β × σ) → Prop) : Prog L E σ ε α → Prop
  | ret _ => True
  | halt => True
  | sect l act k => A l act ∧ ∀ r, (k r).Each A

variable {lab : L → L'}
  {via : ∀ {β : Type}, L → (E → σ → Except ε β × σ) → E' → σ' → Except ε β × σ'}
  {A : ∀ {β : Type}, L → (E → σ → Except ε β × σ) → Prop}

theorem within_andThen (p : Prog L E σ ε α) (f : Except ε α → Prog L E σ ε β) :
    ((p.andThen f).within lab via : Prog L' E' σ' ε' _) =
      p.within lab via >>= fun r => (f r).within lab via := by
  induction p with
  | ret r => rfl
  | halt => rfl
  | sect l act k ih =>
    rw [andThen_sect, within, within, bind_eq, andThen_sect]
    congr 1
    funext r
    cases r with
    | ok r =>
      dsimp only
      rw [ih, bind_eq]
    | error e => rfl

theorem strict_atomic {l : L} {act : E → σ → Except ε α × σ} : (atomic l act).Strict :=
  ⟨fun _ => rfl, fun _ => trivial⟩

theorem strict_bind {p : Prog L E σ ε α} {f : α → Prog L E σ ε β} (hp : p.Strict)
    (hf : ∀ a, (f a).Strict) : (p >>= f).Strict := by
  induction p with
  | ret r =>
    cases r with
    | ok a => exact hf a
    | error e => trivial
  | halt => trivial
  | sect l act k ih =>
    refine ⟨fun e => ?_, fun a => ih _ (hp.2 a)⟩
    show (k (.error e)).andThen _ = _
    rw [hp.1 e]
    rfl

theorem each_atomic {l : L} {act : E → σ → Except ε α × σ} (h : A l act) :
    (atomic l act).Each A := ⟨h, fun _ => trivial⟩

theorem each_of_only {B : L → Prop} {p : Prog L E σ ε α} (hp : p.Only B) :
    p.Each fun l _ => B l := by
  induction p with
  | ret r => trivial
  | halt => trivial
  | sect l act k ih => exact ⟨hp.1, fun r => ih r (hp.2 r)⟩

theorem each_andThen {p : Prog L E σ ε α} {f : Except ε α → Prog L E σ ε β} (hp : p.Each A)
    (hf : ∀ r, (f r).Each A) : (p.andThen f).Each A := by
  induction p with
  | ret r => exact hf r
  | halt => trivial
  | sect l act k ih => exact ⟨hp.1, fun r => ih r (hp.2 r)⟩

theorem each_bind {p : Prog L E σ ε α} {f : α → Prog L E σ ε β} (hp : p.Each A)
    (hf : ∀ a, (f a).Each A) : (p >>= f).Each A :=
  each_andThen hp fun r => by
    cases r with
    | ok a => exact hf a
    | error e => trivial

end Prog

/-- Whatever the interface answers, the section of the component is executed with some answers, and
what it does in the larger state is what the surrounding outline asks for. -/
structure Serves (O : Outline τ L E σ ε) (t : τ) (O' : Outline τ' L' E' σ' ε') (t' : τ')
    (lab : L → L') (get : σ' → σ) (F G : σ' → Prop) (l : L) (act : E → σ → Except ε β × σ)
    (r : Except ε β × σ') (e : E) (s : σ') : Prop where
  /-- The answers are considered. -/
  admits : O.admits t l e (get s)
  /-- The outcome is that of the section. -/
  outcome : r.1 = (act e (get s)).1
  /-- So is the state of the component. -/
  state : get r.2 = (act e (get s)).2
  /-- The rest of the state is as it should be. -/
  step : O.inv (act e (get s)).2 →
    O.guar t l (get s) (raised (act e (get s)).1) (act e (get s)).2 →
      O'.inv r.2 ∧ O'.guar t' (lab l) s none r.2 ∧
        ((∃ a, r.1 = .ok a) → F r.2) ∧ G r.2

/-- A program of a component keeps the outline of the system, when each of its sections is served. -/
theorem wp_within {O : Outline τ L E σ ε} {t : τ} {O' : Outline τ' L' E' σ' ε'} {t' : τ'}
    {lab : L → L'} {get : σ' → σ} {F G : σ' → Prop}
    {via : ∀ {β : Type}, L → (E → σ → Except ε β × σ) → E' → σ' → Except ε β × σ'}
    {A : ∀ {β : Type}, L → (E → σ → Except ε β × σ) → Prop}
    (hrely : ∀ {s s'}, F s → O'.rely t' s s' → O'.inv s' →
      F s' ∧ O.rely t (get s) (get s'))
    (hinv : ∀ {s}, F s → O'.inv s → O.inv (get s))
    (hpre : ∀ {s l}, F s → O.pre t l (get s) → O'.pre t' (lab l) s)
    (herr : ∀ {s}, F s → G s)
    (hserve : ∀ {β : Type} {l : L} {act : E → σ → Except ε β × σ} {e' : E'} {s : σ'}, A l act →
      F s → O'.inv s → O.pre t l (get s) → O'.admits t' (lab l) e' s →
        ∃ e, Serves O t O' t' lab get F G l act (via l act e' s) e s)
    {Q : Except ε α → σ → Prop} {p : Prog L E σ ε α} {s : σ'} (hstrict : p.Strict)
    (hA : p.Each A) (hF : F s) (h : wp O t Q p (get s)) :
    wp O' t' (fun r s => ∃ r', r = .ok r' ∧ Q r' (get s) ∧ ((∃ a, r' = .ok a) → F s) ∧ G s)
      (p.within lab via) s := by
  induction p generalizing s with
  | ret r => exact ⟨r, rfl, h, fun _ => hF, herr hF⟩
  | halt => trivial
  | sect l act k ih =>
    rw [Prog.within]
    intro s₁ hr hi
    obtain ⟨hF₁, hr₁⟩ := hrely hF hr hi
    obtain ⟨hp, hact⟩ := h _ hr₁ (hinv hF₁ hi)
    refine ⟨hpre hF₁ hp, fun e' hadm => ?_⟩
    obtain ⟨e, hserve⟩ := hserve hA.1 hF₁ hi hp hadm
    obtain ⟨hi', hg, hk⟩ := hact e hserve.admits
    obtain ⟨hi₂, hg₂, hF₂, herr₂⟩ := hserve.step hi' hg
    refine ⟨hi₂, hg₂, ?_⟩
    dsimp only
    have houtcome := hserve.outcome
    have hstate := hserve.state
    rw [← houtcome, ← hstate] at hk
    cases hvia : (via l act e' s₁).1 with
    | ok a =>
      rw [hvia] at hk
      exact ih _ (hstrict.2 a) (hA.2 _) (hF₂ ⟨a, hvia⟩) hk
    | error err =>
      -- an exception ends the program
      rw [hvia, hstrict.1 err] at hk
      rw [hstrict.1 err]
      refine ⟨.error err, rfl, hk, ?_, herr₂⟩
      rintro ⟨a, ha⟩
      cases ha

end Thread

end DualCollection
