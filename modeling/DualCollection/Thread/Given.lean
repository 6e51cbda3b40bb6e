import DualCollection.Thread.Serve

/-!
# Runs with restricted answers

`Given A` are components whose answers are only known to be in `A`: a rule of `Prog.Under` with it is a
rule for the runs whose answers are all in `A`.  A program that never stops without an outcome
(`Prog.Ending`) has a run with any answer.
-/

namespace DualCollection

namespace Thread

variable {L E σ ε α β : Type} {A : L × E → Prop}

/-- All answers of the environment are in `A`. -/
def Given (A : L × E → Prop) (_ : Unit) (x : L × E) (_ : Unit) : Prop := A x

theorem served_given {tr : List (L × E)} : Served (Given A) () tr () ↔ ∀ x ∈ tr, A x := by
  induction tr with
  | nil =>
    constructor
    · intro _ x hx
      exact absurd hx List.not_mem_nil
    · intro _
      exact .nil ()
  | cons x tr ih =>
    constructor
    · rintro (_ | ⟨hx, htr⟩)
      exact List.forall_mem_cons.2 ⟨hx, ih.1 htr⟩
    · intro h
      obtain ⟨hx, htr⟩ := List.forall_mem_cons.1 h
      exact .cons hx (ih.2 htr)

namespace Prog

/-- What holds at the end of a run whose answers are in `A`. -/
theorem Under.of_run {p : Prog L E σ ε α} {s s' : σ} {tr : List (L × E)} {r : Except ε α}
    {Q : Except ε α → σ → Prop} (h : p.Under (Given A) s () fun r s' _ => Q r s')
    (hrun : p.Run s tr r s') (hA : ∀ x ∈ tr, A x) : Q r s' :=
  h tr r s' () hrun (served_given.2 hA)

/-! ### Runs to the end -/

/-- The program does not stop without an outcome. -/
def Ending : Prog L E σ ε α → Prop
  | ret _ => True
  | halt => False
  | sect _ _ k => ∀ r, (k r).Ending

theorem ending_atomic {l : L} {act : E → σ → Except ε α × σ} : (atomic l act).Ending :=
  fun _ => trivial

theorem ending_andThen {p : Prog L E σ ε α} {f : Except ε α → Prog L E σ ε β} (hp : p.Ending)
    (hf : ∀ r, (f r).Ending) : (p.andThen f).Ending := by
  induction p with
  | ret r => exact hf r
  | halt => exact hp.elim
  | sect l act k ih => exact fun r => ih r (hp r)

theorem ending_bind {p : Prog L E σ ε α} {f : α → Prog L E σ ε β} (hp : p.Ending)
    (hf : ∀ a, (f a).Ending) : (p >>= f).Ending :=
  ending_andThen hp fun r => by
    cases r with
    | ok a => exact hf a
    | error e => trivial

theorem ending_tryCatch {p : Prog L E σ ε α} {f : ε → Prog L E σ ε α} (hp : p.Ending)
    (hf : ∀ e, (f e).Ending) : (p.tryCatch f).Ending :=
  ending_andThen hp fun r => by
    cases r with
    | ok a => trivial
    | error e => exact hf e

theorem ending_tryFinally {p : Prog L E σ ε α} {fin : Prog L E σ ε Unit} (hp : p.Ending)
    (hfin : fin.Ending) : (p.tryFinally fin).Ending :=
  ending_andThen hp fun r => ending_andThen hfin fun r' => by
    cases r' with
    | ok u => trivial
    | error e => trivial

/-- A program that does not stop runs to its end, whatever it is answered. -/
theorem Ending.exists_run {p : Prog L E σ ε α} (h : p.Ending) (e : E) (s : σ) :
    ∃ tr r s', p.Run s tr r s' ∧ ∀ x ∈ tr, x.2 = e := by
  induction p generalizing s with
  | ret r => exact ⟨[], r, s, .ret r s, by simp⟩
  | halt => exact h.elim
  | sect l act k ih =>
    obtain ⟨tr, r, s', hrun, htr⟩ := ih (act e s).1 (h _) (act e s).2
    exact ⟨(l, e) :: tr, r, s', .sect e hrun, List.forall_mem_cons.2 ⟨rfl, htr⟩⟩

end Prog

end Thread

end DualCollection
