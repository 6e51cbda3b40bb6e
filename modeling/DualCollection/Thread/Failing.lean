import DualCollection.Thread.Outline

/-!
# Programs that fail for good

`Prog.FailsInto A p` says that once a section of `p` has raised an exception, only sections in `A`
are executed.  It holds of programs that handle the exceptions of a body without handlers
(`Prog.Unhandled`), and along the runs of a system it holds of what is left of an operation.
-/

namespace DualCollection

namespace Thread

namespace Prog

variable {L E σ ε α β : Type} {A : L → Prop}

/-- Once a section of the program has raised an exception, only sections in `A` are executed. -/
def FailsInto (A : L → Prop) : Prog L E σ ε α → Prop
  | ret _ => True
  | halt => True
  | sect _ _ k => (∀ err, (k (.error err)).Only A) ∧ ∀ a, (k (.ok a)).FailsInto A

/-- The program ends with the first exception. -/
def Unhandled : Prog L E σ ε α → Prop
  | ret _ => True
  | halt => True
  | sect _ _ k => (∀ err, k (.error err) = ret (.error err)) ∧ ∀ a, (k (.ok a)).Unhandled

theorem Only.failsInto {p : Prog L E σ ε α} (h : p.Only A) : p.FailsInto A := by
  induction p with
  | ret r => trivial
  | halt => trivial
  | sect l act k ih => exact ⟨fun err => h.2 _, fun a => ih _ (h.2 _)⟩

theorem unhandled_atomic {l : L} {act : E → σ → Except ε α × σ} : (atomic l act).Unhandled :=
  ⟨fun _ => rfl, fun _ => trivial⟩

theorem unhandled_bind {p : Prog L E σ ε α} {f : α → Prog L E σ ε β} (hp : p.Unhandled)
    (hf : ∀ a, (f a).Unhandled) : (p >>= f).Unhandled := by
  rw [bind_eq]
  induction p with
  | ret r =>
    cases r with
    | ok a => exact hf a
    | error err => trivial
  | halt => trivial
  | sect l act k ih =>
    refine ⟨fun err => ?_, fun a => ih _ (hp.2 a)⟩
    dsimp only
    rw [hp.1 err]
    rfl

theorem failsInto_bind {p : Prog L E σ ε α} {f : α → Prog L E σ ε β} (hp : p.Unhandled)
    (hf : ∀ a, (f a).FailsInto A) : (p >>= f).FailsInto A := by
  rw [bind_eq]
  induction p with
  | ret r =>
    cases r with
    | ok a => exact hf a
    | error err => trivial
  | halt => trivial
  | sect l act k ih =>
    refine ⟨fun err => ?_, fun a => ih _ (hp.2 a)⟩
    dsimp only
    rw [hp.1 err]
    trivial

/-- A handler whose sections are in `A`. -/
theorem failsInto_tryCatch {p : Prog L E σ ε α} {h : ε → Prog L E σ ε α} (hp : p.Unhandled)
    (hh : ∀ err, (h err).Only A) : (p.tryCatch h).FailsInto A := by
  unfold tryCatch
  induction p with
  | ret r =>
    cases r with
    | ok a => trivial
    | error err => exact (hh err).failsInto
  | halt => trivial
  | sect l act k ih =>
    refine ⟨fun err => ?_, fun a => ih _ (hp.2 a)⟩
    dsimp only
    rw [hp.1 err]
    exact hh err

end Prog

namespace System

variable {τ Op L E σ ε : Type} [DecidableEq τ] {S : System τ Op L E σ ε}
  {admits : τ → L → E → σ → Prop} {A : L → Prop} {t : τ} {c c' : Config τ L E σ ε}

/-- What holds of all that is left of the operation of a thread. -/
def Left (P : Prog L E σ ε Unit → Prop) (t : τ) (c : Config τ L E σ ε) : Prop :=
  ∀ p, c.prog t = some p → P p

omit [DecidableEq τ] in
theorem left_settle {P : Prog L E σ ε Unit → Prop} {p : Prog L E σ ε Unit}
    (hp : c.prog t = settle p) (h : P p) : Left P t c := by
  intro q hq
  rw [hp] at hq
  cases p with
  | ret r => cases hq
  | halt =>
    cases hq
    exact h
  | sect l act k =>
    cases hq
    exact h

omit [DecidableEq τ] in
theorem left_of_eq {P : Prog L E σ ε Unit → Prop} (hp : c'.prog t = c.prog t) (h : Left P t c) :
    Left P t c' := fun p hq => h p (hp ▸ hq)

theorem Step.failsInto (hop : ∀ o, (S.op t o).FailsInto A) {x : Label τ Op L E ε}
    (hs : S.Step admits c x c') (h : Left (Prog.FailsInto A) t c) :
    Left (Prog.FailsInto A) t c' := by
  cases hs with
  | @start t' o hn ha =>
    by_cases ht : t = t'
    · subst ht
      exact left_settle (Function.update_self ..) (hop o)
    · exact left_of_eq (Function.update_of_ne ht ..) h
  | @sect t' β l act k e hp ha =>
    by_cases ht : t = t'
    · subst ht
      refine left_settle (Function.update_self ..) ?_
      have hk := h _ hp
      cases (act e c.shared).1 with
      | ok a => exact hk.2 a
      | error err => exact (hk.1 err).failsInto
    · exact left_of_eq (Function.update_of_ne ht ..) h

theorem Reachable.failsInto (hop : ∀ o, (S.op t o).FailsInto A) {s : σ}
    (h : S.Reachable admits (.init s) c) : Left (Prog.FailsInto A) t c := by
  induction h with
  | refl =>
    rintro p ⟨⟩
  | tail _ hs ih =>
    obtain ⟨x, hx⟩ := hs
    exact hx.failsInto hop ih

/-- After an exception, only sections in `A` are left. -/
theorem Step.failed {l : L} {e : E} {err : ε} (hs : S.Step admits c (.sect t l e (some err)) c')
    (h : Left (Prog.FailsInto A) t c) : Left (Prog.Only A) t c' := by
  generalize hr : (some err : Option ε) = r at hs
  cases hs with
  | @sect t' β l act k e hp ha =>
    refine left_settle (Function.update_self ..) ?_
    have hk := h _ hp
    rw [raised_eq_some.1 hr.symm]
    exact hk.1 err

/-- The sections that are left stay among `A`, unless the thread begins another operation. -/
theorem Step.left_only {x : Label τ Op L E ε} (hs : S.Step admits c x c')
    (h : Left (Prog.Only A) t c) (hstart : ∀ o, x = .start t o → (S.op t o).Only A) :
    Left (Prog.Only A) t c' := by
  cases hs with
  | @start t' o hn ha =>
    by_cases ht : t = t'
    · subst ht
      exact left_settle (Function.update_self ..) (hstart o rfl)
    · exact left_of_eq (Function.update_of_ne ht ..) h
  | @sect t' β l act k e hp ha =>
    by_cases ht : t = t'
    · subst ht
      exact left_settle (Function.update_self ..) ((h _ hp).2 _)
    · exact left_of_eq (Function.update_of_ne ht ..) h

/-- The sections that a thread executes are among those that are left. -/
theorem Step.only_label {l : L} {e : E} {r : Option ε} (hs : S.Step admits c (.sect t l e r) c')
    (h : Left (Prog.Only A) t c) : A l := by
  cases hs with
  | sect hp ha => exact (h _ hp).1

end System

end Thread

end DualCollection
