import Mathlib

/-!
# Programs of atomic sections

A thread of a program that shares a state with other threads is described by the *atomic
sections* it executes and by what it does with their outcomes.  `Prog L E σ ε α` is such a
program over the shared states `σ`: a section carries a name in `L`, reads the answers `E` that
the environment gives while it runs, and ends with a value or with an exception in `ε`.

* `Prog.andThen` continues a program on its outcome; `bind`, `tryCatch` and `tryFinally` are the
  three ways a sequential language does so, and `wp_andThen` of `Thread.Outline` is the one rule
  that all of them need.
* `Prog.embed` runs a program inside a larger state.
* `Prog.loop` repeats a program until it yields a value; the number of rounds is bounded by a
  parameter, and a program that runs out of rounds stops where it is (`Prog.halt`) without an
  outcome.
-/

namespace DualCollection

namespace Thread

/-- A program of one thread. -/
inductive Prog (L E σ ε α : Type) : Type 1
  /-- The program has ended with a value or an exception. -/
  | ret (r : Except ε α)
  /-- The program stops here without an outcome. -/
  | halt
  /-- Execute the section `act` named `l` in one step, and go on with its outcome. -/
  | sect {β : Type} (l : L) (act : E → σ → Except ε β × σ) (k : Except ε β → Prog L E σ ε α)

namespace Prog

variable {L E σ ε α β γ : Type}

/-- Go on with `f` on the outcome of `p`. -/
def andThen : Prog L E σ ε α → (Except ε α → Prog L E σ ε β) → Prog L E σ ε β
  | ret r, f => f r
  | halt, _ => halt
  | sect l act k, f => sect l act fun r => (k r).andThen f

instance : Monad (Prog L E σ ε) where
  pure a := ret (.ok a)
  bind p f := p.andThen fun
    | .ok a => f a
    | .error e => ret (.error e)

/-- Raise `e`. -/
def raise (e : ε) : Prog L E σ ε α := ret (.error e)

/-- Handle the exceptions of `p` with `h`. -/
def tryCatch (p : Prog L E σ ε α) (h : ε → Prog L E σ ε α) : Prog L E σ ε α :=
  p.andThen fun
    | .ok a => ret (.ok a)
    | .error e => h e

/-- Run `fin` after `p`, however `p` ends; an exception of `fin` replaces the outcome of `p`. -/
def tryFinally (p : Prog L E σ ε α) (fin : Prog L E σ ε Unit) : Prog L E σ ε α :=
  p.andThen fun r => fin.andThen fun
    | .ok () => ret r
    | .error e => ret (.error e)

/-- The program that consists of one section. -/
def atomic (l : L) (act : E → σ → Except ε α × σ) : Prog L E σ ε α := sect l act ret

/-- Repeat `body` until it yields a value, at most `n` rounds. -/
def loop : ℕ → Prog L E σ ε (Option α) → Prog L E σ ε α
  | 0, _ => halt
  | n + 1, body => body.andThen fun
    | .ok (some a) => ret (.ok a)
    | .ok none => loop n body
    | .error e => ret (.error e)

/-- All sections of a program are among `A`. -/
def Only (A : L → Prop) : Prog L E σ ε α → Prop
  | ret _ => True
  | halt => True
  | sect l _ k => A l ∧ ∀ r, (k r).Only A

section Embed

variable {L' E' σ' : Type} (lab : L → L') (env : E' → E) (get : σ' → σ) (set : σ' → σ → σ')

/-- Run a program over `σ` on the component `get` of a larger state. -/
def embed : Prog L E σ ε α → Prog L' E' σ' ε α
  | ret r => ret r
  | halt => halt
  | sect l act k => sect (lab l)
      (fun e s => ((act (env e) (get s)).1, set s (act (env e) (get s)).2))
      fun r => (k r).embed

end Embed

/-! ### Rules -/

@[simp] theorem andThen_ret (r : Except ε α) (f : Except ε α → Prog L E σ ε β) :
    (ret r).andThen f = f r := rfl

@[simp] theorem andThen_sect (l : L) (act : E → σ → Except ε γ × σ)
    (k : Except ε γ → Prog L E σ ε α) (f : Except ε α → Prog L E σ ε β) :
    (sect l act k).andThen f = sect l act fun r => (k r).andThen f := rfl

theorem bind_eq (p : Prog L E σ ε α) (f : α → Prog L E σ ε β) :
    (p >>= f) = p.andThen fun
      | .ok a => f a
      | .error e => ret (.error e) := rfl

theorem only_andThen {A : L → Prop} {p : Prog L E σ ε α} {f : Except ε α → Prog L E σ ε β}
    (hp : p.Only A) (hf : ∀ r, (f r).Only A) : (p.andThen f).Only A := by
  induction p with
  | ret r => exact hf r
  | halt => trivial
  | sect l act k ih => exact ⟨hp.1, fun r => ih r (hp.2 r)⟩

theorem only_bind {A : L → Prop} {p : Prog L E σ ε α} {f : α → Prog L E σ ε β} (hp : p.Only A)
    (hf : ∀ a, (f a).Only A) : (p >>= f).Only A :=
  only_andThen hp fun r => by
    cases r with
    | ok a => exact hf a
    | error e => trivial

theorem only_true {p : Prog L E σ ε α} : p.Only fun _ => True := by
  induction p with
  | ret r => trivial
  | halt => trivial
  | sect l act k ih => exact ⟨trivial, ih⟩

theorem only_atomic {A : L → Prop} {l : L} {act : E → σ → Except ε α × σ} (hl : A l) :
    (atomic l act).Only A := ⟨hl, fun _ => trivial⟩

theorem only_tryCatch {A : L → Prop} {p : Prog L E σ ε α} {h : ε → Prog L E σ ε α} (hp : p.Only A)
    (hh : ∀ e, (h e).Only A) : (p.tryCatch h).Only A :=
  only_andThen hp fun r => by
    cases r with
    | ok a => trivial
    | error e => exact hh e

theorem only_tryFinally {A : L → Prop} {p : Prog L E σ ε α} {fin : Prog L E σ ε Unit}
    (hp : p.Only A) (hfin : fin.Only A) : (p.tryFinally fin).Only A :=
  only_andThen hp fun _ => only_andThen hfin fun r => by
    cases r with
    | ok _ => trivial
    | error e => trivial

theorem only_loop {A : L → Prop} {n : ℕ} {body : Prog L E σ ε (Option α)} (hbody : body.Only A) :
    (loop n body).Only A := by
  induction n with
  | zero => trivial
  | succ n ih =>
    refine only_andThen hbody fun r => ?_
    match r with
    | .ok (some a) => trivial
    | .ok none => exact ih
    | .error e => trivial

theorem andThen_assoc (p : Prog L E σ ε α) (f : Except ε α → Prog L E σ ε β)
    (g : Except ε β → Prog L E σ ε γ) :
    (p.andThen f).andThen g = p.andThen fun r => (f r).andThen g := by
  induction p with
  | ret r => rfl
  | halt => rfl
  | sect l act k ih => simp only [andThen_sect, ih]

end Prog

end Thread

end DualCollection
