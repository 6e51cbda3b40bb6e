import DualCollection.Control.Exception
import DualCollection.Thread.Outline

/-!
# Lock sections

The body of a `with self._lock` section is a computation in `Locked σ`: it reads what the
environment answers, changes the state, and may raise, keeping the changes made so far.  `locked`
makes it one atomic section of a thread.

`Locked.Post` says what holds of the outcome of a body and the state it leaves; `post_call` is the
rule for a port, which may return or raise.
-/

namespace DualCollection

open Thread

/-- A computation that runs while the lock is held. -/
def Locked (σ α : Type) : Type := Env → σ → Except Exc α × σ

namespace Locked

variable {σ α β : Type}

instance : Monad (Locked σ) where
  pure a := fun _ s => (.ok a, s)
  bind x f := fun e s => match x e s with
    | (.ok a, s') => f a e s'
    | (.error err, s') => (.error err, s')

/-- The state. -/
def get : Locked σ σ := fun _ s => (.ok s, s)

/-- Change the state. -/
def modify (f : σ → σ) : Locked σ Unit := fun _ s => (.ok (), f s)

/-- What the environment answers. -/
def ask : Locked σ Env := fun e s => (.ok e, s)

/-- Raise an exception. -/
def raise (err : Exc) : Locked σ α := fun _ s => (.error err, s)

/-- Call a port, which may raise. -/
def call (p : Port) : Locked σ Unit := fun e s => match e.raises p with
  | none => (.ok (), s)
  | some err => (.error (.port p err), s)

/-- Call a port, and catch what it raises. -/
def attempt (p : Port) : Locked σ (Option PyError) := fun e s => (.ok (e.raises p), s)

/-- Run a computation on a component of the state. -/
def zoom {τ : Type} (get : τ → σ) (set : τ → σ → τ) (x : Locked σ α) : Locked τ α := fun e s =>
  ((x e (get s)).1, set s (x e (get s)).2)

/-- Hand a diagnostic event to the diagnostic sink. -/
def emit (event : String) : Locked σ Unit := call (.diagnosticSink event)

variable {e : Env} {s : σ}

@[simp] theorem pure_run {a : α} : (pure a : Locked σ α) e s = (.ok a, s) := rfl

@[simp] theorem bind_run {x : Locked σ α} {f : α → Locked σ β} :
    (x >>= f) e s = match x e s with
      | (.ok a, s') => f a e s'
      | (.error err, s') => (.error err, s') := rfl

@[simp] theorem get_run : (get : Locked σ σ) e s = (.ok s, s) := rfl

@[simp] theorem modify_run {f : σ → σ} : modify f e s = (.ok (), f s) := rfl

@[simp] theorem ask_run : (ask : Locked σ Env) e s = (.ok e, s) := rfl

@[simp] theorem raise_run {err : Exc} : (raise err : Locked σ α) e s = (.error err, s) := rfl

theorem call_run {p : Port} : (call p : Locked σ Unit) e s = match e.raises p with
    | none => (.ok (), s)
    | some err => (.error (.port p err), s) := rfl

@[simp] theorem ite_run {c : Prop} [Decidable c] {x y : Locked σ α} :
    (if c then x else y) e s = if c then x e s else y e s := by
  split <;> rfl

/-- A port call leaves the state alone. -/
@[simp] theorem call_snd {p : Port} : ((call p : Locked σ Unit) e s).2 = s := by
  rw [call_run]; cases e.raises p <;> rfl

@[simp] theorem emit_snd {event : String} : ((emit event : Locked σ Unit) e s).2 = s := call_snd

/-! ### Postconditions -/

/-- `Q` holds of the outcome of `x` and of the state that it leaves. -/
def Post (x : Locked σ α) (e : Env) (s : σ) (Q : Except Exc α → σ → Prop) : Prop :=
  Q (x e s).1 (x e s).2

section Post

variable {Q : Except Exc α → σ → Prop}

@[simp] theorem post_pure {a : α} : (pure a : Locked σ α).Post e s Q ↔ Q (.ok a) s := Iff.rfl

@[simp] theorem post_get {Q : Except Exc σ → σ → Prop} :
    (get : Locked σ σ).Post e s Q ↔ Q (.ok s) s := Iff.rfl

@[simp] theorem post_modify {f : σ → σ} {Q : Except Exc Unit → σ → Prop} :
    (modify f).Post e s Q ↔ Q (.ok ()) (f s) := Iff.rfl

@[simp] theorem post_ask {Q : Except Exc Env → σ → Prop} :
    (ask : Locked σ Env).Post e s Q ↔ Q (.ok e) s := Iff.rfl

@[simp] theorem post_raise {err : Exc} : (raise err : Locked σ α).Post e s Q ↔ Q (.error err) s :=
  Iff.rfl

theorem post_bind {x : Locked σ α} {f : α → Locked σ β} {Q : Except Exc β → σ → Prop} :
    (x >>= f).Post e s Q ↔ x.Post e s fun r s' => match r with
      | .ok a => (f a).Post e s' Q
      | .error err => Q (.error err) s' := by
  unfold Post
  rw [bind_run]
  rcases x e s with ⟨_ | _, _⟩ <;> rfl

theorem post_ite {c : Prop} [Decidable c] {x y : Locked σ α} :
    (if c then x else y).Post e s Q ↔ (c → x.Post e s Q) ∧ (¬ c → y.Post e s Q) := by
  split <;> simp [*]

theorem post_mono {x : Locked σ α} {Q' : Except Exc α → σ → Prop} (h : x.Post e s Q)
    (hQ : ∀ r s', Q r s' → Q' r s') : x.Post e s Q' := hQ _ _ h

/-- A port returns or raises, and leaves the state alone. -/
theorem post_call {p : Port} {Q : Except Exc Unit → σ → Prop} (hok : Q (.ok ()) s)
    (herr : ∀ err, Q (.error (.port p err)) s) : (call p).Post e s Q := by
  unfold Post
  rw [call_run]
  cases e.raises p with
  | none => exact hok
  | some err => exact herr err

theorem post_emit {event : String} {Q : Except Exc Unit → σ → Prop} (hok : Q (.ok ()) s)
    (herr : ∀ err, Q (.error (.port (.diagnosticSink event) err)) s) : (emit event).Post e s Q :=
  post_call hok herr

end Post

end Locked

/-- Mark an exception with the control epoch under which the work was begun. -/
def markEpoch {α : Type} (epoch : ℕ) : Except Exc α → Except Failure α
  | .ok a => .ok a
  | .error err => .error ⟨err, epoch⟩

@[simp] theorem markEpoch_ok {α : Type} (epoch : ℕ) (a : α) :
    markEpoch epoch (.ok a) = .ok a := rfl

@[simp] theorem markEpoch_error {α : Type} (epoch : ℕ) (err : Exc) :
    markEpoch epoch (.error err : Except Exc α) = .error ⟨err, epoch⟩ := rfl

theorem raised_markEpoch {α : Type} {epoch : ℕ} {r : Except Exc α} :
    raised (markEpoch epoch r) = (raised r).map fun err => ⟨err, epoch⟩ := by
  cases r <;> rfl

/-- The atomic section of a lock section whose work is begun under the control epoch `epoch` of
the state that it finds. -/
def locked {L σ α : Type} (epoch : σ → ℕ) (l : L) (body : Locked σ α) :
    Prog L Env σ Failure α :=
  Prog.atomic l fun e s => (markEpoch (epoch s) (body e s).1, (body e s).2)

theorem wp_locked {τ L σ α : Type} {O : Outline τ L Env σ Failure} {t : τ} {epoch : σ → ℕ} {l : L}
    {body : Locked σ α} {Q : Except Failure α → σ → Prop} {s : σ} :
    wp O t Q (locked epoch l body) s ↔ ∀ s', O.rely t s s' → O.inv s' → O.pre t l s' ∧
      ∀ e, O.admits t l e s' → body.Post e s' fun r s'' => O.inv s'' ∧
        O.guar t l s' (raised (markEpoch (epoch s') r)) s'' ∧ Q (markEpoch (epoch s') r) s'' :=
  Iff.rfl

end DualCollection
