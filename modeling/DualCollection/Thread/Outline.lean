import DualCollection.Thread.Prog
import Mathlib

/-!
# Proof outlines for threads that share a state

The threads `τ` of a `System` run programs of atomic sections over a shared state, and their
sections interleave in any order.  A property of all interleavings is proved one thread at a time,
against a *proof outline* `Outline`:

* `inv` holds in every state;
* `rely t` bounds what the other threads may do between two sections of thread `t`, and `guar t`
  what a section of `t` does;
* `pre t l` holds whenever the next section of thread `t` is `l`;
* `idle t` holds whenever thread `t` runs no operation;
* `admits` restricts the runs that are considered: a step that it does not admit is not taken.

`wp` is the weakest precondition of a program under an outline, computed section by section, and
`wp_andThen` makes it compositional.  `Outline.Sound` collects what has to be shown about the
operations of each thread in isolation, and `Outline.Sound.inv`, `Outline.Sound.pre`,
`Outline.Sound.idle` and `Outline.Sound.guar` are what then holds along every interleaving.
-/

namespace DualCollection

namespace Thread

/-- The exception in which a section ended, if it did. -/
def raised {ε α : Type} : Except ε α → Option ε
  | .ok _ => none
  | .error e => some e

@[simp] theorem raised_ok {ε α : Type} (a : α) : raised (.ok a : Except ε α) = none := rfl

@[simp] theorem raised_error {ε α : Type} (e : ε) : raised (.error e : Except ε α) = some e := rfl

theorem raised_eq_some {ε α : Type} {r : Except ε α} {e : ε} : raised r = some e ↔ r = .error e := by
  cases r <;> simp [raised]

/-- A proof outline for the threads `τ`. -/
structure Outline (τ L E σ ε : Type) where
  /-- Holds in every state. -/
  inv : σ → Prop
  /-- The steps that are considered. -/
  admits : τ → L → E → σ → Prop := fun _ _ _ _ => True
  /-- Holds whenever the next section of the thread is the named one. -/
  pre : τ → L → σ → Prop := fun _ _ _ => True
  /-- What the other threads may do between two sections of the thread. -/
  rely : τ → σ → σ → Prop
  /-- What a section of the thread does: its name, the state before it, the exception in which it
  ended and the state after it. -/
  guar : τ → L → σ → Option ε → σ → Prop
  /-- Holds whenever the thread runs no operation. -/
  idle : τ → σ → Prop := fun _ _ => True

variable {τ L E σ ε α β : Type}

/-- The weakest precondition of a program of thread `t` under the outline `O`. -/
def wp (O : Outline τ L E σ ε) (t : τ) (Q : Except ε α → σ → Prop) : Prog L E σ ε α → σ → Prop
  | .ret r, s => Q r s
  | .halt, _ => True
  | .sect l act k, s => ∀ s', O.rely t s s' → O.inv s' → O.pre t l s' ∧
      ∀ e, O.admits t l e s' → O.inv (act e s').2 ∧
        O.guar t l s' (raised (act e s').1) (act e s').2 ∧
        wp O t Q (k (act e s').1) (act e s').2

section Rules

variable {O : Outline τ L E σ ε} {t : τ} {s : σ}

@[simp] theorem wp_ret {Q : Except ε α → σ → Prop} {r : Except ε α} :
    wp O t Q (.ret r) s ↔ Q r s := Iff.rfl

@[simp] theorem wp_pure {Q : Except ε α → σ → Prop} {a : α} :
    wp O t Q (pure a) s ↔ Q (.ok a) s := Iff.rfl

@[simp] theorem wp_raise {Q : Except ε α → σ → Prop} {e : ε} :
    wp O t Q (Prog.raise e) s ↔ Q (.error e) s := Iff.rfl

@[simp] theorem wp_halt {Q : Except ε α → σ → Prop} : wp O t Q .halt s := trivial

theorem wp_atomic {Q : Except ε α → σ → Prop} {l : L} {act : E → σ → Except ε α × σ} :
    wp O t Q (Prog.atomic l act) s ↔ ∀ s', O.rely t s s' → O.inv s' → O.pre t l s' ∧
      ∀ e, O.admits t l e s' → O.inv (act e s').2 ∧
        O.guar t l s' (raised (act e s').1) (act e s').2 ∧ Q (act e s').1 (act e s').2 := Iff.rfl

theorem wp_mono {Q Q' : Except ε α → σ → Prop} {p : Prog L E σ ε α} (h : wp O t Q p s)
    (hQ : ∀ r s, Q r s → Q' r s) : wp O t Q' p s := by
  induction p generalizing s with
  | ret r => exact hQ _ _ h
  | halt => trivial
  | sect l act k ih =>
    intro s' hr hi
    refine ⟨(h s' hr hi).1, fun e he => ?_⟩
    obtain ⟨hi', hg, hk⟩ := (h s' hr hi).2 e he
    exact ⟨hi', hg, ih _ hk⟩

/-- The rule of sequencing, for every outcome. -/
theorem wp_andThen {Q : Except ε β → σ → Prop} {p : Prog L E σ ε α}
    {f : Except ε α → Prog L E σ ε β} :
    wp O t Q (p.andThen f) s ↔ wp O t (fun r s => wp O t Q (f r) s) p s := by
  induction p generalizing s with
  | ret r => rfl
  | halt => rfl
  | sect l act k ih => simp only [Prog.andThen_sect, wp, ih]

theorem wp_bind {Q : Except ε β → σ → Prop} {p : Prog L E σ ε α} {f : α → Prog L E σ ε β} :
    wp O t Q (p >>= f) s ↔ wp O t (fun r s => match r with
      | .ok a => wp O t Q (f a) s
      | .error e => Q (.error e) s) p s := by
  rw [Prog.bind_eq, wp_andThen]
  constructor <;> refine fun h => wp_mono h fun r s hr => ?_ <;> cases r <;> exact hr

theorem wp_tryCatch {Q : Except ε α → σ → Prop} {p : Prog L E σ ε α} {h : ε → Prog L E σ ε α} :
    wp O t Q (p.tryCatch h) s ↔ wp O t (fun r s => match r with
      | .ok a => Q (.ok a) s
      | .error e => wp O t Q (h e) s) p s := by
  rw [Prog.tryCatch, wp_andThen]
  constructor <;> refine fun h => wp_mono h fun r s hr => ?_ <;> cases r <;> exact hr

theorem wp_tryFinally {Q : Except ε α → σ → Prop} {p : Prog L E σ ε α} {fin : Prog L E σ ε Unit} :
    wp O t Q (p.tryFinally fin) s ↔ wp O t (fun r s => wp O t (fun r' s => match r' with
      | .ok _ => Q r s
      | .error e => Q (.error e) s) fin s) p s := by
  rw [Prog.tryFinally, wp_andThen]
  constructor <;> refine fun h => wp_mono h fun r s hr => ?_ <;> rw [wp_andThen] at * <;>
    refine wp_mono hr fun r' s hr' => ?_ <;> cases r' <;> exact hr'

/-- The rule of the bounded loop: `J` holds before every round. -/
theorem wp_loop {Q : Except ε α → σ → Prop} {body : Prog L E σ ε (Option α)} (J : σ → Prop)
    (hbody : ∀ s, J s → wp O t (fun r s => match r with
      | .ok (some a) => Q (.ok a) s
      | .ok none => J s
      | .error e => Q (.error e) s) body s) (n : ℕ) (hs : J s) :
    wp O t Q (Prog.loop n body) s := by
  induction n generalizing s with
  | zero => trivial
  | succ n ih =>
    rw [Prog.loop, wp_andThen]
    refine wp_mono (hbody s hs) fun r s hr => ?_
    match r with
    | .ok (some a) => exact hr
    | .ok none => exact ih hr
    | .error e => exact hr

/-- The precondition of a program whose thread is interrupted before its first section. -/
theorem wp_rely {Q : Except ε α → σ → Prop} {p : Prog L E σ ε α} {s' : σ}
    (htrans : ∀ {a b c}, O.rely t a b → O.rely t b c → O.rely t a c)
    (hQ : ∀ r, Q r s → Q r s') (h : wp O t Q p s) (hr : O.rely t s s') : wp O t Q p s' := by
  cases p with
  | ret r => exact hQ r h
  | halt => trivial
  | sect l act k => exact fun s'' hr' hi => h s'' (htrans hr hr') hi

/-- What every section of the thread and of the others keeps is kept by a program. -/
theorem wp_track {Q : Except ε α → σ → Prop} {p : Prog L E σ ε α} {s₀ : σ} (R : σ → σ → Prop)
    (htrans : ∀ {a b c}, R a b → R b c → R a c) (hrely : ∀ {s s'}, O.rely t s s' → R s s')
    (hguar : ∀ {l s r s'}, O.guar t l s r s' → R s s') (h₀ : R s₀ s) (h : wp O t Q p s) :
    wp O t (fun r s' => Q r s' ∧ R s₀ s') p s := by
  induction p generalizing s with
  | ret r => exact ⟨h, h₀⟩
  | halt => trivial
  | sect l act k ih =>
    intro s' hr hi
    obtain ⟨hpre, hstep⟩ := h s' hr hi
    refine ⟨hpre, fun e hadm => ?_⟩
    obtain ⟨hi', hg, hk⟩ := hstep e hadm
    exact ⟨hi', hg, ih _ (htrans (htrans h₀ (hrely hr)) (hguar hg)) hk⟩

end Rules

/-- A program over a component of the state keeps the outline that the rest of the state allows:
`P` is the outline of the component while the rest of the state satisfies `Frame`, and `A` are the
sections of the program. -/
theorem wp_embed {L' E' σ' : Type} {O : Outline τ L' E' σ' ε} {P : Outline τ L E σ ε} {t : τ}
    {lab : L → L'} {env : E' → E} {get : σ' → σ} {set : σ' → σ → σ'} {Frame : σ' → Prop}
    {A : L → Prop}
    (hrely : ∀ {s s'}, Frame s → O.rely t s s' → O.inv s' → Frame s' ∧ P.rely t (get s) (get s'))
    (hinv : ∀ {s}, Frame s → O.inv s → P.inv (get s))
    (hpre : ∀ {s l}, Frame s → A l → P.pre t l (get s) → O.pre t (lab l) s)
    (hadm : ∀ {s l e}, Frame s → O.admits t (lab l) e s → P.admits t l (env e) (get s))
    (hset : ∀ {s g}, Frame s → Frame (set s g) ∧ get (set s g) = g)
    (hguar : ∀ {s l r g}, Frame s → A l → O.inv s → P.pre t l (get s) → P.inv g →
      P.guar t l (get s) r g → O.inv (set s g) ∧ O.guar t (lab l) s r (set s g))
    {Q : Except ε α → σ → Prop} {p : Prog L E σ ε α} {s : σ'} (hA : p.Only A) (hF : Frame s)
    (h : wp P t Q p (get s)) :
    wp O t (fun r s => Frame s ∧ Q r (get s)) (p.embed lab env get set) s := by
  induction p generalizing s with
  | ret r => exact ⟨hF, h⟩
  | halt => trivial
  | sect l act k ih =>
    intro s' hr hi
    obtain ⟨hF', hr'⟩ := hrely hF hr hi
    obtain ⟨hp, he⟩ := h _ hr' (hinv hF' hi)
    refine ⟨hpre hF' hA.1 hp, fun e hadm' => ?_⟩
    obtain ⟨hi', hg, hk⟩ := he (env e) (hadm hF' hadm')
    obtain ⟨hoi, hog⟩ := hguar hF' hA.1 hi hp hi' hg
    refine ⟨hoi, hog, ih _ (hA.2 _) (hset hF').1 ?_⟩
    rw [(hset hF').2]
    exact hk

/-! ### Systems of threads -/

/-- What the threads do: thread `t` may begin the operation `o` in the states in which it is
allowed, and then runs the program `op t o` to its end. -/
structure System (τ Op L E σ ε : Type) where
  /-- The program of an operation. -/
  op : τ → Op → Prog L E σ ε Unit
  /-- The states in which a thread begins an operation. -/
  allowed : τ → Op → σ → Prop := fun _ _ _ => True

/-- A configuration: the shared state, and what is left of the operation of each thread. -/
structure Config (τ L E σ ε : Type) where
  /-- The shared state. -/
  shared : σ
  /-- The rest of the operation that the thread runs. -/
  prog : τ → Option (Prog L E σ ε Unit)

/-- The name of a step. -/
inductive Label (τ Op L E ε : Type)
  /-- Thread `t` begins the operation `o`. -/
  | start (t : τ) (o : Op)
  /-- Thread `t` executes the section `l`, which raises `r`. -/
  | sect (t : τ) (l : L) (e : E) (r : Option ε)

/-- A program that has ended is no longer running. -/
def settle : Prog L E σ ε Unit → Option (Prog L E σ ε Unit)
  | .ret _ => none
  | p => some p

/-- The configuration with no operation running. -/
def Config.init (s : σ) : Config τ L E σ ε := ⟨s, fun _ => none⟩

namespace System

variable {Op : Type} [DecidableEq τ] (S : System τ Op L E σ ε)

/-- The configuration after thread `t` has begun the operation `o`. -/
def begin (c : Config τ L E σ ε) (t : τ) (o : Op) : Config τ L E σ ε :=
  ⟨c.shared, Function.update c.prog t (settle (S.op t o))⟩

/-- One step of one thread. -/
inductive Step (admits : τ → L → E → σ → Prop) :
    Config τ L E σ ε → Label τ Op L E ε → Config τ L E σ ε → Prop
  | start {c : Config τ L E σ ε} {t : τ} {o : Op} : c.prog t = none → S.allowed t o c.shared →
      Step admits c (.start t o) (S.begin c t o)
  | sect {c : Config τ L E σ ε} {t : τ} {β : Type} {l : L} {act : E → σ → Except ε β × σ}
      {k : Except ε β → Prog L E σ ε Unit} {e : E} : c.prog t = some (.sect l act k) →
      admits t l e c.shared →
      Step admits c (.sect t l e (raised (act e c.shared).1))
        ⟨(act e c.shared).2, Function.update c.prog t (settle (k (act e c.shared).1))⟩

/-- The configurations that the steps reach from `c`. -/
def Reachable (admits : τ → L → E → σ → Prop) (c c' : Config τ L E σ ε) : Prop :=
  Relation.ReflTransGen (fun c c' => ∃ x, S.Step admits c x c') c c'

variable {S} {admits admits' : τ → L → E → σ → Prop} {c c' : Config τ L E σ ε}

theorem Step.mono (ha : ∀ t l e s, admits t l e s → admits' t l e s) {x : Label τ Op L E ε}
    (h : S.Step admits c x c') : S.Step admits' c x c' := by
  cases h with
  | start hn ho => exact .start hn ho
  | sect hp hadm => exact .sect hp (ha _ _ _ _ hadm)

theorem Reachable.mono (ha : ∀ t l e s, admits t l e s → admits' t l e s)
    (h : S.Reachable admits c c') : S.Reachable admits' c c' :=
  Relation.ReflTransGen.mono (fun _ _ ⟨x, hx⟩ => ⟨x, hx.mono ha⟩) _ _ h

end System

namespace Outline

variable {Op : Type} [DecidableEq τ] {S : System τ Op L E σ ε}

/-- What has to be shown about each thread in isolation. -/
structure Sound (O : Outline τ L E σ ε) (S : System τ Op L E σ ε) : Prop where
  /-- Nothing happening is relied on. -/
  refl : ∀ t s, O.rely t s s
  /-- Two interferences in a row are one. -/
  trans : ∀ t {a b c}, O.rely t a b → O.rely t b c → O.rely t a c
  /-- What one thread guarantees is what the others rely on. -/
  compat : ∀ {t t' l s r s'}, t ≠ t' → O.inv s → O.pre t l s → O.inv s' → O.guar t l s r s' →
    O.rely t' s s'
  /-- A thread that runs no operation is not disturbed. -/
  idle_stable : ∀ {t s s'}, O.idle t s → O.rely t s s' → O.idle t s'
  /-- Every operation of every thread meets the outline. -/
  op : ∀ t o s, O.inv s → O.idle t s → S.allowed t o s →
    wp O t (fun _ s => O.idle t s) (S.op t o) s

/-- What an outline says about one thread of a configuration. -/
def Holds (O : Outline τ L E σ ε) (c : Config τ L E σ ε) (t : τ) : Prop :=
  match c.prog t with
  | none => O.idle t c.shared
  | some p => wp O t (fun _ s => O.idle t s) p c.shared

namespace Sound

variable {O : Outline τ L E σ ε}

omit [DecidableEq τ] in
theorem holds_settle {c : Config τ L E σ ε} {t : τ} {p : Prog L E σ ε Unit}
    (hp : c.prog t = settle p) (h : wp O t (fun _ s => O.idle t s) p c.shared) : O.Holds c t := by
  unfold Holds
  rw [hp]
  cases p with
  | ret r => exact h
  | halt => trivial
  | sect l act k => exact h

omit [DecidableEq τ] in
theorem holds_rely (hS : O.Sound S) {c c' : Config τ L E σ ε} {t : τ} (h : O.Holds c t)
    (hp : c'.prog t = c.prog t) (hr : O.rely t c.shared c'.shared) : O.Holds c' t := by
  unfold Holds at *
  rw [hp]
  cases hc : c.prog t with
  | none => rw [hc] at h; exact hS.idle_stable h hr
  | some p =>
    rw [hc] at h
    exact wp_rely (hS.trans t) (fun _ hq => hS.idle_stable hq hr) h hr

/-- One step keeps the invariant and the outlines of all threads. -/
theorem step (hS : O.Sound S) {c c' : Config τ L E σ ε} {x : Label τ Op L E ε}
    (hst : S.Step O.admits c x c') (hi : O.inv c.shared) (h : ∀ t, O.Holds c t) :
    O.inv c'.shared ∧ (∀ t, O.Holds c' t) ∧
      ∀ t l e r, x = .sect t l e r → O.guar t l c.shared r c'.shared := by
  cases hst with
  | @start t o hn ha =>
    have hid : O.idle t c.shared := by have := h t; simpa only [Holds, hn] using this
    refine ⟨hi, fun t' => ?_, by rintro _ _ _ _ ⟨⟩⟩
    by_cases ht : t' = t
    · subst ht
      exact holds_settle (Function.update_self ..) (hS.op t' o _ hi hid ha)
    · exact hS.holds_rely (h t') (Function.update_of_ne ht ..) (hS.refl ..)
  | @sect t β l act k e hp ha =>
    have hw := h t
    simp only [Holds, hp] at hw
    obtain ⟨hpre, hstep⟩ := hw c.shared (hS.refl ..) hi
    obtain ⟨hi', hg, hk⟩ := hstep e ha
    refine ⟨hi', fun t' => ?_, ?_⟩
    · by_cases ht : t' = t
      · subst ht
        exact holds_settle (Function.update_self ..) hk
      · exact hS.holds_rely (h t') (Function.update_of_ne ht ..)
          (hS.compat (Ne.symm ht) hi hpre hi' hg)
    · rintro _ _ _ _ ⟨⟩
      exact hg

variable {s₀ : σ} {c : Config τ L E σ ε}

theorem reachable (hS : O.Sound S) (h₀ : O.inv s₀) (hid : ∀ t, O.idle t s₀)
    (hc : S.Reachable O.admits (.init s₀) c) : O.inv c.shared ∧ ∀ t, O.Holds c t := by
  induction hc with
  | refl => exact ⟨h₀, hid⟩
  | tail _ hst ih =>
    obtain ⟨x, hx⟩ := hst
    obtain ⟨hi, hh, -⟩ := hS.step hx ih.1 ih.2
    exact ⟨hi, hh⟩

/-- The invariant holds in every reachable configuration. -/
theorem inv (hS : O.Sound S) (h₀ : O.inv s₀) (hid : ∀ t, O.idle t s₀)
    (hc : S.Reachable O.admits (.init s₀) c) : O.inv c.shared := (hS.reachable h₀ hid hc).1

/-- A thread that runs no operation is in an idle state. -/
theorem idle (hS : O.Sound S) (h₀ : O.inv s₀) (hid : ∀ t, O.idle t s₀)
    (hc : S.Reachable O.admits (.init s₀) c) {t : τ} (ht : c.prog t = none) :
    O.idle t c.shared := by
  have := (hS.reachable h₀ hid hc).2 t
  simpa only [Holds, ht] using this

/-- A thread is only ever about to execute a section whose precondition holds. -/
theorem pre (hS : O.Sound S) (h₀ : O.inv s₀) (hid : ∀ t, O.idle t s₀)
    (hc : S.Reachable O.admits (.init s₀) c) {t : τ} {β : Type} {l : L}
    {act : E → σ → Except ε β × σ} {k : Except ε β → Prog L E σ ε Unit}
    (ht : c.prog t = some (.sect l act k)) : O.pre t l c.shared := by
  obtain ⟨hi, hh⟩ := hS.reachable h₀ hid hc
  have hw := hh t
  simp only [Holds, ht] at hw
  exact (hw c.shared (hS.refl ..) hi).1

/-- Every section that is executed does what its thread guarantees. -/
theorem guar (hS : O.Sound S) (h₀ : O.inv s₀) (hid : ∀ t, O.idle t s₀)
    (hc : S.Reachable O.admits (.init s₀) c) {c' : Config τ L E σ ε} {t : τ} {l : L} {e : E}
    {r : Option ε} (hst : S.Step O.admits c (.sect t l e r) c') :
    O.guar t l c.shared r c'.shared := by
  obtain ⟨hi, hh⟩ := hS.reachable h₀ hid hc
  exact (hS.step hst hi hh).2.2 t l e r rfl

end Sound

end Outline

end Thread

end DualCollection
