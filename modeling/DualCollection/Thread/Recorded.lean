import DualCollection.Thread.Play

/-!
# Recorded runs

`S.recorded` is the system `S` whose state also keeps a record of the sections that were executed,
newest first, with the answers of the environment.  No section reads the record, so that the runs
of `S.recorded` are the runs of `S` (`System.recorded_reachable`, `System.reachable_recorded`); a
property of whole runs, such as one of the times at which something was done, is a property of the
record.

`Outline.extend O O'` is the outline `O` of `S` together with an outline `O'` of the recorded
programs.  Each of the two is shown of a program for itself (`wp_extend`), and what `O` guarantees
may be used to show that `O'` fits together (`Outline.Sound.extend`).
-/

namespace DualCollection

namespace Thread

/-- A section that was executed. -/
structure Executed (τ L E σ ε : Type) where
  /-- The thread that executed it. -/
  thread : τ
  /-- Its name. -/
  name : L
  /-- What the environment answered. -/
  answers : E
  /-- The state before it. -/
  before : σ
  /-- The exception in which it ended. -/
  raised : Option ε
  /-- The state after it. -/
  after : σ

variable {τ L E σ ε α β : Type}

/-- What thread `t` records of the section `l`. -/
def entry (t : τ) (l : L) (act : E → σ → Except ε β × σ) (e : E) (s : σ) :
    Executed τ L E σ ε :=
  ⟨t, l, e, s, raised (act e s).1, (act e s).2⟩

namespace Prog

/-- A program whose sections are recorded. -/
def recorded (t : τ) :
    Prog L E σ ε α → Prog L E (σ × List (Executed τ L E σ ε)) ε α
  | ret r => ret r
  | halt => halt
  | sect l act k => sect l
      (fun e x => ((act e x.1).1, (act e x.1).2, entry t l act e x.1 :: x.2))
      fun r => (k r).recorded t

variable {t : τ}

@[simp] theorem recorded_ret {r : Except ε α} :
    (ret r : Prog L E σ ε α).recorded t = ret r := rfl

@[simp] theorem recorded_pure {a : α} :
    (pure a : Prog L E σ ε α).recorded t = pure a := rfl

@[simp] theorem recorded_raise {e : ε} :
    (raise e : Prog L E σ ε α).recorded t = raise e := rfl

theorem recorded_andThen (p : Prog L E σ ε α) (f : Except ε α → Prog L E σ ε β) :
    (p.andThen f).recorded t = (p.recorded t).andThen fun r => (f r).recorded t := by
  induction p with
  | ret r => rfl
  | halt => rfl
  | sect l act k ih =>
    simp only [andThen_sect, recorded, ih]

theorem recorded_bind (p : Prog L E σ ε α) (f : α → Prog L E σ ε β) :
    (p >>= f).recorded t = p.recorded t >>= fun a => (f a).recorded t := by
  rw [bind_eq, recorded_andThen, bind_eq]
  congr 1
  funext r
  cases r <;> rfl

theorem recorded_tryCatch (p : Prog L E σ ε α) (h : ε → Prog L E σ ε α) :
    (p.tryCatch h).recorded t = (p.recorded t).tryCatch fun e => (h e).recorded t := by
  rw [tryCatch, recorded_andThen, tryCatch]
  congr 1
  funext r
  cases r <;> rfl

theorem settle_recorded (p : Prog L E σ ε Unit) :
    settle (p.recorded t) = (settle p).map (Prog.recorded t) := by
  cases p <;> rfl

end Prog

/-! ### Recorded systems -/

/-- A configuration with the record of what led to it. -/
def Config.recorded (c : Config τ L E σ ε) (record : List (Executed τ L E σ ε)) :
    Config τ L E (σ × List (Executed τ L E σ ε)) ε :=
  ⟨(c.shared, record), fun t => (c.prog t).map (Prog.recorded t)⟩

namespace System

variable {Op : Type} [DecidableEq τ]

/-- A system whose sections are recorded. -/
def recorded (S : System τ Op L E σ ε) :
    System τ Op L E (σ × List (Executed τ L E σ ε)) ε where
  op t o := (S.op t o).recorded t
  allowed t o x := S.allowed t o x.1

variable {S : System τ Op L E σ ε} {admits : τ → L → E → σ → Prop} {c c₁ : Config τ L E σ ε}
  {record : List (Executed τ L E σ ε)}

theorem update_recorded {t : τ} {prog : τ → Option (Prog L E σ ε Unit)} {p : Prog L E σ ε Unit} :
    Function.update (fun u => (prog u).map (Prog.recorded u)) t (settle (p.recorded t)) =
      fun u => (Function.update prog t (settle p) u).map (Prog.recorded u) := by
  funext u
  by_cases hu : u = t
  · subst hu
    simp only [Function.update_self, Prog.settle_recorded]
  · simp only [Function.update_of_ne hu]

variable (record) in
/-- Whatever a step does, the recorded system does too. -/
theorem Step.recorded {x : Label τ Op L E ε} (h : S.Step admits c x c₁) :
    ∃ record' x', S.recorded.Step (fun t l e y => admits t l e y.1) (c.recorded record) x'
      (c₁.recorded record') := by
  cases h with
  | @start t o hn ha =>
    refine ⟨record, .start t o, ?_⟩
    have hnone : (c.recorded record).prog t = none := by simp [Config.recorded, hn]
    have hstep : S.recorded.Step (fun t l e y => admits t l e y.1) (c.recorded record) (.start t o)
        (S.recorded.begin (c.recorded record) t o) := .start hnone ha
    simp only [begin, Config.recorded, System.recorded, update_recorded] at hstep ⊢
    exact hstep
  | @sect t β l act k e hp ha =>
    refine ⟨entry t l act e c.shared :: record, .sect t l e (raised (act e c.shared).1), ?_⟩
    have hprog : (c.recorded record).prog t = some (.sect l
        (fun e x => ((act e x.1).1, (act e x.1).2, entry t l act e x.1 :: x.2))
        fun r => (k r).recorded t) := by
      simp only [Config.recorded, hp, Option.map_some]
      rfl
    have hstep : S.recorded.Step (fun t l e y => admits t l e y.1) (c.recorded record) _ _ :=
      .sect (e := e) hprog ha
    simp only [Config.recorded, update_recorded] at hstep ⊢
    exact hstep

/-- Every run has a record. -/
theorem reachable_recorded {s₀ : σ} (h : S.Reachable admits (.init s₀) c) :
    ∃ record, S.recorded.Reachable (fun t l e y => admits t l e y.1) (.init (s₀, []))
      (c.recorded record) := by
  induction h with
  | refl => exact ⟨[], .refl⟩
  | tail _ hst ih =>
    obtain ⟨record, ih⟩ := ih
    obtain ⟨x, hx⟩ := hst
    obtain ⟨record', x', hx'⟩ := Step.recorded record hx
    exact ⟨record', ih.tail ⟨x', hx'⟩⟩

/-- A step of the recorded system is a step of the system. -/
theorem Step.unrecorded {admits' : τ → L → E → σ × List (Executed τ L E σ ε) → Prop}
    (ha : ∀ t l e y, admits' t l e y → admits t l e y.1)
    {x : Label τ Op L E ε} {d : Config τ L E (σ × List (Executed τ L E σ ε)) ε}
    (h : S.recorded.Step admits' (c.recorded record) x d) :
    ∃ c' record', S.Step admits c x c' ∧ d = c'.recorded record' := by
  cases h with
  | @start t o hn hallowed =>
    have hn' : c.prog t = none := by simpa [Config.recorded] using hn
    refine ⟨S.begin c t o, record, .start hn' hallowed, ?_⟩
    simp only [begin, Config.recorded, System.recorded, update_recorded]
  | @sect t β l act k e hp hadm =>
    have hp' : (c.prog t).map (Prog.recorded t) = some (.sect l act k) := hp
    obtain ⟨p, hprog, heq⟩ := Option.map_eq_some_iff.1 hp'
    cases p with
    | ret r => cases heq
    | halt => cases heq
    | sect l' act' k' =>
      cases heq
      refine ⟨_, entry t l act' e c.shared :: record, .sect hprog (ha _ _ _ _ hadm), ?_⟩
      simp only [Config.recorded, update_recorded]

/-- The runs of the recorded system are runs of the system. -/
theorem recorded_reachable {admits' : τ → L → E → σ × List (Executed τ L E σ ε) → Prop}
    (ha : ∀ t l e y, admits' t l e y → admits t l e y.1) {s₀ : σ}
    {d : Config τ L E (σ × List (Executed τ L E σ ε)) ε}
    (h : S.recorded.Reachable admits' (.init (s₀, [])) d) :
    ∃ c record, S.Reachable admits (.init s₀) c ∧ d = c.recorded record := by
  induction h with
  | refl => exact ⟨.init s₀, [], .refl, rfl⟩
  | tail _ hst ih =>
    obtain ⟨c, record, hc, rfl⟩ := ih
    obtain ⟨x, hx⟩ := hst
    obtain ⟨c', record', hx', rfl⟩ := Step.unrecorded ha hx
    exact ⟨c', record', hc.tail ⟨x, hx'⟩, rfl⟩

end System

/-! ### Outlines of recorded programs -/

namespace Outline

/-- The outline `O` of a system, and the outline `O'` of its recorded programs. -/
def extend (O : Outline τ L E σ ε) (O' : Outline τ L E (σ × List (Executed τ L E σ ε)) ε) :
    Outline τ L E (σ × List (Executed τ L E σ ε)) ε where
  inv x := O.inv x.1 ∧ O'.inv x
  admits t l e x := O.admits t l e x.1 ∧ O'.admits t l e x
  pre t l x := O.pre t l x.1 ∧ O'.pre t l x
  rely t x x' := O.rely t x.1 x'.1 ∧ O'.rely t x x'
  guar t l x r x' := O.guar t l x.1 r x'.1 ∧ O'.guar t l x r x'
  idle t x := O.idle t x.1 ∧ O'.idle t x

end Outline

section Extend

variable {O : Outline τ L E σ ε} {O' : Outline τ L E (σ × List (Executed τ L E σ ε)) ε} {t : τ}
  {x : σ × List (Executed τ L E σ ε)}

/-- A program that meets each of two outlines meets both of them. -/
theorem wp_extend {Q : Except ε α → σ → Prop}
    {Q' : Except ε α → σ × List (Executed τ L E σ ε) → Prop} {p : Prog L E σ ε α}
    (h : wp O t Q p x.1) (h' : wp O' t Q' (p.recorded t) x) :
    wp (O.extend O') t (fun r x => Q r x.1 ∧ Q' r x) (p.recorded t) x := by
  induction p generalizing x with
  | ret r => exact ⟨h, h'⟩
  | halt => trivial
  | sect l act k ih =>
    intro y hr hi
    obtain ⟨hpre, hstep⟩ := h y.1 hr.1 hi.1
    obtain ⟨hpre', hstep'⟩ := h' y hr.2 hi.2
    refine ⟨⟨hpre, hpre'⟩, fun e hadm => ?_⟩
    obtain ⟨hi₁, hg, hk⟩ := hstep e hadm.1
    obtain ⟨hi₁', hg', hk'⟩ := hstep' e hadm.2
    exact ⟨⟨hi₁, hi₁'⟩, ⟨hg, hg'⟩, ih _ hk hk'⟩

/-- The rule for a program of which nothing but its sections matters. -/
theorem wp_recorded {A : L → Prop} {p : Prog L E σ ε α} (hA : p.Only A)
    (hpre : ∀ l x, A l → O'.pre t l x)
    (hstep : ∀ (l : L) (e : E) (x : σ × List (Executed τ L E σ ε)) (r : Option ε) (s' : σ), A l →
      O'.inv x → O'.admits t l e x → O'.inv (s', ⟨t, l, e, x.1, r, s'⟩ :: x.2) ∧
        O'.guar t l x r (s', ⟨t, l, e, x.1, r, s'⟩ :: x.2)) :
    wp O' t (fun _ _ => True) (p.recorded t) x := by
  induction p generalizing x with
  | ret r => trivial
  | halt => trivial
  | sect l act k ih =>
    intro y _ hi
    refine ⟨hpre l y hA.1, fun e hadm => ?_⟩
    obtain ⟨hi', hg⟩ := hstep l e y (raised (act e y.1).1) (act e y.1).2 hA.1 hi hadm
    exact ⟨hi', hg, ih _ (hA.2 _)⟩

/-- The rule of sequencing when nothing is asked of the outcome. -/
theorem wp_bind_true {p : Prog L E σ ε α} {f : α → Prog L E σ ε β} {O : Outline τ L E σ ε} {s : σ}
    (hp : wp O t (fun _ _ => True) p s) (hf : ∀ a s, wp O t (fun _ _ => True) (f a) s) :
    wp O t (fun _ _ => True) (p >>= f) s :=
  wp_bind.2 (wp_mono hp fun r s _ => by
    cases r with
    | ok a => exact hf a s
    | error e => trivial)

end Extend

namespace Outline.Sound

variable {Op : Type} [DecidableEq τ] {S : System τ Op L E σ ε} {O : Outline τ L E σ ε}
  {O' : Outline τ L E (σ × List (Executed τ L E σ ε)) ε}

omit [DecidableEq τ] in
/-- A sound outline, extended by an outline of the recorded programs. -/
theorem extend (hO : O.Sound S) (hrefl : ∀ t x, O'.rely t x x)
    (htrans : ∀ t {a b c}, O'.rely t a b → O'.rely t b c → O'.rely t a c)
    (hcompat : ∀ {t t' l x r x'}, t ≠ t' → O.inv x.1 → O.pre t l x.1 → O.guar t l x.1 r x'.1 →
      O'.pre t l x → O'.guar t l x r x' → O'.rely t' x x')
    (hidle : ∀ {t x x'}, O'.idle t x → O'.rely t x x' → O'.idle t x')
    (hop : ∀ t o x, O'.inv x → O'.idle t x →
      wp O' t (fun _ x => O'.idle t x) ((S.op t o).recorded t) x) :
    (O.extend O').Sound S.recorded where
  refl t x := ⟨hO.refl t x.1, hrefl t x⟩
  trans t _ _ _ h h' := ⟨hO.trans t h.1 h'.1, htrans t h.2 h'.2⟩
  compat hne hi hp hi' hg :=
    ⟨hO.compat hne hi.1 hp.1 hi'.1 hg.1, hcompat hne hi.1 hp.1 hg.1 hp.2 hg.2⟩
  idle_stable h hr := ⟨hO.idle_stable h.1 hr.1, hidle h.2 hr.2⟩
  op t o x hi hid ha := wp_extend (hO.op t o x.1 hi.1 hid.1 ha) (hop t o x hi.2 hid.2)

/-- What every admitted section keeps holds in every reachable configuration. -/
theorem keeps {admits : τ → L → E → σ → Prop} (hS : O.Sound S)
    (ha : ∀ t l e s, admits t l e s → O.admits t l e s) {s₀ : σ} (h₀ : O.inv s₀)
    (hid : ∀ t, O.idle t s₀) {J : σ → Prop} (hJ : J s₀)
    (hstep : ∀ t l e s r s', O.inv s → O.pre t l s → admits t l e s → O.guar t l s r s' →
      J s → J s') {c : Config τ L E σ ε} (hc : S.Reachable admits (.init s₀) c) : J c.shared := by
  induction hc with
  | refl => exact hJ
  | tail hc hst ih =>
    obtain ⟨x, hx⟩ := hst
    have hc' : S.Reachable O.admits _ _ := System.Reachable.mono ha hc
    cases hx with
    | start hn hallowed => exact ih
    | @sect t β l act k e hp hadm =>
      exact hstep _ _ _ _ _ _ (hS.inv h₀ hid hc') (hS.pre h₀ hid hc' hp) hadm
        (hS.guar h₀ hid hc' (.sect hp (ha _ _ _ _ hadm))) ih

end Outline.Sound

end Thread

end DualCollection
