import DualCollection.Thread.Run

/-!
# Programs and the components that they call

The sections of a program are calls of components, and the answers are what the components say.
`Served serve k tr k'` says that components whose states are `κ` give the answers of the sections
`tr`, one after the other, and are led from `k` to `k'`; `serve` is what they do for one call.
`Prog.Under` is what holds at the end of every run with such answers.
-/

namespace DualCollection

namespace Thread

variable {L E σ ε α β κ : Type} {serve : κ → L × E → κ → Prop}

/-- The components answer one section after the other. -/
inductive Served (serve : κ → L × E → κ → Prop) : κ → List (L × E) → κ → Prop
  | nil (k : κ) : Served serve k [] k
  | cons {k k' k'' : κ} {x : L × E} {tr : List (L × E)} (h : serve k x k')
    (htr : Served serve k' tr k'') : Served serve k (x :: tr) k''

theorem served_append {k k'' : κ} {tr tr' : List (L × E)} :
    Served serve k (tr ++ tr') k'' ↔ ∃ k', Served serve k tr k' ∧ Served serve k' tr' k'' := by
  induction tr generalizing k with
  | nil =>
    constructor
    · intro h
      exact ⟨k, .nil k, h⟩
    · rintro ⟨k', ⟨⟩, h⟩
      exact h
  | cons x tr ih =>
    constructor
    · rintro (_ | ⟨hx, h⟩)
      obtain ⟨k', h₁, h₂⟩ := ih.1 h
      exact ⟨k', .cons hx h₁, h₂⟩
    · rintro ⟨k', _ | ⟨hx, h₁⟩, h₂⟩
      exact .cons hx (ih.2 ⟨k', h₁, h₂⟩)

/-- What every call preserves is preserved. -/
theorem Served.invariant {J : κ → Prop} (hJ : ∀ k x k', J k → serve k x k' → J k') {k k' : κ}
    {tr : List (L × E)} (h : Served serve k tr k') (hk : J k) : J k' := by
  induction h with
  | nil => exact hk
  | cons hx _ ih => exact ih (hJ _ _ _ hk hx)

namespace Prog

/-- `Q` holds at the end of every run in which the components answer. -/
def Under (serve : κ → L × E → κ → Prop) (p : Prog L E σ ε α) (s : σ) (k : κ)
    (Q : Except ε α → σ → κ → Prop) : Prop :=
  ∀ tr r s' k', p.Run s tr r s' → Served serve k tr k' → Q r s' k'

variable {s : σ} {k : κ}

theorem Under.mono {p : Prog L E σ ε α} {Q Q' : Except ε α → σ → κ → Prop}
    (h : p.Under serve s k Q) (hQ : ∀ r s' k', Q r s' k' → Q' r s' k') : p.Under serve s k Q' :=
  fun tr r s' k' hrun hk => hQ r s' k' (h tr r s' k' hrun hk)

theorem under_ret {r : Except ε α} {Q : Except ε α → σ → κ → Prop} (h : Q r s k) :
    (ret r : Prog L E σ ε α).Under serve s k Q := by
  rintro tr r' s' k' ⟨⟩ ⟨⟩
  exact h

theorem under_pure {a : α} {Q : Except ε α → σ → κ → Prop} (h : Q (.ok a) s k) :
    (pure a : Prog L E σ ε α).Under serve s k Q := under_ret h

theorem under_raise {err : ε} {Q : Except ε α → σ → κ → Prop} (h : Q (.error err) s k) :
    (raise err : Prog L E σ ε α).Under serve s k Q := under_ret h

theorem under_atomic {l : L} {act : E → σ → Except ε α × σ} {Q : Except ε α → σ → κ → Prop}
    (h : ∀ e k', serve k (l, e) k' → Q (act e s).1 (act e s).2 k') :
    (atomic l act).Under serve s k Q := by
  rintro tr r s' k' (_ | ⟨e, ⟨⟩⟩) (_ | ⟨hx, ⟨⟩⟩)
  exact h e k' hx

theorem under_andThen {p : Prog L E σ ε α} {f : Except ε α → Prog L E σ ε β}
    {Q : Except ε β → σ → κ → Prop}
    (h : p.Under serve s k fun r s' k' => (f r).Under serve s' k' Q) :
    (p.andThen f).Under serve s k Q := by
  intro tr r s'' k'' hrun hserved
  obtain ⟨tr₁, tr₂, r₁, s', h₁, h₂, rfl⟩ := run_andThen.1 hrun
  obtain ⟨k', hk₁, hk₂⟩ := served_append.1 hserved
  exact h tr₁ r₁ s' k' h₁ hk₁ tr₂ r s'' k'' h₂ hk₂

theorem under_bind {p : Prog L E σ ε α} {f : α → Prog L E σ ε β} {Q : Except ε β → σ → κ → Prop}
    (h : p.Under serve s k fun r s' k' => match r with
      | .ok a => (f a).Under serve s' k' Q
      | .error e => Q (.error e) s' k') : (p >>= f).Under serve s k Q :=
  under_andThen (h.mono fun r s' k' hr => by
    cases r with
    | ok a => exact hr
    | error e => exact under_ret hr)

theorem under_tryCatch {p : Prog L E σ ε α} {f : ε → Prog L E σ ε α}
    {Q : Except ε α → σ → κ → Prop}
    (h : p.Under serve s k fun r s' k' => match r with
      | .ok a => Q (.ok a) s' k'
      | .error e => (f e).Under serve s' k' Q) : (p.tryCatch f).Under serve s k Q :=
  under_andThen (h.mono fun r s' k' hr => by
    cases r with
    | ok a => exact under_ret hr
    | error e => exact hr)

theorem under_tryFinally {p : Prog L E σ ε α} {fin : Prog L E σ ε Unit}
    {Q : Except ε α → σ → κ → Prop}
    (h : p.Under serve s k fun r s' k' => fin.Under serve s' k' fun r' => match r' with
      | .ok () => Q r
      | .error e => Q (.error e)) : (p.tryFinally fin).Under serve s k Q :=
  under_andThen (h.mono fun r s' k' hr => under_andThen (hr.mono fun r' s'' k'' hr' => by
    cases r' with
    | ok u => exact under_ret hr'
    | error e => exact under_ret hr'))

/-- A loop: `J` holds after every round that yields no value. -/
theorem under_loop {body : Prog L E σ ε (Option α)} {J : σ → κ → Prop}
    {Q : Except ε α → σ → κ → Prop} (hJ : J s k)
    (hbody : ∀ s k, J s k → body.Under serve s k fun r s' k' => match r with
      | .ok (some a) => Q (.ok a) s' k'
      | .ok none => J s' k'
      | .error e => Q (.error e) s' k') {n : ℕ} : (loop n body).Under serve s k Q := by
  induction n generalizing s k with
  | zero =>
    rintro tr r s' k' ⟨⟩
  | succ n ih =>
    refine under_andThen ((hbody s k hJ).mono fun r s' k' hr => ?_)
    rcases r with e | (_ | a)
    · exact under_ret hr
    · exact ih hr
    · exact under_ret hr

/-- What the calls of a program preserve. -/
theorem under_only {p : Prog L E σ ε α} {A : L → Prop} {J : κ → Prop} (hp : p.Only A)
    (hJ : ∀ k l e k', A l → J k → serve k (l, e) k' → J k') (hk : J k) :
    p.Under serve s k fun _ _ => J := by
  intro tr r s' k' hrun hserved
  have hA := hrun.only hp
  clear hrun
  induction hserved with
  | nil => exact hk
  | @cons k k₁ k₂ x tr hx _ ih =>
    exact ih (hJ k x.1 x.2 k₁ (hA x List.mem_cons_self) hk hx)
      fun y hy => hA y (List.mem_cons_of_mem _ hy)

/-- A program that leaves the state alone. -/
theorem Under.steady {p : Prog L E σ ε α} {Q : Except ε α → σ → κ → Prop} (hp : p.Steady)
    (h : p.Under serve s k Q) : p.Under serve s k fun r s' k' => s' = s ∧ Q r s' k' :=
  fun tr r s' k' hrun hserved => ⟨hp s tr r s' hrun, h tr r s' k' hrun hserved⟩

end Prog

end Thread

end DualCollection
