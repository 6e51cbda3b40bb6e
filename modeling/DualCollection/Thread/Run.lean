import DualCollection.Thread.Prog

/-!
# Runs of one thread

`Prog.Run p s tr r s'` says that `p`, started in the state `s` and left alone, ends with `r` in the
state `s'`, and that `tr` are the sections that it executed with the answers of the environment.
`Prog.Ends` is what holds at the end of every run, and its rules follow the ways in which programs
are composed.  `Prog.exec` runs a program against given answers.
-/

namespace DualCollection

namespace Thread

namespace Prog

variable {L E σ ε α β γ : Type}

/-- A run of a program that nothing interferes with. -/
inductive Run : Prog L E σ ε α → σ → List (L × E) → Except ε α → σ → Prop
  | ret (r : Except ε α) (s : σ) : Run (.ret r) s [] r s
  | sect {γ : Type} {l : L} {act : E → σ → Except ε γ × σ} {k : Except ε γ → Prog L E σ ε α} {s s' : σ}
    {tr : List (L × E)} {r : Except ε α} (e : E) (h : Run (k (act e s).1) (act e s).2 tr r s') :
    Run (.sect l act k) s ((l, e) :: tr) r s'

/-- `Q` holds at the end of every run. -/
def Ends (p : Prog L E σ ε α) (s : σ) (Q : List (L × E) → Except ε α → σ → Prop) : Prop :=
  ∀ tr r s', p.Run s tr r s' → Q tr r s'

/-- `Q` holds of the outcome and of the last state of every run. -/
def Post (p : Prog L E σ ε α) (s : σ) (Q : Except ε α → σ → Prop) : Prop := p.Ends s fun _ => Q

/-- Run a program against a list of answers. -/
def exec : List E → Prog L E σ ε α → σ → Option (List (L × E) × Except ε α × σ)
  | _, ret r, s => some ([], r, s)
  | _, halt, _ => none
  | [], sect _ _ _, _ => none
  | e :: es, sect l act k, s =>
    (exec es (k (act e s).1) (act e s).2).map fun (tr, r, s') => ((l, e) :: tr, r, s')

/-! ### Runs -/

theorem run_ret {r r' : Except ε α} {s s' : σ} {tr : List (L × E)} :
    (ret r : Prog L E σ ε α).Run s tr r' s' ↔ tr = [] ∧ r' = r ∧ s' = s := by
  constructor
  · rintro ⟨⟩
    exact ⟨rfl, rfl, rfl⟩
  · rintro ⟨rfl, rfl, rfl⟩
    exact .ret _ _

theorem run_andThen {p : Prog L E σ ε α} {f : Except ε α → Prog L E σ ε β} {s s'' : σ}
    {tr : List (L × E)} {r : Except ε β} :
    (p.andThen f).Run s tr r s'' ↔ ∃ tr₁ tr₂ r₁ s', p.Run s tr₁ r₁ s' ∧ (f r₁).Run s' tr₂ r s'' ∧
      tr = tr₁ ++ tr₂ := by
  induction p generalizing s tr with
  | ret r₁ =>
    constructor
    · exact fun h => ⟨[], tr, r₁, s, .ret r₁ s, h, rfl⟩
    · rintro ⟨tr₁, tr₂, r₁, s', ⟨⟩, h, rfl⟩
      exact h
  | halt =>
    constructor
    · rintro ⟨⟩
    · rintro ⟨tr₁, tr₂, r₁, s', ⟨⟩, -, -⟩
  | sect l act k ih =>
    constructor
    · rintro (_ | ⟨e, h⟩)
      obtain ⟨tr₁, tr₂, r₁, s', h₁, h₂, rfl⟩ := (ih _).1 h
      exact ⟨(l, e) :: tr₁, tr₂, r₁, s', .sect e h₁, h₂, rfl⟩
    · rintro ⟨tr₁, tr₂, r₁, s', _ | ⟨e, h₁⟩, h₂, rfl⟩
      exact .sect e ((ih _).2 ⟨_, tr₂, r₁, s', h₁, h₂, rfl⟩)

/-- A run executes sections of the program. -/
theorem Run.only {A : L → Prop} {p : Prog L E σ ε α} {s s' : σ} {tr : List (L × E)}
    {r : Except ε α} (h : p.Run s tr r s') (hp : p.Only A) : ∀ x ∈ tr, A x.1 := by
  induction h with
  | ret => simp
  | sect e h ih =>
    intro x hx
    rcases List.mem_cons.1 hx with rfl | hx
    · exact hp.1
    · exact ih (hp.2 _) x hx

/-- What `exec` finds is a run. -/
theorem run_of_exec {es : List E} {p : Prog L E σ ε α} {s s' : σ} {tr : List (L × E)}
    {r : Except ε α} (h : p.exec es s = some (tr, r, s')) : p.Run s tr r s' := by
  induction p generalizing es s tr with
  | ret r₁ =>
    simp only [exec, Option.some.injEq, Prod.mk.injEq] at h
    obtain ⟨rfl, rfl, rfl⟩ := h
    exact .ret _ _
  | halt => simp [exec] at h
  | sect l act k ih =>
    cases es with
    | nil => simp [exec] at h
    | cons e es =>
      rw [exec, Option.map_eq_some_iff] at h
      obtain ⟨⟨tr', r', s''⟩, h, heq⟩ := h
      simp only [Prod.mk.injEq] at heq
      obtain ⟨rfl, rfl, rfl⟩ := heq
      exact .sect e (ih _ h)

/-- `exec` uses the first of the given answers. -/
theorem exec_uses {es : List E} {p : Prog L E σ ε α} {s s' : σ} {tr : List (L × E)}
    {r : Except ε α} (h : p.exec es s = some (tr, r, s')) : tr.map Prod.snd <+: es := by
  induction p generalizing es s tr with
  | ret r₁ =>
    simp only [exec, Option.some.injEq, Prod.mk.injEq] at h
    obtain ⟨rfl, -, -⟩ := h
    exact List.nil_prefix
  | halt => simp [exec] at h
  | sect l act k ih =>
    cases es with
    | nil => simp [exec] at h
    | cons e es =>
      rw [exec, Option.map_eq_some_iff] at h
      obtain ⟨⟨tr', r', s''⟩, h, heq⟩ := h
      simp only [Prod.mk.injEq] at heq
      obtain ⟨rfl, rfl, rfl⟩ := heq
      exact List.cons_prefix_cons.2 ⟨rfl, ih _ h⟩

/-- `exec` uses the given answers. -/
theorem exec_answers {es : List E} {p : Prog L E σ ε α} {s s' : σ} {tr : List (L × E)}
    {r : Except ε α} (h : p.exec es s = some (tr, r, s')) : ∀ x ∈ tr, x.2 ∈ es :=
  fun _ hx => (exec_uses h).subset (List.mem_map_of_mem hx)

/-- `exec` uses each answer at most once. -/
theorem exec_length {es : List E} {p : Prog L E σ ε α} {s s' : σ} {tr : List (L × E)}
    {r : Except ε α} (h : p.exec es s = some (tr, r, s')) : tr.length ≤ es.length := by
  simpa using (exec_uses h).length_le

/-- `exec` finds the run with the given answers. -/
theorem exec_of_run {es : List E} {p : Prog L E σ ε α} {s s' : σ} {tr : List (L × E)}
    {r : Except ε α} (h : p.Run s tr r s') (hes : tr.map Prod.snd <+: es) :
    p.exec es s = some (tr, r, s') := by
  induction h generalizing es with
  | ret => rw [exec]
  | sect e h ih =>
    cases es with
    | nil => simp at hes
    | cons e' es =>
      obtain ⟨rfl, htail⟩ := List.cons_prefix_cons.1 hes
      rw [exec, ih htail]
      rfl

/-- What `exec` shows of a run. -/
theorem run_of_exec_any {es : List E} {p : Prog L E σ ε α} {s : σ} {P : List (L × E) → Prop}
    [DecidablePred P] (h : ((p.exec es s).any fun x => decide (P x.1)) = true) :
    ∃ tr r s', p.Run s tr r s' ∧ P tr := by
  obtain ⟨⟨tr, r, s'⟩, hexec, hP⟩ := (Option.any_eq_true _ _).1 h
  exact ⟨tr, r, s', run_of_exec hexec, of_decide_eq_true hP⟩

/-! ### Rules -/

variable {s : σ}

theorem Ends.mono {p : Prog L E σ ε α} {Q Q' : List (L × E) → Except ε α → σ → Prop}
    (h : p.Ends s Q) (hQ : ∀ tr r s', Q tr r s' → Q' tr r s') : p.Ends s Q' :=
  fun tr r s' hrun => hQ tr r s' (h tr r s' hrun)

theorem ends_ret {r : Except ε α} {Q : List (L × E) → Except ε α → σ → Prop} (h : Q [] r s) :
    (ret r).Ends s Q := by
  rintro tr r' s' ⟨⟩
  exact h

theorem ends_halt {Q : List (L × E) → Except ε α → σ → Prop} : (halt).Ends s Q := by
  rintro tr r' s' ⟨⟩

theorem ends_atomic {l : L} {act : E → σ → Except ε α × σ}
    {Q : List (L × E) → Except ε α → σ → Prop}
    (h : ∀ e, Q [(l, e)] (act e s).1 (act e s).2) : (atomic l act).Ends s Q := by
  rintro tr r s' (_ | ⟨e, ⟨⟩⟩)
  exact h e

theorem ends_andThen {p : Prog L E σ ε α} {f : Except ε α → Prog L E σ ε β}
    {Q : List (L × E) → Except ε β → σ → Prop}
    (h : p.Ends s fun tr r s' => (f r).Ends s' fun tr' => Q (tr ++ tr')) : (p.andThen f).Ends s Q := by
  intro tr r s'' hrun
  obtain ⟨tr₁, tr₂, r₁, s', h₁, h₂, rfl⟩ := run_andThen.1 hrun
  exact h tr₁ r₁ s' h₁ tr₂ r s'' h₂

theorem ends_bind {p : Prog L E σ ε α} {f : α → Prog L E σ ε β}
    {Q : List (L × E) → Except ε β → σ → Prop}
    (h : p.Ends s fun tr r s' => match r with
      | .ok a => (f a).Ends s' fun tr' => Q (tr ++ tr')
      | .error e => Q tr (.error e) s') : (p >>= f).Ends s Q := by
  refine ends_andThen (h.mono fun tr r s' hr => ?_)
  cases r with
  | ok a => exact hr
  | error e => exact ends_ret (by rwa [List.append_nil])

theorem ends_tryCatch {p : Prog L E σ ε α} {f : ε → Prog L E σ ε α}
    {Q : List (L × E) → Except ε α → σ → Prop}
    (h : p.Ends s fun tr r s' => match r with
      | .ok a => Q tr (.ok a) s'
      | .error e => (f e).Ends s' fun tr' => Q (tr ++ tr')) : (p.tryCatch f).Ends s Q := by
  refine ends_andThen (h.mono fun tr r s' hr => ?_)
  cases r with
  | ok a => exact ends_ret (by rwa [List.append_nil])
  | error e => exact hr

theorem ends_tryFinally {p : Prog L E σ ε α} {fin : Prog L E σ ε Unit}
    {Q : List (L × E) → Except ε α → σ → Prop}
    (h : p.Ends s fun tr r s' => fin.Ends s' fun tr' r' => match r' with
      | .ok () => Q (tr ++ tr') r
      | .error e => Q (tr ++ tr') (.error e)) : (p.tryFinally fin).Ends s Q := by
  refine ends_andThen (h.mono fun tr r s' hr => ends_andThen (hr.mono fun tr' r' s'' hr' => ?_))
  cases r' with
  | ok _ => exact ends_ret (by rwa [List.append_nil])
  | error e => exact ends_ret (by rwa [List.append_nil])

/-- A loop: `J` holds of what was executed after every round that yields no value. -/
theorem ends_loop {body : Prog L E σ ε (Option α)} {J : List (L × E) → Prop}
    {Q : List (L × E) → Except ε α → σ → Prop} (hJ : J [])
    (hbody : ∀ tr s, J tr → body.Ends s fun tr' r s' => match r with
      | .ok (some a) => Q (tr ++ tr') (.ok a) s'
      | .ok none => J (tr ++ tr')
      | .error e => Q (tr ++ tr') (.error e) s') {n : ℕ} : (loop n body).Ends s Q := by
  suffices h : ∀ tr s, J tr → (loop n body).Ends s fun tr' => Q (tr ++ tr') from h [] s hJ
  induction n with
  | zero => exact fun _ _ _ => ends_halt
  | succ n ih =>
    intro tr s htr
    refine ends_andThen ((hbody tr s htr).mono fun tr' r s' hr => ?_)
    match r, hr with
    | .ok (some a), hr => exact ends_ret (by rwa [List.append_nil])
    | .ok none, hr =>
      refine (ih (tr ++ tr') s' hr).mono fun tr'' r s'' h => ?_
      rwa [← List.append_assoc]
    | .error e, hr => exact ends_ret (by rwa [List.append_nil])

theorem Post.mono {p : Prog L E σ ε α} {Q Q' : Except ε α → σ → Prop} (h : p.Post s Q)
    (hQ : ∀ r s', Q r s' → Q' r s') : p.Post s Q' :=
  Ends.mono h fun _ => hQ

theorem post_ret {r : Except ε α} {Q : Except ε α → σ → Prop} (h : Q r s) :
    (ret r : Prog L E σ ε α).Post s Q := ends_ret h

theorem post_bind {p : Prog L E σ ε α} {f : α → Prog L E σ ε β} {Q : Except ε β → σ → Prop}
    (h : p.Post s fun r s' => match r with
      | .ok a => (f a).Post s' Q
      | .error e => Q (.error e) s') : (p >>= f).Post s Q :=
  ends_bind (h.mono fun r _ hr => by
    cases r with
    | ok a => exact hr
    | error e => exact hr)

/-! ### Programs that leave the state alone -/

/-- The program leaves the state alone. -/
def Steady (p : Prog L E σ ε α) : Prop := ∀ s, p.Post s fun _ s' => s' = s

theorem steady_ret {r : Except ε α} : (ret r : Prog L E σ ε α).Steady := fun _ => post_ret rfl

theorem steady_halt : (halt : Prog L E σ ε α).Steady := fun _ => ends_halt

theorem steady_atomic {l : L} {act : E → σ → Except ε α × σ} (h : ∀ e s, (act e s).2 = s) :
    (atomic l act).Steady := fun s => ends_atomic fun e => h e s

theorem steady_andThen {p : Prog L E σ ε α} {f : Except ε α → Prog L E σ ε β} (hp : p.Steady)
    (hf : ∀ r, (f r).Steady) : (p.andThen f).Steady := fun s =>
  ends_andThen (Ends.mono (hp s) fun _ r s' hs => by
    subst hs
    exact hf r s')

theorem steady_bind {p : Prog L E σ ε α} {f : α → Prog L E σ ε β} (hp : p.Steady)
    (hf : ∀ a, (f a).Steady) : (p >>= f).Steady :=
  steady_andThen hp fun r => by
    cases r with
    | ok a => exact hf a
    | error e => exact steady_ret

theorem steady_tryCatch {p : Prog L E σ ε α} {f : ε → Prog L E σ ε α} (hp : p.Steady)
    (hf : ∀ e, (f e).Steady) : (p.tryCatch f).Steady :=
  steady_andThen hp fun r => by
    cases r with
    | ok a => exact steady_ret
    | error e => exact hf e

theorem steady_tryFinally {p : Prog L E σ ε α} {fin : Prog L E σ ε Unit} (hp : p.Steady)
    (hfin : fin.Steady) : (p.tryFinally fin).Steady :=
  steady_andThen hp fun r => steady_andThen hfin fun r' => by
    cases r' with
    | ok u => exact steady_ret
    | error e => exact steady_ret

theorem steady_loop {body : Prog L E σ ε (Option α)} (hbody : body.Steady) {n : ℕ} :
    (loop n body).Steady := by
  induction n with
  | zero => exact steady_halt
  | succ n ih =>
    refine steady_andThen hbody fun r => ?_
    match r with
    | .ok (some a) => exact steady_ret
    | .ok none => exact ih
    | .error e => exact steady_ret

end Prog

end Thread

end DualCollection
