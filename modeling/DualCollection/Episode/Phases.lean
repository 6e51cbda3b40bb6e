import DualCollection.Episode.Runtime

/-!
# The phases of an Episode

`run_once` leads the objects that it is given through the phases of an Episode, and whatever raises
leads it out of them.  `Phases` is a predicate for each phase, and `Phases.Sound` says what the calls
that tell an object something do to it; the others are made in any phase.  `session_under` follows
the runtime through every outcome of its calls, once for all such predicates.
-/

namespace DualCollection

open Thread

/-- The phases of an Episode; the times are those that the runtime has read. -/
inductive Phase
  /-- No Episode is recorded. -/
  | rest
  /-- The start has been read. -/
  | prepared (startedNs : ℤ)
  /-- The Episode is recorded. -/
  | recording (startedNs : ℤ)
  /-- The recording has been broken off. -/
  | halted (startedNs : ℤ)
  /-- The recording has ended. -/
  | ended (startedNs : ℤ) (ending : Ending)
  /-- The stop hook has returned. -/
  | stopped (startedNs : ℤ) (ending : Ending)
  /-- The context of the metadata has been read. -/
  | described (startedNs : ℤ) (ending : Ending)
  /-- The metadata have been built. -/
  | built (startedNs : ℤ) (ending : Ending)

/-- The calls that tell an object in which phase the Episode is, or how long it was. -/
def EpisodeCall.tells : EpisodeCall → Bool
  | .triggerWait _ | .recordingStartedHook _ | .recordingStoppingHook _ | .monotonicClock _
  | .metadataContextProvider | .buildMetadata _ _ | .storeCommit _ _ => true
  | _ => false

/-- The calls that are made in any phase. -/
abbrev Untold (l : EpisodeCall) : Prop := l.tells = false

/-- The duration of an Episode, as the runtime computes it. -/
def episodeDuration (startedNs stoppingNs : ℤ) : ℚ :=
  max 0 (((stoppingNs - startedNs : ℤ) : ℚ) / 10 ^ 9)

/-! ### What leaves the attributes of the runtime alone -/

section Steady

variable {α : Type} {rt : EpisodeRuntime}

theorem port_steady {l : EpisodeCall} {read : PortAnswer → α} : (port l read).Steady :=
  Prog.steady_atomic fun a s => by split <;> rfl

theorem callIf_steady {given : Bool} {l : EpisodeCall} : (callIf given l).Steady := by
  unfold callIf
  split
  · exact port_steady
  · exact Prog.steady_ret

theorem stopComponents_steady : EpisodeRuntime.stopComponents.Steady := by
  refine Prog.steady_bind (Prog.steady_tryCatch (Prog.steady_bind port_steady fun _ =>
    Prog.steady_ret) fun err => ?_) fun backendError => ?_
  · split <;> exact Prog.steady_ret
  · refine Prog.steady_bind (Prog.steady_tryCatch port_steady fun err => ?_) fun metrics => ?_
    · split <;> exact Prog.steady_ret
    · split <;> exact Prog.steady_ret

theorem startController_steady {pending : PendingEpisode} {startedNs : ℤ} :
    (rt.startController pending startedNs).Steady := by
  unfold EpisodeRuntime.startController
  split
  · refine Prog.steady_tryCatch (Prog.steady_bind Prog.steady_ret fun _ => port_steady) fun err => ?_
    exact Prog.steady_bind stopComponents_steady fun _ => Prog.steady_ret
  · exact Prog.steady_ret

theorem stopController_steady {ending : Ending} : (rt.stopController ending).Steady := by
  unfold EpisodeRuntime.stopController
  split
  · refine Prog.steady_tryCatch (Prog.steady_bind Prog.steady_ret fun _ => ?_) fun _ =>
      Prog.steady_ret
    exact Prog.steady_bind port_steady fun _ => Prog.steady_ret
  · exact Prog.steady_ret

theorem finalizationExtensions_steady {request : EpisodeRequest} {pending : PendingEpisode}
    {metrics : List StreamMetrics} :
    (rt.finalizationExtensions request pending metrics).Steady := by
  unfold EpisodeRuntime.finalizationExtensions
  split
  · exact port_steady
  · exact Prog.steady_ret

theorem endRound_steady : rt.endRound.Steady := by
  refine Prog.steady_bind callIf_steady fun _ => Prog.steady_bind port_steady fun failure => ?_
  cases failure with
  | some failure => exact Prog.steady_bind port_steady fun _ => Prog.steady_ret
  | none =>
    refine Prog.steady_bind port_steady fun signal => ?_
    cases signal with
    | none => exact Prog.steady_ret
    | some signal =>
      dsimp only
      unfold EpisodeRuntime.endingOf
      split
      · exact Prog.steady_ret
      · exact Prog.steady_ret
      · exact Prog.steady_ret
      · split <;> exact Prog.steady_ret
      · exact Prog.steady_ret

theorem waitForEnd_steady {n : ℕ} : (rt.waitForEnd n).Steady := by
  refine Prog.steady_bind port_steady fun _ => Prog.steady_tryFinally (Prog.steady_tryCatch
    (Prog.steady_loop endRound_steady) fun err => ?_) port_steady
  unfold EpisodeRuntime.endHandler
  split_ifs
  · exact Prog.steady_bind port_steady fun _ => Prog.steady_ret
  · exact Prog.steady_bind port_steady fun _ => Prog.steady_ret
  · exact Prog.steady_ret

end Steady

/-- A predicate for each phase, and one that holds however a run of the runtime has ended. -/
structure Phases (κ : Type) where
  /-- What holds in a phase. -/
  holds : Phase → κ → Prop
  /-- What holds in any case. -/
  kept : κ → Prop

namespace Phases

variable {κ : Type}

/-- The calls lead from phase to phase. -/
structure Sound (P : Phases κ) (serve : κ → EpisodeCall × PortAnswer → κ → Prop) : Prop where
  /-- What holds in any case holds in every phase. -/
  kept : ∀ {p k}, P.holds p k → P.kept k
  /-- The other calls do not lead out of a phase. -/
  untold : ∀ {p l a k k'}, Untold l → serve k (l, a) k' → P.holds p k → P.holds p k'
  /-- Nor do they spoil what holds in any case. -/
  untold_kept : ∀ {l a k k'}, Untold l → serve k (l, a) k' → P.kept k → P.kept k'
  /-- The trigger is awaited while no Episode is recorded. -/
  awaited : ∀ {a k k'}, serve k (.triggerWait .start, a) k' → P.holds .rest k → P.holds .rest k'
  /-- The start is read. -/
  prepared : ∀ {a k k'}, serve k (.monotonicClock .started, a) k' → P.holds .rest k →
    P.holds .rest k' ∧ (a.raises = none → P.holds (.prepared a.monotonicNs) k')
  /-- If nothing follows, no Episode is recorded. -/
  unprepared : ∀ {startedNs k}, P.holds (.prepared startedNs) k → P.holds .rest k
  /-- The start hook is called. -/
  started : ∀ {started a k k'}, serve k (.recordingStartedHook started, a) k' →
    P.holds (.prepared started.monotonicTimeNs) k →
    P.kept k' ∧ (a.raises = none → P.holds (.recording started.monotonicTimeNs) k')
  /-- The trigger raises. -/
  broken : ∀ {startedNs a k k'}, serve k (.triggerWait .ending, a) k' →
    P.holds (.recording startedNs) k → a.raises ≠ none → P.holds (.halted startedNs) k'
  /-- The trigger returns. -/
  waited : ∀ {startedNs a k k'}, serve k (.triggerWait .ending, a) k' →
    P.holds (.recording startedNs) k → a.raises = none →
    match a.signal with
    | none => P.holds (.recording startedNs) k'
    | some signal => (signal.event = .conflict → P.holds (.recording startedNs) k') ∧
      ∀ ending : Ending, ending.stoppingMonotonicNs = signal.monotonicTimeNs →
        (ending.outcome = .success → signal.event = .activate) → signal.event ≠ .conflict →
        P.holds (.ended startedNs ending) k'
  /-- The recording may be broken off at any time. -/
  halted : ∀ {startedNs k}, P.holds (.recording startedNs) k → P.holds (.halted startedNs) k
  /-- The end is read from the clock. -/
  interrupted : ∀ {startedNs site a k k'}, serve k (.monotonicClock site, a) k' →
    P.holds (.halted startedNs) k → P.holds (.halted startedNs) k' ∧
      (a.raises = none → ∀ ending : Ending, ending.stoppingMonotonicNs = a.monotonicNs →
        ending.outcome ≠ .success → P.holds (.ended startedNs ending) k')
  /-- The stop hook is called. -/
  stopped : ∀ {startedNs ending stopping a k k'}, serve k (.recordingStoppingHook stopping, a) k' →
    P.holds (.ended startedNs ending) k → stopping.outcome = ending.outcome →
    stopping.monotonicTimeNs = ending.stoppingMonotonicNs →
    P.kept k' ∧ (a.raises = none → P.holds (.stopped startedNs ending) k')
  /-- The context of the metadata is read. -/
  described : ∀ {startedNs ending a k k'}, serve k (.metadataContextProvider, a) k' →
    P.holds (.stopped startedNs ending) k →
    P.kept k' ∧ (a.raises = none → P.holds (.described startedNs ending) k')
  /-- The metadata are built. -/
  built : ∀ {startedNs ending result extensions a k k'},
    serve k (.buildMetadata result extensions, a) k' → P.holds (.described startedNs ending) k →
    result.durationS = episodeDuration startedNs ending.stoppingMonotonicNs →
    P.kept k' ∧ (a.raises = none → P.holds (.built startedNs ending) k')
  /-- The Episode is committed. -/
  committed : ∀ {startedNs ending pending a k k'}, serve k (.storeCommit pending ending.outcome, a) k' →
    P.holds (.built startedNs ending) k → P.kept k' ∧ (a.raises = none → P.holds .rest k')

variable {P : Phases κ} {serve : κ → EpisodeCall × PortAnswer → κ → Prop} {α β : Type}
  {rt : EpisodeRuntime} {s : EpisodeState} {k k' : κ} {p p' : Phase} {startedNs : ℤ} {ending : Ending}

/-- A program stays in a phase. -/
theorem Sound.stays (hP : P.Sound serve) {q : EpisodeProg α} (hq : q.Only Untold)
    (h : P.holds p k) : q.Under serve s k fun _ _ => P.holds p :=
  Prog.under_only hq (fun _ _ _ _ hl h hs => hP.untold hl hs h) h

theorem Sound.keeps (hP : P.Sound serve) {q : EpisodeProg α} (hq : q.Only Untold)
    (h : P.kept k) : q.Under serve s k fun _ _ => P.kept :=
  Prog.under_only hq (fun _ _ _ _ hl h hs => hP.untold_kept hl hs h) h

/-- A phase may be followed by a phase, if nothing raises. -/
def Leads (P : Phases κ) (p : α → Phase) (r : Except PyError α) (k : κ) : Prop :=
  P.kept k ∧ ∀ a, r = .ok a → P.holds (p a) k

theorem Leads.error {err : PyError} {p : α → Phase} (h : P.kept k) :
    P.Leads p (.error err) k := ⟨h, by rintro _ ⟨⟩⟩

theorem Leads.ok {a : α} {p : α → Phase} (h : P.kept k) (hp : P.holds (p a) k) :
    P.Leads p (.ok a) k := ⟨h, by rintro _ ⟨⟩; exact hp⟩

/-- Parts of `run_once` in a row. -/
theorem leads_bind {q : EpisodeProg β} {g : β → EpisodeProg α} {Q : EpisodeState → κ → Prop}
    {p : β → Phase} (hq : q.Under serve s k fun r _ => P.Leads p r)
    (herr : ∀ s k, P.kept k → Q s k)
    (hg : ∀ b s k', P.holds (p b) k' → (g b).Under serve s k' fun _ => Q) :
    (q >>= g).Under serve s k fun _ => Q :=
  Prog.under_bind (hq.mono fun r s' k' h => by
    cases r with
    | error err => exact herr s' k' h.1
    | ok b => exact hg b s' k' (h.2 b rfl))

/-- A part of `run_once` that stays in a phase. -/
theorem Sound.stays_bind (hP : P.Sound serve) {q : EpisodeProg β} {g : β → EpisodeProg α}
    {Q : Except PyError α → EpisodeState → κ → Prop} (hq : q.Only Untold) (h : P.holds p k)
    (herr : ∀ err s k, P.holds p k → Q (.error err) s k)
    (hg : ∀ b s k', P.holds p k' → (g b).Under serve s k' Q) : (q >>= g).Under serve s k Q :=
  Prog.under_bind ((hP.stays hq h).mono fun r s' k' h => by
    cases r with
    | error err => exact herr err s' k' h
    | ok b => exact hg b s' k' h)

/-! ### The loop -/

/-- What a round of the loop leads to. -/
def Rounded (P : Phases κ) (startedNs : ℤ) (r : Except PyError (Option Ending)) (k : κ) : Prop :=
  match r with
  | .ok none => P.holds (.recording startedNs) k
  | .ok (some ending) => P.holds (.ended startedNs ending) k
  | .error _ => P.holds (.halted startedNs) k

theorem endingOf_under {signal : TriggerSignal}
    (hconflict : signal.event = .conflict → P.holds (.recording startedNs) k)
    (h : ∀ ending : Ending, ending.stoppingMonotonicNs = signal.monotonicTimeNs →
      (ending.outcome = .success → signal.event = .activate) → signal.event ≠ .conflict →
      P.holds (.ended startedNs ending) k) :
    (EpisodeRuntime.endingOf signal).Under serve s k fun r _ => P.Rounded startedNs r := by
  unfold EpisodeRuntime.endingOf
  cases hevent : signal.event with
  | activate => exact Prog.under_pure (h _ rfl (fun _ => hevent) (by rw [hevent]; decide))
  | abort | taskFail =>
    exact Prog.under_pure (h _ rfl (fun hsuccess => by cases hsuccess) (by rw [hevent]; decide))
  | fail =>
    obtain ⟨detail, hdetail, -⟩ := signal.detail_fail hevent
    dsimp only
    rw [hdetail]
    exact Prog.under_pure (h _ rfl (fun hsuccess => by cases hsuccess) (by rw [hevent]; decide))
  | conflict => exact Prog.under_pure (hconflict hevent)

/-- The end is read from the clock. -/
theorem Sound.clock (hP : P.Sound serve) {site : ClockSite} {g : ℤ → Ending}
    (h : P.holds (.halted startedNs) k) (hns : ∀ ns, (g ns).stoppingMonotonicNs = ns)
    (houtcome : ∀ ns, (g ns).outcome ≠ .success) {γ : Type} {f : Ending → γ}
    {Q : Except PyError γ → EpisodeState → κ → Prop}
    (hok : ∀ ns k', P.holds (.ended startedNs (g ns)) k' → Q (.ok (f (g ns))) s k')
    (herr : ∀ err k', P.holds (.halted startedNs) k' → Q (.error err) s k') :
    (do
      let ns ← EpisodeRuntime.monotonicNs site
      pure (f (g ns)) : EpisodeProg γ).Under serve s k Q :=
  Prog.under_bind (under_port
    (fun _ k' hraises hs => Prog.under_pure
      (hok _ k' ((hP.interrupted hs h).2 hraises _ (hns _) (houtcome _))))
    fun _ err k' _ hs => herr err k' (hP.interrupted hs h).1)

theorem Sound.endRound (hP : P.Sound serve) (h : P.holds (.recording startedNs) k) :
    rt.endRound.Under serve s k fun r _ => P.Rounded startedNs r := by
  have hhalted : ∀ (err : PyError) (_ : EpisodeState) k, P.holds (.recording startedNs) k →
      P.Rounded startedNs (.error err) k := fun _ _ _ => hP.halted
  unfold EpisodeRuntime.endRound
  refine hP.stays_bind (only_callIf rfl) h hhalted fun _ s₁ k₁ h₁ => ?_
  refine hP.stays_bind (Prog.only_atomic rfl) h₁ hhalted fun failure s₂ k₂ h₂ => ?_
  cases failure with
  | some failure =>
    exact hP.clock (g := fun ns => ⟨.fail, [failure], ns, true⟩) (hP.halted h₂) (fun _ => rfl)
      (fun _ => by simp) (fun _ _ h => h) fun _ _ h => h
  | none =>
    refine Prog.under_bind (under_port (fun a k₃ hraises hs => ?_) fun a err k₃ hraises hs => ?_)
    · have hwaited := hP.waited hs h₂ hraises
      cases hsignal : a.signal with
      | none =>
        rw [hsignal] at hwaited
        exact Prog.under_pure hwaited
      | some signal =>
        rw [hsignal] at hwaited
        exact endingOf_under hwaited.1 hwaited.2
    · exact hP.broken hs h₂ (by rw [hraises]; simp)

/-- What `_wait_for_end` leads to. -/
abbrev Ends (P : Phases κ) (startedNs : ℤ) (r : Except PyError Ending) (k : κ) : Prop :=
  P.Leads (fun ending => .ended startedNs ending) r k

theorem Sound.endHandler (hP : P.Sound serve) {err : PyError} (h : P.holds (.halted startedNs) k) :
    (EpisodeRuntime.endHandler err).Under serve s k fun r _ => P.Ends startedNs r := by
  have hclock : ∀ site outcome errors blocked, outcome ≠ .success →
      (do
        let stoppingNs ← EpisodeRuntime.monotonicNs site
        pure ⟨outcome, errors, stoppingNs, blocked⟩ : EpisodeProg Ending).Under serve s k
        fun r _ => P.Ends startedNs r := fun _ outcome errors blocked hne =>
    hP.clock (g := fun ns => ⟨outcome, errors, ns, blocked⟩) (f := id) h (fun _ => rfl)
      (fun _ => hne) (fun _ _ h => Leads.ok (hP.kept h) h) fun _ _ h => Leads.error (hP.kept h)
  unfold EpisodeRuntime.endHandler
  split_ifs
  · exact hclock _ _ _ _ (by decide)
  · exact hclock _ _ _ _ (by decide)
  · exact Prog.under_raise (Leads.error (hP.kept h))

theorem Sound.waitForEnd (hP : P.Sound serve) {n : ℕ} (h : P.holds (.recording startedNs) k) :
    (rt.waitForEnd n).Under serve s k fun r _ => P.Ends startedNs r := by
  unfold EpisodeRuntime.waitForEnd
  refine hP.stays_bind (Prog.only_atomic rfl) h (fun _ _ _ h => Leads.error (hP.kept h))
    fun _ s₁ k₁ h₁ => ?_
  have hcaught : (Prog.tryCatch (Prog.loop n rt.endRound) EpisodeRuntime.endHandler).Under serve s₁ k₁
      fun r _ => P.Ends startedNs r := by
    refine Prog.under_tryCatch (Prog.under_loop (J := fun _ => P.holds (.recording startedNs)) h₁
      fun s k hk => (hP.endRound hk).mono fun r s₂ k₂ h₂ => ?_)
    match r with
    | .ok (some ending) => exact Leads.ok (hP.kept h₂) h₂
    | .ok none => exact h₂
    | .error err => exact hP.endHandler h₂
  refine Prog.under_tryFinally (hcaught.mono fun r s₃ k₃ h₃ => ?_)
  cases r with
  | error err =>
    refine (hP.keeps (Prog.only_atomic rfl) h₃.1).mono fun r' s₄ k₄ h₄ => ?_
    cases r' with
    | error err' => exact Leads.error h₄
    | ok u => exact Leads.error h₄
  | ok ending =>
    refine (hP.stays (Prog.only_atomic rfl) (h₃.2 ending rfl)).mono fun r' s₄ k₄ h₄ => ?_
    cases r' with
    | error err' => exact Leads.error (hP.kept h₄)
    | ok u => exact Leads.ok (hP.kept h₄) h₄

/-! ### The hooks and the store -/

theorem Sound.startController (hP : P.Sound serve) (hhook : rt.recordingStartedHook = true)
    {pending : PendingEpisode} (h : P.holds (.prepared startedNs) k) :
    (rt.startController pending startedNs).Under serve s k fun r _ =>
      P.Leads (fun _ => .recording startedNs) r := by
  have hstop : ∀ (err : PyError) s k, P.kept k →
      (do let _ ← EpisodeRuntime.stopComponents; .raise err : EpisodeProg Unit).Under serve s k
        fun r _ => P.Leads (fun _ => .recording startedNs) r := fun err s k hk =>
    Prog.under_bind ((hP.keeps (EpisodeRuntime.stopComponents_only rfl rfl) hk).mono
      fun r s' k' hk' => by
        cases r with
        | error err => exact Leads.error hk'
        | ok metrics => exact Prog.under_raise (Leads.error hk'))
  unfold EpisodeRuntime.startController
  rw [if_pos hhook]
  refine Prog.under_tryCatch (Prog.under_andThen (Prog.under_ret ?_))
  cases hmake : RecordingStarted.make pending.episodeId startedNs with
  | error err => exact Prog.under_ret (hstop err s k (hP.kept h))
  | ok started =>
    have hns : started.monotonicTimeNs = startedNs := by
      unfold RecordingStarted.make at hmake
      split_ifs at hmake
      cases hmake
      rfl
    subst hns
    refine under_port (fun a k₁ hraises hs => ?_) fun a err k₁ _ hs => ?_
    · obtain ⟨hk₁, hrecording⟩ := hP.started hs h
      exact Leads.ok hk₁ (hrecording hraises)
    · exact hstop err s k₁ (hP.started hs h).1

/-- The stop hook keeps what it raises. -/
theorem Sound.stopController (hP : P.Sound serve) (hhook : rt.recordingStoppingHook = true)
    (h : P.holds (.ended startedNs ending) k) :
    (rt.stopController ending).Under serve s k fun r _ k' =>
      P.kept k' ∧ (r = .ok none → P.holds (.stopped startedNs ending) k') := by
  unfold EpisodeRuntime.stopController
  rw [if_pos hhook]
  refine Prog.under_tryCatch (Prog.under_andThen (Prog.under_ret ?_))
  cases hmake : RecordingStopping.make ending.outcome ending.stoppingMonotonicNs with
  | error err => exact Prog.under_ret (Prog.under_pure ⟨hP.kept h, by simp⟩)
  | ok stopping =>
    have hstopping : stopping.outcome = ending.outcome ∧
        stopping.monotonicTimeNs = ending.stoppingMonotonicNs := by
      unfold RecordingStopping.make at hmake
      split_ifs at hmake
      cases hmake
      exact ⟨rfl, rfl⟩
    refine Prog.under_bind (under_port (fun a k₁ hraises hs => ?_) fun a err k₁ _ hs => ?_)
    · obtain ⟨hk₁, hstopped⟩ := hP.stopped hs h hstopping.1 hstopping.2
      exact Prog.under_pure ⟨hk₁, fun _ => hstopped hraises⟩
    · exact Prog.under_pure ⟨(hP.stopped hs h hstopping.1 hstopping.2).1, by simp⟩

/-- What holds once `run_once` is over: if the runtime is ready, no Episode is recorded. -/
abbrev Over (P : Phases κ) (s : EpisodeState) (k : κ) : Prop :=
  P.kept k ∧ (s = .ready → P.holds .rest k)

theorem Over.of_rest (hP : P.Sound serve) (h : P.holds .rest k) : P.Over s k :=
  ⟨hP.kept h, fun _ => h⟩

theorem Over.of_busy (h : P.kept k) (hs : s ≠ .ready) : P.Over s k :=
  ⟨h, fun hready => absurd hready hs⟩

/-- A call that leads from a phase to the next. -/
theorem call_bind {l : EpisodeCall} {g : Unit → EpisodeProg α}
    {Q : EpisodeState → κ → Prop} (h : P.holds p k)
    (hl : ∀ {a k'}, serve k (l, a) k' → P.holds p k → P.kept k' ∧ (a.raises = none → P.holds p' k'))
    (herr : ∀ k, P.kept k → Q s k)
    (hg : ∀ k', P.holds p' k' → (g ()).Under serve s k' fun _ => Q) :
    (callPort l >>= g).Under serve s k fun _ => Q :=
  Prog.under_bind (under_port (fun _ k' hraises hs => hg k' ((hl hs h).2 hraises))
    fun _ _ k' _ hs => herr k' (hl hs h).1)

theorem Sound.context_bind (hP : P.Sound serve)
    (hcontext : rt.metadataContextProvider = false → ∀ startedNs ending k,
      P.holds (.stopped startedNs ending) k → P.holds (.described startedNs ending) k)
    {g : Unit → EpisodeProg α} {Q : EpisodeState → κ → Prop}
    (h : P.holds (.stopped startedNs ending) k) (herr : ∀ k, P.kept k → Q s k)
    (hg : ∀ k', P.holds (.described startedNs ending) k' → (g ()).Under serve s k' fun _ => Q) :
    (callIf rt.metadataContextProvider .metadataContextProvider >>= g).Under serve s k
      fun _ => Q := by
  unfold callIf
  split
  · exact call_bind h (fun hs h => hP.described hs h) herr hg
  · rename_i hnone
    exact Prog.under_bind (Prog.under_pure (hg k (hcontext (by simpa using hnone) _ _ _ h)))

/-- A part of `run_once` after the recording that stays in a phase. -/
theorem Sound.busy_bind (hP : P.Sound serve) {q : EpisodeProg β} {g : β → EpisodeProg α}
    (hs : s ≠ .ready) (hsteady : q.Steady) (hq : q.Only Untold) (h : P.holds p k)
    (hg : ∀ b k', P.holds p k' → (g b).Under serve s k' fun _ => P.Over) :
    (q >>= g).Under serve s k fun _ => P.Over :=
  Prog.under_bind (((hP.stays hq h).steady hsteady).mono fun r s' k' h => by
    obtain ⟨rfl, h⟩ := h
    cases r with
    | error err => exact Over.of_busy (hP.kept h) hs
    | ok b => exact hg b k' h)

theorem Sound.finalize (hP : P.Sound serve)
    (hcontext : rt.metadataContextProvider = false → ∀ startedNs ending k,
      P.holds (.stopped startedNs ending) k → P.holds (.described startedNs ending) k)
    {request : EpisodeRequest} {pending : PendingEpisode} {startedAt endedAt : ℤ}
    {metrics : List StreamMetrics} (h : P.holds (.stopped startedNs ending) k) (hs : s ≠ .ready) :
    (rt.finalize request pending startedAt endedAt
      (episodeDuration startedNs ending.stoppingMonotonicNs) ending metrics).Under serve s k
        fun _ => P.Over := by
  have hbusy : ∀ k, P.kept k → P.Over s k := fun k hk => Over.of_busy hk hs
  unfold EpisodeRuntime.finalize
  refine hP.busy_bind hs finalizationExtensions_steady
    (EpisodeRuntime.finalizationExtensions_only fun _ _ _ => rfl) h fun extensions k₁ h₁ => ?_
  dsimp only
  split_ifs with hoverlap hid
  · exact Prog.under_raise (hbusy k₁ (hP.kept h₁))
  · refine hP.busy_bind hs port_steady (Prog.only_atomic rfl) h₁ fun _ k₂ h₂ => ?_
    refine hP.context_bind hcontext h₂ hbusy fun k₃ h₃ => ?_
    refine call_bind h₃ (fun hs h => hP.built hs h rfl) hbusy fun k₄ h₄ => ?_
    refine hP.busy_bind hs port_steady (Prog.only_atomic rfl) h₄ fun _ k₅ h₅ => ?_
    refine Prog.under_bind (under_port (fun a k₆ hraises hs => ?_) fun a err k₆ _ hs => ?_)
    · have hrest : P.holds .rest k₆ := (hP.committed hs h₅).2 hraises
      refine Prog.under_bind (Prog.under_atomic fun e k₇ hs₇ => ?_)
      exact Prog.under_pure (Over.of_rest hP (hP.untold rfl hs₇ hrest))
    · exact hbusy k₆ (hP.committed hs h₅).1
  · exact Prog.under_raise (hbusy k₁ (hP.kept h₁))

theorem Sound.finish (hP : P.Sound serve) (hhook : rt.recordingStoppingHook = true)
    (hcontext : rt.metadataContextProvider = false → ∀ startedNs ending k,
      P.holds (.stopped startedNs ending) k → P.holds (.described startedNs ending) k)
    {request : EpisodeRequest} {pending : PendingEpisode} {startedAt endedAt : ℤ}
    (h : P.holds (.ended startedNs ending) k) (hs : s ≠ .ready) :
    (rt.finish request pending startedAt endedAt
      (episodeDuration startedNs ending.stoppingMonotonicNs) ending).Under serve s k
        fun _ => P.Over := by
  unfold EpisodeRuntime.finish
  refine Prog.under_bind (((hP.stopController hhook h).steady stopController_steady).mono
    fun r s₁ k₁ h₁ => ?_)
  obtain ⟨rfl, hk₁, hstopped⟩ := h₁
  cases r with
  | error err => exact Over.of_busy hk₁ hs
  | ok hookError =>
    have hsteady : (Prog.tryCatch EpisodeRuntime.stopComponents fun stopError =>
        .raise (hookError.getD stopError)).Steady :=
      Prog.steady_tryCatch stopComponents_steady fun _ => Prog.steady_ret
    have honly : (Prog.tryCatch EpisodeRuntime.stopComponents fun stopError =>
        .raise (hookError.getD stopError)).Only Untold :=
      Prog.only_tryCatch (EpisodeRuntime.stopComponents_only rfl rfl) fun _ => trivial
    cases hookError with
    | some err =>
      refine Prog.under_bind (((hP.keeps honly hk₁).steady hsteady).mono fun r s₂ k₂ h₂ => ?_)
      obtain ⟨rfl, hk₂⟩ := h₂
      cases r with
      | error err' => exact Over.of_busy hk₂ hs
      | ok metrics => exact Prog.under_raise (Over.of_busy hk₂ hs)
    | none =>
      exact hP.busy_bind hs hsteady honly (hstopped rfl) fun metrics k₂ h₂ =>
        hP.finalize hcontext h₂ hs

/-! ### The runtime -/

theorem Sound.record (hP : P.Sound serve) (hstart : rt.recordingStartedHook = true)
    (hstop : rt.recordingStoppingHook = true)
    (hcontext : rt.metadataContextProvider = false → ∀ startedNs ending k,
      P.holds (.stopped startedNs ending) k → P.holds (.described startedNs ending) k)
    {request : EpisodeRequest} {pending : PendingEpisode} {startedAt : ℤ} {n : ℕ}
    (h : P.holds (.prepared startedNs) k) :
    (rt.record n request pending startedAt startedNs).Under serve s k fun _ => P.Over := by
  have hrecording : EpisodeState.recording ≠ .ready := by decide
  have hfinalizing : EpisodeState.finalizing ≠ .ready := by decide
  unfold EpisodeRuntime.record
  refine Prog.under_bind (Prog.under_atomic fun e k₁ hs₁ => ?_)
  refine hP.busy_bind hrecording callIf_steady (only_callIf rfl) (hP.untold rfl hs₁ h)
    fun _ k₂ h₂ => ?_
  refine Prog.under_bind (((hP.startController hstart h₂).steady startController_steady).mono
    fun r s₃ k₃ h₃ => ?_)
  obtain ⟨rfl, hk₃, h₃⟩ := h₃
  cases r with
  | error err => exact Over.of_busy hk₃ hrecording
  | ok u =>
    refine Prog.under_bind (((hP.waitForEnd (h₃ () rfl)).steady waitForEnd_steady).mono
      fun r s₄ k₄ h₄ => ?_)
    obtain ⟨rfl, hk₄, h₄⟩ := h₄
    cases r with
    | error err => exact Over.of_busy hk₄ hrecording
    | ok ending =>
      refine hP.busy_bind hrecording port_steady (Prog.only_atomic rfl) (h₄ ending rfl)
        fun endedAt k₅ h₅ => ?_
      refine Prog.under_bind (Prog.under_atomic fun e k₆ hs₆ => ?_)
      refine hP.busy_bind hfinalizing callIf_steady (only_callIf rfl) (hP.untold rfl hs₆ h₅)
        fun _ k₇ h₇ => ?_
      exact hP.finish hstop hcontext h₇ hfinalizing

/-- A part of `run_once` before the recording that stays in a phase. -/
theorem Sound.rest_bind (hP : P.Sound serve) {q : EpisodeProg β} {g : β → EpisodeProg α}
    (hq : q.Only Untold) (h : P.holds p k) (hrest : ∀ k, P.holds p k → P.holds .rest k)
    (hg : ∀ b s k', P.holds p k' → (g b).Under serve s k' fun _ => P.Over) :
    (q >>= g).Under serve s k fun _ => P.Over :=
  hP.stays_bind hq h (fun _ _ k h => Over.of_rest hP (hrest k h)) hg

theorem Sound.runOnce (hP : P.Sound serve) (hstart : rt.recordingStartedHook = true)
    (hstop : rt.recordingStoppingHook = true)
    (hcontext : rt.metadataContextProvider = false → ∀ startedNs ending k,
      P.holds (.stopped startedNs ending) k → P.holds (.described startedNs ending) k)
    {request : EpisodeRequest} {n : ℕ} (h : P.Over s k) :
    (rt.runOnce n request).Under serve s k fun _ => P.Over := by
  unfold EpisodeRuntime.runOnce
  refine Prog.under_bind (Prog.under_atomic fun e k₁ hs₁ => ?_)
  have h₁ : P.Over s k₁ :=
    ⟨hP.untold_kept rfl hs₁ h.1, fun hready => hP.untold rfl hs₁ (h.2 hready)⟩
  dsimp only
  split_ifs with hready
  · exact Prog.under_raise h₁
  have hrest : ∀ k, P.holds .rest k → P.holds .rest k := fun _ h => h
  have hwait : (EpisodeRuntime.waitForStart n).Under serve s k₁ fun _ _ => P.holds .rest := by
    have honly : (EpisodeRuntime.waitForStart n).Only fun l =>
        Untold l ∨ l = .triggerWait .start :=
      EpisodeRuntime.waitForStart_only (.inl rfl) (.inr rfl) (.inl rfl)
    refine Prog.under_only honly (fun k l a k' hl h hs => ?_) (h₁.2 (not_not.1 hready))
    rcases hl with hl | rfl
    · exact hP.untold hl hs h
    · exact hP.awaited hs h
  refine Prog.under_bind (hwait.mono fun r s₂ k₂ h₂ => ?_)
  cases r with
  | error err => exact Over.of_rest hP h₂
  | ok u =>
    refine hP.rest_bind (only_callIf rfl) h₂ hrest fun _ s₃ k₃ h₃ => ?_
    refine hP.rest_bind (Prog.only_atomic rfl) h₃ hrest fun episodeId s₄ k₄ h₄ => ?_
    refine hP.rest_bind (Prog.only_atomic rfl) h₄ hrest fun pending s₅ k₅ h₅ => ?_
    refine hP.rest_bind (Prog.only_atomic rfl) h₅ hrest fun startedAt s₆ k₆ h₆ => ?_
    refine Prog.under_bind (under_port (fun a k₇ hraises hs => ?_) fun a err k₇ _ hs => ?_)
    · have h₇ : P.holds (.prepared a.monotonicNs) k₇ := (hP.prepared hs h₆).2 hraises
      have hunprepared : ∀ k, P.holds (.prepared a.monotonicNs) k → P.holds .rest k :=
        fun _ => hP.unprepared
      refine hP.rest_bind (Prog.only_atomic rfl) h₇ hunprepared fun _ s₈ k₈ h₈ => ?_
      have hmonitor : (Prog.tryCatch (callPort (.monitorStart request.streams)) fun err => do
          callPort (.backendStop .monitorFailed)
          .raise err).Only Untold :=
        Prog.only_tryCatch (Prog.only_atomic rfl) fun err =>
          Prog.only_bind (Prog.only_atomic rfl) fun _ => trivial
      exact hP.rest_bind hmonitor h₈ hunprepared fun _ s₉ k₉ h₉ => hP.record hstart hstop hcontext h₉
    · exact Over.of_rest hP (hP.prepared hs h₆).1

/-- Episode after Episode. -/
theorem Sound.session (hP : P.Sound serve) (hstart : rt.recordingStartedHook = true)
    (hstop : rt.recordingStoppingHook = true)
    (hcontext : rt.metadataContextProvider = false → ∀ startedNs ending k,
      P.holds (.stopped startedNs ending) k → P.holds (.described startedNs ending) k)
    {n : ℕ} {requests : List EpisodeRequest} (h : P.Over s k) :
    (rt.session n requests).Under serve s k fun _ => P.Over := by
  induction requests generalizing s k with
  | nil => exact Prog.under_pure h
  | cons request requests ih =>
    exact Prog.under_andThen ((hP.runOnce hstart hstop hcontext h).mono fun _ s₁ k₁ h₁ => ih h₁)

end Phases

end DualCollection
