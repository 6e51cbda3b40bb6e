import DualCollection.Production.Session
import DualCollection.Thread.Ledger

/-!
# What a failed start leaves running

The resources of a production Session are the hardware lease, the raised memory limit, the CAN
interfaces, the context, the node, the executor and the thread of the readiness gate, the stream
monitor, the home controller and the managed processes.  A call opens a resource if it returns, and
the `Ledger` of a run lists what was opened and closed.

`ProductionSession.start` means to release everything when one of its calls raises.  It does, but
for two places: what `SystemBringup.start` has brought up is not yet known to the Session while its
results are reported, and `RosReadinessGate.start` does not undo its own steps
(`start_released_iff`).
-/

namespace DualCollection

namespace Production

open Thread

/-! ### The ledger of a run -/

/-- What can be left running. -/
inductive Resource
  | lease
  | usbfs
  | can (arm : ArmConfig)
  | context
  | node
  | executor
  | thread
  | monitor
  | home
  | process (name : String)
  deriving DecidableEq

/-- The processes come before the readiness gate, and everything before the system. -/
def Resource.rank : Resource → ℕ
  | lease | usbfs | can _ => 2
  | context | node | executor | thread => 1
  | monitor | home | process _ => 0

/-- What a call does to the resources: it opens one if it returns. -/
def entry (x : SessionCall × SessionAnswer) : Entry Resource :=
  let opens (r : Resource) : Entry Resource := if x.2.raises.isNone then .opens r else .other
  let ends (r : Resource) : Entry Resource := if x.2.holds then .other else .ends r
  match x.1 with
  | .leaseFlock => opens .lease
  | .usbfsRaise _ => opens .usbfs
  | .slcandStart arm => opens (.can arm)
  | .rclpyInit => opens .context
  | .createNode => opens .node
  | .newExecutor => opens .executor
  | .startThread => opens .thread
  | .monitorOpen => opens .monitor
  | .homeOpen => opens .home
  | .processStart name => opens (.process name)
  | .leaseUnlock => .closes .lease
  | .usbfsRestore _ => .closes .usbfs
  | .slcandStop arm => .closes (.can arm)
  | .contextShutdown => .closes .context
  | .destroyNode => .closes .node
  | .executorShutdown => .closes .executor
  | .joinThread => .closes .thread
  | .monitorClose => .closes .monitor
  | .homeClose => .closes .home
  | .processStop name => .closes (.process name)
  | .contextOk => ends .context
  | .processRunning name => ends (.process name)
  | _ => .other

/-- The calls that take something down. -/
def SessionCall.undoes : SessionCall → Bool
  | leaseUnlock | leaseClose | usbfsRestore _ | linkDown _ | slcandStop _ | contextOk
  | contextShutdown | destroyNode | executorShutdown | joinThread | threadIsAlive | monitorClose
  | homeClose | processRunning _ | processStop _ => true
  | _ => false

/-- A call that takes something down does so. -/
def Undone (x : SessionCall × SessionAnswer) : Prop :=
  x.1.undoes = true → x.2.raises = none ∧ (x.1 = .threadIsAlive → x.2.holds = false)

/-- A call that raises where nothing is taken down: what the system has brought up is being
reported, or the context of the readiness gate is up. -/
def strands (x : SessionCall × SessionAnswer) : Bool :=
  match x.1 with
  | .checkSink .systemStart _ | .createNode | .createSubscription | .newExecutor | .addNode
  | .newThread | .startThread => x.2.raises.isSome
  | _ => false

/-- What is known of the calls so far. -/
structure Books where
  /-- What was opened and closed. -/
  ledger : Ledger Resource := {}
  /-- Whether a call has stranded something. -/
  stranded : Bool := false

/-- Note a call. -/
def Books.note (k : Books) (x : SessionCall × SessionAnswer) : Books :=
  ⟨k.ledger.enter (entry x), strands x || k.stranded⟩

/-- The ledger of a run. -/
def ledgerOf (tr : List (SessionCall × SessionAnswer)) : Ledger Resource :=
  tr.foldl (fun k x => k.enter (entry x)) {}

/-- Every call is noted, and nothing that is taken down stays up. -/
def notes (k : Books) (x : SessionCall × SessionAnswer) (k' : Books) : Prop :=
  k' = k.note x ∧ Undone x

variable {α : Type} {s : SessionState} {k : Books} {l : SessionCall}

/-! ### Calls -/

theorem under_ask {read : SessionAnswer → α} {Q : Except SessionError α → SessionState → Books → Prop}
    (hok : ∀ a, a.raises = none → Undone (l, a) → Q (.ok (read a)) s (k.note (l, a)))
    (herr : ∀ a err, a.raises = some err → Undone (l, a) → Q (.error err) s (k.note (l, a))) :
    (ask l read).Under notes s k Q :=
  Prog.under_atomic fun a k' h => by
    obtain ⟨rfl, hundone⟩ := h
    cases ha : a.raises with
    | none => exact hok a ha hundone
    | some err => exact herr a err ha hundone

/-- A call that takes something down. -/
theorem under_undo {read : SessionAnswer → α} {Q : Except SessionError α → SessionState → Books → Prop}
    (hl : l.undoes = true)
    (hok : ∀ a, (l = .threadIsAlive → a.holds = false) → Q (.ok (read a)) s (k.note (l, a))) :
    (ask l read).Under notes s k Q := by
  refine under_ask (fun a _ hundone => hok a (hundone hl).2) fun a err ha hundone => ?_
  rw [(hundone hl).1] at ha
  cases ha

theorem under_attributes {Q : Except SessionError SessionState → SessionState → Books → Prop}
    (h : Q (.ok s) s k) : attributes.Under notes s k Q :=
  Prog.under_atomic fun a k' hk => by
    obtain ⟨rfl, -⟩ := hk
    exact h

theorem under_assign {f : SessionState → SessionState}
    {Q : Except SessionError Unit → SessionState → Books → Prop} (h : Q (.ok ()) (f s) k) :
    (assign f).Under notes s k Q :=
  Prog.under_atomic fun a k' hk => by
    obtain ⟨rfl, -⟩ := hk
    exact h

/-- The call leaves the books alone. -/
def Quiet (l : SessionCall) : Prop := ∀ a k, Books.note k (l, a) = k

/-- A program that changes nothing. -/
structure Idles (p : SessionProg α) : Prop where
  steady : p.Steady
  quiet : p.Only Quiet

theorem Idles.under_post {p : SessionProg α} (hp : Idles p) {P : Except SessionError α → Prop}
    (hpost : p.Post s fun r _ => P r) {Q : Except SessionError α → SessionState → Books → Prop}
    (h : ∀ r, P r → Q r s k) : p.Under notes s k Q := by
  intro tr r s' k' hrun hserved
  have hr := hpost tr r s' hrun
  obtain rfl := hp.steady s tr r s' hrun
  have hk : k' = k := by
    refine Prog.under_only (J := fun k' => k' = k) hp.quiet ?_ rfl tr r s' k' hrun hserved
    rintro k₁ l a k₂ hl rfl ⟨rfl, -⟩
    exact hl a k₁
  rw [hk]
  exact h r hr

theorem Idles.under {p : SessionProg α} (hp : Idles p)
    {Q : Except SessionError α → SessionState → Books → Prop} (h : ∀ r, Q r s k) :
    p.Under notes s k Q :=
  hp.under_post (P := fun _ => True) (fun _ _ _ _ => trivial) fun r _ => h r

theorem idles_ret {r : Except SessionError α} : Idles (.ret r) := ⟨Prog.steady_ret, trivial⟩

theorem idles_ask {read : SessionAnswer → α} (hl : Quiet l) : Idles (ask l read) where
  steady := Prog.steady_atomic fun a s => by cases a.raises <;> rfl
  quiet := Prog.only_atomic hl

theorem idles_attributes : Idles attributes where
  steady := Prog.steady_atomic fun _ _ => rfl
  quiet := Prog.only_atomic fun _ _ => rfl

theorem idles_bind {β : Type} {p : SessionProg α} {f : α → SessionProg β} (hp : Idles p)
    (hf : ∀ a, Idles (f a)) : Idles (p >>= f) where
  steady := Prog.steady_bind hp.steady fun a => (hf a).steady
  quiet := Prog.only_bind hp.quiet fun a => (hf a).quiet

theorem idles_tryCatch {p : SessionProg α} {h : SessionError → SessionProg α} (hp : Idles p)
    (hh : ∀ err, Idles (h err)) : Idles (p.tryCatch h) where
  steady := Prog.steady_tryCatch hp.steady fun err => (hh err).steady
  quiet := Prog.only_tryCatch hp.quiet fun err => (hh err).quiet

theorem idles_loop {body : SessionProg (Option α)} {n : ℕ} (hbody : Idles body) :
    Idles (.loop n body) where
  steady := Prog.steady_loop hbody.steady
  quiet := Prog.only_loop hbody.quiet

theorem idles_forEach {body : α → SessionProg Unit} (hbody : ∀ x, Idles (body x)) (xs : List α) :
    Idles (forEach body xs) := by
  induction xs with
  | nil => exact idles_ret
  | cons x xs ih => exact idles_bind (hbody x) fun _ => ih

theorem idles_report {site : ReportSite} {results : List CheckResult} (h : site ≠ .systemStart) :
    Idles (report site results) :=
  idles_forEach (fun result => idles_ask fun a k => by cases site <;> first | rfl | exact absurd rfl h) _

theorem idles_requirePassed {results : List CheckResult} : Idles (requirePassed results) := by
  unfold requirePassed
  split
  · exact idles_ret
  · exact idles_ret

theorem idles_diskCheck {minFreeBytes : ℕ} {phase : CheckPhase} : Idles (diskCheck minFreeBytes phase) :=
  idles_bind (idles_ask fun _ _ => rfl) fun _ =>
    idles_bind (idles_ask fun _ _ => rfl) fun _ => idles_ret

theorem UsbfsManager.idles_check {requiredMb : ℤ} : Idles (check requiredMb) := by
  refine idles_tryCatch (idles_bind (idles_ask fun _ _ => rfl) fun _ => idles_ret) fun err => ?_
  split
  · exact idles_ret
  · exact idles_ret

namespace CanInterfaceManager

variable {interface : CanInterfaceManager} {n : ℕ}

theorem idles_check : Idles interface.check := by
  refine idles_bind (idles_ask fun _ _ => rfl) fun running => ?_
  split
  · exact idles_ret
  · refine idles_bind (idles_ask fun _ _ => rfl) fun result => ?_
    split
    · exact idles_ret
    · exact idles_ret

theorem idles_awaitRound {deadline : ℚ} : Idles (interface.awaitRound deadline) := by
  refine idles_bind (idles_ask fun _ _ => rfl) fun now => ?_
  split
  · refine idles_bind (idles_ask fun _ _ => rfl) fun _ => ?_
    refine idles_bind (idles_ask fun _ _ => rfl) fun code => ?_
    split
    · exact idles_ret
    · exact idles_bind (idles_ask fun _ _ => rfl) fun _ => idles_ret
  · exact idles_ret

theorem idles_bringUp : Idles (interface.bringUp n) := by
  refine idles_bind (idles_ask fun _ _ => rfl) fun now => ?_
  refine idles_bind (idles_loop idles_awaitRound) fun _ => ?_
  refine idles_bind (idles_ask fun _ _ => rfl) fun _ => idles_bind idles_check fun result => ?_
  split
  · exact idles_ret
  · exact idles_ret

end CanInterfaceManager

theorem SystemBringup.idles_checkInterfaces (interfaces : List CanInterfaceManager) :
    Idles (checkInterfaces interfaces) := by
  induction interfaces with
  | nil => exact idles_ret
  | cons interface interfaces ih =>
    exact idles_bind CanInterfaceManager.idles_check fun _ => idles_bind ih fun _ => idles_ret

theorem RosProcessSupervisor.idles_requireRunning : Idles requireRunning :=
  idles_bind idles_attributes fun _ => idles_forEach (fun _ => idles_ask fun _ _ => rfl) _

namespace RosReadinessGate

variable {streamIds : List String}

theorem idles_awaitPassed {processCheck : SessionProg Unit} (hcheck : Idles processCheck)
    {deadline : ℚ} (n : ℕ) (last : List CheckResult) :
    Idles (awaitPassed streamIds processCheck deadline n last) := by
  induction n generalizing last with
  | zero => exact ⟨Prog.steady_halt, trivial⟩
  | succ n ih =>
    refine idles_bind (idles_ask fun _ _ => rfl) fun now => ?_
    split
    · refine idles_bind hcheck fun _ => idles_bind (idles_ask fun _ _ => rfl) fun results => ?_
      split
      · exact idles_ret
      · exact idles_bind (idles_ask fun _ _ => rfl) fun _ => ih _
    · refine idles_bind ?_ fun _ => idles_ret
      unfold lastResults
      split
      · exact idles_ask fun _ _ => rfl
      · exact idles_ret

theorem idles_waitFor {timeoutS : ℚ} {processCheck : SessionProg Unit} (hcheck : Idles processCheck)
    {n : ℕ} : Idles (waitFor streamIds timeoutS processCheck n) :=
  idles_bind (idles_ask fun _ _ => rfl) fun _ => idles_awaitPassed hcheck n []

theorem idles_requireReady : Idles (requireReady streamIds) :=
  idles_bind (idles_ask fun _ _ => rfl) fun _ => idles_bind idles_requirePassed fun _ => idles_ret

end RosReadinessGate

namespace ProductionSession

variable {session : ProductionSession}

theorem idles_checkStation : Idles session.checkStation := by
  refine idles_bind (idles_ask fun _ _ => rfl) fun identities => ?_
  refine idles_bind idles_requirePassed fun _ => idles_bind (idles_report (by simp)) fun _ => ?_
  refine idles_bind idles_diskCheck fun disk => ?_
  exact idles_bind idles_requirePassed fun _ => idles_report (by simp)

theorem idles_preEpisodeCheck : Idles session.preEpisodeCheck := by
  refine idles_bind RosProcessSupervisor.idles_requireRunning fun _ => ?_
  refine idles_bind (idles_bind UsbfsManager.idles_check fun _ => idles_bind idles_attributes
    fun s => idles_bind (SystemBringup.idles_checkInterfaces _) fun _ => idles_ret) fun checks => ?_
  refine idles_bind idles_requirePassed fun _ => idles_bind (idles_report (by simp)) fun _ => ?_
  refine idles_bind RosReadinessGate.idles_requireReady fun _ => ?_
  refine idles_bind (idles_ask fun _ _ => rfl) fun _ => idles_bind (idles_report (by simp)) fun _ => ?_
  refine idles_bind idles_diskCheck fun disk => ?_
  exact idles_bind idles_requirePassed fun _ => idles_report (by simp)

end ProductionSession

/-! ### The system comes up and goes down -/

/-- What the system holds. -/
def SessionState.system (s : SessionState) : Resource → Prop
  | .lease => s.lease = true
  | .usbfs => s.usbfsChanged = true
  | .can arm => ∃ interface ∈ s.interfaces, interface.arm = arm
  | _ => False

theorem system_congr {s s' : SessionState} (hlease : s'.lease = s.lease)
    (hchanged : s'.usbfsChanged = s.usbfsChanged) (hinterfaces : s'.interfaces = s.interfaces) :
    s'.system = s.system := by
  funext r
  cases r <;> simp [SessionState.system, hlease, hchanged, hinterfaces]

/-- The system can be taken down. -/
structure SessionState.SystemSound (s : SessionState) : Prop where
  /-- The interfaces are those of different arms. -/
  interfaces : (s.interfaces.map CanInterfaceManager.arm).Nodup
  /-- The limit that is put back is known. -/
  original : s.usbfsChanged = true → s.usbfsOriginalMb.isSome = true

/-- The balance of the books. -/
abbrev Books.Accounts (k : Books) (held : Resource → Prop) (n : ℕ) : Prop :=
  k.ledger.Accounts Resource.rank held n

section Down

variable {held O : Resource → Prop} {n : ℕ}

/-- A resource is closed. -/
theorem under_close {r : Resource} {stranded : Bool} (hl : l.undoes = true)
    (hentry : ∀ a, entry (l, a) = .closes r) (hstrands : ∀ a, strands (l, a) = false)
    (h : k.Accounts held n) (hr : held r) (hn : n ≤ r.rank) (hk : k.stranded = stranded)
    {Q : Except SessionError Unit → SessionState → Books → Prop}
    (hQ : ∀ k' : Books, k'.Accounts (fun x => held x ∧ x ≠ r) r.rank → k'.stranded = stranded →
      Q (.ok ()) s k') :
    (call l).Under notes s k Q := by
  refine under_undo hl fun a _ => hQ _ ?_ ?_
  · show (k.ledger.enter (entry (l, a))).Accounts _ _ _
    rw [hentry]
    exact h.closes hr hn
  · show (strands (l, a) || k.stranded) = _
    rw [hstrands, hk]
    rfl

/-- The interfaces are stopped. -/
theorem SystemBringup.under_stopInterfaces {stranded : Bool} {interfaces : List CanInterfaceManager}
    (hnodup : (interfaces.map CanInterfaceManager.arm).Nodup)
    (hother : ∀ arm, ¬ O (.can arm))
    (h : k.Accounts (fun r => (∃ i ∈ interfaces, r = .can i.arm) ∨ O r) n) (hn : n ≤ 2)
    (hk : k.stranded = stranded) :
    (stopInterfaces interfaces).Under notes s k fun r s' k' =>
      (∃ errors, r = .ok errors) ∧ s' = s ∧ k'.Accounts O 2 ∧ k'.stranded = stranded := by
  induction interfaces generalizing n k with
  | nil =>
    refine Prog.under_pure ⟨⟨_, rfl⟩, rfl, (h.congr fun r => ?_).mono hn, hk⟩
    simp
  | cons interface interfaces ih =>
    rw [List.map_cons, List.nodup_cons] at hnodup
    refine Prog.under_bind (Prog.under_tryCatch (Prog.under_bind (Prog.under_bind ?_)))
    refine under_undo rfl fun a _ => ?_
    refine under_close rfl (fun _ => rfl) (fun _ => rfl) h (.inl ⟨interface, by simp, rfl⟩) hn hk ?_
    intro k' hk' hstranded
    refine Prog.under_pure (Prog.under_bind ((ih hnodup.2 (hk'.congr fun r => ?_) le_rfl
      hstranded).mono ?_))
    · constructor
      · rintro ⟨⟨i, hi, rfl⟩ | hr, hne⟩
        · rcases List.mem_cons.1 hi with rfl | hi
          · exact absurd rfl hne
          · exact .inl ⟨i, hi, rfl⟩
        · exact .inr hr
      · rintro (⟨i, hi, rfl⟩ | hr)
        · refine ⟨.inl ⟨i, List.mem_cons_of_mem _ hi, rfl⟩, ?_⟩
          intro heq
          exact hnodup.1 (List.mem_map.2 ⟨i, hi, Resource.can.inj heq⟩)
        · refine ⟨.inr hr, ?_⟩
          rintro rfl
          exact hother _ hr
    · rintro r s' k'' ⟨⟨errors, rfl⟩, rfl, hk'', hstranded'⟩
      exact Prog.under_pure ⟨⟨_, rfl⟩, rfl, hk'', hstranded'⟩

theorem UsbfsManager.under_putBack {stranded : Bool}
    (hsound : s.usbfsChanged = true → s.usbfsOriginalMb.isSome = true) (hother : ¬ O .usbfs)
    (h : k.Accounts (fun r => (r = .usbfs ∧ s.usbfsChanged = true) ∨ O r) 2)
    (hk : k.stranded = stranded) :
    putBack.Under notes s k fun r s' k' =>
      r = .ok () ∧ s' = { s with usbfsChanged := false } ∧ k'.Accounts O 2 ∧
        k'.stranded = stranded := by
  have hunchanged (hchanged : s.usbfsChanged = false) : s = { s with usbfsChanged := false } ∧
      k.Accounts O 2 ∧ k.stranded = stranded :=
    ⟨by rw [← hchanged], h.congr fun r => by simp [hchanged], hk⟩
  refine Prog.under_bind (under_attributes ?_)
  dsimp only
  split
  · rename_i hnone
    refine Prog.under_pure ⟨rfl, hunchanged ?_⟩
    by_contra hchanged
    have hsome := hsound (by simpa using hchanged)
    rw [hnone] at hsome
    cases hsome
  · split
    · rename_i hchanged
      refine Prog.under_bind (under_close rfl (fun _ => rfl) (fun _ => rfl) h (.inl ⟨rfl, hchanged⟩)
        le_rfl hk fun k' hk' hstranded => under_assign ⟨rfl, rfl, hk'.congr fun r => ?_, hstranded⟩)
      constructor
      · rintro ⟨⟨rfl, -⟩ | hr, hne⟩
        · exact absurd rfl hne
        · exact hr
      · intro hr
        refine ⟨.inr hr, ?_⟩
        rintro rfl
        exact hother hr
    · rename_i hchanged
      exact Prog.under_pure ⟨rfl, hunchanged (by simpa using hchanged)⟩

theorem HardwareLease.under_release {stranded : Bool} (hother : ¬ O .lease)
    (h : k.Accounts (fun r => (r = .lease ∧ s.lease = true) ∨ O r) 2)
    (hk : k.stranded = stranded) :
    release.Under notes s k fun r s' k' =>
      r = .ok () ∧ s' = { s with lease := false } ∧ k'.Accounts O 2 ∧ k'.stranded = stranded := by
  refine Prog.under_bind (under_attributes ?_)
  dsimp only
  cases hlease : s.lease with
  | false =>
    have hs : s = { s with lease := false } := by rw [← hlease]
    exact Prog.under_pure ⟨rfl, hs, h.congr fun r => by simp [hlease], hk⟩
  | true =>
    refine Prog.under_bind (under_close rfl (fun _ => rfl) (fun _ => rfl) h (.inl ⟨rfl, hlease⟩)
      le_rfl hk fun k' hk' hstranded => ?_)
    refine Prog.under_bind (under_undo rfl fun a _ => under_assign ⟨rfl, rfl, hk'.congr fun r => ?_,
      hstranded⟩)
    constructor
    · rintro ⟨⟨rfl, -⟩ | hr, hne⟩
      · exact absurd rfl hne
      · exact hr
    · intro hr
      refine ⟨.inr hr, ?_⟩
      rintro rfl
      exact hother hr

/-- The limit is put back, and what is raised on the way is a result. -/
theorem UsbfsManager.under_restore {stranded : Bool}
    (hsound : s.usbfsChanged = true → s.usbfsOriginalMb.isSome = true) (hother : ¬ O .usbfs)
    (h : k.Accounts (fun r => (r = .usbfs ∧ s.usbfsChanged = true) ∨ O r) 2)
    (hk : k.stranded = stranded) :
    (restore.tryCatch fun err => pure ⟨"usbfs_restore", .shutdown, false, err.text⟩).Under notes s k
      fun r s' k' => (∃ result, r = .ok result) ∧ s' = { s with usbfsChanged := false } ∧
        k'.Accounts O 2 ∧ k'.stranded = stranded := by
  refine Prog.under_tryCatch (Prog.under_bind ((under_putBack hsound hother h hk).mono ?_))
  rintro r s' k₁ ⟨rfl, rfl, hk₁, hstranded₁⟩
  have hread : Idles (do
      let current ← read
      let s ← attributes
      pure (⟨"usbfs_restore", .shutdown, s.usbfsOriginalMb.all (current = ·),
        "usbfs_memory_mb=" ++ toString current⟩ : CheckResult)) :=
    idles_bind (idles_ask fun _ _ => rfl) fun _ => idles_bind idles_attributes fun _ => idles_ret
  refine hread.under fun r => ?_
  cases r with
  | ok result => exact ⟨⟨result, rfl⟩, rfl, hk₁, hstranded₁⟩
  | error err => exact Prog.under_pure ⟨⟨_, rfl⟩, rfl, hk₁, hstranded₁⟩

/-- The system is taken down. -/
theorem SystemBringup.under_stop {stranded : Bool} (hsound : s.SystemSound)
    (hother : ∀ r, O r → r.rank ≠ 2)
    (h : k.Accounts (fun r => s.system r ∨ O r) n) (hn : n ≤ 2) (hk : k.stranded = stranded) :
    stop.Under notes s k fun r s' k' =>
      (∃ results, r = .ok results) ∧
        s' = { s with interfaces := [], usbfsChanged := false, lease := false } ∧
        k'.Accounts O 2 ∧ k'.stranded = stranded := by
  -- What is held besides the limit and the interfaces, and what is held besides the interfaces.
  let rest (r : Resource) : Prop := (r = .lease ∧ s.lease = true) ∨ O r
  let beyond (r : Resource) : Prop := (r = .usbfs ∧ s.usbfsChanged = true) ∨ rest r
  have hrest : ¬ rest .usbfs := by
    rintro (⟨heq, -⟩ | husbfs)
    · cases heq
    · exact hother _ husbfs rfl
  have hcan (arm : ArmConfig) : ¬ beyond (.can arm) := by
    rintro (⟨heq, -⟩ | ⟨heq, -⟩ | harm)
    · cases heq
    · cases heq
    · exact hother _ harm rfl
  have hnodup : (s.interfaces.reverse.map CanInterfaceManager.arm).Nodup := by
    rw [List.map_reverse, List.nodup_reverse]
    exact hsound.interfaces
  refine Prog.under_bind (under_attributes (Prog.under_bind ((under_stopInterfaces (O := beyond)
    hnodup hcan (h.congr fun r => ?_) hn hk).mono ?_)))
  · cases r with
    | can arm => simp [beyond, rest, SessionState.system, eq_comm (a := arm)]
    | _ => simp [beyond, rest, SessionState.system]
  · rintro r s' k₁ ⟨⟨errors, rfl⟩, rfl, hk₁, hstranded₁⟩
    refine Prog.under_bind (under_assign (Prog.under_bind ((UsbfsManager.under_restore
      (s := { s' with interfaces := [] }) hsound.original hrest hk₁ hstranded₁).mono ?_)))
    rintro r s'' k₂ ⟨⟨restore, rfl⟩, rfl, hk₂, hstranded₂⟩
    refine Prog.under_bind ((HardwareLease.under_release
      (s := { s' with interfaces := [], usbfsChanged := false }) (fun hlease => hother _ hlease rfl)
      hk₂ hstranded₂).mono ?_)
    rintro r s'' k₃ ⟨rfl, rfl, hk₃, hstranded₃⟩
    exact Prog.under_pure ⟨⟨_, rfl⟩, rfl, hk₃, hstranded₃⟩

end Down

section Up

variable {held : Resource → Prop}

/-- So far only resources were opened, and those are held. -/
structure Books.Up (k : Books) (held : Resource → Prop) : Prop where
  opening : k.ledger.Opening held
  stranded : k.stranded = false

theorem Books.Up.congr {held' : Resource → Prop} (h : k.Up held) (heq : ∀ r, held r ↔ held' r) :
    k.Up held' := ⟨h.opening.congr heq, h.stranded⟩

theorem Books.Up.accounts {n : ℕ} (h : k.Up held) : k.Accounts held n := h.opening.accounts

/-- A resource is opened, unless the call raises. -/
theorem under_open {r : Resource} {Q : Except SessionError Unit → SessionState → Books → Prop}
    (hentry : ∀ a, entry (l, a) = if a.raises.isNone then .opens r else .other)
    (hstrands : ∀ a, a.raises = none → strands (l, a) = false) (h : k.Up held)
    (hok : ∀ k' : Books, k'.Up (fun x => held x ∨ x = r) → Q (.ok ()) s k')
    (herr : ∀ a err, a.raises = some err → Q (.error err) s ⟨k.ledger, strands (l, a) || k.stranded⟩) :
    (call l).Under notes s k Q := by
  refine under_ask (fun a ha _ => hok _ ⟨?_, ?_⟩) fun a err ha _ => ?_
  · show (k.ledger.enter (entry (l, a))).Opening _
    rw [hentry, ha]
    exact h.opening.opens
  · show (strands (l, a) || k.stranded) = _
    rw [hstrands a ha, h.stranded]
    rfl
  · have hnote : k.note (l, a) = ⟨k.ledger, strands (l, a) || k.stranded⟩ := by
      rw [Books.note, hentry, ha]
      rfl
    rw [hnote]
    exact herr a err ha

theorem HardwareLease.under_acquire (hs : s.lease = false) (h : k.Up fun _ => False) :
    acquire.Under notes s k fun r s' k' => match r with
      | .ok _ => s' = { s with lease := true } ∧ k'.Up (· = .lease)
      | .error _ => s' = s ∧ k'.Accounts (fun _ => False) 2 ∧ k'.stranded = false := by
  have hsame : { s with lease := false } = s := by rw [← hs]
  have hfail (err : SessionError) : (.error err : Except SessionError Unit) = .error err ∧ s = s ∧
      k.Accounts (fun _ => False) 2 ∧ k.stranded = false := ⟨rfl, rfl, h.accounts, h.stranded⟩
  refine Prog.under_bind (under_attributes ?_)
  dsimp only
  rw [if_neg (by simp [hs])]
  refine Prog.under_bind ((idles_ask fun _ _ => rfl).under fun r => ?_)
  cases r with
  | error err => exact (hfail err).2
  | ok _ =>
    refine Prog.under_bind ((idles_ask fun _ _ => rfl).under fun r => ?_)
    cases r with
    | error err => exact (hfail err).2
    | ok _ =>
      refine Prog.under_bind (Prog.under_tryCatch (under_open (fun _ => rfl) (fun _ _ => rfl) h
        (fun k₁ hk₁ => ?_) fun a err ha => ?_))
      · -- The lock is held: what is raised from here on releases it.
        refine Prog.under_bind (under_assign (Prog.under_tryCatch ((idles_ask fun _ _ => rfl).under
          fun r => ?_)))
        have hlease : k₁.Up (· = .lease) := hk₁.congr fun r => by simp
        cases r with
        | ok _ => exact ⟨rfl, hlease⟩
        | error err =>
          refine Prog.under_bind ((under_release (O := fun _ => False) (by simp)
            (hlease.accounts.congr fun r => by simp) hlease.stranded).mono ?_)
          rintro r s' k₂ ⟨rfl, rfl, hk₂, hstranded₂⟩
          exact Prog.under_raise ⟨hsame, hk₂, hstranded₂⟩
      · dsimp only
        split
        · exact Prog.under_bind (under_undo rfl fun a' _ => Prog.under_raise (hfail err).2)
        · exact Prog.under_raise (hfail err).2

theorem UsbfsManager.under_apply {requiredMb : ℤ} (hs : s.usbfsChanged = false) (h : k.Up held) :
    (apply requiredMb).Under notes s k fun _ s' k' => ∃ o c,
      s' = { s with usbfsOriginalMb := o, usbfsChanged := c } ∧ (c = true → o.isSome = true) ∧
        k'.Up fun r => held r ∨ (r = .usbfs ∧ c = true) := by
  have hheld {k' : Books} (hk' : k'.Up held) : k'.Up fun r => held r ∨ (r = .usbfs ∧ false = true) :=
    hk'.congr fun r => by simp
  refine Prog.under_bind ((idles_ask fun _ _ => rfl).under fun r => ?_)
  cases r with
  | error err => exact ⟨s.usbfsOriginalMb, false, by rw [← hs], by simp, hheld h⟩
  | ok current =>
    refine Prog.under_bind (under_assign (Prog.under_bind ?_))
    unfold raiseLimit
    split
    · refine Prog.under_bind (under_open (fun _ => rfl) (fun _ _ => rfl) h (fun k₁ hk₁ => ?_)
        fun a err ha => ?_)
      · refine under_assign (idles_check.under fun r => ?_)
        exact ⟨_, true, rfl, fun _ => rfl, hk₁.congr fun r => by simp⟩
      · exact ⟨_, false, by rw [← hs], by simp, hheld ⟨h.opening, h.stranded⟩⟩
    · refine Prog.under_pure (idles_check.under fun r => ?_)
      exact ⟨_, false, by rw [← hs], by simp, hheld h⟩

/-- An interface that has come up passes its check. -/
theorem CanInterfaceManager.bringUp_passed {interface : CanInterfaceManager} {n : ℕ} :
    (interface.bringUp n).Post s fun r _ => ∀ result, r = .ok result → result.passed = true := by
  have hbind {β : Type} {p : SessionProg β} {f : β → SessionProg CheckResult} {s : SessionState}
      (hf : ∀ a s', (f a).Post s' fun r _ => ∀ result, r = .ok result → result.passed = true) :
      (p >>= f).Post s fun r _ => ∀ result, r = .ok result → result.passed = true :=
    Prog.post_bind fun tr r s' _ => by
      cases r with
      | ok a => exact hf a s'
      | error err => simp
  refine hbind fun _ _ => hbind fun _ _ => hbind fun _ _ => hbind fun result _ => ?_
  split
  · rename_i hpassed
    exact Prog.post_ret fun _ heq => by
      cases heq
      exact hpassed
  · exact Prog.post_ret fun _ heq => by cases heq

theorem CanInterfaceManager.under_start {interface : CanInterfaceManager} {n : ℕ}
    (hfresh : ¬ held (.can interface.arm)) (h : k.Up held) :
    (interface.start n).Under notes s k fun r s' k' => s' = s ∧ match r with
      | .ok result => result.passed = true ∧ k'.Up fun r => held r ∨ r = .can interface.arm
      | .error _ => k'.Accounts held 2 ∧ k'.stranded = false := by
  refine Prog.under_bind ((idles_ask fun _ _ => rfl).under fun r => ?_)
  cases r with
  | error err => exact ⟨rfl, h.accounts, h.stranded⟩
  | ok code =>
    dsimp only
    split
    · exact Prog.under_raise ⟨rfl, h.accounts, h.stranded⟩
    · refine Prog.under_bind (under_open (fun _ => rfl) (fun _ _ => rfl) h (fun k₁ hk₁ => ?_)
        fun a err ha => ⟨rfl, h.accounts, h.stranded⟩)
      refine Prog.under_tryCatch (idles_bringUp.under_post bringUp_passed fun r hr => ?_)
      cases r with
      | ok result => exact ⟨rfl, hr result rfl, hk₁⟩
      | error err =>
        refine Prog.under_bind (under_close (n := 2) rfl (fun _ => rfl) (fun _ => rfl) hk₁.accounts
          (.inr rfl) le_rfl hk₁.stranded fun k₂ hk₂ hstranded₂ => ?_)
        refine Prog.under_raise ⟨rfl, hk₂.congr fun r => ?_, hstranded₂⟩
        constructor
        · rintro ⟨hr | hr, hne⟩
          · exact hr
          · exact absurd hr hne
        · intro hr
          refine ⟨.inl hr, ?_⟩
          rintro rfl
          exact hfresh hr

theorem SystemBringup.under_startInterfaces {n : ℕ} {arms : List ArmConfig}
    (hsound : s.usbfsChanged = true → s.usbfsOriginalMb.isSome = true)
    (hnodup : (s.interfaces.map CanInterfaceManager.arm ++ arms).Nodup) (h : k.Up s.system) :
    (startInterfaces n arms).Under notes s k fun r s' k' => (∃ interfaces,
      s' = { s with interfaces }) ∧ s'.SystemSound ∧ match r with
        | .ok _ => k'.Up s'.system
        | .error _ => k'.Accounts s'.system 2 ∧ k'.stranded = false := by
  induction arms generalizing s k with
  | nil =>
    rw [List.append_nil] at hnodup
    exact Prog.under_pure ⟨⟨s.interfaces, rfl⟩, ⟨hnodup, hsound⟩, h⟩
  | cons arm arms ih =>
    have hs : s.SystemSound := ⟨(List.nodup_append.1 hnodup).1, hsound⟩
    have hfresh : ¬ s.system (.can arm) := by
      rintro ⟨i, hi, rfl⟩
      exact (List.nodup_append.1 hnodup).2.2 _ (List.mem_map_of_mem hi) _ List.mem_cons_self rfl
    refine Prog.under_bind ((idles_ask fun _ _ => rfl).under fun r => ?_)
    cases r with
    | error err => exact ⟨⟨s.interfaces, rfl⟩, hs, h.accounts, h.stranded⟩
    | ok ttyPath =>
      refine Prog.under_bind ((CanInterfaceManager.under_start hfresh h).mono ?_)
      rintro r s' k₁ ⟨rfl, hk₁⟩
      cases r with
      | error err => exact ⟨⟨s'.interfaces, rfl⟩, hs, hk₁⟩
      | ok result =>
        dsimp only
        rw [if_pos hk₁.1]
        refine Prog.under_bind (under_assign (Prog.under_bind ((ih
          (s := { s' with interfaces := s'.interfaces ++ [⟨arm, ttyPath⟩] }) hsound ?_
          (hk₁.2.congr fun r => ?_)).mono ?_)))
        · simpa using hnodup
        · cases r with
          | can _ => simp [SessionState.system, or_and_right, exists_or, eq_comm]
          | _ => simp [SessionState.system]
        · rintro r s'' k₂ ⟨⟨interfaces, rfl⟩, hsound₂, hk₂⟩
          cases r with
          | error err => exact ⟨⟨interfaces, rfl⟩, hsound₂, hk₂⟩
          | ok results => exact Prog.under_pure ⟨⟨interfaces, rfl⟩, hsound₂, hk₂⟩

/-- What only the system changes. -/
def SessionState.SameBesideSystem (s s' : SessionState) : Prop := ∃ lease usbfsOriginalMb
  usbfsChanged interfaces, s' = { s with lease, usbfsOriginalMb, usbfsChanged, interfaces }

/-- The system comes up, or nothing of it is left. -/
theorem SystemBringup.under_start {requiredMb : ℤ} {n : ℕ} {arms : List ArmConfig}
    (hidle : s.lease = false ∧ s.usbfsChanged = false ∧ s.interfaces = []) (hnodup : arms.Nodup)
    (h : k.Up fun _ => False) :
    (start requiredMb n arms).Under notes s k fun r s' k' =>
      s.SameBesideSystem s' ∧ s'.SystemSound ∧ match r with
        | .ok _ => s'.lease = true ∧ k'.Up s'.system
        | .error _ => k'.Accounts (fun _ => False) 2 ∧ k'.stranded = false := by
  obtain ⟨hlease, hchanged, hinterfaces⟩ := hidle
  refine Prog.under_bind ((HardwareLease.under_acquire hlease h).mono ?_)
  intro r s₁ k₁ hr
  cases r with
  | error err =>
    obtain ⟨rfl, hk₁⟩ := hr
    exact ⟨⟨_, _, _, _, rfl⟩, ⟨by simp [hinterfaces], by simp [hchanged]⟩, hk₁⟩
  | ok _ =>
    obtain ⟨rfl, hk₁⟩ := hr
    -- What is held when the body ends, however it ends.
    have hbody : (do
        let usbfs ← UsbfsManager.apply requiredMb
        if usbfs.passed then
          let results ← startInterfaces n arms
          pure (usbfs :: results)
        else raiseRuntimeError usbfs.detail : SessionProg (List CheckResult)).Under notes
          { s with lease := true } k₁ fun r s' k' => (∃ usbfsOriginalMb usbfsChanged interfaces,
            s' = { s with lease := true, usbfsOriginalMb, usbfsChanged, interfaces }) ∧
            s'.SystemSound ∧ match r with
              | .ok _ => k'.Up s'.system
              | .error _ => k'.Accounts s'.system 2 ∧ k'.stranded = false := by
      refine Prog.under_bind ((UsbfsManager.under_apply (s := { s with lease := true }) hchanged
        hk₁).mono ?_)
      rintro r s₂ k₂ ⟨o, c, rfl, horiginal, hk₂⟩
      have hsystem : k₂.Up (SessionState.system
          { s with lease := true, usbfsOriginalMb := o, usbfsChanged := c }) :=
        hk₂.congr fun r => by cases r <;> simp [SessionState.system, hinterfaces]
      have hsound : SessionState.SystemSound
          { s with lease := true, usbfsOriginalMb := o, usbfsChanged := c } :=
        ⟨by simp [hinterfaces], horiginal⟩
      cases r with
      | error err => exact ⟨⟨_, _, _, rfl⟩, hsound, hsystem.accounts, hsystem.stranded⟩
      | ok usbfs =>
        dsimp only
        split
        · refine Prog.under_bind ((under_startInterfaces
            (s := { s with lease := true, usbfsOriginalMb := o, usbfsChanged := c }) horiginal
            (by simpa [hinterfaces] using hnodup) hsystem).mono ?_)
          rintro r s₃ k₃ ⟨⟨interfaces, rfl⟩, hsound₃, hk₃⟩
          cases r with
          | error err => exact ⟨⟨_, _, _, rfl⟩, hsound₃, hk₃⟩
          | ok results => exact Prog.under_pure ⟨⟨_, _, _, rfl⟩, hsound₃, hk₃⟩
        · exact Prog.under_raise ⟨⟨_, _, _, rfl⟩, hsound, hsystem.accounts, hsystem.stranded⟩
    refine Prog.under_tryCatch (hbody.mono ?_)
    rintro r s₂ k₂ ⟨⟨o, c, interfaces, rfl⟩, hsound, hk₂⟩
    cases r with
    | ok results => exact ⟨⟨_, _, _, _, rfl⟩, hsound, rfl, hk₂⟩
    | error err =>
      refine Prog.under_bind ((under_stop (O := fun _ => False) hsound (by simp)
        (hk₂.1.congr fun r => by simp) le_rfl hk₂.2).mono ?_)
      rintro r s₃ k₃ ⟨⟨results, rfl⟩, rfl, hk₃⟩
      exact Prog.under_raise ⟨⟨_, _, _, _, rfl⟩, ⟨by simp, by simp⟩, hk₃⟩

end Up

/-! ### The Session goes down -/

section Stop

variable {O : Resource → Prop} {n : ℕ} {stranded : Bool}

/-- A close that may not be needed, and whose exceptions are collected. -/
theorem under_attempt_close {r : Resource} (hl : l.undoes = true)
    (hentry : ∀ a, entry (l, a) = .closes r) (hstrands : ∀ a, strands (l, a) = false)
    (hother : ¬ O r) (h : k.Accounts (fun x => x = r ∨ O x) n) (hn : n ≤ r.rank)
    (hk : k.stranded = stranded) :
    (attempt (call l)).Under notes s k fun x s' k' =>
      x = .ok [] ∧ s' = s ∧ k'.Accounts O r.rank ∧ k'.stranded = stranded := by
  refine Prog.under_tryCatch (Prog.under_bind (under_close hl hentry hstrands h (.inl rfl) hn hk
    fun k' hk' hstranded => Prog.under_pure ⟨rfl, rfl, hk'.congr fun x => ?_, hstranded⟩))
  constructor
  · rintro ⟨hx | hx, hne⟩
    · exact absurd hx hne
    · exact hx
  · intro hx
    refine ⟨.inr hx, ?_⟩
    rintro rfl
    exact hother hx

namespace ProductionSession

theorem under_stopMonitor (hother : ¬ O .monitor) (hn : s.monitorOpen = true → n = 0)
    (h : k.Accounts (fun r => (s.monitorOpen = true ∧ r = .monitor) ∨ O r) n)
    (hk : k.stranded = stranded) :
    stopMonitor.Under notes s k fun x s' k' => (∃ errors, x = .ok errors) ∧
      s' = { s with monitorOpen := false } ∧ k'.Accounts O n ∧ k'.stranded = stranded := by
  refine Prog.under_bind (under_attributes ?_)
  dsimp only
  cases hopen : s.monitorOpen with
  | false =>
    have hs : s = { s with monitorOpen := false } := by rw [← hopen]
    exact Prog.under_pure ⟨⟨_, rfl⟩, hs, h.congr fun r => by simp [hopen], hk⟩
  | true =>
    obtain rfl := hn hopen
    refine Prog.under_bind ((under_attempt_close rfl (fun _ => rfl) (fun _ => rfl) hother
      (h.congr fun r => by simp [hopen]) le_rfl hk).mono ?_)
    rintro x s' k' ⟨rfl, rfl, hk'⟩
    exact Prog.under_bind (under_assign (Prog.under_pure ⟨⟨_, rfl⟩, rfl, hk'⟩))

theorem under_stopHome (hother : ¬ O .home) (hn : s.homeOpen = true → n = 0)
    (h : k.Accounts (fun r => (s.homeOpen = true ∧ r = .home) ∨ O r) n)
    (hk : k.stranded = stranded) :
    stopHome.Under notes s k fun x s' k' => (∃ errors, x = .ok errors) ∧
      s' = { s with homeOpen := false } ∧ k'.Accounts O n ∧ k'.stranded = stranded := by
  refine Prog.under_bind (under_attributes ?_)
  dsimp only
  cases hopen : s.homeOpen with
  | false =>
    have hs : s = { s with homeOpen := false } := by rw [← hopen]
    exact Prog.under_pure ⟨⟨_, rfl⟩, hs, h.congr fun r => by simp [hopen], hk⟩
  | true =>
    obtain rfl := hn hopen
    refine Prog.under_bind ((under_attempt_close rfl (fun _ => rfl) (fun _ => rfl) hother
      (h.congr fun r => by simp [hopen]) le_rfl hk).mono ?_)
    rintro x s' k' ⟨rfl, rfl, hk'⟩
    exact Prog.under_bind (under_assign (Prog.under_pure ⟨⟨_, rfl⟩, rfl, hk'⟩))

end ProductionSession

theorem RosProcessSupervisor.under_stopProcesses {names : List String} (hnodup : names.Nodup)
    (hother : ∀ name, ¬ O (.process name))
    (h : k.Accounts (fun r => (∃ name ∈ names, r = .process name) ∨ O r) 0)
    (hk : k.stranded = stranded) :
    (stopProcesses names).Under notes s k fun x s' k' => (∃ exits, x = .ok (exits, [])) ∧ s' = s ∧
      k'.Accounts O 0 ∧ k'.stranded = stranded := by
  induction names generalizing k with
  | nil => exact Prog.under_pure ⟨⟨_, rfl⟩, rfl, h.congr fun r => by simp, hk⟩
  | cons name names ih =>
    rw [List.nodup_cons] at hnodup
    refine Prog.under_bind (Prog.under_tryCatch (Prog.under_bind (under_undo rfl fun a _ =>
      Prog.under_pure (Prog.under_bind ((ih (k := k.note (.processStop name, a)) hnodup.2 ?_
        hk).mono ?_)))))
    · refine (h.closes (.inl ⟨name, List.mem_cons_self, rfl⟩) le_rfl).congr fun r => ?_
      constructor
      · rintro ⟨⟨i, hi, rfl⟩ | hr, hne⟩
        · rcases List.mem_cons.1 hi with rfl | hi
          · exact absurd rfl hne
          · exact .inl ⟨i, hi, rfl⟩
        · exact .inr hr
      · rintro (⟨i, hi, rfl⟩ | hr)
        · refine ⟨.inl ⟨i, List.mem_cons_of_mem _ hi, rfl⟩, ?_⟩
          rintro heq
          exact hnodup.1 (Resource.process.inj heq ▸ hi)
        · refine ⟨.inr hr, ?_⟩
          rintro rfl
          exact hother _ hr
    · rintro x s' k' ⟨⟨exits, rfl⟩, rfl, hk'⟩
      exact Prog.under_pure ⟨⟨_, rfl⟩, rfl, hk'⟩

namespace ProductionSession

theorem under_stopSupervisor (hnodup : s.processes.Nodup) (hother : ∀ name, ¬ O (.process name))
    (hn : s.processes ≠ [] → n = 0)
    (h : k.Accounts (fun r => (∃ name ∈ s.processes, r = .process name) ∨ O r) n)
    (hk : k.stranded = stranded) :
    stopSupervisor.Under notes s k fun x s' k' => (∃ errors, x = .ok errors) ∧
      s' = { s with processes := [] } ∧ k'.Accounts O n ∧ k'.stranded = stranded := by
  refine Prog.under_bind (under_attributes ?_)
  dsimp only
  split
  · rename_i hprocesses
    obtain rfl := hn hprocesses
    have hreverse : k.Accounts (fun r => (∃ name ∈ s.processes.reverse, r = .process name) ∨ O r) 0 :=
      h.congr fun r => by simp
    refine Prog.under_tryCatch (Prog.under_bind (Prog.under_bind (Prog.under_bind (under_attributes
      (Prog.under_bind ((RosProcessSupervisor.under_stopProcesses (List.nodup_reverse.2 hnodup)
        hother hreverse hk).mono ?_))))))
    rintro x s' k' ⟨⟨exits, rfl⟩, rfl, hk'⟩
    refine Prog.under_bind (under_assign ?_)
    dsimp only
    rw [if_neg (by simp)]
    refine Prog.under_pure ((idles_forEach (fun exit => ?_) exits).under fun r => ?_)
    · unfold warnOfExit
      split
      · exact idles_ask fun _ _ => rfl
      · exact idles_ret
    · cases r with
      | ok _ => exact Prog.under_pure ⟨⟨_, rfl⟩, rfl, hk'⟩
      | error err => exact Prog.under_pure ⟨⟨_, rfl⟩, rfl, hk'⟩
  · rename_i hprocesses
    have hempty : s.processes = [] := by simpa using hprocesses
    have hs : s = { s with processes := [] } := by rw [← hempty]
    exact Prog.under_pure ⟨⟨_, rfl⟩, hs, h.congr fun r => by simp [hempty], hk⟩

end ProductionSession

/-- What the readiness gate holds when it has started. -/
def Resource.ofGate (r : Resource) : Prop := r = .context ∨ r = .node ∨ r = .executor ∨ r = .thread

/-- The context ends, or it is found to have ended. -/
theorem RosReadinessGate.under_shutDownContext
    (h : k.Accounts (fun r => (r = .context ∨ r = .thread) ∨ O r) 1) (hother : ¬ O .context)
    (hk : k.stranded = stranded) :
    (shutDownContext true).Under notes s k fun x s' k' => x = .ok () ∧ s' = s ∧
      k'.Accounts (fun r => r = .thread ∨ O r) 1 ∧ k'.stranded = stranded := by
  have hrest (r : Resource) : ((r = .context ∨ r = .thread) ∨ O r) ∧ r ≠ .context ↔
      r = .thread ∨ O r := by
    constructor
    · rintro ⟨(hr | hr) | hr, hne⟩
      · exact absurd hr hne
      · exact .inl hr
      · exact .inr hr
    · rintro (rfl | hr)
      · exact ⟨.inl (.inr rfl), by simp⟩
      · refine ⟨.inr hr, ?_⟩
        rintro rfl
        exact hother hr
  refine Prog.under_bind (under_undo rfl fun a _ => ?_)
  dsimp only
  cases hok : a.holds with
  | false =>
    have hends : entry (.contextOk, a) = .ends .context := by simp [entry, hok]
    refine Prog.under_pure ⟨rfl, rfl, ?_, hk⟩
    show (k.ledger.enter (entry (.contextOk, a))).Accounts _ _ _
    rw [hends]
    exact (h.ends (.inl (.inl rfl))).congr hrest
  | true =>
    have hother : k.note (.contextOk, a) = k := by simp [Books.note, entry, hok, Ledger.enter, strands]
    rw [hother]
    exact under_close rfl (fun _ => rfl) (fun _ => rfl) h (.inl (.inl rfl)) le_rfl hk
      fun k' hk' hstranded => ⟨rfl, rfl, hk'.congr hrest, hstranded⟩

/-- The readiness gate goes down. -/
theorem RosReadinessGate.under_stop (hother : ∀ r : Resource, r.ofGate → ¬ O r)
    (hs : s.gateContext = true ∧ s.gateNode = true ∧ s.gateExecutor = true ∧ s.gateThread = true)
    (h : k.Accounts (fun r => r.ofGate ∨ O r) n) (hn : n ≤ 1) (hk : k.stranded = stranded) :
    stop.Under notes s k fun x s' k' => x = .ok () ∧
      s' = { s with gateContext := false, gateNode := false, gateExecutor := false,
                    gateThread := false } ∧ k'.Accounts O 1 ∧ k'.stranded = stranded := by
  obtain ⟨hcontext, hnode, hexecutor, hthread⟩ := hs
  refine Prog.under_bind (under_attributes ?_)
  simp only [hcontext, hnode, hexecutor, hthread, callIf, if_true]
  refine Prog.under_bind (under_close (r := .executor) rfl (fun _ => rfl) (fun _ => rfl) h
    (.inl (by simp [Resource.ofGate])) hn hk fun k₁ hk₁ hstranded₁ => ?_)
  refine Prog.under_bind (under_close (r := .node) rfl (fun _ => rfl) (fun _ => rfl) hk₁
    ⟨.inl (by simp [Resource.ofGate]), by simp⟩ le_rfl hstranded₁ fun k₂ hk₂ hstranded₂ => ?_)
  refine Prog.under_bind ((under_shutDownContext (hk₂.congr fun r => ?_) (hother _ (by
    simp [Resource.ofGate])) hstranded₂).mono ?_)
  · constructor
    · rintro ⟨⟨(rfl | rfl | rfl | rfl) | hr, h₁⟩, h₂⟩
      · exact .inl (.inl rfl)
      · exact absurd rfl h₂
      · exact absurd rfl h₁
      · exact .inl (.inr rfl)
      · exact .inr hr
    · rintro ((rfl | rfl) | hr)
      · simp [Resource.ofGate]
      · simp [Resource.ofGate]
      · refine ⟨⟨.inr hr, ?_⟩, ?_⟩
        · rintro rfl
          exact hother _ (by simp [Resource.ofGate]) hr
        · rintro rfl
          exact hother _ (by simp [Resource.ofGate]) hr
  · rintro x s' k₃ ⟨rfl, rfl, hk₃, hstranded₃⟩
    refine Prog.under_bind (Prog.under_bind (under_close rfl (fun _ => rfl) (fun _ => rfl) hk₃
      (.inl rfl) le_rfl hstranded₃ fun k₄ hk₄ hstranded₄ => ?_))
    refine Prog.under_bind (under_undo rfl fun a ha => ?_)
    dsimp only
    rw [if_neg (by simp [ha rfl])]
    refine Prog.under_pure (under_assign ⟨rfl, rfl, hk₄.congr fun r => ?_, hstranded₄⟩)
    constructor
    · rintro ⟨hr | hr, hne⟩
      · exact absurd hr hne
      · exact hr
    · intro hr
      refine ⟨.inr hr, ?_⟩
      rintro rfl
      exact hother _ (by simp [Resource.ofGate]) hr

namespace ProductionSession

theorem under_stopReadiness (hother : s.readinessStarted = true → ∀ r : Resource, r.ofGate → ¬ O r)
    (hs : s.readinessStarted = true →
      s.gateContext = true ∧ s.gateNode = true ∧ s.gateExecutor = true ∧ s.gateThread = true)
    (hn : s.readinessStarted = true → n = 0)
    (h : k.Accounts (fun r => (s.readinessStarted = true ∧ r.ofGate) ∨ O r) n)
    (hk : k.stranded = stranded) :
    stopReadiness.Under notes s k fun x s' k' => (∃ errors, x = .ok errors) ∧
      (∃ gateContext gateNode gateExecutor gateThread, s' = { s with
        readinessStarted := false, gateContext, gateNode, gateExecutor, gateThread }) ∧
        k'.Accounts O (max n 1) ∧ k'.stranded = stranded := by
  refine Prog.under_bind (under_attributes ?_)
  dsimp only
  cases hstarted : s.readinessStarted with
  | false =>
    have hs : s = { s with readinessStarted := false } := by rw [← hstarted]
    exact Prog.under_pure ⟨⟨_, rfl⟩, ⟨_, _, _, _, hs⟩,
      (h.congr fun r => by simp [hstarted]).mono (le_max_left n 1), hk⟩
  | true =>
    obtain rfl := hn hstarted
    refine Prog.under_bind (Prog.under_tryCatch (Prog.under_bind ((RosReadinessGate.under_stop
      (hother hstarted) (hs hstarted) (h.congr fun r => by simp [hstarted]) (Nat.zero_le 1)
      hk).mono ?_)))
    rintro x s' k' ⟨rfl, rfl, hk'⟩
    exact Prog.under_pure (Prog.under_bind (under_assign
      (Prog.under_pure ⟨⟨_, rfl⟩, ⟨_, _, _, _, rfl⟩, hk'⟩)))

theorem under_stopSystem (hother : s.systemStarted = true → ∀ r, O r → r.rank ≠ 2)
    (hs : s.SystemSound) (hn : n ≤ 2)
    (h : k.Accounts (fun r => (s.systemStarted = true ∧ s.system r) ∨ O r) n)
    (hk : k.stranded = stranded) :
    stopSystem.Under notes s k fun x _ k' => (∃ errors, x = .ok errors) ∧ k'.Accounts O 2 ∧
      k'.stranded = stranded := by
  refine Prog.under_bind (under_attributes ?_)
  dsimp only
  cases hstarted : s.systemStarted with
  | false =>
    exact Prog.under_pure ⟨⟨_, rfl⟩, (h.congr fun r => by simp [hstarted]).mono hn, hk⟩
  | true =>
    refine Prog.under_bind (Prog.under_tryCatch (Prog.under_bind (Prog.under_bind
      ((SystemBringup.under_stop hs (hother hstarted) (h.congr fun r => by simp [hstarted]) hn
        hk).mono ?_))))
    rintro x s' k' ⟨⟨results, rfl⟩, rfl, hk'⟩
    refine (idles_report (by simp)).under fun r => ?_
    cases r with
    | ok _ =>
      exact Prog.under_pure (Prog.under_bind (under_assign (Prog.under_pure ⟨⟨_, rfl⟩, hk'⟩)))
    | error err =>
      exact Prog.under_pure (Prog.under_bind (under_assign (Prog.under_pure ⟨⟨_, rfl⟩, hk'⟩)))

end ProductionSession

end Stop

/-- What the Session knows that it holds. -/
def SessionState.holds (s : SessionState) (r : Resource) : Prop :=
  (s.monitorOpen = true ∧ r = .monitor) ∨ (s.homeOpen = true ∧ r = .home) ∨
    (∃ name ∈ s.processes, r = .process name) ∨ (s.readinessStarted = true ∧ r.ofGate) ∨
    (s.systemStarted = true ∧ s.system r)

/-- The Session can be taken down. -/
structure SessionState.Sound (s : SessionState) : Prop extends s.SystemSound where
  /-- The processes have different names. -/
  processes : s.processes.Nodup
  /-- The readiness gate knows what it has started. -/
  gate : s.readinessStarted = true →
    s.gateContext = true ∧ s.gateNode = true ∧ s.gateExecutor = true ∧ s.gateThread = true

/-- A call of `start` has raised, and `left` is what the Session holds without knowing it. -/
structure Failed (left : Resource → Prop) (s : SessionState) (k : Books) : Prop where
  /-- What is held. -/
  held : ∃ n, k.Accounts (fun r => s.holds r ∨ left r) n ∧ n ≤ 2 ∧ (n = 0 ∨ ∀ r, ¬ s.holds r)
  /-- Parts of the readiness gate or of the system, if these have not started. -/
  apart : ∀ r, left r → (r.ofGate ∧ s.readinessStarted = false) ∨
    (r.rank = 2 ∧ s.systemStarted = false)
  /-- A call has stranded something if and only if something is left. -/
  stranded : k.stranded = true ↔ ∃ r, left r
  /-- The Session can be taken down. -/
  sound : s.Sound

/-- The Session takes down what it knows that it holds. -/
theorem ProductionSession.under_stop {left : Resource → Prop} (h : Failed left s k) :
    stop.Under notes s k fun _ _ k' => k'.Accounts left 2 ∧ (k'.stranded = true ↔ ∃ r, left r) := by
  obtain ⟨n, hk, hle, hn⟩ := h.held
  have hzero {r : Resource} (hr : s.holds r) : n = 0 := hn.resolve_right fun hnone => hnone r hr
  have hleft (r : Resource) (hr : left r) : r.rank ≠ 0 := by
    rcases h.apart r hr with ⟨rfl | rfl | rfl | rfl, -⟩ | ⟨hrank, -⟩
    · decide
    · decide
    · decide
    · decide
    · rw [hrank]
      decide
  -- What is held besides the monitor, then besides the home controller, and so on.
  let system (r : Resource) : Prop := (s.systemStarted = true ∧ s.system r) ∨ left r
  let gate (r : Resource) : Prop := (s.readinessStarted = true ∧ r.ofGate) ∨ system r
  let processes (r : Resource) : Prop := (∃ name ∈ s.processes, r = .process name) ∨ gate r
  let home (r : Resource) : Prop := (s.homeOpen = true ∧ r = .home) ∨ processes r
  have hsystem (r : Resource) (hr : r.rank = 0) : ¬ gate r := by
    rintro (⟨-, rfl | rfl | rfl | rfl⟩ | ⟨-, hr'⟩ | hr')
    · cases hr
    · cases hr
    · cases hr
    · cases hr
    · cases r <;> first | exact hr'.elim | cases hr
    · exact hleft r hr' hr
  refine Prog.under_bind ((under_stopMonitor (O := home) ?_ (fun hopen => hzero
    (.inl ⟨hopen, rfl⟩)) (hk.congr fun r => ?_) rfl).mono ?_)
  · rintro (⟨-, heq⟩ | ⟨name, -, heq⟩ | hgate)
    · cases heq
    · cases heq
    · exact hsystem _ rfl hgate
  · simp only [SessionState.holds, home, processes, gate, system, or_assoc]
  rintro x s₁ k₁ ⟨⟨e₁, rfl⟩, rfl, hk₁, hstranded₁⟩
  refine Prog.under_bind ((under_stopHome (s := { s with monitorOpen := false })
    (O := processes) ?_ (fun hopen => hzero (.inr (.inl ⟨hopen, rfl⟩))) hk₁ hstranded₁).mono ?_)
  · rintro (⟨name, -, heq⟩ | hgate)
    · cases heq
    · exact hsystem _ rfl hgate
  rintro x s₂ k₂ ⟨⟨e₂, rfl⟩, rfl, hk₂, hstranded₂⟩
  refine Prog.under_bind ((under_stopSupervisor
    (s := { s with monitorOpen := false, homeOpen := false }) (O := gate) h.sound.processes
    (fun name => hsystem _ rfl) (fun hne => ?_) hk₂ hstranded₂).mono ?_)
  · obtain ⟨name, hname⟩ := List.exists_mem_of_ne_nil _ hne
    exact hzero (.inr (.inr (.inl ⟨name, hname, rfl⟩)))
  rintro x s₃ k₃ ⟨⟨e₃, rfl⟩, rfl, hk₃, hstranded₃⟩
  refine Prog.under_bind ((under_stopReadiness
    (s := { s with monitorOpen := false, homeOpen := false, processes := [] }) (O := system) ?_
    h.sound.gate (fun hstarted => hzero (.inr (.inr (.inr (.inl ⟨hstarted, .inl rfl⟩))))) hk₃
    hstranded₃).mono ?_)
  · rintro hstarted r hr (⟨-, hr'⟩ | hr')
    · rcases hr with rfl | rfl | rfl | rfl <;> exact hr'.elim
    · rcases h.apart r hr' with ⟨-, hnot⟩ | ⟨hrank, -⟩
      · exact absurd (hnot.symm.trans hstarted) (by decide)
      · rcases hr with rfl | rfl | rfl | rfl <;> cases hrank
  rintro x s₄ k₄ ⟨⟨e₄, rfl⟩, ⟨gateContext, gateNode, gateExecutor, gateThread, rfl⟩, hk₄, hstranded₄⟩
  refine Prog.under_bind ((under_stopSystem (s := { s with
    monitorOpen := false, homeOpen := false, processes := [], readinessStarted := false,
    gateContext, gateNode, gateExecutor, gateThread }) (O := left) ?_ ⟨h.sound.interfaces, h.sound.original⟩
    (max_le hle one_le_two) hk₄ hstranded₄).mono ?_)
  · intro hstarted r hr hrank
    rcases h.apart r hr with ⟨rfl | rfl | rfl | rfl, -⟩ | ⟨-, hnot⟩
    · cases hrank
    · cases hrank
    · cases hrank
    · cases hrank
    · exact absurd (hnot.symm.trans hstarted) (by decide)
  rintro x s₅ k₅ ⟨⟨e₅, rfl⟩, hk₅, hstranded₅⟩
  have hend : k₅.Accounts left 2 ∧ (k₅.stranded = true ↔ ∃ r, left r) :=
    ⟨hk₅, by rw [hstranded₅]; exact h.stranded⟩
  refine Prog.under_bind (under_assign ?_)
  dsimp only
  split
  · exact Prog.under_raise hend
  · exact Prog.under_pure hend

/-! ### The Session comes up -/

section Start

variable {held : Resource → Prop}

/-- A call that opens nothing, and that strands what is held if it raises. -/
theorem under_risky {Q : Except SessionError Unit → SessionState → Books → Prop}
    (hentry : ∀ a, entry (l, a) = .other) (hstrands : ∀ a, strands (l, a) = a.raises.isSome)
    (hok : Q (.ok ()) s k) (herr : ∀ err, Q (.error err) s ⟨k.ledger, true⟩) :
    (call l).Under notes s k Q := by
  have hnote (a : SessionAnswer) : k.note (l, a) = ⟨k.ledger, a.raises.isSome || k.stranded⟩ := by
    rw [Books.note, hentry, hstrands]
    rfl
  refine under_ask (fun a ha _ => ?_) fun a err ha _ => ?_
  · rw [hnote, ha]
    exact hok
  · rw [hnote, ha]
    exact herr err

/-- The readiness gate starts; it does not undo its own steps. -/
theorem RosReadinessGate.under_start (hs : s.gateContext = false) (h : k.Up held) :
    start.Under notes s k fun r s' k' => (∃ gateContext gateNode gateExecutor gateThread,
      s' = { s with gateContext, gateNode, gateExecutor, gateThread }) ∧ match r with
        | .ok _ => (s'.gateContext = true ∧ s'.gateNode = true ∧ s'.gateExecutor = true ∧
            s'.gateThread = true) ∧ k'.Up fun r => held r ∨ r.ofGate
        | .error _ => ∃ left : Resource → Prop, (∀ r, left r → r.ofGate) ∧
            k'.Accounts (fun r => held r ∨ left r) 0 ∧ (k'.stranded = true ↔ ∃ r, left r) := by
  -- Nothing of the gate is up, or its context is.
  have hdown {k' : Books} (hk' : k'.Up held) : ∃ left : Resource → Prop, (∀ r, left r → r.ofGate) ∧
      k'.Accounts (fun r => held r ∨ left r) 0 ∧ (k'.stranded = true ↔ ∃ r, left r) :=
    ⟨fun _ => False, by simp, (hk'.congr fun r => by simp).accounts, by simp [hk'.stranded]⟩
  have hup {k' : Books} {left : Resource → Prop} (hk' : k'.Up fun r => held r ∨ left r)
      (hleft : ∀ r, left r → r.ofGate) (hcontext : left .context) :
      ∃ left : Resource → Prop, (∀ r, left r → r.ofGate) ∧ (⟨k'.ledger, true⟩ : Books).Accounts
        (fun r => held r ∨ left r) 0 ∧ (true = true ↔ ∃ r, left r) :=
    ⟨left, hleft, hk'.accounts, by simpa using ⟨_, hcontext⟩⟩
  refine Prog.under_bind (under_attributes ?_)
  dsimp only
  rw [if_neg (by simp [hs])]
  refine Prog.under_bind ((idles_ask fun _ _ => rfl).under fun r => ?_)
  cases r with
  | error err => exact ⟨⟨_, _, _, _, rfl⟩, hdown h⟩
  | ok _ =>
  refine Prog.under_bind ((idles_ask fun _ _ => rfl).under fun r => ?_)
  cases r with
  | error err => exact ⟨⟨_, _, _, _, rfl⟩, hdown h⟩
  | ok _ =>
  refine Prog.under_bind (under_assign (Prog.under_bind (under_open (fun _ => rfl) (fun _ _ => rfl) h
    (fun k₁ hk₁ => ?_) fun a err ha => ⟨⟨_, _, _, _, rfl⟩, hdown ⟨h.opening, h.stranded⟩⟩)))
  have hcontext : k₁.Up fun r => held r ∨ r = .context := hk₁
  refine Prog.under_bind (under_open (fun _ => rfl) (fun a ha => by simp [strands, ha]) hcontext
    (fun k₂ hk₂ => ?_) fun a err ha => ⟨⟨_, _, _, _, rfl⟩, ?_⟩)
  swap
  · rw [show strands (.createNode, a) = true by simp [strands, ha]]
    exact hup hcontext (by rintro _ rfl; simp [Resource.ofGate]) rfl
  have hnode : k₂.Up fun r => held r ∨ (r = .context ∨ r = .node) := hk₂.congr fun r => or_assoc
  refine Prog.under_bind (under_assign (Prog.under_bind (under_risky (fun _ => rfl) (fun _ => rfl)
    ?_ fun err => ⟨⟨_, _, _, _, rfl⟩, hup hnode ?_ (.inl rfl)⟩)))
  swap
  · rintro _ (rfl | rfl) <;> simp [Resource.ofGate]
  refine Prog.under_bind (under_open (fun _ => rfl) (fun a ha => by simp [strands, ha]) hnode
    (fun k₃ hk₃ => ?_) fun a err ha => ⟨⟨_, _, _, _, rfl⟩, ?_⟩)
  swap
  · rw [show strands (.newExecutor, a) = true by simp [strands, ha]]
    exact hup hnode (by rintro _ (rfl | rfl) <;> simp [Resource.ofGate]) (.inl rfl)
  have hexecutor : k₃.Up fun r => held r ∨ ((r = .context ∨ r = .node) ∨ r = .executor) :=
    hk₃.congr fun r => or_assoc
  have hgate (r : Resource) : (r = .context ∨ r = .node) ∨ r = .executor → r.ofGate := by
    rintro ((rfl | rfl) | rfl) <;> simp [Resource.ofGate]
  refine Prog.under_bind (under_assign (Prog.under_bind (under_risky (fun _ => rfl) (fun _ => rfl)
    ?_ fun err => ⟨⟨_, _, _, _, rfl⟩, hup hexecutor hgate (.inl (.inl rfl))⟩)))
  refine Prog.under_bind (under_risky (fun _ => rfl) (fun _ => rfl) ?_
    fun err => ⟨⟨_, _, _, _, rfl⟩, hup hexecutor hgate (.inl (.inl rfl))⟩)
  refine Prog.under_bind (under_assign (under_open (fun _ => rfl) (fun a ha => by simp [strands, ha])
    hexecutor (fun k₄ hk₄ => ?_) fun a err ha => ⟨⟨_, _, _, _, rfl⟩, ?_⟩))
  · refine ⟨⟨_, _, _, _, rfl⟩, ⟨rfl, rfl, rfl, rfl⟩, hk₄.congr fun r => ?_⟩
    simp only [Resource.ofGate, or_assoc]
  · rw [show strands (.startThread, a) = true by simp [strands, ha]]
    exact hup hexecutor hgate (.inl (.inl rfl))

/-- The Session knows what it holds. -/
structure Going (s : SessionState) (k : Books) : Prop where
  held : k.Up s.holds
  sound : s.Sound

/-- Nothing is left that the Session does not know. -/
theorem Going.failed (h : Going s k) : Failed (fun _ => False) s k where
  held := ⟨0, (h.held.congr fun r => by simp).accounts, by simp, .inl rfl⟩
  apart := by simp
  stranded := by simp [h.held.stranded]
  sound := h.sound

/-- The Session comes up a step further, or the step fails. -/
def Leads (p : SessionProg α) (s : SessionState) (k : Books) : Prop :=
  p.Under notes s k fun r s' k' => match r with
    | .ok _ => Going s' k'
    | .error _ => ∃ left, Failed left s' k'

theorem leads_bind {β : Type} {p : SessionProg α} {f : α → SessionProg β} (hp : Leads p s k)
    (hf : ∀ a s' k', Going s' k' → Leads (f a) s' k') : Leads (p >>= f) s k :=
  Prog.under_bind (Prog.Under.mono hp fun r s' k' hr => by
    cases r with
    | ok a => exact hf a s' k' hr
    | error err => exact hr)

/-- What follows a step of two calls. -/
theorem leads_step {p q : SessionProg Unit} {f : Unit → SessionProg α}
    (h : Leads (p >>= fun _ => q) s k) (hf : ∀ s' k', Going s' k' → Leads (f ()) s' k') :
    Leads (p >>= fun _ => q >>= f) s k := by
  have hassoc : (p >>= fun _ => q >>= f) = (p >>= fun _ => q) >>= f := by
    rw [Prog.bind_eq, Prog.bind_eq (p >>= fun _ => q), Prog.bind_eq p, Prog.andThen_assoc]
    congr 1
    funext r
    cases r with
    | ok _ => rfl
    | error err => rfl
  rw [hassoc]
  exact leads_bind h fun _ => hf

theorem Idles.leads {p : SessionProg α} (hp : Idles p) (h : Going s k) : Leads p s k :=
  hp.under fun r => by
    cases r with
    | ok a => exact h
    | error err => exact ⟨_, h.failed⟩

theorem leads_forEach {body : α → SessionProg Unit} {xs : List α}
    (hbody : ∀ x s k, Going s k → Leads (body x) s k) (h : Going s k) :
    Leads (forEach body xs) s k := by
  induction xs generalizing s k with
  | nil => exact Prog.under_pure h
  | cons x xs ih => exact leads_bind (hbody x s k h) fun _ s' k' h' => ih h'

/-- Something is opened, and the Session notes that it is. -/
theorem leads_open {r : Resource} {f : SessionState → SessionState} (h : Going s k)
    (hentry : ∀ a, entry (l, a) = if a.raises.isNone then .opens r else .other)
    (hstrands : ∀ a, strands (l, a) = false) (hf : ∀ x, (f s).holds x ↔ s.holds x ∨ x = r)
    (hsound : (f s).Sound) : Leads (call l >>= fun _ => assign f) s k := by
  refine Prog.under_bind (under_open hentry (fun a _ => hstrands a) h.held (fun k' hk' => ?_)
    fun a err ha => ?_)
  · exact under_assign ⟨hk'.congr fun x => (hf x).symm, hsound⟩
  · refine ⟨_, Going.failed ⟨?_, h.sound⟩⟩
    rw [hstrands]
    exact ⟨h.held.opening, h.held.stranded⟩

theorem RosProcessSupervisor.leads_start {name : String} (h : Going s k) : Leads (start name) s k := by
  refine Prog.under_bind (under_attributes ?_)
  dsimp only
  split
  · exact Prog.under_raise ⟨_, h.failed⟩
  · rename_i hfresh
    refine Prog.under_bind (under_open (fun _ => rfl) (fun _ _ => rfl) h.held (fun k₁ hk₁ => ?_)
      fun a err ha => ⟨_, Going.failed ⟨⟨h.held.opening, h.held.stranded⟩, h.sound⟩⟩)
    refine Prog.under_bind (Prog.under_tryCatch ((idles_ask fun _ _ => rfl).under fun r => ?_))
    have hholds (r : Resource) : (s.holds r ∨ r = .process name) ∧ r ≠ .process name ↔
        s.holds r ∨ False := by
      constructor
      · rintro ⟨hr | hr, hne⟩
        · exact .inl hr
        · exact absurd hr hne
      · rintro (hr | hr)
        · refine ⟨.inl hr, ?_⟩
          rintro rfl
          rcases hr with ⟨-, heq⟩ | ⟨-, heq⟩ | ⟨other, hother, heq⟩ | ⟨-, hgate⟩ | ⟨-, hsystem⟩
          · cases heq
          · cases heq
          · exact hfresh (Resource.process.inj heq ▸ hother)
          · rcases hgate with heq | heq | heq | heq <;> cases heq
          · exact hsystem
        · exact hr.elim
    cases r with
    | ok _ =>
      refine under_assign ⟨hk₁.congr fun r => ?_,
        ⟨⟨h.sound.interfaces, h.sound.original⟩, ?_, h.sound.gate⟩⟩
      · have hsystem : SessionState.system { s with processes := s.processes ++ [name] } = s.system :=
          system_congr rfl rfl rfl
        simp only [SessionState.holds, List.mem_append, List.mem_singleton, or_and_right, exists_or,
          exists_eq_left, hsystem]
        simp only [or_assoc, or_comm, or_left_comm]
      · exact List.nodup_append.2 ⟨h.sound.processes, List.nodup_singleton _, fun x hx y hy => by
          rw [List.mem_singleton.1 hy]
          rintro rfl
          exact hfresh hx⟩
    | error err =>
      -- The process is stopped, unless it has ended by itself.
      have hfailed {k' : Books} (hk' : k'.Accounts (fun r => s.holds r ∨ False) 0)
          (hstranded : k'.stranded = false) : Failed (fun _ => False) s k' :=
        ⟨⟨0, hk', by simp, .inl rfl⟩, by simp, by simp [hstranded], h.sound⟩
      refine Prog.under_bind (under_undo rfl fun a _ => Prog.under_bind ?_)
      dsimp only
      cases hrunning : a.holds with
      | false =>
        have hends : entry (.processRunning name, a) = .ends (.process name) := by
          simp [entry, hrunning]
        refine Prog.under_pure (Prog.under_raise ⟨_, hfailed ?_ hk₁.stranded⟩)
        show (k₁.ledger.enter (entry (.processRunning name, a))).Accounts _ _ _
        rw [hends]
        exact (hk₁.accounts.ends (.inr rfl)).congr hholds
      | true =>
        have hsame : k₁.note (.processRunning name, a) = k₁ := by
          simp [Books.note, entry, hrunning, Ledger.enter, strands]
        rw [hsame]
        exact under_close (n := 0) rfl (fun _ => rfl) (fun _ => rfl) hk₁.accounts (.inr rfl) le_rfl
          hk₁.stranded fun k' hk' hstranded =>
            Prog.under_raise ⟨_, hfailed (hk'.congr hholds) hstranded⟩

/-- Nothing beside the system is up. -/
structure SessionState.Fresh (s : SessionState) : Prop where
  systemStarted : s.systemStarted = false
  readinessStarted : s.readinessStarted = false
  gateContext : s.gateContext = false
  monitorOpen : s.monitorOpen = false
  homeOpen : s.homeOpen = false
  processes : s.processes = []

/-- Nothing of the Session is up. -/
structure SessionState.Idle (s : SessionState) : Prop extends s.Fresh where
  system : s.lease = false ∧ s.usbfsChanged = false ∧ s.interfaces = []

theorem SessionState.Fresh.same {s' : SessionState} (h : s.Fresh) (hs : s.SameBesideSystem s') :
    s'.Fresh := by
  obtain ⟨_, _, _, _, rfl⟩ := hs
  exact ⟨h.systemStarted, h.readinessStarted, h.gateContext, h.monitorOpen, h.homeOpen, h.processes⟩

theorem SessionState.Fresh.holds (h : s.Fresh) (r : Resource) : ¬ s.holds r := by
  simp [SessionState.holds, h.systemStarted, h.readinessStarted, h.monitorOpen, h.homeOpen,
    h.processes]

theorem SessionState.Fresh.sound (h : s.Fresh) (hsystem : s.SystemSound) : s.Sound :=
  ⟨hsystem, by simp [h.processes], by simp [h.readinessStarted]⟩

/-- The readiness gate starts, and the Session notes that it has. -/
theorem RosReadinessGate.leads_start (hready : s.readinessStarted = false)
    (hcontext : s.gateContext = false) (h : Going s k) :
    Leads (start >>= fun _ => assign fun s => { s with readinessStarted := true }) s k := by
  refine Prog.under_bind ((under_start hcontext h.held).mono ?_)
  rintro r s₁ k₁ ⟨⟨gateContext, gateNode, gateExecutor, gateThread, rfl⟩, hr⟩
  have hsystem : SessionState.system { s with gateContext, gateNode, gateExecutor, gateThread } =
      s.system := system_congr rfl rfl rfl
  cases r with
  | error err =>
    obtain ⟨left, hleft, hk₁, hstranded⟩ := hr
    refine ⟨left, ⟨0, hk₁.congr fun r => ?_, by simp, .inl rfl⟩, fun r hr => .inl ⟨hleft r hr, hready⟩,
      hstranded, ⟨h.sound.interfaces, h.sound.original⟩, h.sound.processes, ?_⟩
    · simp only [SessionState.holds, hsystem]
    · simp [hready]
  | ok _ =>
    refine under_assign ⟨hr.2.congr fun r => ?_, ⟨h.sound.interfaces, h.sound.original⟩,
      h.sound.processes, fun _ => hr.1⟩
    have hsystem' : SessionState.system { s with
        readinessStarted := true, gateContext, gateNode, gateExecutor, gateThread } = s.system :=
      system_congr rfl rfl rfl
    simp only [SessionState.holds, hsystem', hready, Bool.false_eq_true, false_and, false_or, true_and,
      or_assoc, or_comm, or_left_comm]

namespace ProductionSession

variable {session : ProductionSession} {n : ℕ}

theorem arms_nodup : session.arms.Nodup := by
  refine List.Nodup.of_map ArmConfig.role ?_
  rw [session.arms_roles]
  decide

/-- Report what the system has brought up. -/
theorem under_report {results : List CheckResult} {held : Resource → Prop} (h : k.Up held) :
    (report .systemStart results).Under notes s k fun r s' k' => s' = s ∧ match r with
      | .ok _ => k'.Up held
      | .error _ => k'.Accounts held 0 ∧ k'.stranded = true := by
  unfold report
  induction results with
  | nil => exact Prog.under_pure ⟨rfl, h⟩
  | cons result results ih =>
    exact Prog.under_bind (under_risky (fun _ => rfl) (fun _ => rfl) ih fun err =>
      ⟨rfl, h.accounts, rfl⟩)

theorem leads_startSystem (hs : s.Idle) (h : k.Up fun _ => False) :
    Leads (session.startSystem n) s k := by
  refine Prog.under_bind ((SystemBringup.under_start hs.system arms_nodup h).mono ?_)
  rintro r s₁ k₁ ⟨hsame, hsound, hr⟩
  have hs₁ := hs.toFresh.same hsame
  cases r with
  | error err =>
    refine ⟨fun _ => False, ⟨2, hr.1.congr fun r => ?_, le_rfl, .inr hs₁.holds⟩, by simp,
      by simp [hr.2], hs₁.sound hsound⟩
    simp [hs₁.holds]
  | ok results =>
    obtain ⟨hlease, hk₁⟩ := hr
    refine Prog.under_bind ((under_report hk₁).mono ?_)
    rintro r s₂ k₂ ⟨rfl, hr⟩
    cases r with
    | error err =>
      -- The Session does not know yet that the system is up.
      refine ⟨s₂.system, ⟨0, hr.1.congr fun r => ?_, by simp, .inl rfl⟩, fun r hr => .inr ⟨?_, ?_⟩,
        ?_, hs₁.sound hsound⟩
      · simp [hs₁.holds]
      · cases r <;> first | rfl | exact hr.elim
      · exact hs₁.systemStarted
      · simpa [hr.2] using ⟨Resource.lease, hlease⟩
    | ok _ =>
      have hsystem : SessionState.system { s₂ with systemStarted := true } = s₂.system :=
        system_congr rfl rfl rfl
      have hgoing : Going { s₂ with systemStarted := true } k₂ := by
        refine ⟨hr.congr fun r => ?_, ⟨hsound.interfaces, hsound.original⟩, by simp [hs₁.processes],
          by simp [hs₁.readinessStarted]⟩
        simp only [SessionState.holds, hsystem]
        simp [hs₁.readinessStarted, hs₁.monitorOpen, hs₁.homeOpen, hs₁.processes]
      refine Prog.under_bind (under_assign (leads_step (RosReadinessGate.leads_start
        hs₁.readinessStarted hs₁.gateContext hgoing) fun s' k' h' => ?_))
      refine leads_open h' (fun _ => rfl) (fun _ => rfl) (fun x => ?_)
        ⟨⟨h'.sound.interfaces, h'.sound.original⟩, h'.sound.processes, h'.sound.gate⟩
      have hsystem' : SessionState.system { s' with monitorOpen := true } = s'.system :=
        system_congr rfl rfl rfl
      simp only [SessionState.holds, hsystem', true_and]
      constructor
      · rintro (hx | hx)
        · exact .inr hx
        · exact .inl (.inr hx)
      · rintro ((⟨-, hx⟩ | hx) | hx)
        · exact .inl hx
        · exact .inr hx
        · exact .inl hx

theorem leads_startCommand {name : String} (h : Going s k) : Leads (startCommand name) s k :=
  leads_bind ((idles_ask fun _ _ => rfl).leads h) fun _ _ _ h' => RosProcessSupervisor.leads_start h'

theorem leads_startArms (h : Going s k) : Leads (session.startArms n) s k := by
  refine leads_bind (leads_startCommand h) fun _ s₁ k₁ h₁ => ?_
  refine leads_bind (leads_startCommand h₁) fun _ s₂ k₂ h₂ => ?_
  refine leads_bind ((RosReadinessGate.idles_waitFor RosProcessSupervisor.idles_requireRunning).leads
    h₂) fun results s₃ k₃ h₃ => ?_
  refine leads_bind ((idles_report (by simp)).leads h₃) fun _ s₄ k₄ h₄ => ?_
  refine leads_open h₄ (fun _ => rfl) (fun _ => rfl) (fun x => ?_)
    ⟨⟨h₄.sound.interfaces, h₄.sound.original⟩, h₄.sound.processes, h₄.sound.gate⟩
  have hsystem : SessionState.system { s₄ with homeOpen := true } = s₄.system :=
    system_congr rfl rfl rfl
  simp only [SessionState.holds, hsystem, true_and]
  constructor
  · rintro (hx | hx | hx)
    · exact .inl (.inl hx)
    · exact .inr hx
    · exact .inl (.inr (.inr hx))
  · rintro ((hx | ⟨-, hx⟩ | hx) | hx)
    · exact .inl hx
    · exact .inr (.inl hx)
    · exact .inr (.inr hx)
    · exact .inr (.inl hx)

theorem leads_startCameras (h : Going s k) : Leads (session.startCameras n) s k := by
  refine leads_bind (leads_startCommand h) fun _ s₁ k₁ h₁ => ?_
  refine leads_bind ((RosReadinessGate.idles_waitFor RosProcessSupervisor.idles_requireRunning).leads
    h₁) fun results s₂ k₂ h₂ => ?_
  refine leads_bind ((idles_report (by simp)).leads h₂) fun _ s₃ k₃ h₃ => ?_
  exact leads_forEach (fun _ _ _ h' => RosProcessSupervisor.leads_start h') h₃

theorem leads_bringUp (hs : s.Idle) (h : k.Up fun _ => False) : Leads (session.bringUp n) s k := by
  have hgoing : Going s k :=
    ⟨h.congr fun r => by simp [hs.toFresh.holds], hs.toFresh.sound ⟨by simp [hs.system], by
      simp [hs.system]⟩⟩
  refine Prog.under_bind (idles_checkStation.under fun r => ?_)
  cases r with
  | error err => exact ⟨_, hgoing.failed⟩
  | ok _ =>
    refine leads_bind (leads_startSystem hs h) fun _ s₁ k₁ h₁ => ?_
    refine leads_bind (leads_startArms h₁) fun _ s₂ k₂ h₂ => ?_
    refine leads_bind (leads_startCameras h₂) fun _ s₃ k₃ h₃ => ?_
    refine leads_bind ((idles_ask fun _ _ => rfl).leads h₃) fun _ s₄ k₄ h₄ => ?_
    refine leads_bind (idles_preEpisodeCheck.leads h₄) fun _ s₅ k₅ h₅ => ?_
    refine under_assign ⟨h₅.held.congr fun r => ?_, ⟨h₅.sound.interfaces, h₅.sound.original⟩,
      h₅.sound.processes, h₅.sound.gate⟩
    have hsystem : SessionState.system { s₅ with started := true } = s₅.system :=
      system_congr rfl rfl rfl
    simp only [SessionState.holds, hsystem]

/-- What is left after a start that has failed. -/
theorem under_start (hs : s.Idle) (h : k.Up fun _ => False) :
    (session.start n).Under notes s k fun r _ k' => ∀ err, r = .error err →
      ∃ left : Resource → Prop, k'.Accounts left 2 ∧ (k'.stranded = true ↔ ∃ r, left r) := by
  have hnothing : ∃ left : Resource → Prop, k.Accounts left 2 ∧
      (k.stranded = true ↔ ∃ r, left r) := ⟨fun _ => False, h.accounts, by simp [h.stranded]⟩
  refine Prog.under_bind (under_attributes ?_)
  dsimp only
  split
  · exact Prog.under_raise fun _ _ => hnothing
  · refine Prog.under_bind ((idles_ask fun _ _ => rfl).under fun r => ?_)
    cases r with
    | error err => exact fun _ _ => hnothing
    | ok _ =>
      refine Prog.under_tryCatch ((leads_bringUp hs h).mono fun r s₁ k₁ hr => ?_)
      cases r with
      | ok _ => exact fun err heq => by cases heq
      | error err =>
        obtain ⟨left, hfailed⟩ := hr
        refine Prog.under_bind ((under_stop hfailed).mono fun r s₂ k₂ hk₂ => ?_)
        cases r with
        | ok _ => exact Prog.under_raise fun _ _ => ⟨left, hk₂⟩
        | error err' => exact fun _ _ => ⟨left, hk₂⟩

end ProductionSession

end Start

/-! ### The claim over runs -/

theorem served_notes {tr : List (SessionCall × SessionAnswer)} (hundone : ∀ x ∈ tr, Undone x) :
    Served notes k tr ⟨tr.foldl (fun k x => k.enter (entry x)) k.ledger,
      tr.any strands || k.stranded⟩ := by
  induction tr generalizing k with
  | nil => exact .nil k
  | cons x tr ih =>
    refine .cons ⟨rfl, hundone x List.mem_cons_self⟩ ?_
    have hrest := ih (k := k.note x) fun y hy => hundone y (List.mem_cons_of_mem _ hy)
    have hany : (tr.any strands || (k.note x).stranded) = ((x :: tr).any strands || k.stranded) := by
      show (tr.any strands || (strands x || k.stranded)) = _
      rw [← Bool.or_assoc, Bool.or_comm (tr.any strands), List.any_cons]
    rw [hany] at hrest
    exact hrest

/-- After a start that has raised nothing is left running if and only if no call has raised while
the results of the system bring-up were reported, and none of the readiness gate after its context
was up. -/
theorem start_released_iff (session : ProductionSession) {n : ℕ} {s s' : SessionState}
    {tr : List (SessionCall × SessionAnswer)} {err : SessionError} (hidle : s.Idle)
    (hrun : (session.start n).Run s tr (.error err) s') (hundone : ∀ x ∈ tr, Undone x) :
    (ledgerOf tr).Released Resource.rank ↔ ∀ x ∈ tr, strands x = false := by
  have hnone : Books.Up {} fun _ => False := ⟨⟨by simp, rfl, rfl⟩, rfl⟩
  obtain ⟨left, hleft, hstranded⟩ :=
    ProductionSession.under_start hidle hnone tr _ s' _ hrun (served_notes hundone) err rfl
  have hany : tr.any strands = true ↔ ∃ r, left r := by simpa using hstranded
  rw [show (ledgerOf tr).Released Resource.rank ↔ ∀ r, ¬ left r from hleft.released_iff]
  rw [← not_exists, ← hany]
  simp

namespace Station

/-- Two arms, and no processes beside those of `RosCommandSet`. -/
def session : ProductionSession where
  arms := [⟨"left", "1", "can0"⟩, ⟨"right", "2", "can1"⟩]
  minFreeBytes := 0
  readinessTimeoutS := 30
  requiredMb := 0
  additionalProcesses := []
  requiredStreamIds := []
  arms_roles := rfl

/-- A call that raises. -/
def broken : SessionAnswer := { raises := some ⟨⟨.exception, "broken pipe"⟩, true⟩ }

/-- A number of calls that return. -/
def calls (n : ℕ) : List SessionAnswer := List.replicate n {}

/-- The calls until an interface is up; at first there is none. -/
def interfaceUp : List SessionAnswer := calls 1 ++ [{ returnCode := 1 }] ++ calls 9

/-- The calls until the system is up. -/
def systemUp : List SessionAnswer := calls 15 ++ interfaceUp ++ interfaceUp

/-- The check sink raises when the first result of the system is reported. -/
def reportBroken : List SessionAnswer := systemUp ++ [broken] ++ calls 6

/-- The home controller does not open; the thread of the readiness gate ends when it is joined. -/
def homeBroken : List SessionAnswer :=
  systemUp ++ calls 37 ++ [broken] ++ calls 16 ++ [{ holds := false }] ++ calls 20

instance (x : SessionCall × SessionAnswer) : Decidable (Undone x) :=
  inferInstanceAs (Decidable (_ → _ ∧ (_ → _)))

/-- What is seen of a start that raises. -/
def shows (answers : List SessionAnswer)
    (check : List (SessionCall × SessionAnswer) → Bool) : Bool :=
  ((session.start 1).exec answers {}).any fun x =>
    !x.2.1.toBool && check x.1 && x.1.all fun y => decide (Undone y)

theorem run_of_shows {answers : List SessionAnswer}
    {check : List (SessionCall × SessionAnswer) → Bool} (h : shows answers check = true) :
    ∃ tr err s', (session.start 1).Run {} tr (.error err) s' ∧ check tr = true ∧
      ∀ x ∈ tr, Undone x := by
  obtain ⟨⟨tr, r, s'⟩, hexec, h⟩ := (Option.any_eq_true _ _).1 h
  simp only [Bool.and_eq_true, List.all_eq_true, decide_eq_true_eq] at h
  cases r with
  | ok _ => exact absurd h.1.1 (by simp [Except.toBool])
  | error err => exact ⟨tr, err, s', Prog.run_of_exec hexec, h.1.2, h.2⟩

end Station

open Station in
/-- The home controller does not open, and everything that was up is taken down. -/
theorem start_released_home : ∃ tr err s', (session.start 1).Run {} tr (.error err) s' ∧
    .monitor ∈ (ledgerOf tr).opened ∧ (ledgerOf tr).Released Resource.rank := by
  obtain ⟨tr, err, s', hrun, hcheck, hundone⟩ := run_of_shows (show shows homeBroken (fun tr =>
    decide (.monitor ∈ (ledgerOf tr).opened) && tr.all fun x => !strands x) = true by decide +kernel)
  rw [Bool.and_eq_true, decide_eq_true_eq, List.all_eq_true] at hcheck
  have hidle : SessionState.Idle {} := ⟨⟨rfl, rfl, rfl, rfl, rfl, rfl⟩, rfl, rfl, rfl⟩
  exact ⟨tr, err, s', hrun, hcheck.1, (start_released_iff session hidle hrun hundone).2 fun x hx => by
    simpa using hcheck.2 x hx⟩

open Station in
/-- The check sink raises while the results of the system bring-up are reported: nothing else has
raised, and the hardware lease is not released. -/
theorem start_leaks_system : ¬ ∀ tr err s', (session.start 1).Run {} tr (.error err) s' →
    (∀ x ∈ tr, Undone x) → (tr.filter fun x => x.2.raises.isSome).length = 1 →
    (ledgerOf tr).Released Resource.rank := by
  intro h
  obtain ⟨tr, err, s', hrun, hcheck, hundone⟩ := run_of_shows (show shows reportBroken (fun tr =>
    decide ((tr.filter fun x => x.2.raises.isSome).length = 1) &&
      decide (.lease ∈ (ledgerOf tr).opened ∧ .lease ∉ (ledgerOf tr).ended ∧
        .lease ∉ (ledgerOf tr).closed)) = true by decide +kernel)
  rw [Bool.and_eq_true, decide_eq_true_eq, decide_eq_true_eq] at hcheck
  obtain ⟨hone, hopened, hended, hclosed⟩ := hcheck
  have hcount := (h tr err s' hrun hundone hone).once _ hopened hended
  rw [List.count_eq_zero_of_not_mem hclosed] at hcount
  exact absurd hcount (by decide)

end Production

end DualCollection
