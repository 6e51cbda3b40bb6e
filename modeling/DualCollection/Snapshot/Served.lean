import DualCollection.Snapshot.Answered
import DualCollection.Thread.Play

/-!
# What the server answers

The sections of the server keep the invariant of `Snapshot.Answered`, and `capture_in_answer` is
what then holds of every capture.
-/

namespace DualCollection

open Thread Net Bytes

namespace SnapshotLink

variable {p : LinkParameters} {s s' : SnapshotLink} {k j : ℕ} {chunks : List UInt8}
  {reply : SnapshotSocketReply} {committed : Option (SnapshotDescriptor × VlaSnapshot UInt64)}

/-! ### What the sections of the server do -/

/-- The server serves a connection, and is this busy. -/
def Serving (k : ℕ) (phase : LinkPhase) (s : SnapshotLink) : Prop :=
  s.connection = some k ∧ s.phase = phase

theorem Serving.byClient {phase : LinkPhase} (h : Serving k phase s) (hs : ByClient s s') :
    Serving k phase s' := ⟨hs.connection.trans h.1, hs.phase.trans h.2⟩

/-- A busy server is not quiet. -/
theorem ByServer.of_busy (hsocket : s'.socket = s.socket) (hreceived : s'.received = s.received)
    (hphase : s.phase ≠ .waiting) : ByServer s s' :=
  ⟨hsocket, hreceived, fun hq => absurd hq.phase hphase⟩

/-- The connection that is served was made. -/
theorem Inv.served (h : Inv p s) (hk : s.connection = some k) :
    s.net.accepted = k + 1 ∧ k < s.net.connected := by
  have := h.connection k hk
  have := h.accepted_le
  omega

/-- While another connection is served, the client waits to be accepted. -/
theorem Inv.elsewhere (h : Inv p s) (hk : s.connection = some k) (hj : s.socket = some (some j))
    (hr : s.received = some chunks) (hne : j ≠ k)
    (hstream : s'.net.stream j = s.net.stream j) (haccepted : s'.net.accepted = s.net.accepted)
    (hlog : Pending j s.log → Pending j s'.log) : Outstanding s' j chunks := by
  obtain ⟨hserved, hmade⟩ := h.served hk
  have hconnected := h.socket j hj
  cases h.outstanding j chunks hj hr with
  | asked hin hout hserver hpending =>
    exact .asked (by rw [hstream, hin]) (by rw [hstream, hout]) (.inl (by omega)) (hlog hpending)
  | handled _ _ hserver => exact absurd (Option.some.inj (hserver.1.symm.trans hk)) hne
  | replied _ hlt => omega
  | broken hlt => omega

/-- A connection is accepted. -/
theorem Inv.accepted (h : Inv p s) (hc : s.connection = none) {net : Network}
    (hnet : s.net.accept = some net) :
    Inv p { s with net, connection := some s.net.accepted } ∧
      ByServer s { s with net, connection := some s.net.accepted } := by
  obtain ⟨hlt, rfl⟩ := Network.accept_eq_some hnet
  have hphase : s.phase = .waiting := by
    by_contra hne
    exact h.phase hne hc
  refine ⟨{ h with
    accepted_le := hlt
    fresh := h.fresh
    untouched := fun k hk => h.untouched k (Nat.le_of_succ_le hk)
    connection := ?_
    phase := fun hne => absurd hphase hne
    socket := h.socket
    resting := fun k hk hnone => ?_
    outstanding := fun k chunks hk hchunks => ?_
    known := h.known }, rfl, rfl, fun hq => ⟨rfl, rfl, hphase, ?_⟩⟩
  · rintro k ⟨⟩
    rfl
  · obtain ⟨hin, hout, -, hbalanced⟩ := h.resting k hk hnone
    exact ⟨hin, hout, fun _ => hphase, hbalanced⟩
  · cases h.outstanding k chunks hk hchunks with
    | asked hin hout hserver hlog =>
      have hle : s.net.accepted ≤ k := hserver.resolve_right (by simp [hc])
      refine .asked hin hout ?_ hlog
      rcases hle.lt_or_eq with hlt | rfl
      · exact .inl hlt
      · exact .inr ⟨rfl, hphase⟩
    | handled _ _ hserver => exact absurd hserver.1 (by simp [hc])
    | replied hin haccepted hbytes hserver hlog hstored =>
      refine .replied hin (haccepted.trans (Nat.lt_succ_self _)) hbytes (.inl ⟨?_, fun _ => hphase⟩)
        hlog hstored
      by_contra hrest
      have := (hserver.resolve_left fun hnil => hrest hnil.1).2.1
      simp [hc] at this
    | broken haccepted _ hshort =>
      refine .broken (haccepted.trans (Nat.lt_succ_self _)) (fun heq => ?_) hshort
      exact haccepted.ne' (Option.some.inj heq)
  · rintro k (heq | hle)
    · exact hq.inbound k (.inr (Option.some.inj heq).le)
    · exact hq.inbound k (.inr (Nat.le_of_succ_le hle))

/-- A request is received. -/
theorem Inv.received_request (h : Inv p s) (hs : Serving k .waiting s)
    (hin : (s.net.stream k).inbound ≠ []) :
    Inv p { s with net := s.net.takeInbound k 1, phase := .handling } ∧
      ByServer s { s with net := s.net.takeInbound k 1, phase := .handling } := by
  obtain ⟨haccepted, hk⟩ := h.served hs.1
  have hout : ∀ j, ((s.net.takeInbound k 1).stream j).outbound = (s.net.stream j).outbound :=
    fun j => Network.alter_eq (g := Stream.outbound) rfl
  have hother : ∀ j, j ≠ k → (s.net.takeInbound k 1).stream j = s.net.stream j :=
    fun j hj => Network.alter_of_ne hj
  have hne : ∀ j, s.socket = some (some j) → (s.net.stream j).inbound = [] → j ≠ k := by
    rintro j - hnil rfl
    exact hin hnil
  refine ⟨{ h with
    accepted_le := h.accepted_le
    fresh := fun j hj => ?_
    untouched := fun j hj => (hout j).trans (h.untouched j hj)
    connection := h.connection
    phase := fun _ hnone => by simp [hs.1] at hnone
    socket := h.socket
    resting := fun j hj hnone => ?_
    outstanding := fun j chunks hj hchunks => ?_
    known := h.known }, rfl, rfl, fun hq => absurd (hq.inbound k (.inl hs.1)) hin⟩
  · have hjk : j ≠ k := (hk.trans_le hj).ne'
    show ((s.net.takeInbound k 1).stream j).inbound = []
    rw [hother j hjk]
    exact h.fresh j hj
  · obtain ⟨hin', hout', -, hbalanced⟩ := h.resting j hj hnone
    have hjk := hne j hj hin'
    refine ⟨?_, (hout j).trans hout', fun heq => ?_, hbalanced⟩
    · show ((s.net.takeInbound k 1).stream j).inbound = []
      rw [hother j hjk]
      exact hin'
    · exact absurd (Option.some.inj (heq.symm.trans hs.1)) hjk
  · by_cases hjk : j = k
    · subst hjk
      cases h.outstanding j chunks hj hchunks with
      | asked hin' hout' _ hlog =>
        refine .handled ?_ ((hout j).trans hout') ⟨hs.1, rfl⟩ hlog
        show ((s.net.takeInbound j 1).stream j).inbound = []
        rw [Network.takeInbound, Network.alter_self, hin']
        rfl
      | handled hnil => exact absurd hnil hin
      | replied hnil => exact absurd hnil hin
      | broken _ hserver => exact absurd hs.1 hserver
    · exact h.elsewhere hs.1 hj hchunks hjk (hother j hjk) rfl id

/-- Something was committed. -/
theorem Inv.stored (h : Inv p s) (hs : Serving k .handling s) {g : Arena UInt64}
    (hg : g.Inv p.width p.height p.readerWidth p.readerHeight) (hw : Arena.ByWriter s.arena g) :
    Inv p { s with arena := g } ∧ ByServer s { s with arena := g } := by
  refine ⟨{ h with
    arena := hg
    resting := fun j hj hnone => ?_
    outstanding := fun j chunks hj hchunks => ?_
    before := fun j cs hmem d hd => ?_
    commits := fun j reply x hmem => hw.committed (h.commits j reply x hmem) },
    .of_busy rfl rfl (by simp [hs.2])⟩
  · obtain ⟨hin, hout, hserver, hbalanced⟩ := h.resting j hj hnone
    exact ⟨hin, hout, hserver, hbalanced⟩
  · by_cases hjk : j = k
    · subst hjk
      cases h.outstanding j chunks hj hchunks with
      | asked hin hout hserver hlog => exact .asked hin hout hserver hlog
      | handled hin hout hserver hlog => exact .handled hin hout hserver hlog
      | broken haccepted hserver hshort => exact .broken haccepted hserver hshort
      | replied _ _ _ hserver =>
        rcases hserver with ⟨-, hwaiting⟩ | ⟨-, -, hphase⟩
        · exact absurd (hs.2.symm.trans (hwaiting hs.1)) (by simp)
        · exact absurd (hs.2.symm.trans hphase) (by simp)
    · exact h.elsewhere hs.1 hj hchunks hjk rfl rfl id
  · obtain ⟨x, hx, rfl⟩ := h.before j cs hmem d hd
    exact ⟨x, hw.committed hx, rfl⟩

/-- What is shown in a reply was committed after the request was sent, if the client still waits. -/
def Fresh (k : ℕ) (committed : Option (SnapshotDescriptor × VlaSnapshot UInt64))
    (s : SnapshotLink) : Prop :=
  s.socket = some (some k) → ∀ d x, committed = some (d, x) →
    ∀ j cs, .requested j cs ∈ s.log → d ∉ cs

theorem Fresh.byClient {phase : LinkPhase} (h : Fresh k committed s) (hs : Serving k phase s)
    (hphase : phase ≠ .waiting) (hc : ByClient s s') : Fresh k committed s' := by
  intro hsocket d x hd
  obtain ⟨hsocket', hlog⟩ := hc.busy k hs.1 (by rwa [hs.2]) hsocket
  rw [hlog]
  exact h hsocket' d x hd

/-- A request is answered. -/
theorem Inv.replied (h : Inv p s) (hs : Serving k .handling s)
    (hstored : Stored reply committed s.arena) (hfresh : Fresh k committed s) :
    Inv p { s with
      phase := .replying reply.bytes, log := .answered k reply committed :: s.log } ∧
    ByServer s { s with
      phase := .replying reply.bytes, log := .answered k reply committed :: s.log } := by
  obtain ⟨haccepted, hk⟩ := h.served hs.1
  have hbytes : reply.bytes ≠ [] := by
    intro hnil
    have hlength := length_bytes reply
    rw [hnil] at hlength
    exact absurd hlength (by decide)
  refine ⟨{ h with
    phase := fun _ hnone => by simp [hs.1] at hnone
    resting := fun j hj hnone => ?_
    outstanding := fun j chunks hj hchunks => ?_
    before := fun j cs hmem => h.before j cs ((List.mem_cons.1 hmem).resolve_left (by simp))
    known := fun j hj => ?_
    commits := fun j reply' x hmem => ?_
    returned := fun r earlier hsuf =>
      h.returned r earlier ((List.suffix_cons_iff.1 hsuf).resolve_left (by simp)) },
    .of_busy rfl rfl (by simp [hs.2])⟩
  · obtain ⟨hin, hout, hserver, hbalanced⟩ := h.resting j hj hnone
    have hkj : k ≠ j := by
      rintro rfl
      exact absurd (hs.2.symm.trans (hserver hs.1)) (by simp)
    refine ⟨hin, hout, fun heq => absurd (Option.some.inj (hs.1.symm.trans heq)) hkj, ?_⟩
    rw [answers, if_neg hkj]
    exact hbalanced
  · by_cases hjk : j = k
    · subst hjk
      cases h.outstanding j chunks hj hchunks with
      | asked _ _ hserver =>
        rcases hserver with hle | ⟨-, hwaiting⟩
        · omega
        · exact absurd (hs.2.symm.trans hwaiting) (by simp)
      | handled hin hout _ hlog =>
        refine .replied hin (haccepted ▸ Nat.lt_succ_self j) ?_ (.inr ⟨hbytes, hs.1, rfl⟩)
          (hlog.answered fun d x hd => hfresh hj d x hd) hstored
        rw [hout]
        rfl
      | broken _ hserver => exact absurd hs.1 hserver
      | replied _ _ _ hserver =>
        rcases hserver with ⟨-, hwaiting⟩ | ⟨-, -, hphase⟩
        · exact absurd (hs.2.symm.trans (hwaiting hs.1)) (by simp)
        · exact absurd (hs.2.symm.trans hphase) (by simp)
    · exact h.elsewhere hs.1 hj hchunks hjk rfl rfl fun hlog => hlog.other (Ne.symm hjk)
  · obtain ⟨hrequests, hanswers⟩ := h.known j hj
    refine ⟨hrequests, ?_⟩
    rw [answers, if_neg (hk.trans_le hj).ne]
    exact hanswers
  · rcases List.mem_cons.1 hmem with heq | hmem
    · cases heq
      exact hstored.2.committed
    · exact h.commits j reply' x hmem

/-- A part of the reply is sent. -/
theorem Inv.sent (h : Inv p s) {bytes : List UInt8} (hs : Serving k (.replying bytes) s)
    (count : ℕ) {phase : LinkPhase}
    (hphase : phase =
      if bytes.drop count = [] then .waiting else .replying (bytes.drop count)) :
    Inv p { s with net := s.net.respond k (bytes.take count), phase } ∧
      ByServer s { s with net := s.net.respond k (bytes.take count), phase } := by
  obtain ⟨haccepted, hk⟩ := h.served hs.1
  have hin : ∀ j, ((s.net.respond k (bytes.take count)).stream j).inbound =
      (s.net.stream j).inbound := fun j => Network.alter_eq (g := Stream.inbound) rfl
  have hother : ∀ j, j ≠ k → (s.net.respond k (bytes.take count)).stream j = s.net.stream j :=
    fun j hj => Network.alter_of_ne hj
  refine ⟨{ h with
    accepted_le := h.accepted_le
    fresh := fun j hj => (hin j).trans (h.fresh j hj)
    untouched := fun j hj => ?_
    connection := h.connection
    phase := fun _ hnone => by simp [hs.1] at hnone
    socket := h.socket
    resting := fun j hj hnone => ?_
    outstanding := fun j chunks hj hchunks => ?_
    known := h.known }, .of_busy rfl rfl (by simp [hs.2])⟩
  · have hjk : j ≠ k := by
      rintro rfl
      exact absurd (show s.net.accepted ≤ j from hj) (by omega)
    show ((s.net.respond k (bytes.take count)).stream j).outbound = []
    rw [hother j hjk]
    exact h.untouched j hj
  · obtain ⟨hin', hout', hserver, hbalanced⟩ := h.resting j hj hnone
    have hjk : j ≠ k := by
      rintro rfl
      exact absurd (hs.2.symm.trans (hserver hs.1)) (by simp)
    refine ⟨(hin j).trans hin', ?_, fun heq => ?_, hbalanced⟩
    · show ((s.net.respond k (bytes.take count)).stream j).outbound = []
      rw [hother j hjk]
      exact hout'
    · exact absurd (Option.some.inj (heq.symm.trans hs.1)) hjk
  · by_cases hjk : j = k
    · subst hjk
      cases h.outstanding j chunks hj hchunks with
      | asked _ _ hserver =>
        rcases hserver with hle | ⟨-, hwaiting⟩
        · omega
        · exact absurd (hs.2.symm.trans hwaiting) (by simp)
      | handled _ _ hserver => exact absurd (hs.2.symm.trans hserver.2) (by simp)
      | broken _ hserver => exact absurd hs.1 hserver
      | @replied _ rest _ _ hin' hlt hbytes hserver hlog hstored =>
        obtain ⟨-, -, hrest⟩ := hserver.resolve_left fun heq =>
          absurd (hs.2.symm.trans (heq.2 hs.1)) (by simp)
        obtain rfl : bytes = rest := LinkPhase.replying.inj (hs.2.symm.trans hrest)
        have hout : ((s.net.respond j (bytes.take count)).stream j).outbound =
            (s.net.stream j).outbound ++ bytes.take count := by
          rw [Network.respond, Network.alter_self]
        refine @Outstanding.replied _ j chunks (bytes.drop count) _ _ ((hin j).trans hin') hlt ?_ ?_
          hlog hstored
        · show chunks ++ ((s.net.respond j (bytes.take count)).stream j).outbound ++ _ = _
          rw [hout, ← hbytes]
          simp only [List.append_assoc, List.take_append_drop]
        · by_cases hdone : bytes.drop count = []
          · rw [if_pos hdone] at hphase
            exact .inl ⟨hdone, fun _ => hphase⟩
          · rw [if_neg hdone] at hphase
            exact .inr ⟨hdone, hs.1, hphase⟩
    · exact h.elsewhere hs.1 hj hchunks hjk (hother j hjk) rfl id

/-- The connection is closed. -/
theorem Inv.left (h : Inv p s) (hs : s.connection = some k) :
    Inv p { s with net := s.net.closeAcceptor k, connection := none, phase := .waiting } ∧
      ByServer s
        { s with net := s.net.closeAcceptor k, connection := none, phase := .waiting } := by
  obtain ⟨haccepted, hk⟩ := h.served hs
  have hin : ∀ j, ((s.net.closeAcceptor k).stream j).inbound = (s.net.stream j).inbound :=
    fun j => Network.alter_eq (g := Stream.inbound) rfl
  have hout : ∀ j, ((s.net.closeAcceptor k).stream j).outbound = (s.net.stream j).outbound :=
    fun j => Network.alter_eq (g := Stream.outbound) rfl
  refine ⟨{ h with
    accepted_le := h.accepted_le
    fresh := fun j hj => (hin j).trans (h.fresh j hj)
    untouched := fun j hj => (hout j).trans (h.untouched j hj)
    connection := by rintro _ ⟨⟩
    phase := fun hne => absurd rfl hne
    socket := h.socket
    resting := fun j hj hnone => ?_
    outstanding := fun j chunks hj hchunks => ?_
    known := h.known }, rfl, rfl, fun hq => ⟨rfl, rfl, rfl, ?_⟩⟩
  · obtain ⟨hin', hout', -, hbalanced⟩ := h.resting j hj hnone
    exact ⟨(hin j).trans hin', (hout j).trans hout', fun _ => rfl, hbalanced⟩
  · have hbroken : ∀ {chunks : List UInt8}, j = k →
        (chunks ++ (s.net.stream j).outbound).length < replySize →
        Outstanding { s with net := s.net.closeAcceptor k, connection := none, phase := .waiting }
          j chunks := by
      rintro chunks rfl hshort
      refine .broken (by show j < s.net.accepted; omega) (by simp) ?_
      show (chunks ++ ((s.net.closeAcceptor j).stream j).outbound).length < replySize
      rwa [hout]
    by_cases hjk : j = k
    · cases h.outstanding j chunks hj hchunks with
      | asked _ hnil => exact hbroken hjk (by rw [hnil]; decide)
      | handled _ hnil => exact hbroken hjk (by rw [hnil]; decide)
      | broken _ hserver => exact absurd (hjk ▸ hs) hserver
      | @replied _ rest _ _ hin' hlt hbytes hserver hlog hstored =>
        by_cases hrest : rest = []
        · refine @Outstanding.replied _ j chunks rest _ _ ((hin j).trans hin') hlt ?_
            (.inl ⟨hrest, fun _ => rfl⟩) hlog hstored
          show chunks ++ ((s.net.closeAcceptor k).stream j).outbound ++ rest = _
          rw [hout]
          exact hbytes
        · -- the reply stays incomplete
          have htotal := congrArg List.length hbytes
          have hpos := List.length_pos_iff.2 hrest
          rw [length_bytes, List.length_append] at htotal
          exact hbroken hjk (by omega)
    · cases h.outstanding j chunks hj hchunks with
      | asked hin' hout' hserver hlog =>
        refine .asked ((hin j).trans hin') ((hout j).trans hout') (.inl ?_) hlog
        exact hserver.resolve_right fun heq => hjk (Option.some.inj (heq.1.symm.trans hs))
      | handled _ _ hserver => exact absurd (Option.some.inj (hserver.1.symm.trans hs)) hjk
      | replied _ hlt =>
        have := h.socket j hj
        omega
      | broken hlt =>
        have := h.socket j hj
        omega
  · rintro j (hj | hj)
    · cases hj
    · exact (hin j).trans (hq.inbound j (.inr hj))

/-! ### The programs of the server -/

section Server

variable {α : Type} {Q : Except SnapshotError α → SnapshotLink → Prop}

/-- A section of the server. -/
theorem server_atomic {l : LinkSection}
    {act : LinkEnv → SnapshotLink → Except SnapshotError α × SnapshotLink}
    (h : ∀ s₁, ByClient s s₁ → Inv p s₁ → ∀ e,
      (Inv p (act e s₁).2 ∧ ByServer s₁ (act e s₁).2) ∧ Q (act e s₁).1 (act e s₁).2) :
    wp (outline p) .server Q (.atomic l act) s := by
  refine wp_atomic.2 fun s₁ hr hi => ⟨nofun, fun e _ => ?_⟩
  obtain ⟨⟨hi', hserver⟩, hq⟩ := h s₁ hr hi e
  exact ⟨hi', ⟨fun _ => hserver, fun hne => absurd rfl hne⟩, hq⟩

/-- What the client leaves to the server. -/
structure Unmoved (J : SnapshotLink → Prop) : Prop where
  byClient : ∀ {s s'}, J s → ByClient s s' → J s'

theorem unmoved_serving {phase : LinkPhase} : Unmoved (Serving k phase) where
  byClient h hs := h.byClient hs

theorem unmoved_connection {c : Option ℕ} : Unmoved fun s => s.connection = c where
  byClient h hs := hs.connection.trans h

theorem isRunning_wp {J : SnapshotLink → Prop} (hJ : Unmoved J) (h : J s) :
    wp (outline p) .server (fun r s' => (∃ running, r = .ok running) ∧ J s') isRunning s :=
  server_atomic fun _ hr hi _ => ⟨⟨hi, .refl⟩, ⟨_, rfl⟩, hJ.byClient h hr⟩

theorem accept_wp (h : s.connection = none) :
    wp (outline p) .server (fun r s' => (∃ k, r = .ok (.arrived k) ∧ Serving k .waiting s') ∨
      (r = .ok .blocked ∨ r = .ok .ended) ∧ s'.connection = none) accept s := by
  refine server_atomic fun s₁ hr hi e => ?_
  have h₁ : s₁.connection = none := hr.connection.trans h
  cases e.refused with
  | some text =>
    refine ⟨⟨hi, .refl⟩, .inr ⟨?_, h₁⟩⟩
    dsimp only
    split
    · exact .inl rfl
    · exact .inr rfl
  | none =>
    cases hnet : s₁.net.accept with
    | none => exact ⟨⟨hi, .refl⟩, .inr ⟨.inl rfl, h₁⟩⟩
    | some net =>
      have hphase : s₁.phase = .waiting := by
        by_contra hne
        exact hi.phase hne h₁
      exact ⟨hi.accepted h₁ hnet, .inl ⟨_, rfl, rfl, hphase⟩⟩

theorem receiveRequest_wp (h : Serving k .waiting s) :
    wp (outline p) .server (fun r s' => r = .ok (.arrived ()) ∧ Serving k .handling s' ∨
      (r = .ok .blocked ∨ r = .ok .ended) ∧ Serving k .waiting s') (receiveRequest k) s := by
  refine server_atomic fun s₁ hr hi e => ?_
  have h₁ := h.byClient hr
  cases e.refused with
  | some text => exact ⟨⟨hi, .refl⟩, .inr ⟨.inr rfl, h₁⟩⟩
  | none =>
    cases hin : (s₁.net.stream k).inbound with
    | nil =>
      refine ⟨⟨hi, .refl⟩, .inr ⟨?_, h₁⟩⟩
      dsimp only
      split
      · exact .inl rfl
      · exact .inr rfl
    | cons b bs =>
      have hne : (s₁.net.stream k).inbound ≠ [] := by simp [hin]
      exact ⟨hi.received_request h₁ hne, .inl ⟨rfl, h₁.1, rfl⟩⟩

theorem select_wp (h : Serving k .handling s) :
    wp (outline p) .server (fun r s' => (∃ selected, r = .ok selected ∨ ∃ err, r = .error err) ∧
      Serving k .handling s' ∧ Inv p s') select s := by
  refine server_atomic fun s₁ hr hi e => ?_
  have h₁ := h.byClient hr
  cases e.refused with
  | some text => exact ⟨⟨hi, .refl⟩, ⟨.error {}, .inr ⟨_, rfl⟩⟩, h₁, hi⟩
  | none => exact ⟨⟨hi, .refl⟩, ⟨_, .inl rfl⟩, h₁, hi⟩

/-- The writer commits while a request is handled. -/
theorem commit_wp (h : Serving k .handling s) (hi : Inv p s) (x : VlaSnapshot UInt64) :
    wp (outline p) .server (fun r s' => Serving k .handling s' ∧ ∀ d, r = .ok d →
        Stored (committedReply d) (some (d, x)) s'.arena ∧ Fresh k (some (d, x)) s')
      (onArena (Arena.commit p.width p.height x)) s := by
  -- what the requests show was committed before
  have hframe : s.socket = some (some k) → ∀ j cs, .requested j cs ∈ s.log → ∀ d ∈ cs,
      ∃ y ∈ s.arena.committed, y.1 = d := fun _ => hi.before
  refine wp_mono (wp_component
    (O := Arena.outline UInt64 p.width p.height p.readerWidth p.readerHeight) (t := .writer)
    (F := fun s' => Serving k .handling s' ∧ (s'.socket = some (some k) →
      ∀ j cs, .requested j cs ∈ s'.log → ∀ d ∈ cs, ∃ y ∈ s.arena.committed, y.1 = d))
    ?_ ?_ ?_ ?_ ?_ ?_ ⟨h, hframe⟩ Arena.commit_holds) fun r s' hr => ?_
  · intro s₁ s₂ hF hr _
    refine ⟨⟨hF.1.byClient hr, fun hsocket => ?_⟩, hr.arena⟩
    obtain ⟨hsocket', hlog⟩ := hr.busy k hF.1.1 (by simp [hF.1.2]) hsocket
    rw [hlog]
    exact hF.2 hsocket'
  · intro s₁ _ hi₁
    exact hi₁.arena
  · intro s₁ l _ _ ht
    cases ht
  · intro s₁ l e _ hwrap hl
    exact hwrap (congrArg LinkSection.arena hl)
  · intro s₁ g hF
    exact ⟨hF, rfl⟩
  · intro s₁ l r g hF hi₁ hg hw
    obtain ⟨hi', hserver⟩ := hi₁.stored hF.1 hg hw
    exact ⟨hi', fun _ => hserver, fun hne => absurd rfl hne⟩
  · obtain ⟨⟨hserving, hrequests⟩, hcommit⟩ := hr
    refine ⟨hserving, fun d hd => ?_⟩
    obtain ⟨hholds, hnew⟩ := hcommit d hd
    refine ⟨⟨rfl, hholds⟩, fun hsocket d' x' heq j cs hmem hin => ?_⟩
    cases heq
    obtain ⟨y, hy, rfl⟩ := hrequests hsocket j cs hmem d hin
    exact hnew y hy rfl

theorem captureSnapshot_wp (h : Serving k .handling s) :
    wp (outline p) .server (fun r s' => Serving k .handling s' ∧ ∀ a, r = .ok a →
      Stored a.1 a.2 s'.arena ∧ Fresh k a.2 s') (captureSnapshot p) s := by
  refine wp_bind.2 (wp_mono (select_wp h) fun r s₁ hr => ?_)
  obtain ⟨⟨selected, rfl | ⟨err, rfl⟩⟩, h₁, hi⟩ := hr
  · cases selected with
    | error failure =>
      refine ⟨h₁, fun a ha => ?_⟩
      obtain rfl := Except.ok.inj ha
      exact ⟨rfl, fun _ d x hd => by cases hd⟩
    | ok x =>
      refine wp_bind.2 (wp_mono (commit_wp h₁ hi x) fun r s₂ hr => ?_)
      cases r with
      | error err => exact ⟨hr.1, fun a ha => by cases ha⟩
      | ok d =>
        refine ⟨hr.1, fun a ha => ?_⟩
        obtain rfl := Except.ok.inj ha
        exact hr.2 d rfl
  · exact ⟨h₁, fun a ha => by cases ha⟩

theorem answer_wp (h : Serving k .handling s) (hstored : Stored reply committed s.arena)
    (hfresh : Fresh k committed s) :
    wp (outline p) .server (fun r s' => r = .ok () ∧ Serving k (.replying reply.bytes) s')
      (answer k reply committed) s := by
  refine server_atomic fun s₁ hr hi _ => ?_
  have h₁ := h.byClient hr
  have hfresh₁ := hfresh.byClient h (by simp) hr
  exact ⟨hi.replied h₁ (hstored.byReader hr.arena) hfresh₁, rfl, h₁.1, rfl⟩

/-- What the server is busy with when this is left to send. -/
def sending (rest : List UInt8) : LinkPhase := if rest = [] then .waiting else .replying rest

theorem send_wp {bytes : List UInt8} (h : Serving k (.replying bytes) s) :
    wp (outline p) .server
      (fun r s' => (∃ rest, r = .ok (some rest) ∧ Serving k (sending rest) s') ∨
      r = .ok none ∧ s'.connection = some k) (send k bytes) s := by
  refine server_atomic fun s₁ hr hi e => ?_
  have h₁ := h.byClient hr
  cases e.refused with
  | some text => exact ⟨⟨hi, .refl⟩, .inr ⟨rfl, h₁.1⟩⟩
  | none => exact ⟨hi.sent h₁ (e.more + 1) rfl, .inl ⟨_, rfl, h₁.1, rfl⟩⟩

theorem sendReply_wp {bytes : List UInt8} (h : Serving k (sending bytes) s) (rounds : ℕ) :
    wp (outline p) .server (fun r s' => r = .ok true ∧ Serving k .waiting s' ∨
      r = .ok false ∧ s'.connection = some k) (sendReply k rounds bytes) s := by
  induction rounds generalizing bytes s with
  | zero =>
    cases bytes with
    | nil => exact .inl ⟨rfl, h⟩
    | cons b bs => trivial
  | succ rounds ih =>
    cases bytes with
    | nil => exact .inl ⟨rfl, h⟩
    | cons b bs =>
      refine wp_bind.2 (wp_mono (send_wp h) fun r s₁ hr => ?_)
      rcases hr with ⟨rest, rfl, h₁⟩ | ⟨rfl, h₁⟩
      · exact ih h₁
      · exact .inr ⟨rfl, h₁⟩

theorem serve_wp (h : Serving k .waiting s) (rounds : ℕ) :
    wp (outline p) .server (fun r s' => r = .ok () ∧ s'.connection = some k)
      (serve p k rounds) s := by
  induction rounds generalizing s with
  | zero => trivial
  | succ rounds ih =>
    refine wp_bind.2 (wp_mono (isRunning_wp unmoved_serving h) fun r s₁ hr => ?_)
    obtain ⟨⟨running, rfl⟩, h₁⟩ := hr
    dsimp only
    split
    · exact ⟨rfl, h₁.1⟩
    refine wp_bind.2 (wp_mono (receiveRequest_wp h₁) fun r s₂ hr => ?_)
    rcases hr with ⟨rfl, h₂⟩ | ⟨rfl | rfl, h₂⟩
    · refine wp_andThen.2 (wp_mono (captureSnapshot_wp h₂) fun r s₃ hr => ?_)
      obtain ⟨h₃, hreply⟩ := hr
      cases r with
      | error err => exact ⟨rfl, h₃.1⟩
      | ok a =>
        obtain ⟨hstored, hfresh⟩ := hreply a rfl
        refine wp_bind.2 (wp_mono (answer_wp h₃ hstored hfresh) fun r s₄ hr => ?_)
        obtain ⟨rfl, h₄⟩ := hr
        have hsending : sending a.1.bytes = .replying a.1.bytes := by
          have hlength := length_bytes a.1
          refine if_neg fun hnil => ?_
          rw [hnil] at hlength
          exact absurd hlength (by decide)
        rw [← hsending] at h₄
        refine wp_bind.2 (wp_mono (sendReply_wp h₄ _) fun r s₅ hr => ?_)
        rcases hr with ⟨rfl, h₅⟩ | ⟨rfl, h₅⟩
        · exact ih h₅
        · exact ⟨rfl, h₅⟩
    · exact ih h₂
    · exact ⟨rfl, h₂.1⟩

theorem closeConnection_wp (h : s.connection = some k) :
    wp (outline p) .server (fun r s' => r = .ok () ∧ s'.connection = none)
      (closeConnection k) s :=
  server_atomic fun _ hr hi _ => ⟨hi.left (hr.connection.trans h), rfl, rfl⟩

theorem run_wp (h : s.connection = none) (rounds : ℕ) :
    wp (outline p) .server (fun _ s' => s'.connection = none) (run p rounds) s := by
  refine wp_loop (fun s' => s'.connection = none) (fun s₀ h₀ => ?_) rounds h
  refine wp_bind.2 (wp_mono (isRunning_wp unmoved_connection h₀) fun r s₁ hr => ?_)
  obtain ⟨⟨running, rfl⟩, h₁⟩ := hr
  dsimp only
  split
  · exact h₁
  refine wp_bind.2 (wp_mono (accept_wp h₁) fun r s₂ hr => ?_)
  rcases hr with ⟨k, rfl, h₂⟩ | ⟨rfl | rfl, h₂⟩
  · refine wp_bind.2 (wp_mono (serve_wp h₂ rounds) fun r s₃ hr => ?_)
    obtain ⟨rfl, h₃⟩ := hr
    refine wp_bind.2 (wp_mono (closeConnection_wp h₃) fun r s₄ hr => ?_)
    obtain ⟨rfl, h₄⟩ := hr
    exact h₄
  · exact h₂
  · exact h₂

end Server

/-! ### What a capture returns -/

theorem outline_sound : (outline p).Sound (system p) where
  refl t s := by
    cases t with
    | client => exact .refl
    | server => exact .refl
    | owner => trivial
  trans t _ _ _ h h' := by
    cases t with
    | client => exact h.trans h'
    | server => exact h.trans h'
    | owner => trivial
  compat := by
    intro t t' l s r s' hne _ _ _ hg
    cases t' with
    | client => exact hg.1 hne
    | server => exact hg.2 hne
    | owner => trivial
  idle_stable := by
    intro t s s' h hr
    cases t with
    | client => exact kept_idle.byServer h hr
    | server => exact hr.connection.trans h
    | owner => trivial
  op t o s hi hidle _ := by
    cases t with
    | client =>
      cases o with
      | capture rounds =>
        refine wp_bind.2 (wp_mono (capture_wp hidle rounds) fun r s₁ hr => ?_)
        obtain ⟨result, rfl, hended⟩ := hr
        exact noteReturned_wp hended
      | close => exact close_wp
      | run rounds => exact hidle
      | stop => exact hidle
    | server =>
      cases o with
      | run rounds => exact run_wp hidle rounds
      | capture rounds => exact hidle
      | close => exact hidle
      | stop => exact hidle
    | owner =>
      cases o with
      | stop =>
        refine wp_atomic.2 fun s₁ _ h₁ =>
          ⟨nofun, fun e _ => ⟨?_, ⟨fun _ => ?_, fun _ => ?_⟩, trivial⟩⟩
        · exact { h₁ with
            resting := fun k hk hnone => ⟨(h₁.resting k hk hnone).inbound,
              (h₁.resting k hk hnone).outbound, (h₁.resting k hk hnone).server,
              (h₁.resting k hk hnone).balanced⟩
            outstanding := fun k chunks hk hchunks => by
              cases h₁.outstanding k chunks hk hchunks with
              | asked hin hout hserver hlog => exact .asked hin hout hserver hlog
              | handled hin hout hserver hlog => exact .handled hin hout hserver hlog
              | broken haccepted hserver hshort => exact .broken haccepted hserver hshort
              | replied hin haccepted hbytes hserver hlog hstored =>
                exact .replied hin haccepted hbytes hserver hlog hstored }
        · exact ⟨rfl, rfl, fun hq => ⟨rfl, rfl, hq.phase, hq.inbound⟩⟩
        · exact ⟨rfl, rfl, .refl, fun _ _ _ hsocket => ⟨hsocket, rfl⟩⟩
      | capture rounds => trivial
      | close => trivial
      | run rounds => trivial

theorem inv_init {path : String} {arena : Arena UInt64}
    (hs : Arena.create UInt64 path p.width p.height = .ok arena) : Inv p { arena } where
  arena := Arena.inv_create hs
  accepted_le := le_rfl
  fresh _ _ := rfl
  untouched _ _ := rfl
  connection := by rintro _ ⟨⟩
  phase hne := absurd rfl hne
  socket := by rintro _ ⟨⟩
  received hne := absurd rfl hne
  resting := by rintro _ ⟨⟩
  outstanding := by rintro _ _ ⟨⟩
  before _ _ hmem := (List.not_mem_nil hmem).elim
  known _ _ := ⟨rfl, rfl⟩
  commits _ _ _ hmem := (List.not_mem_nil hmem).elim
  returned r earlier hsuf := absurd (List.suffix_nil.1 hsuf) (by simp)

/-- A configuration of the system. -/
abbrev State := Config LinkRole LinkSection LinkEnv SnapshotLink SnapshotError

/-- What holds of the captures. -/
structure Attributed (p : LinkParameters) (c : State) : Prop where
  /-- A step shows the one snapshot that was committed in answer to the request of the capture,
  after it was sent. -/
  step : ∀ step earlier, .returned (.ok step) :: earlier <:+ c.shared.log →
    ∃ k reply d x, InAnswer k reply (some (d, x)) earlier ∧
      (c.shared.arena.committed.filter fun y => y.1 = d) = [(d, x)] ∧
        LocalVlaSnapshotClient.step p.readerWidth p.readerHeight x.sample = .ok step
  /-- An error says that there was no reply in time, or shows the reply to the request of the
  capture, or says that the arena could not be opened. -/
  explained : ∀ r earlier, .returned r :: earlier <:+ c.shared.log → Explained p r earlier
  /-- No slot is replaced before it was read, or changes while it is read. -/
  unreplaced : ∀ observedNs limitNs text,
    .returned (.error (.unavailable .buffersNotReady observedNs limitNs text)) ∈ c.shared.log →
      limitNs = none → text ≠ "snapshot slot was replaced before read" ∧
        text ≠ "snapshot slot changed during read"
  /-- While the client reads the arena the server leaves it alone. -/
  undisturbed : ∀ {β : Type} {l : ArenaSection}
    {act : LinkEnv → SnapshotLink → Except SnapshotError β × SnapshotLink}
    {next : Except SnapshotError β → Program Unit} {l' : LinkSection} {e : LinkEnv}
    {r : Option SnapshotError} {c' : State},
    c.prog .client = some (.sect (.arena l) act next) →
      (system p).Step (fun _ l _ s => NoWrap l s) c (.sect .server l' e r) c' →
        c'.shared.arena = c.shared.arena

theorem returned_suffix {log : List LinkEvent}
    {r : Except CaptureError Observation.VlaObservationStep} (h : .returned r ∈ log) :
    ∃ earlier, .returned r :: earlier <:+ log := by
  obtain ⟨later, earlier, rfl⟩ := List.append_of_mem h
  exact ⟨earlier, List.suffix_append ..⟩

/-- A capture that failed with a reply does not say that a slot was replaced. -/
theorem Shown.unreplaced {observedNs limitNs : Option ℤ} {text : String}
    (h : Shown p reply committed (.error (.unavailable .buffersNotReady observedNs limitNs text))) :
    text ≠ "snapshot slot was replaced before read" ∧
      text ≠ "snapshot slot changed during read" := by
  generalize hr :
    (Except.error (CaptureError.unavailable .buffersNotReady observedNs limitNs text) :
    Except CaptureError Observation.VlaObservationStep) = r at h
  cases h with
  | failed =>
    unfold failure at hr
    split at hr
    · cases hr
    · cases hr
      decide
  | invalid =>
    cases hr
    decide
  | unopened herr =>
    cases herr with
    | osError text => cases hr
    | size =>
      cases hr
      decide
    | header =>
      cases hr
      decide
  | captured =>
    rename_i d x
    cases hstep : LocalVlaSnapshotClient.step p.readerWidth p.readerHeight x.sample with
    | error err =>
      rw [hstep] at hr
      cases hr
    | ok step =>
      rw [hstep] at hr
      cases hr

/-- Every capture returns what was committed in answer to its own request: replies to requests that
were given up are never read, and nothing is committed while the client reads the arena. -/
theorem capture_in_answer {path : String} {arena : Arena UInt64}
    (hs : Arena.create UInt64 path p.width p.height = .ok arena) {c : State}
    (hc : (system p).Reachable (fun _ l _ s => NoWrap l s) (.init { arena }) c) :
    Attributed p c := by
  have hsound := outline_sound (p := p)
  have hidle : ∀ t, (outline p).idle t { arena } := fun t => by
    cases t with
    | client => exact ⟨rfl, by simp⟩
    | server => rfl
    | owner => trivial
  have hinv : Inv p c.shared := hsound.inv (inv_init hs) hidle hc
  refine ⟨fun step earlier hsuf => ?_, hinv.returned, fun observedNs limitNs text hmem hlimit => ?_,
    ?_⟩
  · rcases hinv.returned _ _ hsuf with ⟨_, _, hr⟩ | ⟨k, reply, committed, hanswer, hshown⟩
    · cases hr
    · generalize hr : (Except.ok step : Except CaptureError Observation.VlaObservationStep) = r
        at hshown
      cases hshown with
      | failed => cases hr
      | invalid => cases hr
      | unopened => cases hr
      | captured =>
        rename_i d x
        have hmem : LinkEvent.answered k reply (some (d, x)) ∈ c.shared.log := by
          obtain ⟨middle, cs, before, rfl, -, -, -, hmem, -⟩ := hanswer
          exact hsuf.mem (by simp [hmem])
        refine ⟨k, reply, d, x, hanswer,
          Arena.filter_key hinv.arena.descriptors_nodup (hinv.commits k reply _ hmem), ?_⟩
        cases hstep : LocalVlaSnapshotClient.step p.readerWidth p.readerHeight x.sample with
        | error err =>
          rw [hstep] at hr
          cases hr
        | ok step' =>
          rw [hstep] at hr
          cases hr
          rfl
  · obtain ⟨earlier, hsuf⟩ := returned_suffix hmem
    rcases hinv.returned _ _ hsuf with ⟨_, _, hr⟩ | ⟨k, reply, committed, -, hshown⟩
    · cases hr
      cases hlimit
    · exact hshown.unreplaced
  · intro β l act next l' e r c' hclient hstep
    have hquiet : Quiet c.shared := hsound.pre (inv_init hs) hidle hc hclient rfl ⟨l, rfl⟩
    exact ((hsound.guar (inv_init hs) hidle hc hstep).1 (by simp)).quiet hquiet |>.1

/-! ### A request that is given up -/

namespace Station

/-- Frames of one pixel. -/
def parameters : LinkParameters := ⟨1, 1, 1, 1, 1000⟩

/-- The arena before the first commit. -/
def arena : Arena UInt64 where
  bytes := arenaBytes 1 1
  header := .of 1 1
  slots := fun _ => ⟨0, clearedCell (frameBytes 1 1)⟩

/-- A snapshot of three pixels. -/
def snapshot (cutoffNs : ℤ) : VlaSnapshot UInt64 where
  camera _ := ⟨⟨0, 1⟩, 1, 1, "rgb8", 3, [1, 2, 3]⟩
  arm _ := ⟨⟨0, 1⟩, fun _ => 0, 0⟩
  cutoffNs := cutoffNs

/-- Nothing is refused. -/
def ready : LinkEnv where
  more := 31

/-- The first request is given up before the server has accepted its connection, and is answered
after the second one was sent. -/
def schedule : List (Move LinkRole Op LinkEnv) :=
  Move.run .client (.capture 4) 6 ready ++
    List.replicate 4 (.go .client { ready with clock := 1000 }) ++
    Move.run .client (.capture 4) 6 { ready with clock := 1000 } ++
    Move.run .server (.run 8) 4 ready ++
    List.replicate 29 (.go .server { ready with selected := .ok (snapshot 1) }) ++
    List.replicate 6 (.go .server ready) ++
    List.replicate 30 (.go .server { ready with selected := .ok (snapshot 2) }) ++
    List.replicate 49 (.go .client { ready with clock := 1000 })

instance (l : LinkSection) (s : SnapshotLink) : Decidable (NoWrap l s) :=
  inferInstanceAs (Decidable (l = .arena .nextSequence → s.arena.sequence + 1 < 2 ^ 63))

/-- The first request was given up, both were answered, and the second capture has ended. -/
def secondReturned (c : State) : Bool :=
  match c.shared.log with
  | [.returned _, .answered 1 _ (some _), .answered 0 _ (some _), .requested 1 _,
      .returned (.error _), .requested 0 _] => true
  | _ => false

end Station

/-- The second capture has received its own reply. -/
theorem capture_in_answer_second : ∃ c : State,
    Arena.create UInt64 "arena" 1 1 = .ok Station.arena ∧
      (system Station.parameters).Reachable (fun _ l _ s => NoWrap l s)
        (.init { arena := Station.arena }) c ∧
      Attributed Station.parameters c ∧ Station.secondReturned c = true := by
  have hs : Arena.create UInt64 "arena" 1 1 = .ok Station.arena := rfl
  obtain ⟨c, hc, htest⟩ := System.shows (system Station.parameters) (fun _ _ _ => trivial)
    NoWrap (.init { arena := Station.arena }) Station.schedule Station.secondReturned
    (by decide +kernel)
  exact ⟨c, hs, hc, capture_in_answer hs hc, htest⟩

end SnapshotLink

end DualCollection
