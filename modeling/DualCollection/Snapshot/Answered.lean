import DualCollection.Snapshot.Exchange
import DualCollection.Thread.Component

/-!
# What a capture returns

With one client there is at most one connection that is not dead, and it is the last one that was
made.  While the client waits for a reply on it (`Outstanding`), its request is on its way, or it is
handled, or what was received of the reply, what is on its way and what is left to send are the
reply together, or the server has left the connection and the reply will stay incomplete.

When the reply is complete the server has nothing to do (`Quiet`): requests of dead connections were
served before.  So nothing is committed while the client reads the arena, and what it reads is what
was committed in answer to its own request.
-/

namespace DualCollection

open Thread Net Bytes

namespace SnapshotLink

variable {p : LinkParameters} {s s' : SnapshotLink} {k j : ℕ} {chunks : List UInt8}
  {reply : SnapshotSocketReply} {committed : Option (SnapshotDescriptor × VlaSnapshot UInt64)}
  {r : Except CaptureError Observation.VlaObservationStep} {e : LinkEnv} {t : LinkRole}

/-! ### The invariant -/

/-- The reply names what is in the arena. -/
def Stored (reply : SnapshotSocketReply)
    (committed : Option (SnapshotDescriptor × VlaSnapshot UInt64)) (arena : Arena UInt64) : Prop :=
  match committed with
  | none => reply.generation = 0
  | some (d, x) => reply = committedReply d ∧ arena.Holds d x

theorem Stored.byReader {arena arena' : Arena UInt64} (h : Stored reply committed arena)
    (hr : Arena.ByReader arena arena') : Stored reply committed arena' := by
  cases committed with
  | none => exact h
  | some x => exact ⟨h.1, h.2.byReader hr⟩

/-- The client waits for a reply on the connection `k`, and has received this much of it. -/
inductive Outstanding (s : SnapshotLink) (k : ℕ) : List UInt8 → Prop
  /-- The request was sent. -/
  | asked (hin : (s.net.stream k).inbound = request) (hout : (s.net.stream k).outbound = [])
    (hserver : s.net.accepted ≤ k ∨ s.connection = some k ∧ s.phase = .waiting)
    (hlog : Pending k s.log) : Outstanding s k []
  /-- The server handles it. -/
  | handled (hin : (s.net.stream k).inbound = []) (hout : (s.net.stream k).outbound = [])
    (hserver : s.connection = some k ∧ s.phase = .handling) (hlog : Pending k s.log) :
    Outstanding s k []
  /-- It was answered. -/
  | replied {chunks rest : List UInt8} {reply : SnapshotSocketReply}
    {committed : Option (SnapshotDescriptor × VlaSnapshot UInt64)}
    (hin : (s.net.stream k).inbound = []) (haccepted : k < s.net.accepted)
    (hbytes : chunks ++ (s.net.stream k).outbound ++ rest = reply.bytes)
    (hserver : rest = [] ∧ (s.connection = some k → s.phase = .waiting) ∨
      rest ≠ [] ∧ s.connection = some k ∧ s.phase = .replying rest)
    (hlog : InAnswer k reply committed s.log) (hstored : Stored reply committed s.arena) :
    Outstanding s k chunks
  /-- The server has left. -/
  | broken {chunks : List UInt8} (haccepted : k < s.net.accepted) (hserver : s.connection ≠ some k)
    (hshort : (chunks ++ (s.net.stream k).outbound).length < replySize) : Outstanding s k chunks

/-- The client waits for nothing. -/
structure Resting (s : SnapshotLink) (k : ℕ) : Prop where
  /-- No request is on its way. -/
  inbound : (s.net.stream k).inbound = []
  /-- No reply is on its way. -/
  outbound : (s.net.stream k).outbound = []
  /-- No request is handled. -/
  server : s.connection = some k → s.phase = .waiting
  /-- All requests were answered. -/
  balanced : answers k s.log = requests k s.log

/-- The invariant. -/
structure Inv (p : LinkParameters) (s : SnapshotLink) : Prop where
  /-- The arena is that of the two processes. -/
  arena : s.arena.Inv p.width p.height p.readerWidth p.readerHeight
  /-- Connections are made before they are accepted. -/
  accepted_le : s.net.accepted ≤ s.net.connected
  /-- A connection that was not made carries nothing. -/
  fresh : ∀ k, s.net.connected ≤ k → (s.net.stream k).inbound = []
  /-- The server sends on connections that it has accepted. -/
  untouched : ∀ k, s.net.accepted ≤ k → (s.net.stream k).outbound = []
  /-- The server serves the connection that it has accepted last. -/
  connection : ∀ k, s.connection = some k → s.net.accepted = k + 1
  /-- It serves nothing else. -/
  phase : s.phase ≠ .waiting → s.connection ≠ none
  /-- The connection of the client is the last one. -/
  socket : ∀ k, s.socket = some (some k) → s.net.connected = k + 1
  /-- The client waits on a connection. -/
  received : s.received ≠ none → ∃ k, s.socket = some (some k)
  /-- The client waits for nothing. -/
  resting : ∀ k, s.socket = some (some k) → s.received = none → Resting s k
  /-- The client waits for a reply. -/
  outstanding : ∀ k chunks, s.socket = some (some k) → s.received = some chunks →
    Outstanding s k chunks
  /-- What was committed before a request was committed. -/
  before : ∀ j cs, .requested j cs ∈ s.log → ∀ d ∈ cs, ∃ x ∈ s.arena.committed, x.1 = d
  /-- Connections that were not made have no requests. -/
  known : ∀ k, s.net.connected ≤ k → requests k s.log = 0 ∧ answers k s.log = 0
  /-- What was committed for an answer was committed. -/
  commits : ∀ k reply x, .answered k reply (some x) ∈ s.log → x ∈ s.arena.committed
  /-- Every capture ends for a reason. -/
  returned : ∀ r earlier, .returned r :: earlier <:+ s.log → Explained p r earlier

/-- The server has nothing to do until the next request is sent. -/
structure Quiet (s : SnapshotLink) : Prop where
  /-- It handles no request. -/
  phase : s.phase = .waiting
  /-- No request is on its way. -/
  inbound : ∀ k, s.connection = some k ∨ s.net.accepted ≤ k → (s.net.stream k).inbound = []

/-! ### The threads -/

/-- What the client does to what the server knows. -/
structure ByClient (s s' : SnapshotLink) : Prop where
  /-- The server's own. -/
  connection : s'.connection = s.connection
  /-- The server's own. -/
  phase : s'.phase = s.phase
  /-- The client only reads. -/
  arena : Arena.ByReader s.arena s'.arena
  /-- While the server is busy with the request of a connection, the client sends nothing there. -/
  busy : ∀ k, s.connection = some k → s.phase ≠ .waiting → s'.socket = some (some k) →
    s.socket = some (some k) ∧ s'.log = s.log

/-- What the server does to what the client knows. -/
structure ByServer (s s' : SnapshotLink) : Prop where
  /-- The client's own. -/
  socket : s'.socket = s.socket
  /-- The client's own. -/
  received : s'.received = s.received
  /-- Nothing is committed and nothing is answered until the next request is sent. -/
  quiet : Quiet s → s'.arena = s.arena ∧ s'.log = s.log ∧ Quiet s'

theorem ByClient.refl : ByClient s s :=
  ⟨rfl, rfl, .refl, fun _ _ _ h => ⟨h, rfl⟩⟩

theorem ByClient.trans {s'' : SnapshotLink} (h : ByClient s s') (h' : ByClient s' s'') :
    ByClient s s'' where
  connection := h'.connection.trans h.connection
  phase := h'.phase.trans h.phase
  arena := h.arena.trans h'.arena
  busy := fun k hk hphase hsocket => by
    obtain ⟨hsocket, hlog⟩ := h'.busy k (h.connection.trans hk) (by rwa [h.phase]) hsocket
    obtain ⟨hsocket, hlog'⟩ := h.busy k hk hphase hsocket
    exact ⟨hsocket, hlog.trans hlog'⟩

theorem ByServer.refl : ByServer s s := ⟨rfl, rfl, fun h => ⟨rfl, rfl, h⟩⟩

theorem ByServer.trans {s'' : SnapshotLink} (h : ByServer s s') (h' : ByServer s' s'') :
    ByServer s s'' where
  socket := h'.socket.trans h.socket
  received := h'.received.trans h.received
  quiet := fun hq => by
    obtain ⟨harena, hlog, hq⟩ := h.quiet hq
    obtain ⟨harena', hlog', hq⟩ := h'.quiet hq
    exact ⟨harena'.trans harena, hlog'.trans hlog, hq⟩

/-- The generations do not wrap. -/
def NoWrap (l : LinkSection) (s : SnapshotLink) : Prop :=
  l = .arena .nextSequence → s.arena.sequence + 1 < 2 ^ 63

/-- The proof outline of the threads. -/
def outline (p : LinkParameters) :
    Outline LinkRole LinkSection LinkEnv SnapshotLink SnapshotError where
  inv := Inv p
  admits := fun _ l _ s => NoWrap l s
  pre := fun t l s => t = .client → (∃ l', l = .arena l') → Quiet s
  rely := fun
    | .client, s, s' => ByServer s s'
    | .server, s, s' => ByClient s s'
    | .owner, _, _ => True
  guar := fun t _ s _ s' => (t ≠ .client → ByServer s s') ∧ (t ≠ .server → ByClient s s')
  idle := fun
    | .client, s => s.received = none ∧ s.socket ≠ some none
    | .server, s => s.connection = none
    | .owner, _ => True

/-! ### What the sections of the client do -/

theorem Inv.received_none (h : Inv p s) (hs : ∀ k, s.socket ≠ some (some k)) :
    s.received = none := by
  by_contra hne
  obtain ⟨k, hk⟩ := h.received hne
  exact hs k hk

/-- A socket without a connection. -/
theorem Inv.createSocket (h : Inv p s) (hs : s.socket = none) :
    Inv p { s with socket := some none } ∧ ByClient s { s with socket := some none } := by
  have hreceived := h.received_none (by simp [hs])
  refine ⟨{ h with
    socket := by rintro _ ⟨⟩
    received := fun hne => absurd hreceived hne
    resting := by rintro _ ⟨⟩
    outstanding := by rintro _ _ ⟨⟩ }, rfl, rfl, .refl, ?_⟩
  rintro _ _ _ ⟨⟩

/-- A new connection. -/
theorem Inv.connectSocket (h : Inv p s) (hs : s.socket = some none) :
    Inv p { s with net := s.net.connect, socket := some (some s.net.connected) } ∧
      ByClient s { s with net := s.net.connect, socket := some (some s.net.connected) } := by
  have hreceived := h.received_none (by simp [hs])
  -- the server has not accepted the new connection
  have hnew : s.connection ≠ some s.net.connected := fun hc => by
    have := h.connection _ hc
    have := h.accepted_le
    omega
  refine ⟨{ h with
    accepted_le := h.accepted_le.trans (Nat.le_succ _)
    fresh := fun k hk => h.fresh k ((Nat.le_succ _).trans hk)
    untouched := h.untouched
    socket := ?_
    received := fun hne => absurd hreceived hne
    resting := ?_
    outstanding := fun k chunks _ hc => ?_
    known := fun k hk => h.known k ((Nat.le_succ _).trans hk) }, rfl, rfl, .refl, ?_⟩
  · rintro k ⟨⟩
    rfl
  · rintro k ⟨⟩ -
    obtain ⟨hrequests, hanswers⟩ := h.known _ le_rfl
    exact ⟨h.fresh _ le_rfl, h.untouched _ h.accepted_le, fun hc => absurd hc hnew,
      hanswers.trans hrequests.symm⟩
  · rw [show s.received = some chunks from hc] at hreceived
    cases hreceived
  · rintro k hk - ⟨⟩
    exact absurd hk hnew

/-- The state after a request was sent. -/
@[simps] def requested (s : SnapshotLink) (k : ℕ) : SnapshotLink :=
  { s with
    net := s.net.request k request
    received := some []
    log := .requested k (s.arena.committed.map Prod.fst) :: s.log }

/-- A request is sent. -/
theorem Inv.requested (h : Inv p s) (hs : s.socket = some (some k)) (hr : s.received = none) :
    Inv p (s.requested k) ∧ ByClient s (s.requested k) := by
  have hrest := h.resting k hs hr
  have hconnected := h.socket k hs
  have hin : ((s.net.request k request).stream k).inbound = request := by
    simp [Network.request, hrest.inbound]
  have hout : ∀ j, ((s.net.request k request).stream j).outbound = (s.net.stream j).outbound :=
    fun j => Network.alter_eq (g := Stream.outbound) rfl
  refine ⟨{ h with
    fresh := fun j hj => ?_
    untouched := fun j hj => (hout j).trans (h.untouched j hj)
    received := fun _ => ⟨k, hs⟩
    resting := by rintro _ _ ⟨⟩
    outstanding := ?_
    before := ?_
    known := fun j hj => ?_
    commits := ?_
    returned := ?_ }, rfl, rfl, .refl, ?_⟩
  · have hne : j ≠ k := by
      rintro rfl
      change s.net.connected ≤ j at hj
      omega
    show ((s.net.request k request).stream j).inbound = []
    rw [Network.request, Network.alter_of_ne hne]
    exact h.fresh j hj
  · intro j chunks hj hc
    obtain rfl : k = j := by simpa [hs] using hj
    obtain rfl : [] = chunks := by simpa using hc
    have hpending : Pending k (s.requested k).log :=
      ⟨[], _, s.log, rfl, by simp, hrest.balanced, rfl⟩
    by_cases hserver : s.net.accepted ≤ k ∨ s.connection = some k
    · exact .asked hin ((hout k).trans hrest.outbound)
        (hserver.imp_right fun hc => ⟨hc, hrest.server hc⟩) hpending
    · rw [not_or, not_le] at hserver
      refine .broken hserver.1 hserver.2 ?_
      show ([] ++ ((s.net.request k request).stream k).outbound).length < replySize
      rw [hout, hrest.outbound]
      decide
  · intro j cs hmem d hd
    rcases List.mem_cons.1 hmem with heq | hmem
    · cases heq
      obtain ⟨x, hx, rfl⟩ := List.mem_map.1 hd
      exact ⟨x, hx, rfl⟩
    · exact h.before j cs hmem d hd
  · have hne : k ≠ j := by
      rintro rfl
      change s.net.connected ≤ k at hj
      omega
    obtain ⟨hrequests, hanswers⟩ := h.known j hj
    exact ⟨by rw [requested_log, requests, hrequests, if_neg hne], hanswers⟩
  · intro j reply x hmem
    exact h.commits j reply x ((List.mem_cons.1 hmem).resolve_left (by simp))
  · intro r earlier hsuf
    exact h.returned r earlier ((List.suffix_cons_iff.1 hsuf).resolve_left (by simp))
  · intro j hj hphase hsocket
    obtain rfl : k = j := by simpa [hs] using hsocket
    exact absurd (hrest.server hj) hphase

/-- The state after a part of a reply was received. -/
@[simps] def taken (s : SnapshotLink) (k count : ℕ) (bytes : List UInt8) : SnapshotLink :=
  { s with net := s.net.takeOutbound k count, received := s.received.map (· ++ bytes) }

/-- A part of a reply is received. -/
theorem Inv.taken (h : Inv p s) (hs : s.socket = some (some k)) (hr : s.received = some chunks)
    {limit : ℕ} {bytes : List UInt8} (hbytes : bytes = (s.net.stream k).outbound.take limit)
    (hne : bytes ≠ []) :
    Inv p (s.taken k bytes.length bytes) ∧ ByClient s (s.taken k bytes.length bytes) ∧
      (s.taken k bytes.length bytes).received = some (chunks ++ bytes) := by
  have hin : ∀ j, ((s.net.takeOutbound k bytes.length).stream j).inbound =
      (s.net.stream j).inbound := fun j => Network.alter_eq (g := Stream.inbound) rfl
  have hout : ((s.net.takeOutbound k bytes.length).stream k).outbound =
      (s.net.stream k).outbound.drop bytes.length := by
    simp [Network.takeOutbound]
  have hsplit : bytes ++ (s.net.stream k).outbound.drop bytes.length =
      (s.net.stream k).outbound := by
    rw [hbytes, List.length_take]
    rcases le_total limit (s.net.stream k).outbound.length with hle | hle
    · rw [min_eq_left hle, List.take_append_drop]
    · rw [min_eq_right hle, List.take_of_length_le hle, List.drop_length, List.append_nil]
  have hreceived : (s.taken k bytes.length bytes).received = some (chunks ++ bytes) := by
    simp [hr]
  refine ⟨{ h with
    fresh := fun j hj => (hin j).trans (h.fresh j hj)
    untouched := fun j hj => ?_
    received := fun _ => ⟨k, hs⟩
    resting := fun j _ hnone => ?_
    outstanding := fun j cs hj hcs => ?_ }, ⟨rfl, rfl, .refl, fun _ _ _ hsocket => ⟨hsocket, rfl⟩⟩,
    hreceived⟩
  · have hj' := h.untouched j hj
    by_cases hjk : j = k
    · subst hjk
      refine hout.trans ?_
      rw [hj', List.drop_nil]
    · show ((s.net.takeOutbound k bytes.length).stream j).outbound = []
      rw [Network.takeOutbound, Network.alter_of_ne hjk]
      exact hj'
  · rw [hreceived] at hnone
    cases hnone
  · obtain rfl : k = j := by simpa [hs] using hj
    rw [hreceived] at hcs
    obtain rfl := Option.some.inj hcs
    have hnone : (s.net.stream k).outbound = [] → False := fun hnil => hne (by
      rw [hbytes, hnil, List.take_nil])
    cases h.outstanding k chunks hs hr with
    | asked _ hnil => exact (hnone hnil).elim
    | handled _ hnil => exact (hnone hnil).elim
    | replied hin' haccepted hreply hserver hlog hstored =>
      refine .replied ((hin k).trans hin') haccepted ?_ hserver hlog hstored
      show chunks ++ bytes ++ ((s.net.takeOutbound k bytes.length).stream k).outbound ++ _ = _
      rw [hout, List.append_assoc chunks, hsplit]
      exact hreply
    | broken haccepted hserver hshort =>
      refine .broken haccepted hserver ?_
      show (chunks ++ bytes ++ ((s.net.takeOutbound k bytes.length).stream k).outbound).length < _
      rw [hout, List.append_assoc chunks, hsplit]
      exact hshort

/-- What the client knows when it has received a reply. -/
structure Received (k : ℕ) (reply : SnapshotSocketReply)
    (committed : Option (SnapshotDescriptor × VlaSnapshot UInt64)) (s : SnapshotLink) : Prop where
  /-- The connection. -/
  socket : s.socket = some (some k)
  /-- The reply. -/
  received : s.received = some reply.bytes
  /-- It answers the request. -/
  log : InAnswer k reply committed s.log
  /-- Nothing will be committed. -/
  quiet : Quiet s

theorem length_bytes (reply : SnapshotSocketReply) : reply.bytes.length = replySize := by
  have hextent : (naturalLayout 0 SnapshotSocketReply.members).extent = 32 := by decide
  have hsize : structSize SnapshotSocketReply.members = 32 := by decide
  have hcalc : replySize = 32 := by decide
  have hroom : 0 + (naturalLayout 0 SnapshotSocketReply.members).extent ≤
      (List.replicate (structSize SnapshotSocketReply.members) (0 : UInt8)).length := by
    rw [List.length_replicate, hextent, hsize]
  have hfits : Fits (naturalLayout 0 SnapshotSocketReply.members) reply.items := rfl
  rw [SnapshotSocketReply.bytes, length_pokeAll hroom hfits, List.length_replicate, hsize, hcalc]

/-- A reply that has the right length is complete. -/
theorem Inv.complete (h : Inv p s) (hs : s.socket = some (some k))
    (hr : s.received = some chunks) (hlength : replySize ≤ chunks.length) :
    ∃ reply committed, chunks = reply.bytes ∧ Received k reply committed s ∧
      Stored reply committed s.arena ∧ Resting s k := by
  have hpos : 0 < replySize := by decide
  have hconnected := h.socket k hs
  cases h.outstanding k chunks hs hr with
  | asked => exact absurd hlength (not_le.2 hpos)
  | handled => exact absurd hlength (not_le.2 hpos)
  | broken _ _ hshort =>
    rw [List.length_append] at hshort
    omega
  | @replied _ rest reply committed hin haccepted hbytes hserver hlog hstored =>
    have htotal := congrArg List.length hbytes
    rw [length_bytes, List.length_append, List.length_append] at htotal
    have hout : (s.net.stream k).outbound = [] := List.eq_nil_of_length_eq_zero (by omega)
    have hrest : rest = [] := List.eq_nil_of_length_eq_zero (by omega)
    rw [hout, hrest, List.append_nil, List.append_nil] at hbytes
    subst hbytes
    have hwaiting : s.connection = some k → s.phase = .waiting :=
      (hserver.resolve_right fun hne => hne.1 hrest).2
    -- the connection is the last one that was made, and it was accepted
    have hconnection : ∀ j, s.connection = some j → j = k := fun j hj => by
      have := h.connection j hj
      have := h.accepted_le
      omega
    refine ⟨reply, committed, rfl, ⟨hs, hr, hlog, ?_, fun j hj => ?_⟩, hstored, hin, hout, hwaiting,
      hlog.balanced⟩
    · by_contra hphase
      obtain ⟨j, hj⟩ := Option.ne_none_iff_exists'.1 (h.phase hphase)
      exact hphase (hwaiting (hconnection j hj ▸ hj))
    · rcases hj with hj | hj
      · rw [hconnection j hj]
        exact hin
      · exact h.fresh j (by omega)

theorem Received.byServer (h : Received k reply committed s) (hs : ByServer s s') :
    Received k reply committed s' ∧ s'.arena = s.arena := by
  obtain ⟨harena, hlog, hquiet⟩ := hs.quiet h.quiet
  exact ⟨⟨hs.socket.trans h.socket, hs.received.trans h.received, hlog ▸ h.log, hquiet⟩, harena⟩

/-- The socket is closed. -/
theorem Inv.closed (h : Inv p s) {net : Network} (hconnected : net.connected = s.net.connected)
    (haccepted : net.accepted = s.net.accepted)
    (hin : ∀ j, (net.stream j).inbound = (s.net.stream j).inbound)
    (hout : ∀ j, (net.stream j).outbound = (s.net.stream j).outbound) :
    Inv p { s with net, socket := none, received := none } ∧
      ByClient s { s with net, socket := none, received := none } := by
  refine ⟨{ h with
    accepted_le := by
      show net.accepted ≤ net.connected
      rw [haccepted, hconnected]
      exact h.accepted_le
    fresh := fun j hj => (hin j).trans (h.fresh j (by rw [← hconnected]; exact hj))
    untouched := fun j hj => (hout j).trans (h.untouched j (by rw [← haccepted]; exact hj))
    connection := fun j hj => haccepted.trans (h.connection j hj)
    socket := by rintro _ ⟨⟩
    received := fun hne => absurd rfl hne
    resting := by rintro _ ⟨⟩
    outstanding := by rintro _ _ ⟨⟩
    known := fun j hj => h.known j (by rw [← hconnected]; exact hj) }, rfl, rfl, .refl, ?_⟩
  rintro _ _ _ ⟨⟩

/-- The end of a capture is noted. -/
theorem Inv.noted (h : Inv p s) (hrest : ∀ k, s.socket = some (some k) → Resting s k)
    (hr : Explained p r s.log) :
    Inv p { s with received := none, log := .returned r :: s.log } ∧
      ByClient s { s with received := none, log := .returned r :: s.log } := by
  refine ⟨{ h with
    received := fun hne => absurd rfl hne
    resting := fun k hk _ => ?_
    outstanding := by rintro _ _ - ⟨⟩
    before := fun j cs hmem => h.before j cs ((List.mem_cons.1 hmem).resolve_left (by simp))
    known := h.known
    commits := fun j reply x hmem =>
      h.commits j reply x ((List.mem_cons.1 hmem).resolve_left (by simp))
    returned := fun r' earlier hsuf => ?_ }, rfl, rfl, .refl, fun k hk hphase hsocket => ?_⟩
  · obtain ⟨hin, hout, hserver, hbalanced⟩ := hrest k hk
    exact ⟨hin, hout, hserver, hbalanced⟩
  · rcases List.suffix_cons_iff.1 hsuf with heq | hsuf
    · obtain ⟨heq, rfl⟩ := List.cons.inj heq
      cases heq
      exact hr
    · exact h.returned r' earlier hsuf
  · exact absurd ((hrest k hsocket).server hk) hphase

/-- The reader changes the arena. -/
theorem Inv.readArena (h : Inv p s) {g : Arena UInt64}
    (hg : g.Inv p.width p.height p.readerWidth p.readerHeight) (hr : Arena.ByReader s.arena g) :
    Inv p { s with arena := g } ∧ ByClient s { s with arena := g } := by
  refine ⟨{ h with
    arena := hg
    resting := fun k hk hnone => ?_
    outstanding := fun k chunks hk hc => ?_
    before := fun j cs hmem d hd => ?_
    commits := fun j reply x hmem => ?_ }, rfl, rfl, hr, fun _ _ _ hsocket => ⟨hsocket, rfl⟩⟩
  · obtain ⟨hin, hout, hserver, hbalanced⟩ := h.resting k hk hnone
    exact ⟨hin, hout, hserver, hbalanced⟩
  · cases h.outstanding k chunks hk hc with
    | asked hin hout hserver hlog => exact .asked hin hout hserver hlog
    | handled hin hout hserver hlog => exact .handled hin hout hserver hlog
    | broken haccepted hserver hshort => exact .broken haccepted hserver hshort
    | replied hin haccepted hbytes hserver hlog hstored =>
      exact .replied hin haccepted hbytes hserver hlog (hstored.byReader hr)
  · show ∃ x ∈ g.committed, x.1 = d
    rw [hr.committed]
    exact h.before j cs hmem d hd
  · show x ∈ g.committed
    rw [hr.committed]
    exact h.commits j reply x hmem

/-! ### The programs of the client -/

section Client

variable {α : Type} {Q : Except SnapshotError α → SnapshotLink → Prop} {J : SnapshotLink → Prop}

/-- A section of the client. -/
theorem client_atomic {l : LinkSection}
    {act : LinkEnv → SnapshotLink → Except SnapshotError α × SnapshotLink}
    (hl : ∀ l', l ≠ .arena l')
    (h : ∀ s₁, ByServer s s₁ → Inv p s₁ → ∀ e,
      (Inv p (act e s₁).2 ∧ ByClient s₁ (act e s₁).2) ∧ Q (act e s₁).1 (act e s₁).2) :
    wp (outline p) .client Q (.atomic l act) s := by
  refine wp_atomic.2 fun s₁ hr hi => ⟨fun _ hl' => ?_, fun e _ => ?_⟩
  · obtain ⟨l', rfl⟩ := hl'
    exact absurd rfl (hl l')
  · obtain ⟨⟨hi', hclient⟩, hq⟩ := h s₁ hr hi e
    exact ⟨hi', ⟨fun hne => absurd rfl hne, fun _ => hclient⟩, hq⟩

/-- What the server leaves to the client. -/
structure Kept (J : SnapshotLink → Prop) : Prop where
  byServer : ∀ {s s'}, J s → ByServer s s' → J s'

theorem readClock_wp (hJ : Kept J) (h : J s) :
    wp (outline p) .client (fun r s' => (∃ now, r = .ok now) ∧ J s' ∧ Inv p s') readClock s :=
  client_atomic (by simp) fun s₁ hr hi e =>
    ⟨⟨hi, .refl⟩, ⟨_, rfl⟩, hJ.byServer h hr, hi⟩

/-- An error of the operating system. -/
def Refused (r : Except SnapshotError α) : Prop := ∃ text, r = .error (.osError text)

theorem setRemainingTimeout_wp (hJ : Kept J) (h : J s) (deadlineNs : ℤ) :
    wp (outline p) .client (fun r s' => r = .ok () ∧ J s' ∨ Refused r)
      (setRemainingTimeout deadlineNs) s := by
  refine wp_bind.2 (wp_mono (readClock_wp hJ h) fun r s₁ hr => ?_)
  obtain ⟨⟨now, rfl⟩, hj, -⟩ := hr
  dsimp only
  split
  · exact .inr ⟨_, rfl⟩
  · exact .inl ⟨rfl, hj⟩

/-- Wait for what is left of the time, and go on. -/
theorem setRemainingTimeout_bind (hJ : Kept J) (h : J s) {deadlineNs : ℤ} {f : Unit → Program α}
    (herr : ∀ r s', Refused r → Q r s') (hf : ∀ s', J s' → wp (outline p) .client Q (f ()) s') :
    wp (outline p) .client Q (setRemainingTimeout deadlineNs >>= f) s := by
  refine wp_bind.2 (wp_mono (setRemainingTimeout_wp hJ h deadlineNs) fun r s₁ hr => ?_)
  rcases hr with ⟨rfl, hj⟩ | ⟨text, rfl⟩
  · exact hf s₁ hj
  · exact herr _ _ ⟨text, rfl⟩

/-- The client waits for nothing, and has no socket or a connected one. -/
def Idle (s : SnapshotLink) : Prop := s.received = none ∧ s.socket ≠ some none

theorem kept_idle : Kept Idle where
  byServer h hs := ⟨hs.received.trans h.1, hs.socket ▸ h.2⟩

/-- What the client has received on a connection. -/
def Has (k : ℕ) (received : Option (List UInt8)) (s : SnapshotLink) : Prop :=
  s.socket = some (some k) ∧ s.received = received

theorem kept_has {received : Option (List UInt8)} : Kept (Has k received) where
  byServer h hs := ⟨hs.socket.trans h.1, hs.received.trans h.2⟩

theorem createSocket_wp (h : Idle s) :
    wp (outline p) .client (fun r s' => (∃ k, r = .ok (some (some k)) ∧ Has k none s') ∨
      r = .ok none ∧ s'.socket = some none ∨ Refused r) createSocket s := by
  refine client_atomic (by simp) fun s₁ hr hi e => ?_
  have h₁ := kept_idle.byServer h hr
  cases hsocket : s₁.socket with
  | some c =>
    cases c with
    | none => exact absurd hsocket h₁.2
    | some k => exact ⟨⟨hi, .refl⟩, .inl ⟨k, rfl, hsocket, h₁.1⟩⟩
  | none =>
    cases e.refused with
    | some text => exact ⟨⟨hi, .refl⟩, .inr (.inr ⟨text, rfl⟩)⟩
    | none => exact ⟨hi.createSocket hsocket, .inr (.inl ⟨rfl, rfl⟩)⟩

theorem connectSocket_wp (h : s.socket = some none) :
    wp (outline p) .client (fun r s' => (∃ k, r = .ok (some k) ∧ Has k none s') ∨ Refused r)
      connectSocket s := by
  refine client_atomic (by simp) fun s₁ hr hi e => ?_
  have h₁ : s₁.socket = some none := hr.socket.trans h
  cases e.refused with
  | some text => exact ⟨⟨hi, .refl⟩, .inr ⟨text, rfl⟩⟩
  | none =>
    have hreceived := hi.received_none (by simp [h₁])
    exact ⟨hi.connectSocket h₁, .inl ⟨_, rfl, rfl, hreceived⟩⟩

theorem connect_wp (h : Idle s) (deadlineNs : ℤ) :
    wp (outline p) .client (fun r s' => (∃ k, r = .ok (some k) ∧ Has k none s') ∨ Refused r)
      (connect deadlineNs) s := by
  refine wp_bind.2 (wp_mono (createSocket_wp h) fun r s₁ hr => ?_)
  rcases hr with ⟨k, rfl, hk⟩ | ⟨rfl, hs⟩ | ⟨text, rfl⟩
  · exact .inl ⟨k, rfl, hk⟩
  · have hkept : Kept fun s => s.socket = some none := ⟨fun h hs => hs.socket.trans h⟩
    exact setRemainingTimeout_bind hkept hs (fun r _ herr => .inr herr) fun s₂ h₂ =>
      connectSocket_wp h₂
  · exact .inr ⟨text, rfl⟩

theorem sendRequest_wp (h : Has k none s) :
    wp (outline p) .client (fun r s' => r = .ok () ∧ Has k (some []) s' ∨ Refused r)
      (sendRequest (some k)) s := by
  refine client_atomic (by simp) fun s₁ hr hi e => ?_
  have h₁ := kept_has.byServer h hr
  cases e.refused with
  | some text => exact ⟨⟨hi, .refl⟩, .inr ⟨text, rfl⟩⟩
  | none => exact ⟨hi.requested h₁.1 h₁.2, .inl ⟨rfl, h₁.1, rfl⟩⟩

theorem receive_wp (h : Has k (some chunks) s) (limit : ℕ) :
    wp (outline p) .client (fun r s' => (∃ chunk, r = .ok chunk ∧
      Has k (some (chunks ++ chunk.getD [])) s') ∨ Refused r) (receive (some k) limit) s := by
  refine client_atomic (by simp) fun s₁ hr hi e => ?_
  have h₁ := kept_has.byServer h hr
  dsimp only
  cases e.refused with
  | some text => exact ⟨⟨hi, .refl⟩, .inr ⟨text, rfl⟩⟩
  | none =>
    dsimp only
    split
    · have hnil : Has k (some (chunks ++ [])) s₁ := by rwa [List.append_nil]
      split
      · exact ⟨⟨hi, .refl⟩, .inl ⟨none, rfl, hnil⟩⟩
      · exact ⟨⟨hi, .refl⟩, .inl ⟨some [], rfl, hnil⟩⟩
    · rename_i hne
      obtain ⟨hi', hclient, hreceived⟩ := hi.taken h₁.1 h₁.2 rfl hne
      exact ⟨⟨hi', hclient⟩, .inl ⟨some _, rfl, h₁.1, hreceived⟩⟩

/-- What was received is a reply, by its length. -/
theorem receiveReply_wp (h : Has k (some chunks) s) (deadlineNs : ℤ) (rounds : ℕ) :
    wp (outline p) .client (fun r s' => (∃ bytes, r = .ok bytes ∧ Has k (some bytes) s' ∧
      replySize ≤ bytes.length) ∨ Refused r)
      (receiveReply (some k) deadlineNs rounds chunks) s := by
  induction rounds generalizing chunks s with
  | zero => trivial
  | succ rounds ih =>
    rw [receiveReply]
    split
    · refine setRemainingTimeout_bind kept_has h (fun r _ herr => .inr herr) fun s₁ h₁ => ?_
      refine wp_bind.2 (wp_mono (receive_wp h₁ _) fun r s₂ hr => ?_)
      rcases hr with ⟨chunk, rfl, h₂⟩ | ⟨text, rfl⟩
      · rcases chunk with _ | _ | ⟨b, bs⟩
        · rw [Option.getD_none, List.append_nil] at h₂
          exact ih h₂
        · exact .inr ⟨_, rfl⟩
        · exact ih h₂
      · exact .inr ⟨text, rfl⟩
    · rename_i hlength
      exact .inl ⟨chunks, rfl, h, not_lt.1 hlength⟩

theorem exchange_wp (h : Idle s) (deadlineNs : ℤ) (rounds : ℕ) :
    wp (outline p) .client (fun r s' => (∃ k bytes, r = .ok bytes ∧ Has k (some bytes) s' ∧
      replySize ≤ bytes.length) ∨ Refused r) (exchange deadlineNs rounds) s := by
  refine wp_bind.2 (wp_mono (connect_wp h deadlineNs) fun r s₁ hr => ?_)
  rcases hr with ⟨k, rfl, h₁⟩ | ⟨text, rfl⟩
  · refine setRemainingTimeout_bind kept_has h₁ (fun r _ herr => .inr herr) fun s₂ h₂ => ?_
    refine wp_bind.2 (wp_mono (sendRequest_wp h₂) fun r s₃ hr => ?_)
    rcases hr with ⟨rfl, h₃⟩ | ⟨text, rfl⟩
    · refine wp_mono (receiveReply_wp h₃ deadlineNs rounds) fun r s₄ hr => ?_
      exact hr.imp_left fun hbytes => ⟨k, hbytes⟩
    · exact .inr ⟨text, rfl⟩
  · exact .inr ⟨text, rfl⟩

/-- The arena is read while the server is quiet. -/
theorem read_wp {d : SnapshotDescriptor} {x : VlaSnapshot UInt64} (h : Received k reply committed s)
    (hd : s.arena.Holds d x) :
    wp (outline p) .client (fun r s' => Received k reply committed s' ∧
        (r = .ok x.sample ∨ ∃ err, r = .error err ∧ Arena.Unopened err))
      (onArena (Arena.read p.readerWidth p.readerHeight d.slot d.generation)) s := by
  refine wp_component (O := Arena.alone UInt64 p.width p.height p.readerWidth p.readerHeight)
    (t := .reader) ?_ ?_ ?_ ?_ ?_ ?_ h (Arena.read_alone hd)
  · intro s s' h hs _
    exact h.byServer hs
  · intro s _ hi
    exact hi.arena
  · intro s l h _ _ _
    exact h.quiet
  · intro s l e _ _ err herr
    obtain ⟨text, -, rfl⟩ := Option.map_eq_some_iff.1 herr
    exact .osError text
  · intro s g h
    exact ⟨⟨h.socket, h.received, h.log, h.quiet.phase, h.quiet.inbound⟩, rfl⟩
  · intro s l r g _ hi hg hr
    obtain ⟨hi', hclient⟩ := hi.readArena hg hr
    exact ⟨hi', fun hne => absurd rfl hne, fun _ => hclient⟩

/-- What `capture` makes of the reply. -/
theorem interpret_wp (h : Received k reply committed s) (hstored : Stored reply committed s.arena)
    (hbytes : chunks = reply.bytes) :
    wp (outline p) .client (fun r s' => ∃ result, r = .ok result ∧
        Received k reply committed s' ∧ Shown p reply committed result)
      (interpret p chunks) s := by
  rw [interpret, hbytes, LocalVlaSnapshotClient.unpack_reply]
  simp only [SnapshotSocketReply.items]
  cases committed with
  | none =>
    by_cases hstatus : reply.status = 0
    · rw [if_neg (not_not.2 hstatus)]
      -- the generation is zero
      have hinvalid : InvalidDescriptor (reply.slot.toNat : ℤ) (reply.generation.toNat : ℤ) := by
        rw [show reply.generation = 0 from hstored]
        exact .inr (.inr (.inl (by simp)))
      rw [Arena.read, dif_pos hinvalid]
      exact ⟨_, rfl, h, .invalid hstatus⟩
    · rw [if_pos hstatus]
      exact ⟨_, rfl, h, .failed hstatus⟩
  | some dx =>
    obtain ⟨rfl, hholds⟩ := hstored
    have hslot : (UInt32.ofNat dx.1.slot).toNat = dx.1.slot := by
      have hlt : (dx.1.slot : ℕ) < 2 := dx.1.slot.isLt
      exact UInt32.toNat_ofNat_of_lt (hlt.trans (by decide))
    have hgeneration : (UInt64.ofNat dx.1.generation).toNat = dx.1.generation :=
      UInt64.toNat_ofNat_of_lt hholds.generation.2.2
    simp only [committedReply, ne_eq, not_true_eq_false, if_false, hslot, hgeneration]
    refine wp_andThen.2 (wp_mono (read_wp h hholds) fun r s₁ hr => ?_)
    rcases hr with ⟨h₁, rfl | ⟨err, rfl, herr⟩⟩
    · exact ⟨_, rfl, h₁, .captured⟩
    · cases herr with
      | osError text => exact ⟨_, rfl, h₁, .unopened (.osError text)⟩
      | size => exact ⟨_, rfl, h₁, .unopened .size⟩
      | header => exact ⟨_, rfl, h₁, .unopened .header⟩

/-- What a capture ends with, before it is noted. -/
def Ended (p : LinkParameters) (result : Except CaptureError Observation.VlaObservationStep)
    (s : SnapshotLink) : Prop :=
  (s.socket = none ∧ s.received = none ∧ ∃ observedNs text, result =
      .error (.unavailable .buffersNotReady (some observedNs) (some p.timeoutNs) text)) ∨
    ∃ k reply committed, Received k reply committed s ∧ Shown p reply committed result

theorem kept_ended {result : Except CaptureError Observation.VlaObservationStep} :
    Kept (Ended p result) where
  byServer h hs := by
    rcases h with ⟨hsocket, hreceived, hresult⟩ | ⟨k, reply, committed, h, hshown⟩
    · exact .inl ⟨hs.socket.trans hsocket, hs.received.trans hreceived, hresult⟩
    · exact .inr ⟨k, reply, committed, (h.byServer hs).1, hshown⟩

theorem closeSocket_wp :
    wp (outline p) .client (fun r s' => r = .ok () ∧ s'.socket = none ∧ s'.received = none)
      closeSocket s := by
  refine client_atomic (by simp) fun s₁ _ hi _ => ?_
  cases hsocket : s₁.socket with
  | none => exact ⟨hi.closed rfl rfl (fun _ => rfl) (fun _ => rfl), rfl, rfl, rfl⟩
  | some c =>
    cases c with
    | none => exact ⟨hi.closed rfl rfl (fun _ => rfl) (fun _ => rfl), rfl, rfl, rfl⟩
    | some k =>
      exact ⟨hi.closed rfl rfl (fun _ => Network.alter_eq rfl) (fun _ => Network.alter_eq rfl),
        rfl, rfl, rfl⟩

theorem capture_wp (h : Idle s) (rounds : ℕ) :
    wp (outline p) .client (fun r s' => ∃ result, r = .ok result ∧ Ended p result s')
      (capture p rounds) s := by
  refine wp_bind.2 (wp_mono (readClock_wp kept_idle h) fun r s₁ hr => ?_)
  obtain ⟨⟨startedNs, rfl⟩, h₁, hi⟩ := hr
  have hexchange := wp_inv (exchange_wp (p := p) h₁ (startedNs + p.timeoutNs) rounds) hi
  refine wp_andThen.2 (wp_mono hexchange fun r s₂ hr => ?_)
  obtain ⟨⟨k, bytes, rfl, ⟨hsocket, hreceived⟩, hlength⟩ | ⟨text, rfl⟩, hi₂⟩ := hr
  · obtain ⟨reply, committed, hbytes, h₂, hstored, -⟩ := hi₂.complete hsocket hreceived hlength
    refine wp_mono (interpret_wp h₂ hstored hbytes) fun r s₃ hr => ?_
    obtain ⟨result, rfl, h₃, hshown⟩ := hr
    exact ⟨result, rfl, .inr ⟨k, reply, committed, h₃, hshown⟩⟩
  · refine wp_bind.2 (wp_mono closeSocket_wp fun r s₃ hr => ?_)
    obtain ⟨rfl, hclosed⟩ := hr
    have hkept : Kept fun s => s.socket = none ∧ s.received = none :=
      ⟨fun h hs => ⟨hs.socket.trans h.1, hs.received.trans h.2⟩⟩
    refine wp_bind.2 (wp_mono (readClock_wp hkept hclosed) fun r s₄ hr => ?_)
    obtain ⟨⟨nowNs, rfl⟩, ⟨hsocket, hreceived⟩, -⟩ := hr
    exact ⟨_, rfl, .inl ⟨hsocket, hreceived, _, text, rfl⟩⟩

theorem noteReturned_wp {result : Except CaptureError Observation.VlaObservationStep}
    (h : Ended p result s) :
    wp (outline p) .client (fun _ s' => Idle s') (noteReturned result) s := by
  refine client_atomic (by simp) fun s₁ hr hi _ => ?_
  rcases kept_ended.byServer h hr with ⟨hsocket, -, hresult⟩ | ⟨k, reply, committed, h₁, hshown⟩
  · have hrest : ∀ k, s₁.socket = some (some k) → Resting s₁ k := by simp [hsocket]
    exact ⟨hi.noted hrest (.inl hresult), rfl, by simp [hsocket]⟩
  · have hrest : ∀ j, s₁.socket = some (some j) → Resting s₁ j := fun j hj => by
      obtain rfl : k = j := by simpa [h₁.socket] using hj
      obtain ⟨-, -, -, -, -, hrest⟩ :=
        hi.complete h₁.socket h₁.received (length_bytes reply).ge
      exact hrest
    exact ⟨hi.noted hrest (.inr ⟨k, reply, committed, h₁.log, hshown⟩), rfl, by simp [h₁.socket]⟩

theorem close_wp : wp (outline p) .client (fun _ s' => Idle s') close s := by
  refine wp_bind.2 (wp_mono closeSocket_wp fun r s₁ hr => ?_)
  obtain ⟨rfl, hsocket, hreceived⟩ := hr
  refine client_atomic (by simp) fun s₂ hr hi _ => ?_
  have harena : (s₂.arena.Inv p.width p.height p.readerWidth p.readerHeight) := hi.arena
  refine ⟨hi.readArena ⟨harena.consistent, harena.bound, harena.fits, harena.header, ?_,
    harena.returned⟩ ⟨rfl, rfl, rfl⟩, hr.received.trans hreceived, ?_⟩
  · rintro ⟨⟩
  · show s₂.socket ≠ some none
    rw [hr.socket, hsocket]
    simp

end Client

end SnapshotLink

end DualCollection
