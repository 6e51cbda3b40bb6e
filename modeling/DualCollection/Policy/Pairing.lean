import DualCollection.Policy.Client
import DualCollection.Policy.Prefix
import Mathlib

/-!
# Requests and their responses

The transport takes the next message on the connection for the response to its request.  `Paired`
says what should come of the inferences of a run, and `paired_iff` when it does: a response that
arrives after the timeout stays on the connection, and from then on every inference receives the
response to an earlier request, and refuses it.
-/

namespace DualCollection

variable {W : Type}

/-- The transport has raised `TimeoutError`. -/
def Exchange.TimedOut (x : Exchange W) : Prop := x.outcome = .error .timeout

namespace PolicyClient

section

variable (client : PolicyClient) (py : Conversions) (codec : Codec W)

/-- The own response arrives after the timeout. -/
def Late (x : Exchange W) : Prop :=
  ∃ sent, x.sent = some sent ∧ sent.atS + client.timeoutS < sent.arrivalS

/-- What the inference makes of its own response. -/
def OwnTicket (x : Exchange W) (ticket : InferenceTicket) : Prop :=
  ∃ sent, x.sent = some sent ∧
    client.accept py codec x.inference x.activeAtEnd sent.response = .ok ticket

/-- The own response arrives in time, and is accepted. -/
def InTime (x : Exchange W) (ticket : InferenceTicket) : Prop :=
  ¬ client.Late x ∧ client.OwnTicket py codec x ticket

/-- Requests and responses are paired. -/
structure Paired (xs : List (Exchange W)) : Prop where
  /-- An inference completes normally only with the response to its own request. -/
  own : ∀ x ∈ xs, ∀ ticket, x.outcome = .ok ticket → client.OwnTicket py codec x ticket
  /-- After a timeout, an inference completes normally if its own response arrives in time. -/
  recovers : xs.Pairwise fun x y =>
    x.TimedOut → ∀ ticket, client.InTime py codec y ticket → y.outcome = .ok ticket

/-- No inference with this number accepts the message. -/
def Foreign (message : Message W) (id : String) : Prop :=
  ∀ i activeEpoch ticket, i.inferenceId = id →
    client.accept py codec i activeEpoch message ≠ .ok ticket

/-- The next message on the connection, and those after it, are responses to other requests. -/
structure Behind (c : Connection W) (ids : List String) : Prop where
  /-- There is a message. -/
  outstanding : c.outstanding ≠ []
  /-- None of the messages is accepted. -/
  foreign : ∀ m ∈ c.outstanding, ∀ id ∈ ids, client.Foreign py codec m.2 id

end

section Pairing

variable {client : PolicyClient} {np : Numpy} {py : Conversions} {codec : Codec W}
  {envelope : CorrelatedPolicyEnvelope}

/-! ### Numbers of inferences -/

theorem item_of_stringField {mapping : Mapping} {key s : String}
    (h : stringField mapping key = .ok s) : mapping.item key = some (.str s) := by
  rw [stringField] at h
  split at h
  · split_ifs at h
    cases h
    assumption
  · cases h

/-- The server answers with the number of the request. -/
theorem infer_inferenceId {policy : OpenPiPolicy} {startedAtNs completedAtNs : ℤ}
    {request : Mapping} {reply : PolicyReply}
    (h : envelope.infer policy startedAtNs completedAtNs request = .ok reply) :
    request.item "inference_id" = some (.str reply.inferenceId) := by
  rw [CorrelatedPolicyEnvelope.infer] at h
  obtain ⟨sessionId, -, h⟩ := bind_eq_ok h
  obtain ⟨episodeId, -, h⟩ := bind_eq_ok h
  obtain ⟨inferenceId, hid, h⟩ := bind_eq_ok h
  obtain ⟨prompt, -, h⟩ := bind_eq_ok h
  obtain ⟨controlEpoch, -, h⟩ := bind_eq_ok h
  obtain ⟨requestedSha, -, h⟩ := bind_eq_ok h
  split_ifs at h
  obtain ⟨observation, -, h⟩ := bind_eq_ok h
  obtain ⟨result, -, h⟩ := bind_eq_ok h
  rw [CorrelatedPolicyEnvelope.answer] at h
  split at h
  · cases h
  · cases h
    exact item_of_stringField hid

/-- The client reads the number that the server has written. -/
theorem policyResponseFromWire_inferenceId {mapping : Mapping} {response : Pi05PolicyResponse}
    (h : policyResponseFromWire py mapping = .ok response) :
    ∃ v, mapping.item "inference_id" = some v ∧ response.inferenceId = py.str v := by
  rw [policyResponseFromWire] at h
  split at h
  · rename_i parsed hparsed
    cases h
    simp only [Option.bind_eq_bind, Option.bind_eq_some_iff] at hparsed
    obtain ⟨_, -, _, -, _, -, _, -, _, -, _, -, v, hv, _, -, _, -, _, -, _, -, _, -, h⟩ := hparsed
    refine ⟨v, hv, ?_⟩
    unfold Pi05PolicyResponse.make at h
    split_ifs at h
    cases h
    rfl
  · cases h

/-! ### Messages for other requests -/

/-- An inference that accepts a mapping finds its number there. -/
theorem accept_inferenceId {i : Inference} {activeEpoch : ℕ} {message : Message W}
    {ticket : InferenceTicket} (h : client.accept py codec i activeEpoch message = .ok ticket) :
    ∃ mapping v, mappingOf codec message = .ok mapping ∧ mapping.item "inference_id" = some v ∧
      py.str v = i.inferenceId := by
  rw [accept] at h
  obtain ⟨mapping, hmapping, h⟩ := bind_eq_ok h
  obtain ⟨response, hresponse, h⟩ := bind_eq_ok h
  obtain ⟨_, hvalid, -⟩ := bind_eq_ok h
  obtain ⟨v, hv, hid⟩ := policyResponseFromWire_inferenceId hresponse
  refine ⟨mapping, v, hmapping, hv, ?_⟩
  unfold validateResponse at hvalid
  split_ifs at hvalid with hne
  rw [not_not] at hne
  simp only [Prod.mk.injEq] at hne
  rw [← hid, hne.2.2.2.1]

/-- The response to a request is foreign to the inferences with other numbers. -/
theorem respond_foreign {request : Pi05PolicyRequest} {payload : Mapping} {e : Circumstances}
    {id : String} (hstr : ∀ s, py.str (.str s) = s) (hcodec : codec.Faithful)
    (hpayload : policyRequestToWire np request = some payload) (hid : id ≠ request.inferenceId) :
    client.Foreign py codec (respond codec envelope e payload) id := by
  intro i activeEpoch ticket hi h
  obtain ⟨mapping, v, hmapping, hv, hvid⟩ := accept_inferenceId h
  rw [respond] at hmapping
  cases hserve : serve codec envelope e.policy e.startedAtNs e.completedAtNs
      (codec.packb (.map payload)) with
  | error err =>
    rw [hserve] at hmapping
    cases hmapping
  | ok reply =>
    rw [hserve] at hmapping
    simp only [mappingOf, hcodec (.map reply.toWire)] at hmapping
    cases hmapping
    rw [serve, hcodec (.map payload)] at hserve
    have hecho := infer_inferenceId hserve
    obtain ⟨-, -, -, hitem, -⟩ := policyRequestToWire_items hpayload
    rw [hitem] at hecho
    cases hv
    rw [hstr] at hvid
    simp only [Option.some.injEq, Value.str.injEq] at hecho
    exact hid (by rw [← hi, ← hvid, hecho])

theorem mapM_toRat?_finite {xs : List ℚ} : (xs.map .finite).mapM PyFloat.toRat? = some xs := by
  induction xs with
  | nil => rfl
  | cons x xs ih =>
    rw [List.map_cons, List.mapM_cons, ih]
    rfl

theorem mapM_toRat?_rows {rows : List (List ℚ)} :
    (rows.map (·.map .finite)).mapM (·.mapM PyFloat.toRat?) = some rows := by
  induction rows with
  | nil => rfl
  | cons row rows ih =>
    rw [List.map_cons, List.mapM_cons, ih, mapM_toRat?_finite]
    rfl

/-- The client reads what the server has written. -/
theorem policyResponseFromWire_toWire (reply : PolicyReply) {chunk : List (List PyFloat)}
    (hpy : py.Exact) (hrows : py.rows reply.actions = some chunk)
    (hids : reply.sessionId ≠ "" ∧ reply.episodeId ≠ "" ∧ reply.inferenceId ≠ "")
    (hsha : IsSha256 reply.checkpointSha256)
    (htime : 0 ≤ reply.startedAtNs ∧ reply.startedAtNs ≤ reply.completedAtNs) :
    policyResponseFromWire py reply.toWire =
      .ok ⟨reply.sessionId, reply.episodeId, reply.controlEpoch, reply.inferenceId,
        reply.checkpointSha256, chunk, reply.startedAtNs, reply.completedAtNs, hids, hsha, htime⟩ := by
  have hmake : Pi05PolicyResponse.make reply.sessionId reply.episodeId reply.controlEpoch
      reply.inferenceId reply.checkpointSha256 chunk reply.startedAtNs reply.completedAtNs =
      some ⟨reply.sessionId, reply.episodeId, reply.controlEpoch, reply.inferenceId,
        reply.checkpointSha256, chunk, reply.startedAtNs, reply.completedAtNs, hids, hsha, htime⟩ := by
    have hnn : ¬ (reply.controlEpoch : ℤ) < 0 := by omega
    unfold Pi05PolicyResponse.make
    rw [dif_pos hids, if_neg hnn]
    simp only [hsha.toLower, hsha, htime, and_self, dite_true, Int.toNat_natCast]
  rw [policyResponseFromWire]
  simp only [show reply.toWire.item "actions" = some reply.actions from rfl,
    show reply.toWire.item "session_id" = some (.str reply.sessionId) from rfl,
    show reply.toWire.item "episode_id" = some (.str reply.episodeId) from rfl,
    show reply.toWire.item "control_epoch" = some (.int reply.controlEpoch) from rfl,
    show reply.toWire.item "inference_id" = some (.str reply.inferenceId) from rfl,
    show reply.toWire.item "checkpoint_sha256" = some (.str reply.checkpointSha256) from rfl,
    show reply.toWire.item "started_at_ns" = some (.int reply.startedAtNs) from rfl,
    show reply.toWire.item "completed_at_ns" = some (.int reply.completedAtNs) from rfl,
    Option.bind_eq_bind, Option.bind_some, hrows, hpy.int, hpy.str, hmake]

/-- The response to an inference is accepted, if the policy answers with a chunk of the right
dimensions. -/
theorem respond_accepted {i : Inference} {e : Circumstances} {observation : Pi05Observation}
    {payload result : Mapping} {actions : Value} (rows : List (List ℚ)) (hpy : py.Exact)
    (hcodec : codec.Faithful) (hsha : envelope.checkpointSha256 = client.checkpointSha256)
    (hpayload : policyRequestToWire np (client.request i observation) = some payload)
    (hpolicy : CorrelatedPolicyEnvelope.callPolicy e.policy
      ((observationToWire np observation).assign "prompt" (.str client.prompt)) payload = .ok result)
    (hactions : result.item "actions" = some actions)
    (hrows : py.rows actions = some (rows.map (·.map .finite)))
    (hlength : rows.length = client.execution.actionChunkSize)
    (hrow : ∀ row ∈ rows, row.length = client.execution.actionDimension)
    (htime : 0 ≤ e.startedAtNs ∧ e.startedAtNs ≤ e.completedAtNs) :
    client.accept py codec i i.controlEpoch (respond codec envelope e payload) =
      .ok ⟨i.inferenceId, i.controlEpoch, client.checkpointSha256, rows, client.execution, hlength,
        hrow⟩ := by
  let reply : PolicyReply := ⟨client.sessionId, i.episodeId, i.controlEpoch, i.inferenceId,
    client.checkpointSha256, actions, e.startedAtNs, e.completedAtNs⟩
  have hreply : serve codec envelope e.policy e.startedAtNs e.completedAtNs
      (codec.packb (.map payload)) = .ok reply := by
    rw [serve, hcodec]
    dsimp only
    rw [infer_request hsha hpayload]
    change CorrelatedPolicyEnvelope.callPolicy e.policy
      ((observationToWire np observation).assign "prompt" (.str client.prompt)) payload >>= _ = _
    rw [hpolicy]
    change envelope.answer _ _ _ _ _ _ result = _
    rw [CorrelatedPolicyEnvelope.answer, hactions, hsha]
    rfl
  have hresponse := policyResponseFromWire_toWire reply hpy hrows
    ⟨client.nonempty.1, i.nonempty⟩ client.checkpointSha256_valid htime
  rw [accept, respond, hreply, mappingOf, hcodec]
  change policyResponseFromWire py reply.toWire >>= _ = _
  rw [hresponse]
  change client.validateResponse i _ >>= _ = _
  rw [validateResponse, if_neg (not_not.2 rfl)]
  change requireActiveEpoch i.controlEpoch i.controlEpoch >>= _ = _
  rw [requireActiveEpoch, if_neg (not_not.2 rfl)]
  change client.ticket i _ = _
  rw [ticket, mapM_toRat?_rows]
  exact dif_pos ⟨hlength, hrow⟩

/-- `accept` does not wait. -/
theorem accept_ne_timeout {i : Inference} {activeEpoch : ℕ} {message : Message W} :
    client.accept py codec i activeEpoch message ≠ .error .timeout := by
  intro h
  rw [accept] at h
  rcases bind_eq_error h with h | ⟨mapping, -, h⟩
  · unfold mappingOf at h
    split at h
    · cases h
    · split at h <;> cases h
  rcases bind_eq_error h with h | ⟨response, -, h⟩
  · rw [policyResponseFromWire] at h
    split at h <;> cases h
  rcases bind_eq_error h with h | ⟨_, -, h⟩
  · unfold validateResponse at h
    split_ifs at h
    cases h
  rcases bind_eq_error h with h | ⟨_, -, h⟩
  · unfold requireActiveEpoch at h
    split_ifs at h
    cases h
  · unfold ticket at h
    split at h
    · cases h
    · split_ifs at h
      cases h

/-! ### One inference -/

/-- Where nothing is outstanding, the own response is received, unless it is late. -/
theorem recv_send_nil {c : Connection W} (idleS delayS timeoutS : ℚ) (response : Message W)
    (hc : c.outstanding = []) :
    if (c.send idleS delayS response).lastArrivalS ≤ c.nowS + idleS + timeoutS then
      ∃ c', (c.send idleS delayS response).recv timeoutS = (some response, c') ∧
        c'.outstanding = []
    else
      ∃ c', (c.send idleS delayS response).recv timeoutS = (none, c') ∧
        c'.outstanding = [((c.send idleS delayS response).lastArrivalS, response)] := by
  simp only [Connection.recv, Connection.send, hc, List.nil_append]
  split_ifs
  · exact ⟨_, rfl, rfl⟩
  · exact ⟨_, rfl, rfl⟩

/-- Where a message is outstanding, the own response is not received. -/
theorem recv_send_cons {c : Connection W} {arrivalS : ℚ} {message : Message W}
    {rest : List (ℚ × Message W)} (idleS delayS timeoutS : ℚ) (response : Message W)
    (hc : c.outstanding = (arrivalS, message) :: rest) :
    ∃ c', ((c.send idleS delayS response).recv timeoutS = (some message, c') ∧
        c'.outstanding = rest ++ [((c.send idleS delayS response).lastArrivalS, response)]) ∨
      ((c.send idleS delayS response).recv timeoutS = (none, c') ∧
        c'.outstanding =
          c.outstanding ++ [((c.send idleS delayS response).lastArrivalS, response)]) := by
  simp only [Connection.recv, Connection.send, hc, List.cons_append]
  split_ifs
  · exact ⟨_, .inl ⟨rfl, rfl⟩⟩
  · exact ⟨_, .inr ⟨rfl, rfl⟩⟩

/-- An inference that sends a request takes the next message on the connection for its response. -/
theorem infer_sent {c : Connection W} {i : Inference} {observation : Pi05Observation}
    {payload : Mapping} {response : Message W} (e : Circumstances)
    (hactive : requireActiveEpoch i.controlEpoch e.activeAtStart = .ok ())
    (hobservation : e.observation = .ok observation)
    (hpayload : policyRequestToWire np (client.request i observation) = some payload)
    (hresponse : respond codec envelope e payload = response) :
    client.infer np py codec envelope c i e =
      (⟨i, e.activeAtEnd,
        some ⟨c.nowS + e.idleS, (c.send e.idleS e.delayS response).lastArrivalS, response⟩,
        client.receive py codec i e.activeAtEnd
          ((c.send e.idleS e.delayS response).recv client.timeoutS).1⟩,
      ((c.send e.idleS e.delayS response).recv client.timeoutS).2) := by
  rw [infer, hactive, hobservation]
  dsimp only
  rw [hpayload]
  dsimp only
  rw [hresponse]
  rfl

/-- What an inference does with the connection. -/
theorem infer_cases {c : Connection W} {i : Inference} {e : Circumstances}
    (hstr : ∀ s, py.str (.str s) = s) (hcodec : codec.Faithful) :
    (∃ err, err ≠ .timeout ∧
      client.infer np py codec envelope c i e = (⟨i, e.activeAtEnd, none, .error err⟩, c)) ∨
    ∃ response, (∀ id ≠ i.inferenceId, client.Foreign py codec response id) ∧
      client.infer np py codec envelope c i e =
        (⟨i, e.activeAtEnd,
          some ⟨c.nowS + e.idleS, (c.send e.idleS e.delayS response).lastArrivalS, response⟩,
          client.receive py codec i e.activeAtEnd
            ((c.send e.idleS e.delayS response).recv client.timeoutS).1⟩,
        ((c.send e.idleS e.delayS response).recv client.timeoutS).2) := by
  cases hactive : requireActiveEpoch i.controlEpoch e.activeAtStart with
  | error err =>
    refine .inl ⟨err, ?_, by rw [infer, hactive]⟩
    rintro rfl
    unfold requireActiveEpoch at hactive
    split_ifs at hactive
    cases hactive
  | ok _ =>
    cases hobservation : e.observation with
    | error err =>
      exact .inl ⟨.observation err, by simp, by rw [infer, hactive, hobservation]⟩
    | ok observation =>
      cases hpayload : policyRequestToWire np (client.request i observation) with
      | none =>
        refine .inl ⟨.raggedPrefix, by simp, ?_⟩
        rw [infer, hactive, hobservation]
        dsimp only
        rw [hpayload]
      | some payload =>
        exact .inr ⟨respond codec envelope e payload,
          fun id hid => respond_foreign hstr hcodec hpayload hid,
          infer_sent e hactive hobservation hpayload rfl⟩

/-- Where nothing is outstanding, an inference is handed its own response, unless that is late. -/
theorem infer_clean {c c' : Connection W} {i : Inference} {e : Circumstances} {x : Exchange W}
    (hstr : ∀ s, py.str (.str s) = s) (hcodec : codec.Faithful)
    (hc : c.outstanding = []) (hx : client.infer np py codec envelope c i e = (x, c')) :
    (¬ client.Late x ∧ ¬ x.TimedOut ∧
        (∀ ticket, x.outcome = .ok ticket ↔ client.OwnTicket py codec x ticket) ∧
        c'.outstanding = []) ∨
      (client.Late x ∧ x.TimedOut ∧
        ∀ ids, i.inferenceId ∉ ids → client.Behind py codec c' ids) := by
  rcases infer_cases hstr hcodec with ⟨err, herr, h⟩ | ⟨response, hforeign, h⟩
  · rw [h] at hx
    cases hx
    refine .inl ⟨?_, ?_, ?_, hc⟩
    · rintro ⟨sent, hsent, -⟩
      cases hsent
    · intro hout
      cases hout
      exact herr rfl
    · intro ticket
      constructor
      · intro hout
        cases hout
      · rintro ⟨sent, hsent, -⟩
        cases hsent
  · rw [h] at hx
    have hrecv := recv_send_nil e.idleS e.delayS client.timeoutS response hc
    split_ifs at hrecv with hlate
    · obtain ⟨c'', hrecv, hc''⟩ := hrecv
      rw [hrecv] at hx
      cases hx
      refine .inl ⟨?_, accept_ne_timeout, ?_, hc''⟩
      · rintro ⟨sent, hsent, hlt⟩
        cases hsent
        exact absurd hlate (not_le.2 hlt)
      · intro ticket
        constructor
        · exact fun hout => ⟨_, rfl, hout⟩
        · rintro ⟨sent, hsent, hout⟩
          cases hsent
          exact hout
    · obtain ⟨c'', hrecv, hc''⟩ := hrecv
      rw [hrecv] at hx
      cases hx
      refine .inr ⟨⟨_, rfl, not_le.1 hlate⟩, rfl, fun ids hids => ⟨?_, ?_⟩⟩
      · rw [hc'']
        exact List.cons_ne_nil _ _
      · intro m hm id hid
        rw [hc'', List.mem_singleton] at hm
        rw [hm]
        exact hforeign id fun h => hids (h ▸ hid)

/-- Where the connection is behind, no inference completes normally, and the connection stays
behind. -/
theorem infer_behind {c c' : Connection W} {i : Inference} {e : Circumstances} {x : Exchange W}
    {ids : List String} (hstr : ∀ s, py.str (.str s) = s) (hcodec : codec.Faithful)
    (hc : client.Behind py codec c (i.inferenceId :: ids)) (hid : i.inferenceId ∉ ids)
    (hx : client.infer np py codec envelope c i e = (x, c')) :
    (∀ ticket, x.outcome ≠ .ok ticket) ∧ client.Behind py codec c' ids := by
  have hforeign : ∀ m ∈ c.outstanding, ∀ id ∈ ids, client.Foreign py codec m.2 id :=
    fun m hm id hmem => hc.foreign m hm id (List.mem_cons_of_mem _ hmem)
  rcases infer_cases hstr hcodec with ⟨err, -, h⟩ | ⟨response, hresponse, h⟩
  · rw [h] at hx
    cases hx
    exact ⟨by simp, hc.outstanding, hforeign⟩
  · rw [h] at hx
    have hown : ∀ id ∈ ids, client.Foreign py codec response id :=
      fun id hmem => hresponse id fun h => hid (h ▸ hmem)
    obtain ⟨⟨arrivalS, message⟩, rest, hcons⟩ := List.exists_cons_of_ne_nil hc.outstanding
    obtain ⟨c'', ⟨hrecv, hc''⟩ | ⟨hrecv, hc''⟩⟩ :=
      recv_send_cons e.idleS e.delayS client.timeoutS response hcons
    · rw [hrecv] at hx
      cases hx
      have hhead : client.Foreign py codec message i.inferenceId :=
        hc.foreign (arrivalS, message) (by rw [hcons]; exact List.mem_cons_self) _
          List.mem_cons_self
      refine ⟨fun ticket => hhead i e.activeAtEnd ticket rfl, by simp [hc''], ?_⟩
      intro m hm
      rw [hc'', List.mem_append, List.mem_singleton] at hm
      rcases hm with hm | rfl
      · exact hforeign m (by rw [hcons]; exact List.mem_cons_of_mem _ hm)
      · exact hown
    · rw [hrecv] at hx
      cases hx
      refine ⟨by simp [receive], by simp [hc''], ?_⟩
      intro m hm
      rw [hc'', List.mem_append, List.mem_singleton] at hm
      rcases hm with hm | rfl
      · exact hforeign m hm
      · exact hown

/-! ### Runs -/

/-- On a connection that is behind, no inference completes normally. -/
theorem run_behind (np : Numpy) (envelope : CorrelatedPolicyEnvelope)
    {is : List (Inference × Circumstances)} (hstr : ∀ s, py.str (.str s) = s)
    (hcodec : codec.Faithful) (hid : (is.map (·.1.inferenceId)).Nodup) {c : Connection W}
    (hc : client.Behind py codec c (is.map (·.1.inferenceId))) :
    ∀ x ∈ client.run np py codec envelope c is, ∀ ticket, x.outcome ≠ .ok ticket := by
  induction is generalizing c with
  | nil =>
    intro x hx
    cases hx
  | cons ie is ih =>
    obtain ⟨i, e⟩ := ie
    rw [List.map_cons] at hc hid
    obtain ⟨hnot, hid⟩ := List.nodup_cons.1 hid
    rw [run]
    cases hinfer : client.infer np py codec envelope c i e with
    | mk y c' =>
      obtain ⟨hout, hc'⟩ := infer_behind hstr hcodec hc hnot hinfer
      intro x hx
      rcases List.mem_cons.1 hx with rfl | hx
      · exact hout
      · exact ih hid hc' x hx

theorem paired_cons {x : Exchange W} {xs : List (Exchange W)} :
    client.Paired py codec (x :: xs) ↔
      (∀ ticket, x.outcome = .ok ticket → client.OwnTicket py codec x ticket) ∧
      (x.TimedOut → ∀ y ∈ xs, ∀ ticket, client.InTime py codec y ticket → y.outcome = .ok ticket) ∧
      client.Paired py codec xs := by
  constructor
  · rintro ⟨hown, hrecovers⟩
    obtain ⟨hx, hxs⟩ := List.pairwise_cons.1 hrecovers
    exact ⟨hown x List.mem_cons_self, fun htimeout y hy => hx y hy htimeout,
      fun y hy => hown y (List.mem_cons_of_mem _ hy), hxs⟩
  · rintro ⟨hx, hafter, hown, hrecovers⟩
    refine ⟨fun y hy => ?_, .cons (fun y hy htimeout => hafter htimeout y hy) hrecovers⟩
    rcases List.mem_cons.1 hy with rfl | hy
    · exact hx
    · exact hown y hy

/-- The inferences of a run are paired with their responses exactly if none whose own response
arrives in time comes after one whose own response is late. -/
theorem paired_iff {is : List (Inference × Circumstances)} (hstr : ∀ s, py.str (.str s) = s)
    (hcodec : codec.Faithful) (hid : (is.map (·.1.inferenceId)).Nodup) {c : Connection W}
    (hc : c.outstanding = []) :
    client.Paired py codec (client.run np py codec envelope c is) ↔
      (client.run np py codec envelope c is).Pairwise fun x y =>
        client.Late x → ∀ ticket, ¬ client.InTime py codec y ticket := by
  induction is generalizing c with
  | nil => exact ⟨fun _ => .nil, fun _ => ⟨by simp [run], .nil⟩⟩
  | cons ie is ih =>
    obtain ⟨i, e⟩ := ie
    obtain ⟨hnot, hid⟩ := List.nodup_cons.1 hid
    rw [run]
    cases hinfer : client.infer np py codec envelope c i e with
    | mk x c' =>
      dsimp only
      rw [paired_cons, List.pairwise_cons]
      rcases infer_clean hstr hcodec hc hinfer with
        ⟨hlate, htimeout, hout, hc'⟩ | ⟨hlate, htimeout, hbehind⟩
      · -- the connection is clean again
        rw [ih hid hc']
        constructor
        · rintro ⟨-, -, hrest⟩
          exact ⟨fun y _ h => absurd h hlate, hrest⟩
        · rintro ⟨-, hrest⟩
          exact ⟨fun ticket => (hout ticket).1, fun h => absurd h htimeout, hrest⟩
      · -- no later inference completes normally
        have hlost := run_behind np envelope hstr hcodec hid (hbehind _ hnot)
        constructor
        · rintro ⟨-, hafter, -⟩
          have hnone : ∀ y ∈ client.run np py codec envelope c' is, ∀ ticket,
              ¬ client.InTime py codec y ticket :=
            fun y hy ticket h => hlost y hy ticket (hafter htimeout y hy ticket h)
          exact ⟨fun y hy _ => hnone y hy,
            List.pairwise_of_forall_mem_list fun _ _ y hy _ => hnone y hy⟩
        · rintro ⟨hnone, -⟩
          refine ⟨fun ticket h => ?_, fun _ y hy ticket h => absurd h (hnone y hy hlate ticket),
            fun y hy ticket h => absurd h (hlost y hy ticket), ?_⟩
          · rw [show x.outcome = .error .timeout from htimeout] at h
            cases h
          · exact List.pairwise_of_forall_mem_list fun _ _ y hy _ ticket h =>
              absurd h (hnone y hy hlate ticket)

end Pairing

end PolicyClient

/-! ### A small station -/

namespace Policy.Station

/-- `str`, `int` and `tuple`, on the values of a response. -/
def conversions : Conversions where
  str
    | .str s => s
    | _ => ""
  int
    | .int n => some n
    | _ => none
  rows
    | .floats a => a.rows
    | _ => none

/-- A client with a timeout of 30 seconds. -/
def client : PolicyClient where
  sessionId := "session"
  prompt := "prompt"
  checkpointSha256 := sha
  execution := Rtc.Station.three.checkpoint.execution
  timeoutS := 30
  nonempty := by decide
  checkpointSha256_valid := sha_valid
  timeoutS_pos := by norm_num

/-- A chunk of zeros. -/
def chunk : List (List ℚ) := List.replicate 3 (List.replicate 14 0)

/-- A policy that answers with zeros. -/
def policy : OpenPiPolicy where
  infer := fun _ => .ok [("actions", .floats (.full 3 14 (.finite 0)))]

/-- An inference without a context. -/
def inference (id : String) (h : id ≠ "") : Inference := ⟨"episode", 0, id, none, by decide, h⟩

/-- The request is sent after a second, and answered after `delayS` seconds. -/
def answered (delayS : ℚ) : Circumstances where
  activeAtStart := 0
  observation := .ok observation
  idleS := 1
  delayS := delayS
  policy := policy
  startedAtNs := 0
  completedAtNs := 0
  traceback := ""
  activeAtEnd := 0

/-- A new connection. -/
def fresh : Connection Value := ⟨0, [], 0⟩

theorem conversions_exact : conversions.Exact where
  str _ := rfl
  int _ := rfl
  rows _ := rfl

/-- The own response to an inference would be accepted. -/
theorem infer_answered (c : Connection Value) (id : String) (h : id ≠ "") (delayS : ℚ) :
    ∃ response, (∃ ticket,
        client.accept conversions codec (inference id h) 0 response = .ok ticket) ∧
      client.infer numpy conversions codec envelope c (inference id h) (answered delayS) =
        (⟨inference id h, 0,
          some ⟨c.nowS + 1, (c.send 1 delayS response).lastArrivalS, response⟩,
          client.receive conversions codec (inference id h) 0
            ((c.send 1 delayS response).recv 30).1⟩,
        ((c.send 1 delayS response).recv 30).2) := by
  obtain ⟨payload, hpayload⟩ : ∃ payload,
    policyRequestToWire numpy (client.request (inference id h) observation) = some payload := ⟨_, rfl⟩
  have hcall : CorrelatedPolicyEnvelope.callPolicy (answered delayS).policy
      ((observationToWire numpy observation).assign "prompt" (.str client.prompt)) payload =
      .ok [("actions", .floats (.full 3 14 (.finite 0)))] := by
    obtain ⟨-, -, -, -, -, -, -, hrtc⟩ := policyRequestToWire_items hpayload
    rw [CorrelatedPolicyEnvelope.callPolicy, hrtc]
    rfl
  obtain ⟨ticket, hticket⟩ : ∃ ticket, client.accept conversions codec (inference id h) 0
      (PolicyClient.respond codec envelope (answered delayS) payload) = .ok ticket :=
    ⟨_, PolicyClient.respond_accepted chunk conversions_exact (fun _ => rfl) rfl hpayload hcall rfl
      rfl rfl (fun row hrow => by rw [List.eq_of_mem_replicate hrow]; rfl) ⟨le_rfl, le_rfl⟩⟩
  exact ⟨_, ⟨ticket, hticket⟩, PolicyClient.infer_sent (answered delayS) rfl rfl hpayload rfl⟩

end Policy.Station

/-- The first response arrives in time.  The second does not, but no inference follows that could
receive it. -/
theorem PolicyClient.paired_inTime :
    Policy.Station.client.Paired Policy.Station.conversions Policy.Station.codec
      (Policy.Station.client.run Policy.Station.numpy Policy.Station.conversions Policy.Station.codec
        Policy.Station.envelope Policy.Station.fresh
        [(Policy.Station.inference "first" (by decide), Policy.Station.answered 1),
          (Policy.Station.inference "second" (by decide), Policy.Station.answered 31)]) := by
  refine (PolicyClient.paired_iff (fun _ => rfl) (fun _ => rfl) (by decide) rfl).2 ?_
  obtain ⟨response, -, hinfer⟩ := Policy.Station.infer_answered Policy.Station.fresh "first"
    (by decide) 1
  rw [PolicyClient.run, hinfer, List.pairwise_cons]
  refine ⟨?_, ?_⟩
  · rintro y - ⟨sent, hsent, hlt⟩
    cases hsent
    have hearly : ¬ (0 : ℚ) + 1 + 30 < max 0 (0 + 1 + 1) := by norm_num
    exact fun _ => absurd hlt hearly
  · exact List.pairwise_singleton _ _

/-- The first response arrives a second after the timeout; the second inference receives it, and
its own response, which arrives a second after its request, is never read. -/
theorem PolicyClient.late_response :
    ¬ Policy.Station.client.Paired Policy.Station.conversions Policy.Station.codec
      (Policy.Station.client.run Policy.Station.numpy Policy.Station.conversions Policy.Station.codec
        Policy.Station.envelope Policy.Station.fresh
        [(Policy.Station.inference "first" (by decide), Policy.Station.answered 31),
          (Policy.Station.inference "second" (by decide), Policy.Station.answered 1)]) := by
  obtain ⟨response, -, hfirst⟩ := Policy.Station.infer_answered Policy.Station.fresh "first"
    (by decide) 31
  have hrecv : (Policy.Station.fresh.send 1 31 response).recv 30 =
      (none, ⟨31, [(32, response)], 32⟩) := by
    simp only [Connection.send, Connection.recv, Policy.Station.fresh, List.nil_append]
    norm_num
  rw [hrecv] at hfirst
  obtain ⟨response', ⟨ticket, hticket⟩, hsecond⟩ := Policy.Station.infer_answered
    ⟨31, [(32, response)], 32⟩ "second" (by decide) 1
  have hbehind : Policy.Station.client.Behind Policy.Station.conversions Policy.Station.codec
      ⟨31, [(32, response)], 32⟩ ["second"] := by
    rcases PolicyClient.infer_clean (fun _ => rfl) (fun _ => rfl) rfl hfirst with
      ⟨-, htimeout, -⟩ | ⟨-, -, hbehind⟩
    · exact absurd rfl htimeout
    · exact hbehind _ (by decide)
  have hlost := (PolicyClient.infer_behind (fun _ => rfl) (fun _ => rfl) hbehind (by decide) hsecond).1
  rintro ⟨-, hrecovers⟩
  simp only [PolicyClient.run, hfirst, hsecond, List.pairwise_cons] at hrecovers
  refine hlost ticket (hrecovers.1 _ List.mem_cons_self rfl ticket ⟨?_, _, rfl, hticket⟩)
  rintro ⟨sent, hsent, hlt⟩
  cases hsent
  have hearly : ¬ (31 : ℚ) + 1 + 30 < max 32 (31 + 1 + 1) := by norm_num
  exact absurd hlt hearly

end DualCollection
