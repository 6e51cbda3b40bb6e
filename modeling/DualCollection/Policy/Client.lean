import DualCollection.Policy.Envelope

/-!
# The policy client

`AsyncPi05PolicyClient` of `dagger/policy_client.py` over one `OpenPiDaggerTransport`.  The single
worker thread runs one inference after the other: it sends a request, waits for the next message on
the connection, and checks that the message is the response to the request.

The connection delivers the responses of the server in the order of the requests
(`Connection.send`), and `recv` raises `TimeoutError` when the next message does not arrive in time,
which leaves the message where it is (`Connection.recv`).  Nothing closes the connection in between.
-/

namespace DualCollection

/-- How python converts the values of a response. -/
structure Conversions where
  /-- `str(value)` -/
  str : Value → String
  /-- `int(value)`, unless it raises. -/
  int : Value → Option ℤ
  /-- `tuple(tuple(float(value) for value in row) for row in actions)`, unless it raises. -/
  rows : Value → Option (List (List PyFloat))

/-- Texts, integers and arrays are what they are. -/
structure Conversions.Exact (py : Conversions) : Prop where
  /-- `str` of a text. -/
  str : ∀ s, py.str (.str s) = s
  /-- `int` of an integer. -/
  int : ∀ n, py.int (.int n) = some n
  /-- The rows of an array. -/
  rows : ∀ a, py.rows (.floats a) = a.rows

/-- The exceptions of an inference. -/
inductive PolicyClientError
  /-- `StalePolicyResponseError`: `policy response belongs to an old epoch` -/
  | staleEpoch
  /-- Raised by `capture` or by `encode`. -/
  | observation (e : PyError)
  /-- Raised by `asarray`, for rows of different lengths. -/
  | raggedPrefix
  /-- `TimeoutError` -/
  | timeout
  /-- `policy server error: ...` -/
  | serverError (text : String)
  /-- Raised by `unpackb`. -/
  | unpack (e : PyError)
  /-- `policy server response is not a mapping` -/
  | notMapping
  /-- `invalid policy response: ...` -/
  | invalidResponse
  /-- `policy response correlation mismatch` -/
  | correlationMismatch
  /-- `action chunk must contain ... steps`, `action must contain ... values`,
  `action values must be finite` -/
  | invalidTicket

/-! ### Responses -/

/-- A response of the server. -/
structure Pi05PolicyResponse where
  /-- The Session. -/
  sessionId : String
  /-- The Episode. -/
  episodeId : String
  /-- The control epoch. -/
  controlEpoch : ℕ
  /-- The number of the inference. -/
  inferenceId : String
  /-- The checkpoint that was asked, normalized. -/
  checkpointSha256 : String
  /-- The actions. -/
  actionChunk : List (List PyFloat)
  /-- When the inference started. -/
  startedAtNs : ℤ
  /-- When it was completed. -/
  completedAtNs : ℤ
  /-- `policy response identifiers must not be empty` -/
  identifiers : sessionId ≠ "" ∧ episodeId ≠ "" ∧ inferenceId ≠ ""
  /-- `checkpoint_sha256 must contain 64 hexadecimal characters` -/
  checkpointSha256_valid : IsSha256 checkpointSha256
  /-- `response inference timestamps are invalid` -/
  timestamps : 0 ≤ startedAtNs ∧ startedAtNs ≤ completedAtNs

/-- The constructor of `Pi05PolicyResponse`. -/
def Pi05PolicyResponse.make (sessionId episodeId : String) (controlEpoch : ℤ)
    (inferenceId checkpointSha256 : String) (actionChunk : List (List PyFloat))
    (startedAtNs completedAtNs : ℤ) : Option Pi05PolicyResponse :=
  if hid : sessionId ≠ "" ∧ episodeId ≠ "" ∧ inferenceId ≠ "" then
    if controlEpoch < 0 then none
    else if hsha : IsSha256 checkpointSha256.toLower then
      if ht : 0 ≤ startedAtNs ∧ startedAtNs ≤ completedAtNs then
        some ⟨sessionId, episodeId, controlEpoch.toNat, inferenceId, checkpointSha256.toLower,
          actionChunk, startedAtNs, completedAtNs, hid, hsha, ht⟩
      else none
    else none
  else none

/-- `policy_response_from_wire`; whatever is missing or malformed becomes a `RuntimeError`. -/
def policyResponseFromWire (py : Conversions) (response : Mapping) :
    Except PolicyClientError Pi05PolicyResponse :=
  let parsed := do
    let actions ← py.rows (← response.item "actions")
    let sessionId ← response.item "session_id"
    let episodeId ← response.item "episode_id"
    let controlEpoch ← py.int (← response.item "control_epoch")
    let inferenceId ← response.item "inference_id"
    let checkpointSha256 ← response.item "checkpoint_sha256"
    let startedAtNs ← py.int (← response.item "started_at_ns")
    let completedAtNs ← py.int (← response.item "completed_at_ns")
    Pi05PolicyResponse.make (py.str sessionId) (py.str episodeId) controlEpoch (py.str inferenceId)
      (py.str checkpointSha256) actions startedAtNs completedAtNs
  match parsed with
  | some response => .ok response
  | none => .error .invalidResponse

/-! ### The connection -/

/-- What comes from the server. -/
inductive Message (W : Type)
  | text (s : String)
  | binary (wire : W)

/-- A connection, as the client finds it. -/
structure Connection (W : Type) where
  /-- The time. -/
  nowS : ℚ
  /-- The responses that were not received yet, with the times at which they arrive, oldest first. -/
  outstanding : List (ℚ × Message W)
  /-- When the last response arrives. -/
  lastArrivalS : ℚ

namespace Connection

variable {W : Type}

/-- A request is sent after `idleS` seconds, and its response arrives `delayS` seconds later, but not
before the responses to earlier requests. -/
def send (c : Connection W) (idleS delayS : ℚ) (response : Message W) : Connection W where
  nowS := c.nowS + idleS
  outstanding := c.outstanding ++ [(max c.lastArrivalS (c.nowS + idleS + delayS), response)]
  lastArrivalS := max c.lastArrivalS (c.nowS + idleS + delayS)

/-- `recv(timeout)`; `none` is a `TimeoutError`. -/
def recv (c : Connection W) (timeoutS : ℚ) : Option (Message W) × Connection W :=
  match c.outstanding with
  | [] => (none, { c with nowS := c.nowS + timeoutS })
  | (arrivalS, message) :: rest =>
    if arrivalS ≤ c.nowS + timeoutS then
      (some message, { c with nowS := max c.nowS arrivalS, outstanding := rest })
    else (none, { c with nowS := c.nowS + timeoutS })

end Connection

/-- `_recv_mapping`, of the message that was received. -/
def mappingOf {W : Type} (codec : Codec W) : Message W → Except PolicyClientError Mapping
  | .text s => .error (.serverError s)
  | .binary wire => match codec.unpackb wire with
    | .error err => .error (.unpack err)
    | .ok (.map mapping) => .ok mapping
    | .ok _ => .error .notMapping

/-! ### The client -/

/-- The arguments of the client's constructor, and the timeout of its transport. -/
structure PolicyClient where
  /-- The Session. -/
  sessionId : String
  /-- The task. -/
  prompt : String
  /-- The checkpoint, normalized. -/
  checkpointSha256 : String
  /-- How chunks are executed. -/
  execution : PolicyExecutionProfile
  /-- `_timeout_s` -/
  timeoutS : ℚ
  /-- `session_id and prompt must not be empty` -/
  nonempty : sessionId ≠ "" ∧ prompt ≠ ""
  /-- `checkpoint_sha256 must contain 64 hexadecimal characters` -/
  checkpointSha256_valid : IsSha256 checkpointSha256
  /-- `policy transport host, port, and timeout are invalid` -/
  timeoutS_pos : 0 < timeoutS

/-- An inference that was submitted. -/
structure Inference where
  /-- The Episode. -/
  episodeId : String
  /-- The control epoch. -/
  controlEpoch : ℕ
  /-- The number of the inference. -/
  inferenceId : String
  /-- The commands that will be executed in the meantime. -/
  rtc : Option RtcPolicyContext
  /-- `episode_id must not be empty`, `inference_id must not be empty` -/
  nonempty : episodeId ≠ "" ∧ inferenceId ≠ ""

/-- What the worker thread finds while it runs an inference. -/
structure Circumstances where
  /-- `_active_epoch`, when the inference begins. -/
  activeAtStart : ℕ
  /-- What `capture` and `encode` return. -/
  observation : Except PyError Pi05Observation
  /-- How long after the previous inference the request is sent. -/
  idleS : ℚ
  /-- How long the server and the network take. -/
  delayS : ℚ
  /-- The policy of the server. -/
  policy : OpenPiPolicy
  /-- The clock of the server, before the inference. -/
  startedAtNs : ℤ
  /-- The clock of the server, after the inference. -/
  completedAtNs : ℤ
  /-- What the server sends when it fails. -/
  traceback : String
  /-- `_active_epoch`, when the inference ends. -/
  activeAtEnd : ℕ

/-- A request that was sent. -/
structure Sent (W : Type) where
  /-- When it was sent. -/
  atS : ℚ
  /-- When its own response arrives. -/
  arrivalS : ℚ
  /-- Its own response. -/
  response : Message W

/-- An inference that has ended. -/
structure Exchange (W : Type) where
  /-- The inference. -/
  inference : Inference
  /-- `_active_epoch`, when it ended. -/
  activeAtEnd : ℕ
  /-- The request, unless none was sent. -/
  sent : Option (Sent W)
  /-- The result of its future. -/
  outcome : Except PolicyClientError InferenceTicket

namespace PolicyClient

variable {W : Type} (client : PolicyClient) (np : Numpy) (py : Conversions) (codec : Codec W)
  (envelope : CorrelatedPolicyEnvelope)

/-- The request of an inference. -/
def request (i : Inference) (observation : Pi05Observation) : Pi05PolicyRequest where
  sessionId := client.sessionId
  episodeId := i.episodeId
  controlEpoch := i.controlEpoch
  inferenceId := i.inferenceId
  checkpointSha256 := client.checkpointSha256
  prompt := client.prompt
  observation := observation
  rtc := i.rtc
  identifiers := ⟨client.nonempty.1, i.nonempty⟩
  prompt_ne := client.nonempty.2
  checkpointSha256_valid := client.checkpointSha256_valid

/-- `_validate_response` -/
def validateResponse (i : Inference) (response : Pi05PolicyResponse) :
    Except PolicyClientError Unit :=
  if (response.sessionId, response.episodeId, response.controlEpoch, response.inferenceId,
      response.checkpointSha256) ≠
    (client.sessionId, i.episodeId, i.controlEpoch, i.inferenceId, client.checkpointSha256) then
    .error .correlationMismatch
  else .ok ()

/-- `_require_active_epoch` -/
def requireActiveEpoch (controlEpoch activeEpoch : ℕ) : Except PolicyClientError Unit :=
  if controlEpoch ≠ activeEpoch then .error .staleEpoch else .ok ()

/-- The constructor of `InferenceTicket`. -/
def ticket (i : Inference) (response : Pi05PolicyResponse) :
    Except PolicyClientError InferenceTicket :=
  match response.actionChunk.mapM (·.mapM PyFloat.toRat?) with
  | none => .error .invalidTicket
  | some rows =>
    if h : rows.length = client.execution.actionChunkSize ∧
        ∀ row ∈ rows, row.length = client.execution.actionDimension then
      .ok ⟨i.inferenceId, i.controlEpoch, response.checkpointSha256, rows, client.execution,
        h.1, h.2⟩
    else .error .invalidTicket

/-- What `_infer` does with a message. -/
def accept (i : Inference) (activeAtEnd : ℕ) (message : Message W) :
    Except PolicyClientError InferenceTicket := do
  let mapping ← mappingOf codec message
  let response ← policyResponseFromWire py mapping
  client.validateResponse i response
  requireActiveEpoch i.controlEpoch activeAtEnd
  client.ticket i response

/-- What `_infer` does with what `recv` returns. -/
def receive (i : Inference) (activeAtEnd : ℕ) :
    Option (Message W) → Except PolicyClientError InferenceTicket
  | none => .error .timeout
  | some message => client.accept py codec i activeAtEnd message

/-- What the server answers to a request. -/
def respond (e : Circumstances) (payload : Mapping) : Message W :=
  match serve codec envelope e.policy e.startedAtNs e.completedAtNs (codec.packb (.map payload)) with
  | .ok reply => .binary (codec.packb (.map reply.toWire))
  | .error _ => .text e.traceback

/-- `_infer` -/
def infer (c : Connection W) (i : Inference) (e : Circumstances) : Exchange W × Connection W :=
  match requireActiveEpoch i.controlEpoch e.activeAtStart with
  | .error err => (⟨i, e.activeAtEnd, none, .error err⟩, c)
  | .ok () => match e.observation with
    | .error err => (⟨i, e.activeAtEnd, none, .error (.observation err)⟩, c)
    | .ok observation =>
      match policyRequestToWire np (client.request i observation) with
      | none => (⟨i, e.activeAtEnd, none, .error .raggedPrefix⟩, c)
      | some payload =>
        let response := respond codec envelope e payload
        let c := c.send e.idleS e.delayS response
        let sent : Sent W := ⟨c.nowS, c.lastArrivalS, response⟩
        let (received, c) := c.recv client.timeoutS
        (⟨i, e.activeAtEnd, some sent, client.receive py codec i e.activeAtEnd received⟩, c)

/-- The worker thread runs the inferences one after the other. -/
def run : Connection W → List (Inference × Circumstances) → List (Exchange W)
  | _, [] => []
  | c, (i, e) :: is =>
    let (exchange, c') := client.infer np py codec envelope c i e
    exchange :: run c' is

end PolicyClient

end DualCollection
