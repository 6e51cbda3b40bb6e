import DualCollection.Net.Stream
import DualCollection.Snapshot.Buffer
import DualCollection.Snapshot.Client
import DualCollection.Snapshot.Untorn

/-!
# The snapshot protocol

`LocalVlaSnapshotClient` of `local_snapshot.py` and `SnapshotSocketServer` of
`snapshot_socket_server.cpp` with its handler `MultiD405Source::capture_snapshot`: two processes
that exchange requests and replies on stream connections, and share the arena beside them.  A call
that blocks is tried again by the next round of its loop; the operating system may refuse any call,
let it time out, and transfer any part of what was asked for.  The owner of the server may stop it.

`SnapshotLink.phase`, `received` and `log` are what an observer sees.  No program reads them.
-/

namespace DualCollection

open Thread Net Bytes

/-- The processes, and the thread that owns the server. -/
inductive LinkRole
  | client
  | server
  | owner
  deriving DecidableEq

/-- What the server does. -/
inductive LinkPhase
  /-- It handles no request. -/
  | waiting
  /-- It has received a request and has no reply yet. -/
  | handling
  /-- It sends a reply, of which this is left. -/
  | replying (rest : List UInt8)
  deriving DecidableEq

/-- What was observed. -/
inductive LinkEvent
  /-- A request was sent on the connection, after these commits. -/
  | requested (connection : ℕ) (committed : List SnapshotDescriptor)
  /-- The handler has returned a reply to a request of the connection, and what it committed. -/
  | answered (connection : ℕ) (reply : SnapshotSocketReply)
    (committed : Option (SnapshotDescriptor × VlaSnapshot UInt64))
  /-- `capture` has ended. -/
  | returned (result : Except CaptureError Observation.VlaObservationStep)

/-- The state that the processes share, and their attributes. -/
structure SnapshotLink where
  /-- The arena. -/
  arena : Arena UInt64
  /-- The connections to the socket. -/
  net : Network := {}
  /-- `running_` of the server. -/
  running : Bool := true
  /-- `connection_` of the server. -/
  connection : Option ℕ := none
  /-- `_socket` of the client, with its connection if it is connected. -/
  socket : Option (Option ℕ) := none
  /-- What the server does. -/
  phase : LinkPhase := .waiting
  /-- What the client has received of the reply for which it waits. -/
  received : Option (List UInt8) := none
  /-- What was observed, newest first. -/
  log : List LinkEvent := []

/-- What the environment answers. -/
structure LinkEnv where
  /-- The text of the `OSError` of the system call, if it fails. -/
  refused : Option String := none
  /-- The call was interrupted: `errno == EINTR`. -/
  interrupted : Bool := false
  /-- One less than the number of bytes that the system call transfers. -/
  more : ℕ := 0
  /-- The text of the `OSError` when the arena cannot be opened. -/
  unopened : Option String := none
  /-- What the buffer selects, its images resized. -/
  selected : Except SelectionFailure (VlaSnapshot UInt64) := .error {}
  /-- `monotonic_ns()` -/
  clock : ℤ := 0

/-- The arguments of the two constructors. -/
structure LinkParameters where
  /-- `width` of the writer. -/
  width : UInt32
  /-- `height` of the writer. -/
  height : UInt32
  /-- `width` of the reader. -/
  readerWidth : ℕ
  /-- `height` of the reader. -/
  readerHeight : ℕ
  /-- `int(self.timeout_s * 1_000_000_000)` -/
  timeoutNs : ℤ

/-- The sections of the two processes. -/
inductive LinkSection
  | clock
  | createSocket
  | connect
  | sendRequest
  | receive
  | closeSocket
  | closeArena
  | returned
  | arena (l : ArenaSection)
  | running
  | accept
  | receiveRequest
  | select
  | answer
  | send
  | closeConnection
  | stop
  deriving DecidableEq

namespace SnapshotLink

/-- A program of one of the processes. -/
abbrev Program (α : Type) := Prog LinkSection LinkEnv SnapshotLink SnapshotError α

/-- Run a program of the arena. -/
abbrev onArena {α : Type} (p : ArenaProg UInt64 α) : Program α :=
  p.embed .arena (·.unopened.map .osError) (·.arena) fun s arena => { s with arena }

/-- `REQUEST` -/
def request : List UInt8 := [1]

/-- `REPLY.size` -/
def replySize : ℕ := calcsize LocalVlaSnapshotClient.reply

/-! ### The client -/

section Client

/-- `self._clock_ns()` -/
def readClock : Program ℤ := .atomic .clock fun e s => (.ok e.clock, s)

/-- `_set_remaining_timeout` -/
def setRemainingTimeout (deadlineNs : ℤ) : Program Unit := do
  let nowNs ← readClock
  if deadlineNs - nowNs ≤ 0 then .raise (.osError "snapshot request timed out")

/-- The first part of `_connect`: the socket that there is, or a new one. -/
def createSocket : Program (Option (Option ℕ)) :=
  .atomic .createSocket fun e s => match s.socket, e.refused with
    | some socket, _ => (.ok (some socket), s)
    | none, some text => (.error (.osError text), s)
    | none, none => (.ok none, { s with socket := some none })

/-- `self._socket.connect(str(self.socket_path))` -/
def connectSocket : Program (Option ℕ) :=
  .atomic .connect fun e s => match e.refused with
    | some text => (.error (.osError text), s)
    | none => (.ok (some s.net.connected),
        { s with net := s.net.connect, socket := some (some s.net.connected) })

/-- `_connect` -/
def connect (deadlineNs : ℤ) : Program (Option ℕ) := do
  let socket ← createSocket
  match socket with
  | some connection => pure connection
  | none => do
    setRemainingTimeout deadlineNs
    connectSocket

/-- `connection.sendall(REQUEST)` -/
def sendRequest (connection : Option ℕ) : Program Unit :=
  .atomic .sendRequest fun e s => match e.refused, connection with
    | some text, _ => (.error (.osError text), s)
    | none, none => (.error (.osError "Transport endpoint is not connected"), s)
    | none, some k => (.ok (),
        { s with
          net := s.net.request k request
          received := some []
          log := .requested k (s.arena.committed.map Prod.fst) :: s.log })

/-- `connection.recv(limit)`: nothing while the call blocks, and no bytes at the end. -/
def receive (connection : Option ℕ) (limit : ℕ) : Program (Option (List UInt8)) :=
  .atomic .receive fun e s => match e.refused, connection with
    | some text, _ => (.error (.osError text), s)
    | none, none => (.error (.osError "Transport endpoint is not connected"), s)
    | none, some k =>
      let bytes := (s.net.stream k).outbound.take (min (e.more + 1) limit)
      if bytes = [] then
        if (s.net.stream k).acceptorOpen then (.ok none, s) else (.ok (some []), s)
      else (.ok (some bytes),
        { s with
          net := s.net.takeOutbound k bytes.length
          received := s.received.map (· ++ bytes) })

/-- `_receive_reply` -/
def receiveReply (connection : Option ℕ) (deadlineNs : ℤ) : ℕ → List UInt8 → Program (List UInt8)
  | 0, _ => .halt
  | rounds + 1, chunks =>
    if chunks.length < replySize then do
      setRemainingTimeout deadlineNs
      let chunk ← receive connection (replySize - chunks.length)
      match chunk with
      | none => receiveReply connection deadlineNs rounds chunks
      | some [] => .raise (.osError "snapshot socket closed before reply")
      | some (b :: bs) => receiveReply connection deadlineNs rounds (chunks ++ b :: bs)
    else pure chunks

/-- `_close_socket` -/
def closeSocket : Program Unit :=
  .atomic .closeSocket fun _ s => match s.socket with
    | none => (.ok (), { s with received := none })
    | some none => (.ok (), { s with socket := none, received := none })
    | some (some k) =>
      (.ok (), { s with net := s.net.closeConnector k, socket := none, received := none })

/-- The `try` block of `capture`. -/
def exchange (deadlineNs : ℤ) (rounds : ℕ) : Program (List UInt8) := do
  let connection ← connect deadlineNs
  setRemainingTimeout deadlineNs
  sendRequest connection
  receiveReply connection deadlineNs rounds []

/-- The error that a reply with a status other than zero shows. -/
def failure (status : UInt32) (observedNs limitNs : Int64) : CaptureError :=
  match LocalVlaSnapshotClient.failureCodes.lookup status.toNat with
  | none => .runtimeError s!"snapshot source returned unknown status {status.toNat}"
  | some code => .unavailable code (LocalVlaSnapshotClient.optionalNs observedNs.toInt)
      (LocalVlaSnapshotClient.optionalNs limitNs.toInt) ""

/-- `capture`, after `_receive_reply`. -/
def interpret (p : LinkParameters) (received : List UInt8) :
    Program (Except CaptureError Observation.VlaObservationStep) :=
  match unpackFrom LocalVlaSnapshotClient.reply received 0 with
  | .ok [.u32 status, .u32 slot, .u64 generation, .i64 observedNs, .i64 limitNs] =>
    if status ≠ 0 then pure (.error (failure status observedNs limitNs))
    else (onArena (Arena.read p.readerWidth p.readerHeight slot.toNat generation.toNat)).andThen fun
      | .error (.arenaUnavailable text) =>
        pure (.error (.unavailable .buffersNotReady none none text))
      | .error err => pure (.error (.reader err))
      | .ok sample => pure
          ((LocalVlaSnapshotClient.step p.readerWidth p.readerHeight sample).mapError .valueError)
  | _ => pure (.error (.reader
      (.runtimeError "struct.error: unpack requires a buffer of 32 bytes")))

/-- `capture`; the reply is received in so many rounds. -/
def capture (p : LinkParameters) (rounds : ℕ) :
    Program (Except CaptureError Observation.VlaObservationStep) := do
  let startedNs ← readClock
  (exchange (startedNs + p.timeoutNs) rounds).andThen fun
    | .error (.osError text) => do
      closeSocket
      let nowNs ← readClock
      pure (.error (.unavailable .buffersNotReady (some (nowNs - startedNs)) (some p.timeoutNs)
        text))
    | .error err => .raise err
    | .ok received => interpret p received

/-- Note how `capture` has ended. -/
def noteReturned (result : Except CaptureError Observation.VlaObservationStep) : Program Unit :=
  .atomic .returned fun _ s =>
    (.ok (), { s with received := none, log := .returned result :: s.log })

/-- `close` -/
def close : Program Unit := do
  closeSocket
  .atomic .closeArena fun _ s => (.ok (), { s with arena := { s.arena with mapped := false } })

end Client

/-! ### The server -/

section Server

/-- `running_` -/
def isRunning : Program Bool := .atomic .running fun _ s => (.ok s.running, s)

/-- What `accept4` or `recv` gives. -/
inductive Arrival (α : Type)
  /-- The call blocks, or was interrupted. -/
  | blocked
  /-- The call fails, or there is nothing to come. -/
  | ended
  | arrived (a : α)

/-- `accept4` -/
def accept : Program (Arrival ℕ) :=
  .atomic .accept fun e s => match e.refused, s.net.accept with
    | some _, _ => (.ok (if e.interrupted then .blocked else .ended), s)
    | none, none => (.ok .blocked, s)
    | none, some net => (.ok (.arrived s.net.accepted),
        { s with net, connection := some s.net.accepted })

/-- `recv` of a request. -/
def receiveRequest (k : ℕ) : Program (Arrival Unit) :=
  .atomic .receiveRequest fun e s => match e.refused, (s.net.stream k).inbound with
    | some _, _ => (.ok .ended, s)
    | none, [] => (.ok (if (s.net.stream k).connectorOpen then .blocked else .ended), s)
    | none, _ :: _ => (.ok (.arrived ()),
        { s with net := s.net.takeInbound k 1, phase := .handling })

/-- The status of a failure code. -/
def status : FailureCode → UInt32
  | .none => 0
  | .buffersNotReady => 1
  | .cameraSpanExceeded => 2
  | .snapshotStale => 3
  | .leftArmStale => 4
  | .rightArmStale => 5

/-- The reply after a commit. -/
def committedReply (d : SnapshotDescriptor) : SnapshotSocketReply :=
  ⟨0, .ofNat d.slot, .ofNat d.generation, -1, -1⟩

/-- `buffer_.select`, and the images that the resizer makes, which may throw. -/
def select : Program (Except SelectionFailure (VlaSnapshot UInt64)) :=
  .atomic .select fun e s => match e.refused with
    | some text => (.error (.runtimeError text), s)
    | none => (.ok e.selected, s)

/-- `capture_snapshot`, with what it has committed. -/
def captureSnapshot (p : LinkParameters) :
    Program (SnapshotSocketReply × Option (SnapshotDescriptor × VlaSnapshot UInt64)) := do
  let selected ← select
  match selected with
  | .error failure =>
    pure (⟨status failure.code, 0, 0, .ofInt failure.observedNs, .ofInt failure.limitNs⟩, none)
  | .ok x => do
    let d ← onArena (Arena.commit p.width p.height x)
    pure (committedReply d, some (d, x))

/-- `reply = handler_()` -/
def answer (k : ℕ) (reply : SnapshotSocketReply)
    (committed : Option (SnapshotDescriptor × VlaSnapshot UInt64)) : Program Unit :=
  .atomic .answer fun _ s => (.ok (),
    { s with phase := .replying reply.bytes, log := .answered k reply committed :: s.log })

/-- `send`, and what is left to send; nothing when it fails. -/
def send (k : ℕ) (bytes : List UInt8) : Program (Option (List UInt8)) :=
  .atomic .send fun e s => match e.refused with
    | some _ => (.ok none, s)
    | none =>
      let rest := bytes.drop (e.more + 1)
      (.ok (some rest),
        { s with
          net := s.net.respond k (bytes.take (e.more + 1))
          phase := if rest = [] then .waiting else .replying rest })

/-- `while (sent < sizeof(reply))`: whether the reply was sent. -/
def sendReply (k : ℕ) : ℕ → List UInt8 → Program Bool
  | _, [] => pure true
  | 0, _ => .halt
  | rounds + 1, bytes => do
    let rest ← send k bytes
    match rest with
    | none => pure false
    | some rest => sendReply k rounds rest

/-- `serve` -/
def serve (p : LinkParameters) (k : ℕ) : ℕ → Program Unit
  | 0 => .halt
  | rounds + 1 => do
    let running ← isRunning
    if ¬ running then pure ()
    else do
      let request ← receiveRequest k
      match request with
      | .blocked => serve p k rounds
      | .ended => pure ()
      | .arrived () => (captureSnapshot p).andThen fun
        | .error _ => pure ()
        | .ok (reply, committed) => do
          answer k reply committed
          let sent ← sendReply k reply.bytes.length reply.bytes
          if sent then serve p k rounds else pure ()

/-- `close_socket(connection_)` -/
def closeConnection (k : ℕ) : Program Unit :=
  .atomic .closeConnection fun _ s =>
    (.ok (), { s with net := s.net.closeAcceptor k, connection := none, phase := .waiting })

/-- `run`; a connection is served in so many rounds. -/
def run (p : LinkParameters) (rounds : ℕ) : Program Unit :=
  .loop rounds do
    let running ← isRunning
    if ¬ running then pure (some ())
    else do
      let connection ← accept
      match connection with
      | .blocked => pure none
      | .ended => pure (some ())
      | .arrived k => do
        serve p k rounds
        closeConnection k
        pure none

/-- `running_.exchange(false)` in `stop`. -/
def stop : Program Unit := .atomic .stop fun _ s => (.ok (), { s with running := false })

end Server

/-! ### The system -/

/-- What they do. -/
inductive Op
  | capture (rounds : ℕ)
  | close
  | run (rounds : ℕ)
  | stop

/-- One client, the server, and its owner. -/
def system (p : LinkParameters) :
    System LinkRole Op LinkSection LinkEnv SnapshotLink SnapshotError where
  op
    | .client, .capture rounds => do
      let result ← capture p rounds
      noteReturned result
    | .client, .close => close
    | .server, .run rounds => run p rounds
    | .owner, .stop => stop
    | _, _ => pure ()

end SnapshotLink

end DualCollection
