import DualCollection.Control.Exception
import DualCollection.Thread.Serve

/-!
# The production Session

`production/orchestrator.py` with `system.py`, `lease.py`, `readiness.py` and `processes.py`: how
`ProductionSession.start` brings up the hardware lease, the CAN interfaces, the readiness gate, the
stream monitor, the managed processes and the home controller, and how it takes them down again
when one of the calls raises.

Every call of something outside these classes is a section named by a `SessionCall`, and
`SessionAnswer` is what it answers: it may raise, and it may return anything.  The attributes of the
classes are the state.  `SystemBringup` and `RosReadinessGate` are modelled call by call; the
monitor and the home controller, which are injected, and the observations of the gate are calls.
The signal handlers that `stop` replaces for its duration are not modelled.
-/

namespace DualCollection

namespace Production

open Thread

/-! ### Calls -/

/-- `CheckPhase` -/
inductive CheckPhase
  | session
  | system
  | ros
  | episode
  | shutdown
  deriving DecidableEq

/-- `CheckResult` -/
structure CheckResult where
  /-- What was checked. -/
  name : String
  /-- When. -/
  phase : CheckPhase
  /-- Whether it is as it should be. -/
  passed : Bool
  /-- What was found. -/
  detail : String
  deriving DecidableEq

/-- `ArmConfig` -/
structure ArmConfig where
  /-- `left` or `right` -/
  role : String
  /-- The serial number of the USB2CAN adapter. -/
  usbSerial : String
  /-- The name of the interface. -/
  canInterface : String
  deriving DecidableEq

/-- `CanInterfaceManager`: an arm, and where its adapter is. -/
structure CanInterfaceManager where
  /-- `arm` -/
  arm : ArmConfig
  /-- `tty_path` -/
  ttyPath : String
  deriving DecidableEq

/-- An exception; `OSError` is told apart from the others. -/
structure SessionError extends PyError where
  /-- `isinstance(error, OSError)` -/
  osError : Bool := false
  deriving DecidableEq

/-- Which results are reported. -/
inductive ReportSite
  | identity
  | disk (phase : CheckPhase)
  /-- What `SystemBringup.start` has returned. -/
  | systemStart
  | arms
  | cameras
  | systemCheck
  | readiness
  /-- What `SystemBringup.stop` has returned. -/
  | systemStop
  deriving DecidableEq

/-- The calls. -/
inductive SessionCall
  /-- The attributes of the Session are read or assigned. -/
  | attributes
  | logDirMkdir
  | identityChecks
  | outputRootMkdir
  | diskUsage
  | checkSink (site : ReportSite) (result : CheckResult)
  | warningSink (text : String)
  | monotonic
  | sleep
  | leaseMkdir
  | leaseOpen
  | leaseFlock
  | leaseWrite
  | leaseUnlock
  | leaseClose
  | usbfsRead
  /-- `apply` raises the limit. -/
  | usbfsRaise (mb : ℤ)
  /-- `restore` puts it back. -/
  | usbfsRestore (mb : ℤ)
  | resolve (serial : String)
  /-- `ip link show` -/
  | linkShow (arm : ArmConfig)
  /-- `ip link set ... up` -/
  | linkUp (arm : ArmConfig)
  /-- `ip link set ... down` -/
  | linkDown (arm : ArmConfig)
  /-- `ip -json -details -statistics link show`, and what is read of it. -/
  | linkDetails (arm : ArmConfig)
  | slcandStart (arm : ArmConfig)
  | slcandRequireRunning (arm : ArmConfig)
  | slcandRunning (arm : ArmConfig)
  | slcandStop (arm : ArmConfig)
  | importRclpy
  | newContext
  | rclpyInit
  | createNode
  | createSubscription
  | newExecutor
  | addNode
  | newThread
  | startThread
  | executorShutdown
  | destroyNode
  | contextOk
  | contextShutdown
  | joinThread
  | threadIsAlive
  /-- `RosReadinessGate.results` -/
  | readinessResults (streamIds : List String)
  | monitorOpen
  | monitorWaitUntilReady (streamIds : List String)
  | monitorClose
  | homeOpen
  | homeClose
  /-- `RosCommandSet` builds the process. -/
  | command (name : String)
  | processStart (name : String)
  | processRequireRunning (name : String)
  | processRunning (name : String)
  | processStop (name : String)
  deriving DecidableEq

/-- What is read of `ip -json -details -statistics link show`. -/
structure LinkDetails where
  /-- `result.returncode` -/
  returnCode : ℤ := 0
  /-- `result.stderr.strip()` -/
  stderr : String := ""
  /-- `"UP" in entry.get("flags", [])` -/
  isUp : Bool := true
  /-- `_can_errors(entry)` -/
  errors : ℤ := 0

/-- What a call answers. -/
structure SessionAnswer where
  /-- The exception that is raised, if any. -/
  raises : Option SessionError := none
  /-- The results of checks. -/
  results : List CheckResult := []
  /-- `shutil.disk_usage(self.output_root).free` -/
  freeBytes : ℕ := 0
  /-- The time. -/
  time : ℚ := 0
  /-- `usbfs_memory_mb` -/
  memoryMb : ℤ := 0
  /-- Where the adapter is. -/
  ttyPath : String := ""
  /-- The return code of a command or of a process that has stopped. -/
  returnCode : ℤ := 0
  /-- The details of a link. -/
  link : LinkDetails := {}
  /-- `running`, `ok` and `is_alive` -/
  holds : Bool := true

/-- The attributes of the Session and of the objects that it owns. -/
structure SessionState where
  /-- `_started` -/
  started : Bool := false
  /-- `_system_started` -/
  systemStarted : Bool := false
  /-- `_readiness_started` -/
  readinessStarted : Bool := false
  /-- `_monitor_open` -/
  monitorOpen : Bool := false
  /-- `_home_open` -/
  homeOpen : Bool := false
  /-- `system.lease.stream is not None` -/
  lease : Bool := false
  /-- `system.usbfs._original_mb` -/
  usbfsOriginalMb : Option ℤ := none
  /-- `system.usbfs._changed` -/
  usbfsChanged : Bool := false
  /-- `system.interfaces` -/
  interfaces : List CanInterfaceManager := []
  /-- `readiness._context is not None` -/
  gateContext : Bool := false
  /-- `readiness._node is not None` -/
  gateNode : Bool := false
  /-- `readiness._executor is not None` -/
  gateExecutor : Bool := false
  /-- `readiness._thread is not None` -/
  gateThread : Bool := false
  /-- The names of `supervisor._processes`. -/
  processes : List String := []

/-- A program of the Session. -/
abbrev SessionProg := Prog SessionCall SessionAnswer SessionState SessionError

/-- Call something that answers. -/
def ask {α : Type} (l : SessionCall) (read : SessionAnswer → α) : SessionProg α :=
  .atomic l fun a s => match a.raises with
    | some err => (.error err, s)
    | none => (.ok (read a), s)

/-- Call something that returns nothing. -/
def call (l : SessionCall) : SessionProg Unit := ask l fun _ => ()

/-- Call something, if it is to be called. -/
def callIf (given : Bool) (l : SessionCall) : SessionProg Unit :=
  if given then call l else pure ()

/-- Read the attributes. -/
def attributes : SessionProg SessionState := .atomic .attributes fun _ s => (.ok s, s)

/-- Assign attributes. -/
def assign (f : SessionState → SessionState) : SessionProg Unit :=
  .atomic .attributes fun _ s => (.ok (), f s)

/-- Raise a `RuntimeError`. -/
def raiseRuntimeError {α : Type} (text : String) : SessionProg α := .raise ⟨⟨.runtimeError, text⟩, false⟩

/-- Run a program, and return what it raises. -/
def attempt (p : SessionProg Unit) : SessionProg (List SessionError) :=
  Prog.tryCatch (p >>= fun _ => pure []) fun err => pure [err]

/-- One after the other. -/
def forEach {α : Type} (body : α → SessionProg Unit) : List α → SessionProg Unit
  | [] => pure ()
  | x :: xs => do
    body x
    forEach body xs

/-! ### Checks -/

/-- `str(CheckFailure(results))` -/
def checkFailure (results : List CheckResult) : String :=
  "checks failed: " ++ ", ".intercalate ((results.filter fun result => !result.passed).map (·.name))

/-- `require_passed` -/
def requirePassed (results : List CheckResult) : SessionProg (List CheckResult) :=
  if results.all (·.passed) then pure results else raiseRuntimeError (checkFailure results)

/-- `_report` -/
def report (site : ReportSite) (results : List CheckResult) : SessionProg Unit :=
  forEach (fun result => call (.checkSink site result)) results

/-- `_disk_check` -/
def diskCheck (minFreeBytes : ℕ) (phase : CheckPhase) : SessionProg CheckResult := do
  call .outputRootMkdir
  let freeBytes ← ask .diskUsage SessionAnswer.freeBytes
  pure ⟨"disk_space", phase, minFreeBytes ≤ freeBytes,
    "free_bytes=" ++ toString freeBytes ++ ", required>=" ++ toString minFreeBytes⟩

/-! ### The hardware lease -/

namespace HardwareLease

/-- `release` -/
def release : SessionProg Unit := do
  if (← attributes).lease then do
    call .leaseUnlock
    call .leaseClose
    assign fun s => { s with lease := false }
  else pure ()

/-- `acquire` -/
def acquire : SessionProg Unit := do
  if (← attributes).lease then raiseRuntimeError "hardware lease already acquired"
  else do
    call .leaseMkdir
    call .leaseOpen
    Prog.tryCatch (call .leaseFlock) fun err =>
      if err.osError then do
        call .leaseClose
        raiseRuntimeError "hardware is in use by collect, DAgger, station setup or calibration"
      else .raise err
    assign fun s => { s with lease := true }
    Prog.tryCatch (call .leaseWrite) fun err => do
      release
      .raise err

end HardwareLease

/-! ### The memory of the USB file system -/

namespace UsbfsManager

/-- `_read` -/
def read : SessionProg ℤ := ask .usbfsRead SessionAnswer.memoryMb

/-- `check` -/
def check (requiredMb : ℤ) : SessionProg CheckResult :=
  Prog.tryCatch
    (do
      let current ← read
      pure ⟨"usbfs", .system, requiredMb ≤ current,
        "usbfs_memory_mb=" ++ toString current ++ ", required>=" ++ toString requiredMb⟩)
    fun err =>
      if err.osError ∨ err.cls = .valueError then pure ⟨"usbfs", .system, false, err.text⟩
      else .raise err

/-- The limit is raised, if it is too low. -/
def raiseLimit (requiredMb current : ℤ) : SessionProg Unit :=
  if current < requiredMb then do
    call (.usbfsRaise requiredMb)
    assign fun s => { s with usbfsChanged := true }
  else pure ()

/-- `apply` -/
def apply (requiredMb : ℤ) : SessionProg CheckResult := do
  let current ← read
  assign fun s => { s with usbfsOriginalMb := some (s.usbfsOriginalMb.getD current) }
  raiseLimit requiredMb current
  check requiredMb

/-- The limit is put back, if it was raised. -/
def putBack : SessionProg Unit := do
  let s ← attributes
  match s.usbfsOriginalMb with
  | none => pure ()
  | some originalMb =>
    if s.usbfsChanged then do
      call (.usbfsRestore originalMb)
      assign fun s => { s with usbfsChanged := false }
    else pure ()

/-- `restore` -/
def restore : SessionProg CheckResult := do
  putBack
  let current ← read
  let s ← attributes
  pure ⟨"usbfs_restore", .shutdown, s.usbfsOriginalMb.all (current = ·),
    "usbfs_memory_mb=" ++ toString current⟩

end UsbfsManager

/-! ### The CAN interfaces -/

namespace CanInterfaceManager

variable (interface : CanInterfaceManager)

/-- `str` of a Boolean. -/
def boolText (b : Bool) : String := if b then "True" else "False"

/-- `check` -/
def check : SessionProg CheckResult := do
  if (← ask (.slcandRunning interface.arm) SessionAnswer.holds) = false then
    pure ⟨"can_" ++ interface.arm.role, .system, false, "managed slcand is not running"⟩
  else do
    let result ← ask (.linkDetails interface.arm) SessionAnswer.link
    if result.returnCode ≠ 0 then pure ⟨"can_" ++ interface.arm.role, .system, false, result.stderr⟩
    else pure ⟨"can_" ++ interface.arm.role, .system, result.isUp && decide (result.errors = 0),
      interface.arm.canInterface ++ " up=" ++ boolText result.isUp ++ " errors=" ++ toString result.errors ++
        " tty=" ++ interface.ttyPath⟩

/-- A round of the loop that waits for the interface. -/
def awaitRound (deadline : ℚ) : SessionProg (Option Unit) := do
  if (← ask .monotonic SessionAnswer.time) < deadline then do
    call (.slcandRequireRunning interface.arm)
    if (← ask (.linkShow interface.arm) SessionAnswer.returnCode) = 0 then pure (some ())
    else do
      call .sleep
      pure none
  else .raise ⟨⟨.exception, "slcand did not create " ++ interface.arm.canInterface⟩, true⟩

/-- What follows once `slcand` has started. -/
def bringUp (n : ℕ) : SessionProg CheckResult := do
  let now ← ask .monotonic SessionAnswer.time
  Prog.loop n (awaitRound interface (now + 3))
  call (.linkUp interface.arm)
  let result ← check interface
  if result.passed then pure result else raiseRuntimeError result.detail

/-- `start` -/
def start (n : ℕ) : SessionProg CheckResult := do
  if (← ask (.linkShow interface.arm) SessionAnswer.returnCode) = 0 then
    raiseRuntimeError ("refusing to adopt existing CAN interface " ++ interface.arm.canInterface)
  else do
    call (.slcandStart interface.arm)
    Prog.tryCatch (bringUp interface n) fun err => do
      call (.slcandStop interface.arm)
      .raise err

/-- `stop` -/
def stop : SessionProg Unit := do
  call (.linkDown interface.arm)
  call (.slcandStop interface.arm)

end CanInterfaceManager

/-! ### The system bring-up -/

namespace SystemBringup

/-- Stop the interfaces, and say which could not be stopped. -/
def stopInterfaces : List CanInterfaceManager → SessionProg (List String)
  | [] => pure []
  | interface :: interfaces => do
    let errors ← attempt interface.stop
    let rest ← stopInterfaces interfaces
    pure (errors.map (fun err => interface.arm.role ++ ": " ++ err.text) ++ rest)

/-- `stop` -/
def stop : SessionProg (List CheckResult) := do
  let errors ← stopInterfaces (← attributes).interfaces.reverse
  assign fun s => { s with interfaces := [] }
  let restore ← Prog.tryCatch UsbfsManager.restore fun err =>
    pure ⟨"usbfs_restore", .shutdown, false, err.text⟩
  let result : CheckResult := ⟨"system_cleanup", .shutdown, errors.isEmpty && restore.passed,
    if errors ≠ [] then "; ".intercalate errors else restore.detail⟩
  HardwareLease.release
  pure [restore, result]

/-- Start one interface after the other. -/
def startInterfaces (n : ℕ) : List ArmConfig → SessionProg (List CheckResult)
  | [] => pure []
  | arm :: arms => do
    let ttyPath ← ask (.resolve arm.usbSerial) SessionAnswer.ttyPath
    let interface : CanInterfaceManager := ⟨arm, ttyPath⟩
    let result ← interface.start n
    if result.passed then
      assign fun s => { s with interfaces := s.interfaces ++ [interface] }
      let results ← startInterfaces n arms
      pure (result :: results)
    else raiseRuntimeError result.detail

/-- `start` -/
def start (requiredMb : ℤ) (n : ℕ) (arms : List ArmConfig) : SessionProg (List CheckResult) := do
  HardwareLease.acquire
  Prog.tryCatch
    (do
      let usbfs ← UsbfsManager.apply requiredMb
      if usbfs.passed then
        let results ← startInterfaces n arms
        pure (usbfs :: results)
      else raiseRuntimeError usbfs.detail)
    fun err => do
      let _ ← stop
      .raise err

/-- The checks of the interfaces. -/
def checkInterfaces : List CanInterfaceManager → SessionProg (List CheckResult)
  | [] => pure []
  | interface :: interfaces => do
    let result ← interface.check
    let results ← checkInterfaces interfaces
    pure (result :: results)

/-- `check` -/
def check (requiredMb : ℤ) : SessionProg (List CheckResult) := do
  let usbfs ← UsbfsManager.check requiredMb
  let results ← checkInterfaces (← attributes).interfaces
  pure (usbfs :: results)

end SystemBringup

/-! ### The readiness gate -/

namespace RosReadinessGate

/-- `start` -/
def start : SessionProg Unit := do
  if (← attributes).gateContext then raiseRuntimeError "ROS readiness gate is already active"
  else do
    call .importRclpy
    call .newContext
    assign fun s => { s with gateContext := true }
    call .rclpyInit
    call .createNode
    assign fun s => { s with gateNode := true }
    call .createSubscription
    call .newExecutor
    assign fun s => { s with gateExecutor := true }
    call .addNode
    call .newThread
    assign fun s => { s with gateThread := true }
    call .startThread

/-- The results that `wait_for` raises. -/
def lastResults (streamIds : List String) (last : List CheckResult) :
    SessionProg (List CheckResult) :=
  if last = [] then ask (.readinessResults streamIds) SessionAnswer.results else pure last

/-- `wait_for` after `last` was seen, with at most `n` rounds. -/
def awaitPassed (streamIds : List String) (processCheck : SessionProg Unit) (deadline : ℚ) :
    ℕ → List CheckResult → SessionProg (List CheckResult)
  | 0, _ => .halt
  | n + 1, last => do
    if (← ask .monotonic SessionAnswer.time) < deadline then do
      processCheck
      let results ← ask (.readinessResults streamIds) SessionAnswer.results
      if results.all (·.passed) then pure results
      else do
        call .sleep
        awaitPassed streamIds processCheck deadline n results
    else do
      let results ← lastResults streamIds last
      raiseRuntimeError (checkFailure results)

/-- `wait_for` -/
def waitFor (streamIds : List String) (timeoutS : ℚ) (processCheck : SessionProg Unit) (n : ℕ) :
    SessionProg (List CheckResult) := do
  let now ← ask .monotonic SessionAnswer.time
  awaitPassed streamIds processCheck (now + timeoutS) n []

/-- `require_ready` -/
def requireReady (streamIds : List String) : SessionProg Unit := do
  let results ← ask (.readinessResults streamIds) SessionAnswer.results
  let _ ← requirePassed results

/-- The context is shut down, unless it was. -/
def shutDownContext (given : Bool) : SessionProg Unit :=
  if given then do
    callIf (← ask .contextOk SessionAnswer.holds) .contextShutdown
  else pure ()

/-- The thread ends. -/
def joinThread (given : Bool) : SessionProg Unit :=
  if given then do
    call .joinThread
    if (← ask .threadIsAlive SessionAnswer.holds) then
      .raise ⟨⟨.exception, "ROS readiness gate did not stop"⟩, true⟩
    else pure ()
  else pure ()

/-- `stop` -/
def stop : SessionProg Unit := do
  let s ← attributes
  callIf s.gateExecutor .executorShutdown
  callIf s.gateNode .destroyNode
  shutDownContext s.gateContext
  joinThread s.gateThread
  assign fun s =>
    { s with gateContext := false, gateNode := false, gateExecutor := false, gateThread := false }

end RosReadinessGate

/-! ### The managed processes -/

namespace RosProcessSupervisor

/-- `start` -/
def start (name : String) : SessionProg Unit := do
  if name ∈ (← attributes).processes then
    .raise ⟨⟨.valueError, "duplicate process name: " ++ name⟩, false⟩
  else do
    call (.processStart name)
    Prog.tryCatch (call (.processRequireRunning name)) fun err => do
      callIf (← ask (.processRunning name) SessionAnswer.holds) (.processStop name)
      .raise err
    assign fun s => { s with processes := s.processes ++ [name] }

/-- `require_running` -/
def requireRunning : SessionProg Unit := do
  forEach (fun name => call (.processRequireRunning name)) (← attributes).processes

/-- Stop one process after the other, and collect the return codes and what is raised. -/
def stopProcesses : List String → SessionProg (List (String × ℤ) × List SessionError)
  | [] => pure ([], [])
  | name :: names => do
    let (exits, errors) ← Prog.tryCatch
      (do
        let returnCode ← ask (.processStop name) SessionAnswer.returnCode
        pure ([(name, returnCode)], []))
      fun err => pure ([], [err])
    let (exits', errors') ← stopProcesses names
    pure (exits ++ exits', errors ++ errors')

/-- `stop_all` -/
def stopAll : SessionProg (List (String × ℤ)) := do
  let (exits, errors) ← stopProcesses (← attributes).processes.reverse
  assign fun s => { s with processes := [] }
  if errors ≠ [] then raiseRuntimeError "one or more ROS process groups failed to stop"
  else pure exits

end RosProcessSupervisor

/-! ### The Session -/

/-- The arguments of the constructor. -/
structure ProductionSession where
  /-- `station.arms` -/
  arms : List ArmConfig
  /-- `min_free_bytes` -/
  minFreeBytes : ℕ
  /-- `readiness_timeout_s` -/
  readinessTimeoutS : ℚ
  /-- `system.usbfs.required_mb` -/
  requiredMb : ℤ
  /-- The names of `additional_processes`. -/
  additionalProcesses : List String
  /-- `required_stream_ids` -/
  requiredStreamIds : List String
  /-- `arm roles must be exactly ...` -/
  arms_roles : arms.map ArmConfig.role = ["left", "right"]

namespace ProductionSession

variable (session : ProductionSession)

/-- The required streams of the cameras. -/
def cameraStreamIds : List String :=
  session.requiredStreamIds.filter fun streamId => "camera_".toList.isPrefixOf streamId.toList

/-- `pre_episode_check` -/
def preEpisodeCheck : SessionProg Unit := do
  RosProcessSupervisor.requireRunning
  let checks ← SystemBringup.check session.requiredMb
  report .systemCheck (← requirePassed checks)
  RosReadinessGate.requireReady session.requiredStreamIds
  report .readiness (← ask (.readinessResults session.requiredStreamIds) SessionAnswer.results)
  let disk ← diskCheck session.minFreeBytes .episode
  report (.disk .episode) (← requirePassed [disk])

/-- Stop the monitor. -/
def stopMonitor : SessionProg (List SessionError) := do
  if (← attributes).monitorOpen then do
    let errors ← attempt (call .monitorClose)
    assign fun s => { s with monitorOpen := false }
    pure errors
  else pure []

/-- Stop the home controller. -/
def stopHome : SessionProg (List SessionError) := do
  if (← attributes).homeOpen then do
    let errors ← attempt (call .homeClose)
    assign fun s => { s with homeOpen := false }
    pure errors
  else pure []

/-- Warn if the vendor's controller did not end well. -/
def warnOfExit (exit : String × ℤ) : SessionProg Unit :=
  if exit.1 = "arx5-controller" ∧ exit.2 ≠ 0 then
    call (.warningSink ("Vendor shutdown warning: arx5-controller returned " ++ toString exit.2 ++
      " after requested shutdown"))
  else pure ()

/-- Stop the processes. -/
def stopSupervisor : SessionProg (List SessionError) := do
  if (← attributes).processes ≠ [] then
    attempt do
      let exits ← RosProcessSupervisor.stopAll
      forEach warnOfExit exits
  else pure []

/-- Stop the readiness gate. -/
def stopReadiness : SessionProg (List SessionError) := do
  if (← attributes).readinessStarted then do
    let errors ← attempt RosReadinessGate.stop
    assign fun s => { s with readinessStarted := false }
    pure errors
  else pure []

/-- Stop the system. -/
def stopSystem : SessionProg (List SessionError) := do
  if (← attributes).systemStarted then do
    let errors ← attempt do
      report .systemStop (← SystemBringup.stop)
    assign fun s => { s with systemStarted := false }
    pure errors
  else pure []

/-- `stop`, `_stop_owned_resources` -/
def stop : SessionProg Unit := do
  let monitorErrors ← stopMonitor
  let homeErrors ← stopHome
  let supervisorErrors ← stopSupervisor
  let readinessErrors ← stopReadiness
  let systemErrors ← stopSystem
  assign fun s => { s with started := false }
  if monitorErrors ++ homeErrors ++ supervisorErrors ++ readinessErrors ++ systemErrors ≠ [] then
    raiseRuntimeError "production Session cleanup failed"
  else pure ()

/-- The devices and the disk are checked. -/
def checkStation : SessionProg Unit := do
  let identities ← ask .identityChecks SessionAnswer.results
  report .identity (← requirePassed identities)
  let disk ← diskCheck session.minFreeBytes .session
  report (.disk .session) (← requirePassed [disk])

/-- The system, the readiness gate and the monitor start. -/
def startSystem (n : ℕ) : SessionProg Unit := do
  report .systemStart (← SystemBringup.start session.requiredMb n session.arms)
  assign fun s => { s with systemStarted := true }
  RosReadinessGate.start
  assign fun s => { s with readinessStarted := true }
  call .monitorOpen
  assign fun s => { s with monitorOpen := true }

/-- A process of `RosCommandSet` is built and started. -/
def startCommand (name : String) : SessionProg Unit := do
  call (.command name)
  RosProcessSupervisor.start name

/-- The arms start. -/
def startArms (n : ℕ) : SessionProg Unit := do
  startCommand "arx5-controller"
  startCommand "arm-state-adapter"
  report .arms (← RosReadinessGate.waitFor ["left_arm_state", "right_arm_state"]
    session.readinessTimeoutS RosProcessSupervisor.requireRunning n)
  call .homeOpen
  assign fun s => { s with homeOpen := true }

/-- The cameras and the additional processes start. -/
def startCameras (n : ℕ) : SessionProg Unit := do
  startCommand "d405-source"
  report .cameras (← RosReadinessGate.waitFor session.cameraStreamIds
    session.readinessTimeoutS RosProcessSupervisor.requireRunning n)
  forEach RosProcessSupervisor.start session.additionalProcesses

/-- The body of `start`. -/
def bringUp (n : ℕ) : SessionProg Unit := do
  session.checkStation
  session.startSystem n
  session.startArms n
  session.startCameras n
  call (.monitorWaitUntilReady session.requiredStreamIds)
  session.preEpisodeCheck
  assign fun s => { s with started := true }

/-- `start`; a loop that waits has at most `n` rounds. -/
def start (n : ℕ) : SessionProg Unit := do
  if (← attributes).started then raiseRuntimeError "production Session is already active"
  else do
    call .logDirMkdir
    Prog.tryCatch (session.bringUp n) fun err => do
      stop
      .raise err

end ProductionSession

end Production

end DualCollection
