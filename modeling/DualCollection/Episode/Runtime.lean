import DualCollection.Episode.Models
import DualCollection.Thread.Serve

/-!
# The episode runtime

`EpisodeRuntime.run_once` of `episode/runtime.py`: wait for the operator, start the recorder and the
stream monitor, tell the controller, wait for the end, stop everything, and commit the artifacts.

Every call of an injected object is a section named by an `EpisodeCall`, and `PortAnswer` is what
the object answers: it may raise, and it may return anything.  A call that occurs at several places
of the source carries its place.  The metadata document itself is not modelled: `load_station`,
`build_metadata` and `write_metadata` are calls too.
-/

namespace DualCollection

open Thread

/-! ### Calls -/

/-- The loops that wait for the trigger. -/
inductive WaitSite
  | start
  | ending
  deriving DecidableEq

/-- Where the clocks are read. -/
inductive ClockSite
  /-- When the Episode is prepared. -/
  | started
  /-- A required stream has failed. -/
  | requiredFailure
  /-- `KeyboardInterrupt` was raised. -/
  | interrupted
  /-- Another exception was raised. -/
  | failed
  /-- After the recording. -/
  | ended
  deriving DecidableEq

/-- Where the recorder is stopped. -/
inductive StopSite
  /-- The monitor did not start. -/
  | monitorFailed
  /-- In `_stop_components`. -/
  | stopComponents
  deriving DecidableEq

/-- The calls of `run_once`, and its uses of `self.state`. -/
inductive EpisodeCall
  | getState
  | setState (state : EpisodeState)
  | triggerArm (site : WaitSite)
  | triggerWait (site : WaitSite)
  | triggerDisarm (site : WaitSite)
  | preEpisodeCheck
  | episodeIdFactory
  | storePrepare (episodeId : String)
  | wallClock (site : ClockSite)
  | monotonicClock (site : ClockSite)
  | backendStart (mcapPath : String) (streams : List StreamSpec)
  | monitorStart (streams : List StreamSpec)
  | stateSink (state : EpisodeState)
  | recordingStartedHook (started : RecordingStarted)
  | runtimeCheck
  | requiredFailure
  | recordingStoppingHook (stopping : RecordingStopping)
  | backendStop (site : StopSite)
  | monitorStop
  | finalize (mcapPath : String) (streams : List StreamSpec) (metrics : List StreamMetrics)
  | loadStation (path : String)
  | metadataContextProvider
  | buildMetadata (result : EpisodeResult) (extensions : List String)
  | writeMetadata (path : String)
  | storeCommit (pending : PendingEpisode) (outcome : EpisodeOutcome)

/-- What a call answers. -/
structure PortAnswer where
  /-- The exception that is raised, if any. -/
  raises : Option PyError := none
  /-- What `wait` returns. -/
  signal : Option TriggerSignal := none
  /-- What `required_failure` returns. -/
  failure : Option String := none
  /-- A new number. -/
  episodeId : String := ""
  /-- What `prepare` returns. -/
  pending : PendingEpisode := ⟨"", "", "", "", ""⟩
  /-- The time, in microseconds. -/
  wallTime : ℤ := 0
  /-- `round(self.monotonic_clock() * 1e9)` -/
  monotonicNs : ℤ := 0
  /-- What the monitor has seen. -/
  metrics : List StreamMetrics := []
  /-- The keys of the metadata extensions. -/
  extensions : List String := []
  /-- What `commit` returns. -/
  stored : StoredEpisode := ⟨"", "", "", ""⟩

/-- A program of the runtime. -/
abbrev EpisodeProg := Prog EpisodeCall PortAnswer EpisodeState PyError

/-- Call an injected object. -/
def port {α : Type} (l : EpisodeCall) (read : PortAnswer → α) : EpisodeProg α :=
  .atomic l fun a s => match a.raises with
    | some err => (.error err, s)
    | none => (.ok (read a), s)

/-- Call an injected object that returns nothing. -/
def callPort (l : EpisodeCall) : EpisodeProg Unit := port l fun _ => ()

/-- Call an object, if it was injected. -/
def callIf (given : Bool) (l : EpisodeCall) : EpisodeProg Unit :=
  if given then callPort l else pure ()

/-- `self.state` -/
def getState : EpisodeProg EpisodeState := .atomic .getState fun _ s => (.ok s, s)

/-- `self.state = state` -/
def setState (state : EpisodeState) : EpisodeProg Unit :=
  .atomic (.setState state) fun _ _ => (.ok (), state)

/-! ### The runtime -/

/-- The arguments of the constructor: the optional objects that were injected, and the keys of the
metadata extensions. -/
structure EpisodeRuntime where
  /-- `pre_episode_check is not None` -/
  preEpisodeCheck : Bool
  /-- `runtime_check is not None` -/
  runtimeCheck : Bool
  /-- `state_sink is not None` -/
  stateSink : Bool
  /-- `metadata_context_provider is not None` -/
  metadataContextProvider : Bool
  /-- `recording_started_hook is not None` -/
  recordingStartedHook : Bool
  /-- `recording_stopping_hook is not None` -/
  recordingStoppingHook : Bool
  /-- `finalizer is not None` -/
  finalizer : Bool
  /-- `metadata_extensions` -/
  metadataExtensions : List String

/-- How the recording ended. -/
structure Ending where
  /-- `outcome` -/
  outcome : EpisodeOutcome
  /-- `errors` -/
  errors : List String
  /-- `stopping_monotonic_ns` -/
  stoppingMonotonicNs : ℤ
  /-- `session_blocked` -/
  sessionBlocked : Bool

namespace EpisodeRuntime

variable (rt : EpisodeRuntime)

/-- `_wait_for_start`, with at most `n` calls of `wait`. -/
def waitForStart (n : ℕ) : EpisodeProg Unit := do
  callPort (.triggerArm .start)
  Prog.tryFinally
    (Prog.loop n do
      let signal ← port (.triggerWait .start) PortAnswer.signal
      if signal.any (·.event = .activate) then pure (some ()) else pure none)
    (callPort (.triggerDisarm .start))

/-- `_monotonic_ns` -/
def monotonicNs (site : ClockSite) : EpisodeProg ℤ :=
  port (.monotonicClock site) PortAnswer.monotonicNs

/-- What a signal means for the recording. -/
def endingOf (signal : TriggerSignal) : EpisodeProg (Option Ending) :=
  match signal.event with
  | .abort =>
    pure (some ⟨.aborted, ["operator requested abort"], signal.monotonicTimeNs, false⟩)
  | .activate => pure (some ⟨.success, [], signal.monotonicTimeNs, false⟩)
  | .taskFail => pure (some ⟨.fail, [], signal.monotonicTimeNs, false⟩)
  | .fail => match signal.detail with
    | none => .raise ⟨.assertionError, ""⟩
    | some detail => pure (some ⟨.fail, [detail], signal.monotonicTimeNs, false⟩)
  | .conflict => pure none

/-- A round of the loop of `_wait_for_end`. -/
def endRound : EpisodeProg (Option Ending) := do
  callIf rt.runtimeCheck .runtimeCheck
  match ← port .requiredFailure PortAnswer.failure with
  | some failure =>
    let stoppingNs ← monotonicNs .requiredFailure
    pure (some ⟨.fail, [failure], stoppingNs, true⟩)
  | none => match ← port (.triggerWait .ending) PortAnswer.signal with
    | none => pure none
    | some signal => endingOf signal

/-- The exception handlers of `_wait_for_end`. -/
def endHandler (err : PyError) : EpisodeProg Ending :=
  if err.cls = .keyboardInterrupt then do
    let stoppingNs ← monotonicNs .interrupted
    pure ⟨.aborted, ["recording interrupted"], stoppingNs, false⟩
  else if err.cls.isException then do
    let stoppingNs ← monotonicNs .failed
    pure ⟨.fail, [err.text], stoppingNs, true⟩
  else .raise err

/-- `_wait_for_end`, with at most `n` rounds. -/
def waitForEnd (n : ℕ) : EpisodeProg Ending := do
  callPort (.triggerArm .ending)
  Prog.tryFinally (Prog.tryCatch (Prog.loop n rt.endRound) endHandler)
    (callPort (.triggerDisarm .ending))

/-- The recorder is stopped; what it raises is kept. -/
def stopBackend : EpisodeProg (Option PyError) :=
  Prog.tryCatch
    (do
      callPort (.backendStop .stopComponents)
      pure none)
    fun err => if err.cls.isException then pure (some err) else .raise err

/-- The monitor is stopped; what the recorder has raised comes first. -/
def stopMonitor (backendError : Option PyError) : EpisodeProg (List StreamMetrics) := do
  let metrics ← Prog.tryCatch (port .monitorStop PortAnswer.metrics) fun monitorError =>
    if monitorError.cls.isException then .raise (backendError.getD monitorError)
    else .raise monitorError
  match backendError with
  | some err => .raise err
  | none => pure metrics

/-- `_stop_components` -/
def stopComponents : EpisodeProg (List StreamMetrics) := do
  let backendError ← stopBackend
  stopMonitor backendError

/-- Tell the controller that the recording has started; stop everything if it fails. -/
def startController (pending : PendingEpisode) (startedNs : ℤ) : EpisodeProg Unit :=
  if rt.recordingStartedHook then
    Prog.tryCatch
      (do
        let started ← Prog.ret (RecordingStarted.make pending.episodeId startedNs)
        callPort (.recordingStartedHook started))
      fun err => do
        let _ ← stopComponents
        .raise err
  else pure ()

/-- Tell the controller that the recording is about to stop, and keep what it raises. -/
def stopController (ending : Ending) : EpisodeProg (Option PyError) :=
  if rt.recordingStoppingHook then
    Prog.tryCatch
      (do
        let stopping ← Prog.ret (RecordingStopping.make ending.outcome ending.stoppingMonotonicNs)
        callPort (.recordingStoppingHook stopping)
        pure none)
      fun err => pure (some err)
  else pure none

/-- The extensions that the finalizer returns, if there is one. -/
def finalizationExtensions (request : EpisodeRequest) (pending : PendingEpisode)
    (metrics : List StreamMetrics) : EpisodeProg (List String) :=
  if rt.finalizer then
    port (.finalize pending.mcapPath request.streams metrics) PortAnswer.extensions
  else pure []

/-- What follows once everything has stopped: finalize the recording, write the metadata, and
commit. -/
def finalize (request : EpisodeRequest) (pending : PendingEpisode) (startedAt endedAt : ℤ)
    (durationS : ℚ) (ending : Ending) (metrics : List StreamMetrics) :
    EpisodeProg EpisodeResult := do
  let extensions ← rt.finalizationExtensions request pending metrics
  let overlap := rt.metadataExtensions.filter fun key => extensions.contains key
  if overlap ≠ [] then
    .raise ⟨.runtimeError,
      "duplicate metadata extensions: " ++ ", ".intercalate (overlap.mergeSort (· ≤ ·))⟩
  else if hid : pending.episodeId ≠ "" then do
    let pendingResult : EpisodeResult :=
      { episodeId := pending.episodeId
        outcome := ending.outcome
        startedAt, endedAt, durationS
        committed := false
        mcapPath := pending.mcapPath
        metadataPath := pending.metadataPath
        streamMetrics := metrics
        errors := ending.errors
        sessionBlocked := ending.sessionBlocked
        episodeId_ne := hid }
    callPort (.loadStation request.stationConfig)
    callIf rt.metadataContextProvider .metadataContextProvider
    callPort (.buildMetadata pendingResult (rt.metadataExtensions ++ extensions))
    callPort (.writeMetadata pending.metadataPath)
    let stored ← port (.storeCommit pending ending.outcome) PortAnswer.stored
    setState .ready
    pure { pendingResult with
      committed := true
      mcapPath := stored.mcapPath
      metadataPath := stored.metadataPath }
  else .raise ⟨.valueError, "episode_id must not be empty"⟩

/-- What follows once the recording has ended. -/
def finish (request : EpisodeRequest) (pending : PendingEpisode) (startedAt endedAt : ℤ)
    (durationS : ℚ) (ending : Ending) : EpisodeProg EpisodeResult := do
  let hookError ← rt.stopController ending
  let metrics ← Prog.tryCatch stopComponents fun stopError => .raise (hookError.getD stopError)
  match hookError with
  | some err => .raise err
  | none => rt.finalize request pending startedAt endedAt durationS ending metrics

/-- What follows once the recorder and the monitor have started. -/
def record (n : ℕ) (request : EpisodeRequest) (pending : PendingEpisode) (startedAt startedNs : ℤ) :
    EpisodeProg EpisodeResult := do
  setState .recording
  callIf rt.stateSink (.stateSink .recording)
  rt.startController pending startedNs
  let ending ← rt.waitForEnd n
  let endedAt ← port (.wallClock .ended) PortAnswer.wallTime
  let durationS : ℚ := max 0 (((ending.stoppingMonotonicNs - startedNs : ℤ) : ℚ) / 10 ^ 9)
  setState .finalizing
  callIf rt.stateSink (.stateSink .finalizing)
  rt.finish request pending startedAt endedAt durationS ending

/-- `run_once` -/
def runOnce (n : ℕ) (request : EpisodeRequest) : EpisodeProg EpisodeResult := do
  if (← getState) ≠ .ready then .raise ⟨.runtimeError, "an episode is already active"⟩
  else do
    waitForStart n
    callIf rt.preEpisodeCheck .preEpisodeCheck
    let episodeId ← port .episodeIdFactory PortAnswer.episodeId
    let pending ← port (.storePrepare episodeId) PortAnswer.pending
    let startedAt ← port (.wallClock .started) PortAnswer.wallTime
    let startedNs ← monotonicNs .started
    callPort (.backendStart pending.mcapPath request.streams)
    Prog.tryCatch (callPort (.monitorStart request.streams)) fun err => do
      callPort (.backendStop .monitorFailed)
      .raise err
    rt.record n request pending startedAt startedNs

/-- `run_once` for one request after the other, however it ends. -/
def session (n : ℕ) : List EpisodeRequest → EpisodeProg Unit
  | [] => pure ()
  | request :: requests => (rt.runOnce n request).andThen fun _ => session n requests

end EpisodeRuntime

/-! ### Calls with components that answer -/

section Under

variable {α κ : Type} {serve : κ → EpisodeCall × PortAnswer → κ → Prop} {s : EpisodeState} {k : κ}
  {l : EpisodeCall}

theorem under_port {read : PortAnswer → α} {Q : Except PyError α → EpisodeState → κ → Prop}
    (hok : ∀ a k', a.raises = none → serve k (l, a) k' → Q (.ok (read a)) s k')
    (herr : ∀ a err k', a.raises = some err → serve k (l, a) k' → Q (.error err) s k') :
    (port l read).Under serve s k Q :=
  Prog.under_atomic fun a k' h => by
    cases ha : a.raises with
    | none => exact hok a k' ha h
    | some err => exact herr a err k' ha h

theorem under_callIf {given : Bool} {Q : Except PyError Unit → EpisodeState → κ → Prop}
    (hnot : given = false → Q (.ok ()) s k)
    (hok : ∀ a k', a.raises = none → serve k (l, a) k' → Q (.ok ()) s k')
    (herr : ∀ a err k', a.raises = some err → serve k (l, a) k' → Q (.error err) s k') :
    (callIf given l).Under serve s k Q := by
  unfold callIf
  split
  · exact under_port hok herr
  · rename_i h
    exact Prog.under_pure (hnot (by simpa using h))

end Under

/-! ### The calls of the loops -/

theorem only_callIf {A : EpisodeCall → Prop} {given : Bool} {l : EpisodeCall} (hl : A l) :
    (callIf given l).Only A := by
  unfold callIf
  split_ifs
  · exact Prog.only_atomic hl
  · trivial

namespace EpisodeRuntime

variable {A : EpisodeCall → Prop}

theorem waitForStart_only {n : ℕ} (harm : A (.triggerArm .start)) (hwait : A (.triggerWait .start))
    (hdisarm : A (.triggerDisarm .start)) : (waitForStart n).Only A := by
  refine Prog.only_bind (Prog.only_atomic harm) fun _ => ?_
  refine Prog.only_tryFinally (Prog.only_loop (Prog.only_bind (Prog.only_atomic hwait) fun _ => ?_))
    (Prog.only_atomic hdisarm)
  split <;> trivial

theorem endingOf_only {signal : TriggerSignal} : (endingOf signal).Only A := by
  unfold endingOf
  split
  · trivial
  · trivial
  · trivial
  · split <;> trivial
  · trivial

theorem waitForEnd_only {rt : EpisodeRuntime} {n : ℕ} (harm : A (.triggerArm .ending))
    (hcheck : A .runtimeCheck) (hfailure : A .requiredFailure) (hwait : A (.triggerWait .ending))
    (hclock : ∀ site, A (.monotonicClock site)) (hdisarm : A (.triggerDisarm .ending)) :
    (rt.waitForEnd n).Only A := by
  refine Prog.only_bind (Prog.only_atomic harm) fun _ => ?_
  refine Prog.only_tryFinally (Prog.only_tryCatch (Prog.only_loop ?_) fun err => ?_)
    (Prog.only_atomic hdisarm)
  · refine Prog.only_bind (only_callIf hcheck) fun _ => ?_
    refine Prog.only_bind (Prog.only_atomic hfailure) fun failure => ?_
    cases failure with
    | some text => exact Prog.only_bind (Prog.only_atomic (hclock _)) fun _ => trivial
    | none =>
      refine Prog.only_bind (Prog.only_atomic hwait) fun signal => ?_
      cases signal with
      | none => trivial
      | some signal => exact endingOf_only
  · unfold endHandler
    split_ifs
    · exact Prog.only_bind (Prog.only_atomic (hclock _)) fun _ => trivial
    · exact Prog.only_bind (Prog.only_atomic (hclock _)) fun _ => trivial
    · trivial

theorem stopComponents_only (hbackend : A (.backendStop .stopComponents)) (hmonitor : A .monitorStop) :
    stopComponents.Only A := by
  refine Prog.only_bind (Prog.only_tryCatch ?_ fun err => ?_) fun backendError => ?_
  · exact Prog.only_bind (Prog.only_atomic hbackend) fun _ => trivial
  · split <;> trivial
  · refine Prog.only_bind (Prog.only_tryCatch (Prog.only_atomic hmonitor) fun err => ?_) fun _ => ?_
    · split <;> trivial
    · split <;> trivial

theorem finalizationExtensions_only {rt : EpisodeRuntime} {request : EpisodeRequest}
    {pending : PendingEpisode} {metrics : List StreamMetrics}
    (hfinalize : ∀ path streams metrics, A (.finalize path streams metrics)) :
    (rt.finalizationExtensions request pending metrics).Only A := by
  unfold finalizationExtensions
  split
  · exact Prog.only_atomic (hfinalize _ _ _)
  · trivial

end EpisodeRuntime

end DualCollection
