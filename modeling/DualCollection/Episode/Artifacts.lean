import DualCollection.Episode.Archive
import DualCollection.Episode.Discipline
import DualCollection.Episode.Finalization
import DualCollection.Episode.Metadata
import DualCollection.Episode.Runtime
import DualCollection.Thread.Serve

/-!
# The artifacts of an Episode

`run_once` with its store, its finalizer and the metadata module on one file tree.  `Serves` says
what a call of `run_once` does to the tree and how the component that is called answers: the
operations of the store and of the finalizer are their programs, the recorder writes below the
directory of the Episode until it is stopped, and the other calls leave the tree alone.

`artifacts_atomic` says that an Episode whose recorder was stopped is either where it was recorded,
with the recording as it was or replaced by an output that was audited, or where it was committed,
with exactly its two artifacts.
-/

namespace DualCollection

open Files Thread

/-- The path as the source has it. -/
def pathString (p : Path) : String := "/" ++ "/".intercalate p

/-- The paths as the source has them. -/
def EpisodeStore.PendingEpisode.rendered (p : EpisodeStore.PendingEpisode) :
    DualCollection.PendingEpisode where
  episodeId := p.episodeId
  partialDir := pathString p.partialDir
  finalDir := pathString p.finalDir
  mcapPath := pathString p.mcapPath
  metadataPath := pathString p.metadataPath

/-- The paths as the source has them. -/
def EpisodeStore.StoredEpisode.rendered (p : EpisodeStore.StoredEpisode) :
    DualCollection.StoredEpisode where
  episodeId := p.episodeId
  directory := pathString p.directory
  mcapPath := pathString p.mcapPath
  metadataPath := pathString p.metadataPath

/-- The number is fresh: nothing is where its Episode would be committed, and neither the places of
the store nor the directory in which it is recorded are on the way to one another. -/
structure EpisodeStore.Fresh {B : Type} (store : EpisodeStore) (t : FileTree B)
    (episodeId : String) : Prop where
  /-- It was not committed. -/
  absent : ∀ outcome, t.entry (store.outcomeDir outcome episodeId) = none
  /-- It is not the name of a directory of the store. -/
  own : ∀ outcome outcome',
    ¬ store.outcomeDir outcome episodeId <+: store.outcomeRoot outcome'
  /-- It is not committed where it is recorded. -/
  apart : ∀ outcome, ¬ store.partialDir episodeId <+: store.outcomeDir outcome episodeId

/-- A number is fresh if it is not the name of a directory of the store and was not used. -/
theorem EpisodeStore.Unreserved.fresh {B : Type} {store : EpisodeStore} {t : FileTree B}
    {episodeId : String} (hstore : store.Regular) (h : store.Unreserved episodeId)
    (absent : ∀ outcome, t.entry (store.outcomeDir outcome episodeId) = none) :
    store.Fresh t episodeId where
  absent := absent
  own outcome outcome' hpre := by
    have hplace := place_not_above (r := []) (o := outcome') hstore
      (proper_committed (o := outcome) h)
    rw [List.append_nil] at hplace
    exact hplace hpre
  apart outcome hpre := by
    obtain ⟨hplace, -⟩ := place_apart (r := []) hstore (proper_recording (n := episodeId))
      (proper_committed (o := outcome) h) (by rw [List.append_nil]; exact hpre)
    cases hplace

/-- The components that work on the tree. -/
structure ArtifactStation (B : Type) where
  /-- The store. -/
  store : EpisodeStore
  /-- The finalizer. -/
  finalizer : McapFinalizer B
  /-- An empty file. -/
  blank : B
  /-- `json.dumps` -/
  dumps : EpisodeMetadata → B
  /-- The version of the collector. -/
  softwareVersion : String

/-- The tree, and what the components have. -/
structure EpisodeFiles (B : Type) where
  /-- The tree. -/
  tree : FileTree B
  /-- What `prepare` has returned. -/
  pending : Option EpisodeStore.PendingEpisode := none
  /-- The recorder may write. -/
  recording : Bool := false
  /-- What the recorder had written when it was stopped. -/
  recorded : Option (Option (Entry B)) := none
  /-- What the monitor has seen. -/
  monitored : List StreamMetrics := []
  /-- What the finalizer has done. -/
  finalization : List (FinalizerCall × FinalizerAnswer B) := []
  /-- How the Episode was collected. -/
  context : Option MetadataContext := none
  /-- The metadata document. -/
  document : Option EpisodeMetadata := none

/-- The component answers with `r`, of which `P` says how it is returned. -/
def PortAnswer.Reports {α : Type} (a : PortAnswer) (r : Except PyError α) (P : α → Prop) : Prop :=
  match r with
  | .error err => a.raises = some err
  | .ok x => a.raises = none ∧ P x

/-- The call changes neither the tree nor what is known of it. -/
def EpisodeCall.quiet : EpisodeCall → Bool
  | .episodeIdFactory | .storePrepare _ | .backendStart _ _ | .backendStop _ | .monitorStop
  | .finalize _ _ _ | .metadataContextProvider | .buildMetadata _ _ | .writeMetadata _
  | .storeCommit _ _ => false
  | _ => true

namespace ArtifactStation

variable {B : Type} (st : ArtifactStation B) (request : EpisodeRequest)

/-- The calls of `write_metadata`. -/
inductive WriteCall
  | openFile
  | writeText

/-- `write_metadata` -/
def writeMetadata (path : Path) (document : EpisodeMetadata) :
    Prog WriteCall (Option PyError) (FileTree B) PyError Unit := do
  syscall id OsError.toPyError .openFile fun _ t => t.write path st.blank
  syscall id OsError.toPyError .writeText fun _ t => t.write path (st.dumps document)

/-- What the recorder may have done, if it is running. -/
def Writes (f : EpisodeFiles B) (recording : Bool) (t' : FileTree B) : Prop :=
  ∀ q, (recording = true → ∀ p ∈ f.pending, p.partialDir <+: q → q = p.partialDir) →
    t'.entry q = f.tree.entry q

/-- What a call does to the tree, and how it is answered. -/
inductive Serves : EpisodeFiles B → EpisodeCall × PortAnswer → EpisodeFiles B → Prop
  | episodeIdFactory {f : EpisodeFiles B} {a : PortAnswer}
    (hfresh : a.raises = none → st.store.Fresh f.tree a.episodeId) :
    Serves f (.episodeIdFactory, a) f
  | prepared {f : EpisodeFiles B} {a : PortAnswer} {episodeId : String}
    {tr : List (StoreCall × StoreAnswer)} {p : EpisodeStore.PendingEpisode} {t' : FileTree B}
    (h : (st.store.prepare episodeId).Run f.tree tr (.ok p) t') (ha : a.raises = none)
    (hp : a.pending = p.rendered) :
    Serves f (.storePrepare episodeId, a) { f with tree := t', pending := some p }
  | notPrepared {f : EpisodeFiles B} {a : PortAnswer} {episodeId : String}
    {tr : List (StoreCall × StoreAnswer)} {err : PyError} {t' : FileTree B}
    (h : (st.store.prepare episodeId).Run f.tree tr (.error err) t') (ha : a.raises = some err) :
    Serves f (.storePrepare episodeId, a) { f with tree := t' }
  | backendStart {f : EpisodeFiles B} {a : PortAnswer} {mcapPath : String}
    {streams : List StreamSpec} {t' : FileTree B} (h : Writes f true t') :
    Serves f (.backendStart mcapPath streams, a) { f with tree := t', recording := true }
  | backendStopped {f : EpisodeFiles B} {a : PortAnswer} {site : StopSite} {t' : FileTree B}
    {p : EpisodeStore.PendingEpisode} (ha : a.raises = none) (hp : f.pending = some p)
    (h : Writes f f.recording t') :
    Serves f (.backendStop site, a)
      { f with tree := t', recording := false, recorded := some (t'.entry p.mcapPath) }
  | backendNotStopped {f : EpisodeFiles B} {a : PortAnswer} {site : StopSite} {err : PyError}
    {t' : FileTree B} (ha : a.raises = some err) (h : Writes f f.recording t') :
    Serves f (.backendStop site, a) { f with tree := t' }
  | monitorStop {f : EpisodeFiles B} {a : PortAnswer} {t' : FileTree B}
    (h : Writes f f.recording t') :
    Serves f (.monitorStop, a) { f with tree := t', monitored := a.metrics }
  | finalize {f : EpisodeFiles B} {a : PortAnswer} {p : EpisodeStore.PendingEpisode}
    {streams : List StreamSpec} {metrics : List StreamMetrics}
    {tr : List (FinalizerCall × FinalizerAnswer B)} {r : Except PyError CompressionMetadata}
    {t' : FileTree B} (hp : f.pending = some p)
    (h : (st.finalizer.finalize p.mcapPath streams metrics).Run f.tree tr r t')
    (ha : a.Reports r fun _ => a.extensions = ["mcap_compression"]) :
    Serves f (.finalize (pathString p.mcapPath) streams metrics, a)
      { f with tree := t', finalization := tr }
  | metadataContextProvider {f : EpisodeFiles B} {a : PortAnswer} {context : MetadataContext} :
    Serves f (.metadataContextProvider, a) { f with context := some context }
  | buildMetadata {f : EpisodeFiles B} {a : PortAnswer} {result : EpisodeResult}
    {extensions : List String} {document : EpisodeMetadata} (ha : a.raises = none)
    (h : DualCollection.buildMetadata request result st.softwareVersion extensions f.context =
      .ok document) :
    Serves f (.buildMetadata result extensions, a) { f with document := some document }
  | notBuilt {f : EpisodeFiles B} {a : PortAnswer} {result : EpisodeResult}
    {extensions : List String} {err : PyError} (ha : a.raises = some err) :
    Serves f (.buildMetadata result extensions, a) f
  | writeMetadata {f : EpisodeFiles B} {a : PortAnswer} {p : EpisodeStore.PendingEpisode}
    {document : EpisodeMetadata} {tr : List (WriteCall × Option PyError)} {r : Except PyError Unit}
    {t' : FileTree B} (hp : f.pending = some p) (hd : f.document = some document)
    (h : (st.writeMetadata p.metadataPath document).Run f.tree tr r t')
    (ha : a.Reports r fun _ => True) :
    Serves f (.writeMetadata (pathString p.metadataPath), a) { f with tree := t' }
  | storeCommit {f : EpisodeFiles B} {a : PortAnswer} {p : EpisodeStore.PendingEpisode}
    {outcome : EpisodeOutcome} {tr : List (StoreCall × StoreAnswer)}
    {r : Except PyError EpisodeStore.StoredEpisode} {t' : FileTree B} (hp : f.pending = some p)
    (h : (st.store.commit p outcome).Run f.tree tr r t')
    (ha : a.Reports r fun stored => a.stored = stored.rendered) :
    Serves f (.storeCommit p.rendered outcome, a) { f with tree := t' }
  | other {f : EpisodeFiles B} {l : EpisodeCall} {a : PortAnswer} {t' : FileTree B}
    (hl : l.quiet = true) (h : Writes f f.recording t') :
    Serves f (l, a) { f with tree := t' }

/-- The recording is as the recorder left it, or an output that was audited. -/
def HeldAt (f : EpisodeFiles B) (path : Path) (left : Option (Entry B)) : Prop :=
  f.tree.entry path = left ∨ ∃ b, f.tree.entry path = some (.file b) ∧
    st.finalizer.Audited request.streams f.monitored f.finalization b

/-- The Episode is where it was recorded or where it was committed. -/
inductive Atomic (rt : EpisodeRuntime) (left : Option (Entry B)) (f : EpisodeFiles B) :
    Except PyError EpisodeResult → Prop
  /-- It was not committed, and its recording is held where it was recorded. -/
  | raised {err : PyError} {p : EpisodeStore.PendingEpisode} (pending : f.pending = some p)
    (absent : ∀ outcome, f.tree.entry (st.store.outcomeDir outcome p.episodeId) = none)
    (mcap : st.HeldAt request f p.mcapPath left) : Atomic rt left f (.error err)
  /-- It was committed with its two artifacts. -/
  | returned {result : EpisodeResult} {p : EpisodeStore.PendingEpisode} {directory : Path}
    {document : EpisodeMetadata} (pending : f.pending = some p)
    (place : directory = st.store.outcomeDir result.outcome p.episodeId)
    (gone : f.tree.entry p.partialDir = none)
    (names : f.tree.names directory = {"episode.mcap", "metadata.json"})
    (file : f.tree.isFile (directory ++ ["episode.mcap"]) = true)
    (metadata : f.tree.entry (directory ++ ["metadata.json"]) = some (.file (st.dumps document)))
    (episodeId : document.episodeId = p.episodeId) (outcome : document.outcome = result.outcome)
    (mcap : st.HeldAt request f (directory ++ ["episode.mcap"]) left)
    (audited : rt.finalizer = true → st.finalizer.enabled = true →
      ∃ b, f.tree.entry (directory ++ ["episode.mcap"]) = some (.file b) ∧
        st.finalizer.Audited request.streams f.monitored f.finalization b) :
    Atomic rt left f (.ok result)

/-! ### The phases of a run -/

/-- The Episode is where it is recorded. -/
structure Safe (p : EpisodeStore.PendingEpisode) (f : EpisodeFiles B) : Prop where
  /-- It was prepared. -/
  pending : f.pending = some p
  /-- Its paths are those of the store. -/
  eq : p = st.store.pendingEpisode p.episodeId
  /-- Its number is not the name of a directory of the store. -/
  own : ∀ outcome outcome',
    ¬ st.store.outcomeDir outcome p.episodeId <+: st.store.outcomeRoot outcome'
  /-- It is not committed where it is recorded. -/
  apart : ∀ outcome, ¬ p.partialDir <+: st.store.outcomeDir outcome p.episodeId
  /-- It was not committed. -/
  absent : ∀ outcome, f.tree.entry (st.store.outcomeDir outcome p.episodeId) = none
  /-- Its directory is there. -/
  directory : f.tree.entry p.partialDir = some .directory

/-- The recorder was stopped, and the recording is held. -/
structure Held (p : EpisodeStore.PendingEpisode) (left : Option (Entry B)) (f : EpisodeFiles B) :
    Prop extends st.Safe p f where
  /-- The recorder was stopped. -/
  recorded : f.recorded = some left
  /-- It writes no more. -/
  recording : f.recording = false
  /-- The recording is held. -/
  mcap : st.HeldAt request f p.mcapPath left

/-- The recorder was stopped, and the recording is as the recorder left it. -/
structure Stopped (p : EpisodeStore.PendingEpisode) (left : Option (Entry B))
    (f : EpisodeFiles B) : Prop extends st.Safe p f where
  /-- The recorder was stopped. -/
  recorded : f.recorded = some left
  /-- It writes no more. -/
  recording : f.recording = false
  /-- The recording is as it was left. -/
  mcap : f.tree.entry p.mcapPath = left

/-- Nothing was lost. -/
def Kept (f : EpisodeFiles B) : Prop :=
  ∀ left, f.recorded = some left → ∃ p, st.Held request p left f

variable {st request} {f f' : EpisodeFiles B} {p : EpisodeStore.PendingEpisode}
  {left : Option (Entry B)}

theorem Safe.congr (h : st.Safe p f) (hp : f'.pending = some p)
    (hsame : ∀ q, (p.partialDir <+: q → q = p.partialDir) → f'.tree.entry q = f.tree.entry q) :
    st.Safe p f' where
  pending := hp
  eq := h.eq
  own := h.own
  apart := h.apart
  absent outcome := by
    rw [hsame _ fun hpre => absurd hpre (h.apart outcome)]
    exact h.absent outcome
  directory := by
    rw [hsame _ fun _ => rfl]
    exact h.directory

theorem Safe.writes (h : st.Safe p f) {recording : Bool} {t' : FileTree B}
    (hw : Writes f recording t') (hp : f'.pending = some p) (ht : f'.tree = t') : st.Safe p f' :=
  h.congr hp fun q hq => by
    rw [ht]
    exact hw q fun _ p' hp' => by
      rw [h.pending] at hp'
      obtain rfl := Option.some.inj hp'
      exact hq

/-- The recorder that was stopped writes nothing. -/
theorem Writes.eq {t' : FileTree B} (h : Writes f f.recording t') (hr : f.recording = false) :
    t' = f.tree :=
  FileTree.ext (funext fun q => h q fun hrec => by
    rw [hr] at hrec
    cases hrec)

theorem Kept.of_none (h : f.recorded = none) : st.Kept request f := by
  intro left hleft
  rw [h] at hleft
  cases hleft

theorem Stopped.held (h : st.Stopped p left f) : st.Held request p left f where
  toSafe := h.toSafe
  recorded := h.recorded
  recording := h.recording
  mcap := .inl h.mcap

theorem Held.keeps (h : st.Held request p left f) : st.Kept request f := by
  intro left' hleft
  rw [h.recorded] at hleft
  obtain rfl := Option.some.inj hleft
  exact ⟨p, h⟩

/-- Nothing was lost when an exception is raised. -/
theorem Kept.atomic (h : st.Kept request f) (hleft : f.recorded = some left) {rt : EpisodeRuntime}
    {err : PyError} : st.Atomic request rt left f (.error err) := by
  obtain ⟨p, hp⟩ := h left hleft
  exact .raised hp.pending hp.absent hp.mcap

/-- Nothing was prepared. -/
structure Before (f : EpisodeFiles B) : Prop where
  pending : f.pending = none
  recorded : f.recorded = none
  recording : f.recording = false

variable (st) in
/-- The recorder was not stopped. -/
structure Running (p : EpisodeStore.PendingEpisode) (f : EpisodeFiles B) : Prop
    extends st.Safe p f where
  recorded : f.recorded = none

variable (st) in
theorem Before.keeps (h : Before f) : st.Kept request f := .of_none h.recorded

theorem Running.keeps (h : st.Running p f) : st.Kept request f := .of_none h.recorded

section Quiet

variable {l : EpisodeCall} {a : PortAnswer}

/-- A call that leaves the tree to the recorder. -/
theorem Serves.quiet (hl : l.quiet = true) (h : st.Serves request f (l, a) f') :
    ∃ t', Writes f f.recording t' ∧ f' = { f with tree := t' } := by
  cases h with
  | other _ h => exact ⟨_, h, rfl⟩
  | _ => cases hl

theorem Before.quiet (h : Before f) (hl : l.quiet = true) (hs : st.Serves request f (l, a) f') :
    Before f' := by
  obtain ⟨t', -, rfl⟩ := hs.quiet hl
  exact ⟨h.pending, h.recorded, h.recording⟩

theorem Running.quiet (h : st.Running p f) (hl : l.quiet = true)
    (hs : st.Serves request f (l, a) f') : st.Running p f' := by
  obtain ⟨t', hw, rfl⟩ := hs.quiet hl
  exact ⟨h.writes hw h.pending rfl, h.recorded⟩

theorem Held.quiet (h : st.Held request p left f) (hl : l.quiet = true)
    (hs : st.Serves request f (l, a) f') : f' = f := by
  obtain ⟨t', hw, rfl⟩ := hs.quiet hl
  rw [hw.eq h.recording]

end Quiet

section Under

variable {α : Type} {s : EpisodeState} {Q : Except PyError α → EpisodeState → EpisodeFiles B → Prop}

/-- Go on after a part whose calls leave the tree to the recorder. -/
theorem Running.bind {β : Type} {q : EpisodeProg β} {g : β → EpisodeProg α} (h : st.Running p f)
    (hq : q.Only fun l => l.quiet = true) (hQ : ∀ err s' f', st.Running p f' →
      Q (.error err) s' f')
    (hg : ∀ b s' f', st.Running p f' → (g b).Under (st.Serves request) s' f' Q) :
    (q >>= g).Under (st.Serves request) s f Q := by
  refine Prog.under_bind ((Prog.under_only hq (J := st.Running p)
    (fun f l a f' hl hf hs => hf.quiet hl hs) h).mono fun r s' f' hf => ?_)
  cases r with
  | ok b => exact hg b s' f' hf
  | error err => exact hQ err s' f' hf

/-- The recorder is stopped. -/
theorem Running.backendStop (h : st.Running p f) {site : StopSite} {a : PortAnswer}
    (hs : st.Serves request f (.backendStop site, a) f') :
    (a.raises = none → ∃ left, st.Stopped p left f') ∧ (a.raises ≠ none → st.Running p f') := by
  cases hs with
  | backendStopped ha hp hw =>
    rw [h.pending] at hp
    cases hp
    refine ⟨fun _ => ⟨_, h.writes hw h.pending rfl, rfl, rfl, rfl⟩, fun hne => ?_⟩
    exact absurd ha hne
  | backendNotStopped ha hw =>
    refine ⟨fun hn => ?_, fun _ => ⟨h.writes hw h.pending rfl, h.recorded⟩⟩
    rw [ha] at hn
    cases hn
  | other hl => cases hl

/-- The monitor is stopped. -/
theorem Stopped.monitorStop (h : st.Stopped p left f) {a : PortAnswer}
    (hs : st.Serves request f (.monitorStop, a) f') :
    f'.monitored = a.metrics ∧ st.Stopped p left f' := by
  cases hs with
  | monitorStop hw =>
    obtain rfl := hw.eq h.recording
    exact ⟨rfl, h.toSafe.congr h.pending fun _ _ => rfl, h.recorded, h.recording, h.mcap⟩
  | other hl => cases hl

theorem Running.monitorStop (h : st.Running p f) {a : PortAnswer}
    (hs : st.Serves request f (.monitorStop, a) f') : st.Running p f' := by
  cases hs with
  | monitorStop hw => exact ⟨h.writes hw h.pending rfl, h.recorded⟩
  | other hl => cases hl

theorem stopBackend_under (h : st.Running p f) :
    EpisodeRuntime.stopBackend.Under (st.Serves request) s f fun r _ f' => match r with
      | .ok none => ∃ left, st.Stopped p left f'
      | .ok (some _) | .error _ => st.Running p f' := by
  refine Prog.under_tryCatch (Prog.under_bind (under_port (fun a f' ha hs => ?_)
    fun a err f' ha hs => ?_))
  · exact Prog.under_pure ((h.backendStop hs).1 ha)
  · have hrun := (h.backendStop hs).2 (by simp [ha])
    dsimp only
    split
    · exact Prog.under_pure hrun
    · exact Prog.under_raise hrun

/-- What `monitor.stop()` preserves, `stop_monitor` preserves. -/
theorem stopMonitor_under {backendError : Option PyError} {J : EpisodeFiles B → Prop}
    (hJ : ∀ a f', st.Serves request f (.monitorStop, a) f' → f'.monitored = a.metrics ∧ J f') :
    (EpisodeRuntime.stopMonitor backendError).Under (st.Serves request) s f fun r _ f' =>
      J f' ∧ ∀ metrics, r = .ok metrics → backendError = none ∧ f'.monitored = metrics := by
  refine Prog.under_bind (Prog.under_tryCatch (under_port (fun a f' ha hs => ?_)
    fun a err f' ha hs => ?_))
  · obtain ⟨hmetrics, hf⟩ := hJ a f' hs
    cases backendError with
    | some err => exact Prog.under_raise ⟨hf, fun _ h => by cases h⟩
    | none =>
      refine Prog.under_pure ⟨hf, fun _ h => ?_⟩
      cases h
      exact ⟨rfl, hmetrics⟩
  · have hf := (hJ a f' hs).2
    dsimp only
    split <;> exact Prog.under_raise ⟨hf, fun _ h => by cases h⟩

theorem stopComponents_under (h : st.Running p f) :
    EpisodeRuntime.stopComponents.Under (st.Serves request) s f fun r _ f' => match r with
      | .ok metrics => f'.monitored = metrics ∧ ∃ left, st.Stopped p left f'
      | .error _ => st.Kept request f' := by
  refine Prog.under_bind ((stopBackend_under h).mono fun r s' f₁ hr => ?_)
  rcases r with err | (_ | backendError)
  · exact Running.keeps hr
  · obtain ⟨left, hstopped⟩ := hr
    refine (stopMonitor_under fun a f' hs => hstopped.monitorStop hs).mono fun r s'' f₂ hr => ?_
    cases r with
    | ok metrics => exact ⟨(hr.2 metrics rfl).2, left, hr.1⟩
    | error err => exact hr.1.held.keeps
  · have hrun : st.Running p f₁ := hr
    have hmonitor : ∀ a f', st.Serves request f₁ (.monitorStop, a) f' →
        f'.monitored = a.metrics ∧ st.Running p f' := by
      intro a f' hs
      refine ⟨?_, hrun.monitorStop hs⟩
      cases hs with
      | monitorStop => rfl
      | other hl => cases hl
    refine (stopMonitor_under hmonitor).mono fun r s'' f₂ hr => ?_
    cases r with
    | ok metrics => cases (hr.2 metrics rfl).1
    | error err => exact hr.1.keeps

/-! ### The artifacts are made -/

theorem Safe.mcapPath (h : st.Safe p f) : p.mcapPath = p.partialDir ++ ["episode.mcap"] := by
  rw [h.eq]
  rfl

theorem Safe.metadataPath (h : st.Safe p f) : p.metadataPath = p.partialDir ++ ["metadata.json"] := by
  rw [h.eq]
  rfl

/-- The name of the temporary file. -/
theorem temporaryPath_append {q : Path} :
    McapFinalizer.temporaryPath (q ++ ["episode.mcap"]) = q ++ [".episode.mcap.zstd.tmp"] := by
  simp [McapFinalizer.temporaryPath]

/-- What is below a directory is neither the directory nor elsewhere. -/
theorem ne_below {q r : Path} {n : String} (hq : q <+: r → r = q) : r ≠ q ++ [n] := fun heq => by
  have hself := hq (heq ▸ List.prefix_append _ _)
  rw [heq] at hself
  simp at hself

variable (st) in
/-- The recording is as the finalizer leaves it. -/
structure Finalized (rt : EpisodeRuntime) (request : EpisodeRequest)
    (p : EpisodeStore.PendingEpisode) (left : Option (Entry B)) (f : EpisodeFiles B) : Prop
    extends st.Held request p left f where
  /-- It was audited. -/
  audited : rt.finalizer = true → st.finalizer.enabled = true →
    ∃ b, f.tree.entry p.mcapPath = some (.file b) ∧
      st.finalizer.Audited request.streams f.monitored f.finalization b

/-- What is not the recording may change below the directory of the Episode. -/
theorem Finalized.below {rt : EpisodeRuntime} (h : st.Finalized rt request p left f)
    {t' : FileTree B} {n : String} (hn : n ≠ "episode.mcap")
    (hsame : ∀ q, q ≠ p.partialDir ++ [n] → t'.entry q = f.tree.entry q) :
    st.Finalized rt request p left { f with tree := t' } := by
  have hmcap : t'.entry p.mcapPath = f.tree.entry p.mcapPath := hsame _ fun heq => by
    rw [h.mcapPath] at heq
    simp only [List.append_cancel_left_eq, List.cons.injEq, and_true] at heq
    exact hn heq.symm
  have hsafe : st.Safe p { f with tree := t' } :=
    h.toSafe.congr h.pending fun q hq => hsame q (ne_below hq)
  refine ⟨⟨hsafe, h.recorded, h.recording, ?_⟩, ?_⟩
  · rcases h.mcap with hleft | haudited
    · exact .inl (hmcap.trans hleft)
    · obtain ⟨b, hb, haudited⟩ := haudited
      exact .inr ⟨b, hmcap.trans hb, haudited⟩
  · intro hrt hon
    obtain ⟨b, hb, haudited⟩ := h.audited hrt hon
    exact ⟨b, hmcap.trans hb, haudited⟩

/-- The finalizer holds the recording. -/
theorem Stopped.finalize (rt : EpisodeRuntime) (h : st.Stopped p left f)
    {mcapPath : String} {a : PortAnswer}
    (hs : st.Serves request f (.finalize mcapPath request.streams f.monitored, a) f') :
    st.Held request p left f' ∧ (a.raises = none → st.Finalized rt request p left f') := by
  cases hs with
  | other hl => cases hl
  | finalize hp hrun ha =>
    rw [h.pending] at hp
    cases hp
    have hends := McapFinalizer.finalize_ends _ _ _ hrun
    generalize hf' : ({ f with tree := _, finalization := _ } : EpisodeFiles B) = f'
    cases hends with
    | refused same =>
      have hsafe : st.Safe p f' := h.toSafe.congr (by rw [← hf']; exact h.pending) fun q hq => by
        rw [← hf']
        refine same q fun heq => ?_
        rw [h.mcapPath, temporaryPath_append] at heq
        exact ne_below hq heq
      have hmcap := same p.mcapPath (McapFinalizer.temporaryPath_ne _).symm
      subst hf'
      refine ⟨⟨hsafe, h.recorded, h.recording, .inl (hmcap.trans h.mcap)⟩, fun hn => ?_⟩
      rw [show a.raises = some _ from ha] at hn
      cases hn
    | skipped disabled =>
      have hheld : st.Held request p left f' := by
        subst hf'
        exact ⟨h.toSafe.congr h.pending fun _ _ => rfl, h.recorded, h.recording, .inl h.mcap⟩
      refine ⟨hheld, fun _ => ⟨hheld, fun _ hon => ?_⟩⟩
      rw [disabled] at hon
      cases hon
    | replaced audited entry =>
      have hsafe : st.Safe p f' := h.toSafe.congr (by rw [← hf']; exact h.pending) fun q hq => by
        rw [← hf']
        dsimp only
        rw [entry, if_neg, if_neg]
        · rw [h.mcapPath, temporaryPath_append]
          exact ne_below hq
        · rw [h.mcapPath]
          exact ne_below hq
      subst hf'
      have hmcap := entry p.mcapPath
      rw [if_pos rfl] at hmcap
      have hheld : st.Held request p left _ :=
        ⟨hsafe, h.recorded, h.recording, .inr ⟨_, hmcap, audited⟩⟩
      exact ⟨hheld, fun _ => ⟨hheld, fun _ _ => ⟨_, hmcap, audited⟩⟩⟩

theorem finalizationExtensions_under {rt : EpisodeRuntime} (h : st.Stopped p left f) :
    (rt.finalizationExtensions request p.rendered f.monitored).Under (st.Serves request) s f
      fun r _ f' => match r with
        | .ok _ => st.Finalized rt request p left f'
        | .error _ => st.Kept request f' := by
  unfold EpisodeRuntime.finalizationExtensions
  split
  · refine under_port (fun a f' ha hs => ?_) fun a err f' ha hs => ?_
    · exact (h.finalize rt hs).2 ha
    · exact (h.finalize rt hs).1.keeps
  · rename_i hnot
    exact Prog.under_pure ⟨h.held, fun hrt => absurd hrt hnot⟩

theorem Finalized.keeps {rt : EpisodeRuntime} (h : st.Finalized rt request p left f) :
    st.Kept request f := h.toHeld.keeps

/-- A call that leaves the tree to the recorder changes nothing once the recorder was stopped. -/
theorem Finalized.quiet {rt : EpisodeRuntime} (h : st.Finalized rt request p left f)
    {l : EpisodeCall} {a : PortAnswer} (hl : l.quiet = true)
    (hs : st.Serves request f (l, a) f') : st.Finalized rt request p left f' := by
  obtain rfl := h.toHeld.quiet hl hs
  exact h

theorem Finalized.metadataContextProvider {rt : EpisodeRuntime}
    (h : st.Finalized rt request p left f) {a : PortAnswer}
    (hs : st.Serves request f (.metadataContextProvider, a) f') :
    st.Finalized rt request p left f' := by
  cases hs with
  | metadataContextProvider =>
    exact ⟨⟨{ h.toSafe with }, h.recorded, h.recording, h.mcap⟩, h.audited⟩
  | other hl => cases hl

/-- The metadata document says what the result says. -/
theorem Finalized.buildMetadata {rt : EpisodeRuntime} (h : st.Finalized rt request p left f)
    {a : PortAnswer} {result : EpisodeResult} {extensions : List String}
    (hs : st.Serves request f (.buildMetadata result extensions, a) f') :
    st.Finalized rt request p left f' ∧ (a.raises = none → ∃ document,
      f'.document = some document ∧ document.episodeId = result.episodeId ∧
        document.outcome = result.outcome) := by
  cases hs with
  | buildMetadata ha hbuild =>
    refine ⟨⟨⟨{ h.toSafe with }, h.recorded, h.recording, h.mcap⟩, h.audited⟩, fun _ => ?_⟩
    obtain ⟨hid, houtcome, -, -⟩ := buildMetadata_ok hbuild
    exact ⟨_, rfl, hid, houtcome⟩
  | notBuilt ha =>
    refine ⟨h, fun hn => ?_⟩
    rw [ha] at hn
    cases hn
  | other hl => cases hl

theorem writeMetadata_post {path : Path} {document : EpisodeMetadata} {t : FileTree B} :
    (st.writeMetadata path document).Post t fun r t' =>
      (∀ q, q ≠ path → t'.entry q = t.entry q) ∧
        (r = .ok () → t'.entry path = some (.file (st.dumps document))) := by
  unfold ArtifactStation.writeMetadata
  refine Prog.post_bind (syscall_post (fun _ => ⟨fun _ _ => rfl, by simp⟩) fun _ t₁ h₁ => ?_)
  have hopened := (FileTree.write_ok h₁).2.2
  have hsame : ∀ q, q ≠ path → t₁.entry q = t.entry q := fun q hq => by rw [hopened, if_neg hq]
  refine syscall_post (fun _ => ⟨hsame, by simp⟩) fun _ t₂ h₂ => ?_
  have hwritten := (FileTree.write_ok h₂).2.2
  refine ⟨fun q hq => ?_, fun _ => ?_⟩
  · rw [hwritten, if_neg hq, hsame q hq]
  · rw [hwritten, if_pos rfl]

/-- The metadata document is written. -/
theorem Finalized.writeMetadata {rt : EpisodeRuntime} (h : st.Finalized rt request p left f)
    {document : EpisodeMetadata} (hd : f.document = some document) {path : String} {a : PortAnswer}
    (hs : st.Serves request f (.writeMetadata path, a) f') :
    st.Finalized rt request p left f' ∧ (a.raises = none →
      f'.tree.entry p.metadataPath = some (.file (st.dumps document))) := by
  cases hs with
  | writeMetadata hp hd' hrun ha =>
    rw [h.pending] at hp
    rw [hd] at hd'
    cases hp
    cases hd'
    obtain ⟨hsame, hwritten⟩ := writeMetadata_post _ _ _ hrun
    rw [h.metadataPath] at hsame
    refine ⟨h.below (by decide) hsame, fun hn => ?_⟩
    rename_i r _
    cases r with
    | ok _ => exact hwritten rfl
    | error err =>
      rw [show a.raises = some err from ha] at hn
      cases hn
  | other hl => cases hl

/-- A commit that was refused has moved nothing. -/
theorem Held.refused (h : st.Held request p left f) {outcome : EpisodeOutcome} {t' : FileTree B}
    (same : ∀ q, ¬ q <+: st.store.outcomeRoot outcome → t'.entry q = f.tree.entry q) :
    st.Held request p left { f with tree := t' } := by
  -- what is recorded is not on the way to where the Episode would be committed
  have hbelow : ∀ r, t'.entry (p.partialDir ++ r) = f.tree.entry (p.partialDir ++ r) := by
    intro r
    refine same _ fun hpre => h.apart outcome ?_
    exact ((List.prefix_append _ r).trans hpre).trans (List.prefix_append _ _)
  have hdirectory := hbelow []
  have hmcap := hbelow ["episode.mcap"]
  rw [List.append_nil] at hdirectory
  rw [← h.mcapPath] at hmcap
  refine ⟨⟨h.pending, h.eq, h.own, h.apart, fun o => ?_, hdirectory.trans h.directory⟩,
    h.recorded, h.recording, ?_⟩
  · exact (same _ (h.own o outcome)).trans (h.absent o)
  · rcases h.mcap with hleft | haudited
    · exact .inl (hmcap.trans hleft)
    · obtain ⟨b, hb, haudited⟩ := haudited
      exact .inr ⟨b, hmcap.trans hb, haudited⟩

variable (st request) in
/-- The artifacts are what they should be. -/
def Sound (rt : EpisodeRuntime) (r : Except PyError EpisodeResult) (f : EpisodeFiles B) : Prop :=
  ∀ left, f.recorded = some left → st.Atomic request rt left f r

theorem Kept.sound {rt : EpisodeRuntime} {err : PyError} (h : st.Kept request f) :
    st.Sound request rt (.error err) f := fun _ hleft => h.atomic hleft

/-- The Episode is committed. -/
theorem Finalized.storeCommit {rt : EpisodeRuntime} (h : st.Finalized rt request p left f)
    {document : EpisodeMetadata} (hid : document.episodeId = p.episodeId)
    (hwritten : f.tree.entry p.metadataPath = some (.file (st.dumps document)))
    {outcome : EpisodeOutcome} (houtcome : document.outcome = outcome)
    {pending : DualCollection.PendingEpisode} {a : PortAnswer}
    (hs : st.Serves request f (.storeCommit pending outcome, a) f') :
    (a.raises ≠ none → st.Kept request f') ∧ (a.raises = none → f'.recording = false ∧
      ∀ result : EpisodeResult, result.outcome = outcome → st.Sound request rt (.ok result) f') := by
  cases hs with
  | other hl => cases hl
  | storeCommit hp hrun ha =>
    rw [h.pending] at hp
    cases hp
    cases EpisodeStore.commit_post _ _ _ hrun with
    | refused same =>
      refine ⟨fun _ => (h.toHeld.refused same).keeps, fun hn => ?_⟩
      rw [show a.raises = some _ from ha] at hn
      cases hn
    | moved directory names mcap metadata free apart entry =>
      rename_i t'
      refine ⟨fun hne => absurd ha.1 hne, fun _ => ⟨h.recording, fun result hresult => ?_⟩⟩
      obtain rfl := hresult
      intro left' hleft
      rw [h.recorded] at hleft
      cases hleft
      have hmoved : ∀ r, t'.entry (st.store.outcomeDir result.outcome p.episodeId ++ r) =
          f.tree.entry (p.partialDir ++ r) := fun r => by
        rw [entry, if_pos (List.prefix_append _ _), List.drop_left]
      have hmcap := hmoved ["episode.mcap"]
      have hmetadata := hmoved ["metadata.json"]
      rw [← h.mcapPath] at hmcap
      rw [← h.metadataPath] at hmetadata
      refine .returned h.pending rfl ?_ ?_ ?_ (hmetadata.trans hwritten) hid houtcome ?_ ?_
      · rw [entry, if_neg, if_pos (List.prefix_refl _)]
        intro hpre
        have hne : st.store.outcomeDir result.outcome p.episodeId ≠ p.partialDir := fun heq => by
          rw [← heq, free] at directory
          cases directory
        rw [FileTree.entry_of_prefix hpre hne (by simp [free])] at directory
        cases directory
      · rw [← names]
        ext n
        rw [FileTree.mem_names, FileTree.mem_names]
        exact iff_of_eq (congrArg (· ≠ none) (hmoved [n]))
      · obtain ⟨b, hb⟩ := FileTree.isFile_eq.1 mcap
        exact FileTree.isFile_eq.2 ⟨b, hmcap.trans hb⟩
      · rcases h.mcap with hleft | haudited
        · exact .inl (hmcap.trans hleft)
        · obtain ⟨b, hb, haudited⟩ := haudited
          exact .inr ⟨b, hmcap.trans hb, haudited⟩
      · intro hrt hon
        obtain ⟨b, hb, haudited⟩ := h.audited hrt hon
        exact ⟨b, hmcap.trans hb, haudited⟩

/-- What follows once everything has stopped. -/
theorem finalize_under {rt : EpisodeRuntime} {startedAt endedAt : ℤ} {durationS : ℚ}
    {ending : Ending} (h : st.Stopped p left f) :
    (rt.finalize request p.rendered startedAt endedAt durationS ending f.monitored).Under
      (st.Serves request) s f fun r _ => st.Sound request rt r := by
  unfold EpisodeRuntime.finalize
  refine Prog.under_bind ((finalizationExtensions_under h).mono fun r s₁ f₁ hr => ?_)
  cases r with
  | error err => exact Kept.sound hr
  | ok extensions =>
  have hfin : st.Finalized rt request p left f₁ := hr
  dsimp only
  split
  · exact Prog.under_raise hfin.keeps.sound
  split
  · refine Prog.under_bind (under_port (fun a f₂ _ hs => ?_) fun a err f₂ _ hs =>
      (hfin.quiet rfl hs).keeps.sound)
    replace hfin := hfin.quiet rfl hs
    have hcontext : (callIf rt.metadataContextProvider .metadataContextProvider).Under
        (st.Serves request) s₁ f₂ fun _ _ => st.Finalized rt request p left :=
      under_callIf (fun _ => hfin) (fun a f₃ _ hs => hfin.metadataContextProvider hs)
        fun a err f₃ _ hs => hfin.metadataContextProvider hs
    refine Prog.under_bind (hcontext.mono fun r s₃ f₃ hr => ?_)
    cases r with
    | error err => exact Finalized.keeps hr |>.sound
    | ok _ =>
    replace hfin : st.Finalized rt request p left f₃ := hr
    refine Prog.under_bind (under_port (fun a f₄ ha hs => ?_) fun a err f₄ _ hs =>
      (hfin.buildMetadata hs).1.keeps.sound)
    obtain ⟨document, hd, hid, houtcome⟩ := (hfin.buildMetadata hs).2 ha
    replace hfin := (hfin.buildMetadata hs).1
    refine Prog.under_bind (under_port (fun a f₅ ha hs => ?_) fun a err f₅ _ hs =>
      (hfin.writeMetadata hd hs).1.keeps.sound)
    have hwritten := (hfin.writeMetadata hd hs).2 ha
    replace hfin := (hfin.writeMetadata hd hs).1
    refine Prog.under_bind (under_port (fun a f₆ ha hs => ?_) fun a err f₆ ha hs =>
      ((hfin.storeCommit hid hwritten houtcome hs).1 (by simp [ha])).sound)
    obtain ⟨hrecording, hsound⟩ := (hfin.storeCommit hid hwritten houtcome hs).2 ha
    refine Prog.under_bind (Prog.under_atomic fun e f₇ hs => ?_)
    obtain ⟨t', hw, rfl⟩ := hs.quiet rfl
    rw [hw.eq hrecording]
    exact Prog.under_pure (hsound _ rfl)
  · exact Prog.under_raise hfin.keeps.sound

/-- What follows once the recording has ended. -/
theorem finish_under {rt : EpisodeRuntime} {startedAt endedAt : ℤ} {durationS : ℚ}
    {ending : Ending} (h : st.Running p f) :
    (rt.finish request p.rendered startedAt endedAt durationS ending).Under (st.Serves request) s f
      fun r _ => st.Sound request rt r := by
  have hcontroller : (rt.stopController ending).Under (st.Serves request) s f fun _ _ =>
      st.Running p := by
    refine Prog.under_only (A := fun l => l.quiet = true) ?_ (fun f l a f' hl hf hs =>
      hf.quiet hl hs) h
    unfold EpisodeRuntime.stopController
    split
    · refine Prog.only_tryCatch (Prog.only_bind trivial fun _ => ?_) fun _ => trivial
      exact Prog.only_bind (Prog.only_atomic rfl) fun _ => trivial
    · trivial
  refine Prog.under_bind (hcontroller.mono fun r s₁ f₁ hr => ?_)
  cases r with
  | error err => exact (Running.keeps hr).sound
  | ok hookError =>
  refine Prog.under_bind (Prog.under_tryCatch ((stopComponents_under hr).mono fun r s₂ f₂ hr => ?_))
  cases r with
  | error err => exact Prog.under_raise (Kept.sound hr)
  | ok metrics =>
    obtain ⟨rfl, left, hstopped⟩ := hr
    cases hookError with
    | some err => exact Prog.under_raise hstopped.held.keeps.sound
    | none => exact finalize_under hstopped

/-- The controller is told, or everything is stopped. -/
theorem startController_under {rt : EpisodeRuntime} {startedNs : ℤ} (h : st.Running p f) :
    (rt.startController p.rendered startedNs).Under (st.Serves request) s f
      fun r _ f' => match r with
        | .ok _ => st.Running p f'
        | .error _ => st.Kept request f' := by
  have hstop : ∀ (err : PyError) s₁ f₁, st.Running p f₁ →
      (do let _ ← EpisodeRuntime.stopComponents; .raise err : EpisodeProg Unit).Under
        (st.Serves request) s₁ f₁ fun r _ f' => match r with
          | .ok _ => st.Running p f'
          | .error _ => st.Kept request f' := by
    intro err s₁ f₁ hrun
    refine Prog.under_bind ((stopComponents_under hrun).mono fun r s₂ f₂ hr => ?_)
    cases r with
    | error err => exact hr
    | ok metrics =>
      obtain ⟨-, left, hstopped⟩ := hr
      exact Prog.under_raise hstopped.held.keeps
  unfold EpisodeRuntime.startController
  split
  · refine Prog.under_tryCatch (Running.bind h trivial (fun err s₁ f₁ hrun => hstop err s₁ f₁ hrun)
      fun started s₁ f₁ hrun => under_port (fun a f₂ _ hs => hrun.quiet rfl hs) fun a err f₂ _ hs =>
        hstop err s₁ f₂ (hrun.quiet rfl hs))
  · exact Prog.under_pure h

/-- What follows once the recorder and the monitor have started. -/
theorem record_under {rt : EpisodeRuntime} {n : ℕ} {startedAt startedNs : ℤ}
    (h : st.Running p f) :
    (rt.record n request p.rendered startedAt startedNs).Under (st.Serves request) s f
      fun r _ => st.Sound request rt r := by
  have hsound : ∀ (err : PyError) (s' : EpisodeState) f', st.Running p f' →
      st.Sound request rt (.error err) f' := fun _ _ _ hrun => hrun.keeps.sound
  refine Running.bind h (Prog.only_atomic rfl) hsound fun _ s₁ f₁ h₁ => ?_
  refine Running.bind h₁ (only_callIf rfl) hsound fun _ s₂ f₂ h₂ => ?_
  refine Prog.under_bind ((startController_under h₂).mono fun r s₃ f₃ hr => ?_)
  cases r with
  | error err => exact Kept.sound hr
  | ok _ =>
  replace hr : st.Running p f₃ := hr
  refine Running.bind hr (EpisodeRuntime.waitForEnd_only rfl rfl rfl rfl (fun _ => rfl) rfl)
    hsound fun ending s₄ f₄ h₄ => ?_
  refine Running.bind h₄ (Prog.only_atomic rfl) hsound fun endedAt s₅ f₅ h₅ => ?_
  refine Running.bind h₅ (Prog.only_atomic rfl) hsound fun _ s₆ f₆ h₆ => ?_
  refine Running.bind h₆ (only_callIf rfl) hsound fun _ s₇ f₇ h₇ => ?_
  exact finish_under h₇

/-- Go on before anything was prepared. -/
theorem Before.bind {β : Type} {q : EpisodeProg β} {g : β → EpisodeProg α} (h : Before f)
    (hq : q.Only fun l => l.quiet = true)
    (hQ : ∀ err s' f', Before f' → Q (.error err) s' f')
    (hg : ∀ b s' f', Before f' → (g b).Under (st.Serves request) s' f' Q) :
    (q >>= g).Under (st.Serves request) s f Q := by
  refine Prog.under_bind ((Prog.under_only hq (J := Before)
    (fun f l a f' hl hf hs => hf.quiet hl hs) h).mono fun r s' f' hf => ?_)
  cases r with
  | ok b => exact hg b s' f' hf
  | error err => exact hQ err s' f' hf

/-- The directory of a fresh Episode is made. -/
theorem Before.storePrepare (h : Before f) {a : PortAnswer} {episodeId : String}
    (hfresh : st.store.Fresh f.tree episodeId)
    (hs : st.Serves request f (.storePrepare episodeId, a) f') :
    f'.recorded = none ∧ (a.raises = none → ∃ p, a.pending = p.rendered ∧ st.Running p f') := by
  cases hs with
  | other hl => cases hl
  | notPrepared hrun ha =>
    refine ⟨h.recorded, fun hn => ?_⟩
    rw [ha] at hn
    cases hn
  | prepared hrun ha hp =>
    refine ⟨h.recorded, fun _ => ?_⟩
    cases EpisodeStore.prepare_post _ _ _ hrun with
    | made valid free final entry =>
      refine ⟨_, hp, ⟨rfl, rfl, hfresh.own, hfresh.apart, fun outcome => ?_, ?_⟩, h.recorded⟩
      · rw [entry, if_neg]
        · exact hfresh.absent outcome
        · rintro (heq | hpre)
          · exact hfresh.apart outcome (heq ▸ List.prefix_refl _)
          · exact hfresh.own outcome .success hpre
      · exact (entry _).trans (if_pos (.inl rfl))

theorem Serves.fresh {a : PortAnswer}
    (hs : st.Serves request f (.episodeIdFactory, a) f') :
    f' = f ∧ (a.raises = none → st.store.Fresh f.tree a.episodeId) := by
  cases hs with
  | episodeIdFactory hfresh => exact ⟨rfl, hfresh⟩
  | other hl => cases hl

/-- The recorder is started. -/
theorem Running.backendStart (h : st.Running p f) {a : PortAnswer} {mcapPath : String}
    {streams : List StreamSpec} (hs : st.Serves request f (.backendStart mcapPath streams, a) f') :
    st.Running p f' := by
  cases hs with
  | backendStart hw => exact ⟨h.writes hw h.pending rfl, h.recorded⟩
  | other hl => cases hl

/-- What follows once the Episode was prepared. -/
theorem prepared_under {rt : EpisodeRuntime} {n : ℕ} (h : st.Running p f) :
    (do
      let startedAt ← port (.wallClock .started) PortAnswer.wallTime
      let startedNs ← EpisodeRuntime.monotonicNs .started
      callPort (.backendStart p.rendered.mcapPath request.streams)
      Prog.tryCatch (callPort (.monitorStart request.streams)) fun err => do
        callPort (.backendStop .monitorFailed)
        .raise err
      rt.record n request p.rendered startedAt startedNs).Under (st.Serves request) s f
      fun r _ => st.Sound request rt r := by
  have hsound : ∀ (err : PyError) (s' : EpisodeState) f', st.Running p f' →
      st.Sound request rt (.error err) f' := fun _ _ _ hrun => hrun.keeps.sound
  refine Running.bind h (Prog.only_atomic rfl) hsound fun startedAt s₁ f₁ h₁ => ?_
  refine Running.bind h₁ (Prog.only_atomic rfl) hsound fun startedNs s₂ f₂ h₂ => ?_
  refine Prog.under_bind (under_port (fun a f₃ _ hs => ?_) fun a err f₃ _ hs =>
    (h₂.backendStart hs).keeps.sound)
  replace h₂ := h₂.backendStart hs
  refine Prog.under_bind (Prog.under_tryCatch (under_port (fun a f₄ _ hs => ?_)
    fun a err f₄ _ hs => ?_))
  · exact record_under (h₂.quiet rfl hs)
  · replace h₂ := h₂.quiet rfl hs
    refine Prog.under_bind (under_port (fun a f₅ ha hs => ?_) fun a err f₅ ha hs => ?_)
    · obtain ⟨left, hstopped⟩ := (h₂.backendStop hs).1 ha
      exact Prog.under_raise hstopped.held.keeps.sound
    · exact ((h₂.backendStop hs).2 (by simp [ha])).keeps.sound

theorem runOnce_under {rt : EpisodeRuntime} {n : ℕ} (h : Before f) :
    (rt.runOnce n request).Under (st.Serves request) s f fun r _ => st.Sound request rt r := by
  have hsound : ∀ (err : PyError) (s' : EpisodeState) f', Before f' →
      st.Sound request rt (.error err) f' := fun _ _ _ hf => (hf.keeps st).sound
  unfold EpisodeRuntime.runOnce
  refine Before.bind h (Prog.only_atomic rfl) hsound fun state s₁ f₁ h₁ => ?_
  split
  · exact Prog.under_raise (hsound _ s₁ _ h₁)
  refine Before.bind h₁ (EpisodeRuntime.waitForStart_only rfl rfl rfl) hsound fun _ s₂ f₂ h₂ => ?_
  refine Before.bind h₂ (only_callIf rfl) hsound fun _ s₃ f₃ h₃ => ?_
  refine Prog.under_bind (under_port (fun a f₄ ha hs => ?_) fun a err f₄ _ hs => ?_)
  · obtain ⟨rfl, hfresh⟩ := hs.fresh
    refine Prog.under_bind (under_port (fun b f₅ hb hs => ?_) fun b err f₅ _ hs => ?_)
    · obtain ⟨p, hp, hrun⟩ := (h₃.storePrepare (hfresh ha) hs).2 hb
      dsimp only
      rw [hp]
      exact prepared_under hrun
    · exact (Kept.of_none (h₃.storePrepare (hfresh ha) hs).1).sound
  · obtain ⟨rfl, -⟩ := hs.fresh
    exact hsound err s₃ _ h₃

end Under

/-- An Episode whose recorder was stopped is where it was recorded or where it was committed. -/
theorem artifacts_atomic {rt : EpisodeRuntime} {n : ℕ} {s s' : EpisodeState} {t : FileTree B}
    {tr : List (EpisodeCall × PortAnswer)} {r : Except PyError EpisodeResult}
    (hrun : (rt.runOnce n request).Run s tr r s')
    (hserved : Served (st.Serves request) { tree := t } tr f')
    (hstopped : f'.recorded = some left) : st.Atomic request rt left f' r :=
  runOnce_under ⟨rfl, rfl, rfl⟩ tr r s' f' hrun hserved left hstopped

end ArtifactStation

/-! ### A small station -/

namespace Episode.Station

open EpisodeStore.Station

/-- What is in a file. -/
inductive Contents
  | blank
  /-- A recording of so many messages. -/
  | mcap (compressed : Bool) (messages : ℕ)
  | metadata (document : EpisodeMetadata)

/-- The size of a file. -/
def Contents.size : Contents → ℕ
  | .blank => 0
  | .mcap true messages => messages
  | .mcap false messages => 10 * messages
  | .metadata _ => 1

/-- A stream of ten messages in a second. -/
def camera : StreamSpec := ⟨"camera", "/camera", true, 10, by decide, by decide, by decide⟩

/-- What is seen of a stream of which there are so many messages. -/
def seen (messages : ℕ) (stream : StreamSpec) : StreamMetrics where
  id := stream.id
  count := messages
  durationS := messages / stream.expectedHz
  observedHz := stream.expectedHz
  maxGapMs := 1000 / stream.expectedHz
  warnings := []
  id_ne := stream.id_ne

/-- What the auditor reads. -/
def Contents.audit : Contents → List StreamSpec → List StreamMetrics
  | .mcap _ messages, streams => streams.map (seen messages)
  | _, _ => []

/-- A store, a finalizer, and an encoder that loses nothing. -/
def artifacts : ArtifactStation Contents :=
  ⟨small, ⟨true, Contents.audit, Contents.size⟩, .blank, .metadata, "1.0"⟩

theorem camera_ids : ([camera].map StreamSpec.id).Nodup := List.nodup_singleton _

theorem camera_topics : ([camera].map StreamSpec.topic).Nodup := List.nodup_singleton _

/-- A request for the stream. -/
def recording : EpisodeRequest :=
  { request with streams := [camera], ids_nodup := camera_ids, topics_nodup := camera_topics }

/-- A runtime with a finalizer. -/
def finalizing : EpisodeRuntime := ⟨false, false, false, false, false, false, true, []⟩

/-- What the finalizer is told: there is enough memory, and the compressor leaves a recording of so
many messages. -/
def finalizerAnswer (messages : ℕ) : FinalizerAnswer Contents :=
  { bytes := 100 * gib, output := some (.mcap true messages) }

/-- Nothing was committed as `x`. -/
def free (t : FileTree Contents) : Bool :=
  !t.exists (small.outcomeDir .success "x") && !t.exists (small.outcomeDir .fail "x") &&
    !t.exists (small.outcomeDir .aborted "x")

theorem free_spec {t : FileTree Contents} (h : free t = true) : small.Fresh t "x" := by
  simp only [free, Bool.and_eq_true, Bool.not_eq_true', ← Bool.not_eq_true,
    FileTree.not_exists_eq] at h
  obtain ⟨⟨hsuccess, hfail⟩, haborted⟩ := h
  refine unreserved.fresh regular fun outcome => ?_
  cases outcome with
  | success => exact hsuccess
  | fail => exact hfail
  | aborted => exact haborted

/-- What the components do; the recorder has written `messages` messages when it is stopped. -/
def respond (messages : ℕ) (f : EpisodeFiles Contents) :
    EpisodeCall × PortAnswer → Option (EpisodeFiles Contents)
  | (.episodeIdFactory, a) => if a.episodeId = "x" ∧ free f.tree = true then some f else none
  | (.storePrepare episodeId, a) =>
    ((small.prepare episodeId).exec (List.replicate 5 {}) f.tree).bind fun x => match x.2.1 with
      | .ok p => if a.raises = none ∧ a.pending = p.rendered then
          some { f with tree := x.2.2, pending := some p } else none
      | .error _ => none
  | (.backendStart _ _, _) => f.pending.bind fun p =>
    match f.tree.write (p.partialDir ++ ["episode.mcap"]) (.mcap false 0) with
    | .ok t => some { f with tree := t, recording := true }
    | .error _ => none
  | (.backendStop _, a) => f.pending.bind fun p =>
    match f.tree.write (p.partialDir ++ ["episode.mcap"]) (.mcap false messages) with
    | .ok t =>
      if a.raises = none ∧ f.recording = true then
        some { f with tree := t, recording := false, recorded := some (t.entry p.mcapPath) }
      else none
    | .error _ => none
  | (.monitorStop, a) => some { f with monitored := a.metrics }
  | (.finalize path streams metrics, a) => f.pending.bind fun p =>
    ((artifacts.finalizer.finalize p.mcapPath streams metrics).exec
      (List.replicate 16 (finalizerAnswer messages)) f.tree).bind fun x => match x.2.1 with
        | .ok _ => if path = pathString p.mcapPath ∧ a.raises = none ∧
            a.extensions = ["mcap_compression"] then
              some { f with tree := x.2.2, finalization := x.1 } else none
        | .error _ => none
  | (.buildMetadata result extensions, a) =>
    match DualCollection.buildMetadata recording result "1.0" extensions f.context with
    | .ok document => if a.raises = none then some { f with document := some document } else none
    | .error _ => none
  | (.writeMetadata path, a) => f.pending.bind fun p => f.document.bind fun document =>
    ((artifacts.writeMetadata p.metadataPath document).exec (List.replicate 2 none) f.tree).bind
      fun x => match x.2.1 with
        | .ok _ => if path = pathString p.metadataPath ∧ a.raises = none then
            some { f with tree := x.2.2 } else none
        | .error _ => none
  | (.storeCommit pending outcome, a) => f.pending.bind fun p =>
    ((small.commit p outcome).exec (List.replicate 7 {}) f.tree).bind fun x => match x.2.1 with
      | .ok stored => if pending = p.rendered ∧ a.raises = none ∧ a.stored = stored.rendered then
          some { f with tree := x.2.2 } else none
      | .error _ => none
  | (.metadataContextProvider, _) => none
  | (l, _) => if l.quiet = true then some f else none

/-- What the components do for one call after the other. -/
def respondAll (messages : ℕ) :
    EpisodeFiles Contents → List (EpisodeCall × PortAnswer) → Option (EpisodeFiles Contents)
  | f, [] => some f
  | f, x :: tr => (respond messages f x).bind fun f' => respondAll messages f' tr

variable {messages : ℕ}

/-- The recorder writes to its recording. -/
theorem writes_recording {f : EpisodeFiles Contents} {p : EpisodeStore.PendingEpisode}
    {t : FileTree Contents} {b : Contents} (hp : f.pending = some p)
    (hwrite : f.tree.write (p.partialDir ++ ["episode.mcap"]) b = .ok t) :
    ArtifactStation.Writes f true t := by
  intro q hq
  rw [(FileTree.write_ok hwrite).2.2, if_neg]
  exact ArtifactStation.ne_below fun hpre => hq rfl p hp hpre

theorem respond_serves {f f' : EpisodeFiles Contents} {x : EpisodeCall × PortAnswer}
    (h : respond messages f x = some f') : artifacts.Serves recording f x f' := by
  obtain ⟨l, a⟩ := x
  have hsame : ∀ {recording : Bool}, ArtifactStation.Writes f recording f.tree := fun _ _ => rfl
  cases l with
  | episodeIdFactory =>
    simp only [respond] at h
    split at h
    · rename_i hfree
      cases h
      exact .episodeIdFactory fun _ => hfree.1 ▸ free_spec hfree.2
    · cases h
  | storePrepare episodeId =>
    obtain ⟨⟨tr, r, t⟩, hexec, h⟩ := Option.bind_eq_some_iff.1 h
    cases r with
    | error err => cases h
    | ok p =>
      dsimp only at h
      split at h
      · rename_i ha
        cases h
        exact .prepared (Prog.run_of_exec hexec) ha.1 ha.2
      · cases h
  | backendStart mcapPath streams =>
    obtain ⟨p, hp, h⟩ := Option.bind_eq_some_iff.1 h
    split at h
    · rename_i t hwrite
      cases h
      exact .backendStart (writes_recording hp hwrite)
    · cases h
  | backendStop site =>
    obtain ⟨p, hp, h⟩ := Option.bind_eq_some_iff.1 h
    split at h
    · rename_i t hwrite
      split at h
      · rename_i ha
        cases h
        exact .backendStopped ha.1 hp (ha.2 ▸ writes_recording hp hwrite)
      · cases h
    · cases h
  | monitorStop =>
    cases h
    exact .monitorStop hsame
  | finalize path streams metrics =>
    obtain ⟨p, hp, h⟩ := Option.bind_eq_some_iff.1 h
    obtain ⟨⟨tr, r, t⟩, hexec, h⟩ := Option.bind_eq_some_iff.1 h
    cases r with
    | error err => cases h
    | ok metadata =>
      dsimp only at h
      split at h
      · rename_i ha
        cases h
        obtain ⟨rfl, ha⟩ := ha
        exact .finalize hp (Prog.run_of_exec hexec) ha
      · cases h
  | metadataContextProvider => cases h
  | buildMetadata result extensions =>
    simp only [respond] at h
    split at h
    · rename_i document hbuild
      split at h
      · rename_i ha
        cases h
        exact .buildMetadata ha hbuild
      · cases h
    · cases h
  | writeMetadata path =>
    obtain ⟨p, hp, h⟩ := Option.bind_eq_some_iff.1 h
    obtain ⟨document, hd, h⟩ := Option.bind_eq_some_iff.1 h
    obtain ⟨⟨tr, r, t⟩, hexec, h⟩ := Option.bind_eq_some_iff.1 h
    cases r with
    | error err => cases h
    | ok _ =>
      dsimp only at h
      split at h
      · rename_i ha
        cases h
        obtain ⟨rfl, ha⟩ := ha
        exact .writeMetadata hp hd (Prog.run_of_exec hexec) ⟨ha, trivial⟩
      · cases h
  | storeCommit pending outcome =>
    obtain ⟨p, hp, h⟩ := Option.bind_eq_some_iff.1 h
    obtain ⟨⟨tr, r, t⟩, hexec, h⟩ := Option.bind_eq_some_iff.1 h
    cases r with
    | error err => cases h
    | ok stored =>
      dsimp only at h
      split at h
      · rename_i ha
        cases h
        obtain ⟨rfl, ha⟩ := ha
        exact .storeCommit hp (Prog.run_of_exec hexec) ha
      · cases h
  | _ =>
    simp only [respond] at h
    split at h
    · rename_i hl
      cases h
      exact .other hl hsame
    · cases h

theorem respondAll_served {f f' : EpisodeFiles Contents} {tr : List (EpisodeCall × PortAnswer)}
    (h : respondAll messages f tr = some f') : Served (artifacts.Serves recording) f tr f' := by
  induction tr generalizing f with
  | nil =>
    cases h
    exact .nil _
  | cons x tr ih =>
    obtain ⟨f₁, hx, htr⟩ := Option.bind_eq_some_iff.1 h
    exact .cons (respond_serves hx) (ih htr)

/-- The Episode is recorded, compressed and committed. -/
def committed (messages : ℕ) : List PortAnswer :=
  [{}, {}, pressed, {}, { episodeId := "x" }, { pending := (small.pendingEpisode "x").rendered },
    {}, {}, {}, {}, {}, {}, {}, pressed, {}, {}, {}, {}, { metrics := [seen messages camera] },
    { extensions := ["mcap_compression"] }, {}, {}, {}, { stored := ⟨"x", "/episodes/x",
      "/episodes/x/episode.mcap", "/episodes/x/metadata.json"⟩ }, {}]

/-- A file with a recording of so many messages. -/
def holds (compressed : Bool) (messages : ℕ) : Option (Entry Contents) → Bool
  | some (.file (.mcap compressed' messages')) => compressed' == compressed && messages' == messages
  | _ => false

theorem holds_eq {compressed : Bool} {entry : Option (Entry Contents)}
    (h : holds compressed messages entry = true) :
    entry = some (.file (.mcap compressed messages)) := by
  unfold holds at h
  split at h
  · obtain ⟨rfl, rfl⟩ : _ ∧ _ := by simpa using h
    rfl
  · cases h

end Episode.Station

open Episode.Station EpisodeStore.Station in
/-- An Episode of 30 messages is recorded, compressed and committed. -/
theorem artifacts_atomic_committed : ∃ tr result s' f',
    (finalizing.runOnce 1 recording).Run .ready tr (.ok result) s' ∧
      Served (artifacts.Serves recording) { tree := .empty Contents } tr f' ∧
      f'.recorded = some (some (.file (.mcap false 30))) ∧
      f'.tree.entry (small.outcomeDir .success "x" ++ ["episode.mcap"]) =
        some (.file (.mcap true 30)) ∧
      artifacts.Atomic recording finalizing (some (.file (.mcap false 30))) f' (.ok result) := by
  have hplayed : (((finalizing.runOnce 1 recording).exec (committed 30) .ready).any fun x =>
      (respondAll 30 { tree := .empty Contents } x.1).any fun f' =>
        f'.recorded.any (holds false 30) &&
          (holds true 30 (f'.tree.entry (small.outcomeDir .success "x" ++ ["episode.mcap"])) &&
            x.2.1.isOk)) = true := by decide +kernel
  obtain ⟨⟨tr, r, s'⟩, hexec, hrespond⟩ := (Option.any_eq_true _ _).1 hplayed
  obtain ⟨f', hserved, hend⟩ := (Option.any_eq_true _ _).1 hrespond
  simp only [Bool.and_eq_true] at hend
  obtain ⟨hrecorded, hcommitted, hok⟩ := hend
  obtain ⟨left, hleft, hholds⟩ := (Option.any_eq_true _ _).1 hrecorded
  obtain rfl := holds_eq hholds
  cases r with
  | error err => cases hok
  | ok result =>
    exact ⟨tr, result, s', f', Prog.run_of_exec hexec, respondAll_served hserved, hleft,
      holds_eq hcommitted,
      ArtifactStation.artifacts_atomic (Prog.run_of_exec hexec) (respondAll_served hserved) hleft⟩

end DualCollection
