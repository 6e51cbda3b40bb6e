import DualCollection.Episode.Models
import DualCollection.Files.Calls

/-!
# The Episode store

`EpisodeStore` of `episode/store.py` over a file tree: `prepare` makes the directory in which an
Episode is recorded, `commit` renames it to the place that belongs to its outcome, and
`list_partials` lists the directories that were not renamed.

Every system call is a section named by a `StoreCall`.  It may raise what the environment says,
and then has no effect.
-/

namespace DualCollection

open Files Thread

/-- What the system answers, unless its answer is an exception. -/
def Files.OsError.toPyError : OsError → PyError
  | .noEntry => ⟨.exception, "[Errno 2] No such file or directory"⟩
  | .exists => ⟨.exception, "[Errno 17] File exists"⟩
  | .notDirectory => ⟨.exception, "[Errno 20] Not a directory"⟩
  | .isDirectory => ⟨.exception, "[Errno 21] Is a directory"⟩
  | .notEmpty => ⟨.exception, "[Errno 39] Directory not empty"⟩
  | .invalid => ⟨.exception, "[Errno 22] Invalid argument"⟩

/-- `name and Path(name).name == name` -/
def IsPathName (name : String) : Prop := name ≠ "" ∧ name ≠ "." ∧ '/' ∉ name.toList

instance : DecidablePred IsPathName := fun name =>
  inferInstanceAs (Decidable (name ≠ "" ∧ name ≠ "." ∧ '/' ∉ name.toList))

/-- The arguments of the constructor, after its checks. -/
structure EpisodeStore where
  /-- Where the Episodes are. -/
  root : Path
  /-- How much space must be left. -/
  minFreeBytes : ℕ
  /-- Where the failed Episodes are. -/
  failDirectory : String
  /-- `fail_directory must be a single path name` -/
  failDirectory_name : IsPathName failDirectory

/-- The calls of the store. -/
inductive StoreCall
  | mkdirRoot
  | diskUsage
  | partialExists
  | finalExists
  | mkdirPartial
  | partialIsDir
  | iterdir
  | mcapIsFile
  | metadataIsFile
  | finalDirExists
  | mkdirOutcome
  | rename
  deriving DecidableEq

/-- What a call answers. -/
structure StoreAnswer where
  /-- The exception that is raised, if any. -/
  raises : Option PyError := none
  /-- `shutil.disk_usage(self.root).free` -/
  freeBytes : ℕ := 0

/-- The name of the directory in which an Episode is recorded. -/
def partialName (episodeId : String) : String := "." ++ episodeId ++ ".partial"

/-- What `glob(".*.partial")` matches. -/
def IsPartialName (name : String) : Prop :=
  name.toList.head? = some '.' ∧ ".partial".toList <:+ name.toList.tail

instance : DecidablePred IsPartialName := fun name => inferInstanceAs
  (Decidable (name.toList.head? = some '.' ∧ ".partial".toList <:+ name.toList.tail))

namespace EpisodeStore

/-- `PendingEpisode`, with its paths in the tree. -/
structure PendingEpisode where
  /-- The number of the Episode. -/
  episodeId : String
  /-- `partial_dir` -/
  partialDir : Path
  /-- `final_dir` -/
  finalDir : Path
  /-- The recording. -/
  mcapPath : Path
  /-- The metadata document. -/
  metadataPath : Path
  deriving DecidableEq

/-- `StoredEpisode`, with its paths in the tree. -/
structure StoredEpisode where
  /-- The number of the Episode. -/
  episodeId : String
  /-- Where. -/
  directory : Path
  /-- The recording. -/
  mcapPath : Path
  /-- The metadata document. -/
  metadataPath : Path
  deriving DecidableEq

/-- A program of the store. -/
abbrev Program (B α : Type) := Prog StoreCall StoreAnswer (FileTree B) PyError α

variable (store : EpisodeStore) {B : Type}

/-- A call that reads the tree. -/
def reads {α : Type} (l : StoreCall) (f : FileTree B → α) : Program B α :=
  look StoreAnswer.raises l fun _ => f

/-- A call that changes the tree. -/
def changes (l : StoreCall) (f : FileTree B → Except OsError (FileTree B)) : Program B Unit :=
  syscall StoreAnswer.raises OsError.toPyError l fun _ => f

/-- `_validate_episode_id` accepts the number. -/
def ValidEpisodeId (episodeId : String) : Prop := IsPathName episodeId ∧ episodeId ≠ ".."

instance : DecidablePred ValidEpisodeId := fun episodeId =>
  inferInstanceAs (Decidable (IsPathName episodeId ∧ episodeId ≠ ".."))

/-- Where an Episode is recorded. -/
def partialDir (episodeId : String) : Path := store.root ++ [partialName episodeId]

/-- `outcome_roots` -/
def outcomeRoot : EpisodeOutcome → Path
  | .success => store.root
  | .fail => store.root.child store.failDirectory
  | .aborted => store.root ++ ["abort"]

/-- Where an Episode is committed. -/
def outcomeDir (outcome : EpisodeOutcome) (episodeId : String) : Path :=
  store.outcomeRoot outcome ++ [episodeId]

/-- What `prepare` returns. -/
def pendingEpisode (episodeId : String) : PendingEpisode where
  episodeId
  partialDir := store.partialDir episodeId
  finalDir := store.outcomeDir .success episodeId
  mcapPath := store.partialDir episodeId ++ ["episode.mcap"]
  metadataPath := store.partialDir episodeId ++ ["metadata.json"]

/-- `prepare` -/
def prepare (episodeId : String) : Program B PendingEpisode := do
  if ¬ ValidEpisodeId episodeId then
    .raise ⟨.valueError, "episode_id must be a single path name"⟩
  else do
    changes .mkdirRoot fun t => t.mkdirs store.root
    let freeBytes ← look StoreAnswer.raises .diskUsage fun a _ => a.freeBytes
    if freeBytes < store.minFreeBytes then
      .raise ⟨.exception, "insufficient disk space: " ++ toString freeBytes ++ " < " ++
        toString store.minFreeBytes ++ " bytes"⟩
    else if ← reads .partialExists (·.exists (store.partialDir episodeId)) then
      .raise ⟨.exception, "episode already exists: " ++ episodeId⟩
    else if ← reads .finalExists (·.exists (store.outcomeDir .success episodeId)) then
      .raise ⟨.exception, "episode already exists: " ++ episodeId⟩
    else do
      changes .mkdirPartial fun t => t.mkdir (store.partialDir episodeId)
      pure (store.pendingEpisode episodeId)

/-- `commit` -/
def commit (pending : PendingEpisode) (outcome : EpisodeOutcome) : Program B StoredEpisode := do
  if ¬ (← reads .partialIsDir (·.isDir pending.partialDir)) then
    .raise ⟨.exception, "/" ++ "/".intercalate pending.partialDir⟩
  else if (← reads .iterdir (·.names pending.partialDir)) ≠ {"episode.mcap", "metadata.json"} then
    .raise ⟨.runtimeError, "partial episode must contain exactly MCAP and metadata JSON"⟩
  else if ¬ (← reads .mcapIsFile (·.isFile pending.mcapPath)) then
    .raise ⟨.runtimeError, "episode artifacts must be regular files"⟩
  else if ¬ (← reads .metadataIsFile (·.isFile pending.metadataPath)) then
    .raise ⟨.runtimeError, "episode artifacts must be regular files"⟩
  else do
    let finalDir := store.outcomeDir outcome pending.episodeId
    if ← reads .finalDirExists (·.exists finalDir) then
      .raise ⟨.exception, "episode already exists: " ++ pending.episodeId⟩
    else do
      changes .mkdirOutcome fun t => t.mkdirs (store.outcomeRoot outcome)
      changes .rename fun t => t.rename pending.partialDir finalDir
      pure ⟨pending.episodeId, finalDir, finalDir ++ ["episode.mcap"],
        finalDir ++ ["metadata.json"]⟩

/-- `list_partials` -/
def listPartials (t : FileTree B) : List Path :=
  if t.exists store.root then
    (((t.names store.root).filter IsPartialName).sort.map fun name => store.root ++ [name]).filter
      t.isDir
  else []

end EpisodeStore

end DualCollection
