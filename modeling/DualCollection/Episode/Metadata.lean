import DualCollection.Episode.CollectionMetadata
import DualCollection.Episode.Models

/-!
# The metadata document

`build_metadata` of `episode/metadata.py`.  The document is a record of what the source puts in a
dictionary; the station section and the values of the extensions, which nothing reads, are left
out, and times are microseconds.
-/

namespace DualCollection

/-- The metadata document of an Episode. -/
structure EpisodeMetadata where
  /-- How the Episode was collected. -/
  collectionType : CollectionType
  /-- The number of the Episode. -/
  episodeId : String
  /-- The task. -/
  taskId : String
  /-- What the task is. -/
  taskDescription : String
  /-- How the Episode ended. -/
  outcome : EpisodeOutcome
  /-- When it started. -/
  startedAt : ℤ
  /-- When it ended. -/
  endedAt : ℤ
  /-- How long it was. -/
  durationS : ℚ
  /-- What was recorded. -/
  streams : List (StreamSpec × StreamMetrics)
  /-- The version of the collector. -/
  softwareVersion : String
  /-- What went wrong. -/
  errors : List String
  /-- The keys of the extensions. -/
  extensions : List String
  /-- What is said of a DAgger Episode. -/
  dagger : Option DaggerMetadata
  /-- What is said of an inference Episode. -/
  infer : Option InferFacts

/-- The metrics belong to the streams of the request. -/
def MetricsMatch (streams : List StreamSpec) (metrics : List StreamMetrics) : Prop :=
  (metrics.map StreamMetrics.id).Nodup ∧
    (metrics.map StreamMetrics.id).toFinset = (streams.map StreamSpec.id).toFinset

instance (streams : List StreamSpec) : DecidablePred (MetricsMatch streams) := fun metrics =>
  inferInstanceAs (Decidable ((metrics.map StreamMetrics.id).Nodup ∧
    (metrics.map StreamMetrics.id).toFinset = (streams.map StreamSpec.id).toFinset))

/-- The facts of an inference Episode once it was recorded. -/
def InferFacts.recorded (infer : InferFacts) (outcome : EpisodeOutcome) (errors : List String) :
    InferFacts :=
  { infer with
    recordingCompleted := true
    terminationReason :=
      if errors ≠ [] ∧ outcome = .fail then some .runtimeFault else infer.terminationReason }

/-- `build_metadata` -/
def buildMetadata (request : EpisodeRequest) (result : EpisodeResult) (softwareVersion : String)
    (extensions : List String) (metadataContext : Option MetadataContext) :
    Except PyError EpisodeMetadata :=
  let context := metadataContext.getD .demonstration
  if ¬ MetricsMatch request.streams result.streamMetrics then
    .error ⟨.valueError, "StreamSpec and StreamMetrics ids must match"⟩
  else if context.collectionType = .infer ∧ "infer" ∈ extensions then
    .error ⟨.valueError, "duplicate infer metadata extension"⟩
  else .ok
    { collectionType := context.collectionType
      episodeId := result.episodeId
      taskId := request.taskId
      taskDescription := request.taskDescription
      outcome := result.outcome
      startedAt := result.startedAt
      endedAt := result.endedAt
      durationS := result.durationS
      streams := request.streams.filterMap fun stream =>
        (result.streamMetrics.find? (·.id = stream.id)).map (stream, ·)
      softwareVersion
      errors := result.errors
      extensions := if context.collectionType = .infer then extensions ++ ["infer"] else extensions
      dagger := context.dagger
      infer := context.infer.map (·.recorded result.outcome result.errors) }

/-- The document says what the result says. -/
theorem buildMetadata_ok {request : EpisodeRequest} {result : EpisodeResult}
    {softwareVersion : String} {extensions : List String} {context : Option MetadataContext}
    {document : EpisodeMetadata}
    (h : buildMetadata request result softwareVersion extensions context = .ok document) :
    document.episodeId = result.episodeId ∧ document.outcome = result.outcome ∧
      document.errors = result.errors ∧ document.infer =
        (context.getD .demonstration).infer.map (·.recorded result.outcome result.errors) := by
  unfold buildMetadata at h
  dsimp only at h
  split at h
  · cases h
  split at h
  · cases h
  cases h
  exact ⟨rfl, rfl, rfl, rfl⟩

end DualCollection
