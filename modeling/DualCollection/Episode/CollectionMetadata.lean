import DualCollection.Authority.Timeline
import DualCollection.Control.Profile

/-!
# How an Episode was collected

`collection_metadata.py`: the sections of the metadata document that belong to the way in which an
Episode was collected, with what their constructors check.  The facts of an inference Episode are a
dictionary in the source; what no program reads of it (the schema version, the configuration and
the recording time after the last action) is left out.
-/

namespace DualCollection

/-- The ways to collect an Episode. -/
inductive CollectionType
  | demonstration
  | dagger
  | infer
  deriving DecidableEq, Repr

/-- No segment starts before `previousEnd` or before the end of the one before it. -/
def SegmentsOrdered : ℚ → List ControlSegment → Prop
  | _, [] => True
  | previousEnd, segment :: segments =>
    previousEnd ≤ segment.startedOffsetS ∧ SegmentsOrdered segment.endedOffsetS segments

/-- `SegmentsOrdered` can be evaluated. -/
def decideSegmentsOrdered : (previousEnd : ℚ) → (segments : List ControlSegment) →
    Decidable (SegmentsOrdered previousEnd segments)
  | _, [] => isTrue trivial
  | previousEnd, segment :: segments =>
    haveI := decideSegmentsOrdered segment.endedOffsetS segments
    inferInstanceAs (Decidable (previousEnd ≤ segment.startedOffsetS ∧ _))

instance (previousEnd : ℚ) : DecidablePred (SegmentsOrdered previousEnd) :=
  decideSegmentsOrdered previousEnd

/-- What is said of a DAgger Episode. -/
structure DaggerMetadata where
  /-- The checkpoint. -/
  checkpointSha256 : String
  /-- How often the operator has taken over. -/
  interventionCount : ℕ
  /-- Who commanded when. -/
  controlSegments : List ControlSegment
  /-- `checkpoint_sha256 must contain 64 hexadecimal characters` -/
  checkpointSha256_valid : IsSha256 checkpointSha256
  /-- `control segments must be ordered and non-overlapping` -/
  controlSegments_ordered : SegmentsOrdered 0 controlSegments
  /-- `control segment intervention_id exceeds intervention_count` -/
  interventionId_le : ∀ segment ∈ controlSegments, ∀ id ∈ segment.interventionId,
    id ≤ interventionCount

/-- The constructor of `DaggerMetadata` with its checks. -/
def DaggerMetadata.make (checkpointSha256 : String) (interventionCount : ℕ)
    (controlSegments : List ControlSegment) : Except PyError DaggerMetadata :=
  if hsha : IsSha256 checkpointSha256.toLower then
    if hordered : SegmentsOrdered 0 controlSegments then
      if hid : ∀ segment ∈ controlSegments, ∀ id ∈ segment.interventionId,
          id ≤ interventionCount then
        .ok ⟨checkpointSha256.toLower, interventionCount, controlSegments, hsha, hordered, hid⟩
      else .error ⟨.valueError, "control segment intervention_id exceeds intervention_count"⟩
    else .error ⟨.valueError, "control segments must be ordered and non-overlapping"⟩
  else .error ⟨.valueError, "checkpoint_sha256 must contain 64 hexadecimal characters"⟩

/-- Why an inference Episode ended. -/
inductive TerminationReason
  | humanLabel
  | labelConflict
  | operatorAbort
  | runtimeFault
  deriving DecidableEq, Repr

/-- Who gave the label of an inference Episode. -/
inductive LabelSource
  | rightPedal
  | leftPedal
  | bothPedals
  deriving DecidableEq, Repr

/-- The facts of an inference Episode. -/
structure InferFacts where
  /-- `started_monotonic_ns` -/
  startedMonotonicNs : ℤ
  /-- `label_monotonic_ns` -/
  labelMonotonicNs : Option ℤ := none
  /-- `label_source` -/
  labelSource : Option LabelSource := none
  /-- `termination_reason` -/
  terminationReason : Option TerminationReason := none
  /-- `actions_stopped_monotonic_ns`, if it was set. -/
  actionsStoppedMonotonicNs : Option ℤ := none
  /-- `ended_monotonic_ns`, if it was set. -/
  endedMonotonicNs : Option ℤ := none
  /-- `command_count`, if it was set. -/
  commandCount : Option ℕ := none
  /-- `last_command_monotonic_ns` -/
  lastCommandMonotonicNs : Option ℤ := none
  /-- `recording_stop_requested_monotonic_ns`, if it was set. -/
  recordingStopRequestedMonotonicNs : Option ℤ := none
  /-- `recording_completed` -/
  recordingCompleted : Bool := false
  deriving DecidableEq, Repr

/-- `MetadataContext` -/
structure MetadataContext where
  /-- How the Episode was collected. -/
  collectionType : CollectionType
  /-- What is said of a DAgger Episode. -/
  dagger : Option DaggerMetadata := none
  /-- What is said of an inference Episode. -/
  infer : Option InferFacts := none
  /-- `infer metadata is required only for infer collection` -/
  infer_iff : collectionType = .infer ↔ infer.isSome = true
  /-- `dagger collection requires DaggerMetadata`, which is only valid for it. -/
  dagger_iff : collectionType = .dagger ↔ dagger.isSome = true

/-- `MetadataContext.demonstration()` -/
def MetadataContext.demonstration : MetadataContext where
  collectionType := .demonstration
  infer_iff := by simp
  dagger_iff := by simp

end DualCollection
