import DualCollection.Episode.Store

/-!
# The finalizer

`McapFinalizer` of `episode/finalization.py` over a file tree: the closed recording is compressed
into a temporary file, the temporary file is checked, and only then it takes the place of the
recording.

Every call is a section named by a `FinalizerCall`, and may raise.  The external tools are calls
too: the compressor may leave anything at the temporary path, also when it raises, and changes
nothing else; `doctor` changes nothing.  What the auditor reads in a file is a function of its
contents.
-/

namespace DualCollection

open Files Thread

/-- `GIB` -/
def gib : ℕ := 1024 ^ 3

/-- The calls of the finalizer. -/
inductive FinalizerCall
  | isFile
  | sourceStat
  | availableMemory
  | diskFree
  | temporaryExists
  | clock
  | compress
  | outputIsFile
  | outputStat
  | doctor
  | warningSink (message : String)
  | auditor
  | finalStat
  | replace
  deriving DecidableEq

variable (B : Type) in
/-- What a call answers. -/
structure FinalizerAnswer where
  /-- The exception that is raised, if any. -/
  raises : Option PyError := none
  /-- `self.available_memory()` and `self.disk_free(directory)` -/
  bytes : ℕ := 0
  /-- `self.clock()` -/
  clock : ℚ := 0
  /-- What the compressor leaves at the temporary path, if anything. -/
  output : Option B := none
  /-- The lines that `doctor` prints, without the blanks around them. -/
  warnings : List String := []

variable (B : Type) in
/-- The arguments of the constructor. -/
structure McapFinalizer where
  /-- `enabled` -/
  enabled : Bool
  /-- What the auditor reads in a file. -/
  auditor : B → List StreamSpec → List StreamMetrics
  /-- The size of a file. -/
  size : B → ℕ

/-- `mcap_compression` of the metadata. -/
structure CompressionMetadata where
  /-- `algorithm` -/
  algorithm : String
  /-- `status` -/
  status : String
  /-- `source_bytes` -/
  sourceBytes : ℕ
  /-- `output_bytes` -/
  outputBytes : ℕ
  /-- `compression_s` -/
  compressionS : ℚ
  /-- `doctor_s` -/
  doctorS : ℚ

/-- What of the metrics of a stream is compared. -/
def StreamMetrics.signature (m : StreamMetrics) : String × ℕ × ℚ × ℚ × ℚ :=
  (m.id, m.count, m.durationS, m.observedHz, m.maxGapMs)

/-- The line is no complaint about the order of messages of different topics. -/
def isReported (warning : String) : Bool :=
  warning ≠ "" && !(decide ("Warning: Message.log_time ".toList <+: warning.toList) &&
    decide (" is less than the latest log time ".toList <:+: warning.toList))

namespace McapFinalizer

variable {B : Type} (finalizer : McapFinalizer B)

variable (B) in
/-- A program of the finalizer. -/
abbrev Program (α : Type) := Prog FinalizerCall (FinalizerAnswer B) (FileTree B) PyError α

/-- A call that reads the tree. -/
def reads {α : Type} (l : FinalizerCall) (f : FinalizerAnswer B → FileTree B → α) : Program B α :=
  look FinalizerAnswer.raises l f

/-- `path.stat().st_size` -/
def stat (l : FinalizerCall) (path : Path) : Program B ℕ :=
  .atomic l fun a t => match a.raises with
    | some err => (.error err, t)
    | none => match t.entry path with
      | some (.file b) => (.ok (finalizer.size b), t)
      | some .directory => (.ok 0, t)
      | none => (.error OsError.noEntry.toPyError, t)

/-- Run the compressor. -/
def compress (temporary : Path) : Program B Unit :=
  .atomic .compress fun a t =>
    let t' := match a.output with
      | some b => match t.write temporary b with
        | .ok t' => t'
        | .error _ => t
      | none => t
    match a.raises with
    | some err => (.error err, t')
    | none => (.ok (), t')

/-- `self.auditor(path, streams)` -/
def audit (path : Path) (streams : List StreamSpec) : Program B (List StreamMetrics) :=
  .atomic .auditor fun a t => match a.raises with
    | some err => (.error err, t)
    | none => match t.entry path with
      | some (.file b) => (.ok (finalizer.auditor b streams), t)
      | _ => (.error OsError.noEntry.toPyError, t)

/-- `_require_capacity` -/
def requireCapacity (sourceBytes : ℕ) : Program B Unit := do
  let requiredMemory := max sourceBytes (10 * gib) + 2 * gib
  let availableMemory ← reads .availableMemory fun a _ => a.bytes
  if availableMemory < requiredMemory then
    .raise ⟨.exception, "insufficient available memory for MCAP compression: " ++
      toString availableMemory ++ " < " ++ toString requiredMemory ++ " bytes"⟩
  else do
    let requiredDisk := sourceBytes + gib
    let freeDisk ← reads .diskFree fun a _ => a.bytes
    if freeDisk < requiredDisk then
      .raise ⟨.exception, "insufficient disk space for MCAP compression: " ++
        toString freeDisk ++ " < " ++ toString requiredDisk ++ " bytes"⟩
    else pure ()

/-- Report what `doctor` has found. -/
def report : List String → Program B Unit
  | [] => pure ()
  | warning :: warnings => do
    if isReported warning then reads (.warningSink ("mcap doctor: " ++ warning)) fun _ _ => ()
    else pure ()
    report warnings

/-- The temporary file next to a recording. -/
def temporaryPath (mcapPath : Path) : Path :=
  mcapPath.dropLast ++ ["." ++ mcapPath.getLastD "" ++ ".zstd.tmp"]

/-- What `finalize` does once the compressor has returned. -/
def verify (mcapPath : Path) (streams : List StreamSpec) (expectedMetrics : List StreamMetrics)
    (sourceBytes : ℕ) (compressionStarted : ℚ) : Program B CompressionMetadata := do
  let temporary := temporaryPath mcapPath
  let compressionEnded ← reads .clock fun a _ => a.clock
  if ¬ (← reads .outputIsFile fun _ t => t.isFile temporary) then
    .raise ⟨.runtimeError, "mcap compress did not produce a non-empty output"⟩
  else if (← finalizer.stat .outputStat temporary) = 0 then
    .raise ⟨.runtimeError, "mcap compress did not produce a non-empty output"⟩
  else do
    let doctorStarted ← reads .clock fun a _ => a.clock
    let warnings ← reads .doctor fun a _ => a.warnings
    let doctorEnded ← reads .clock fun a _ => a.clock
    report warnings
    let actualMetrics ← finalizer.audit temporary streams
    if actualMetrics.map StreamMetrics.signature ≠
        expectedMetrics.map StreamMetrics.signature then
      .raise ⟨.runtimeError, "compressed MCAP stream metrics differ from source"⟩
    else do
      let outputBytes ← finalizer.stat .finalStat temporary
      syscall FinalizerAnswer.raises OsError.toPyError .replace fun _ t =>
        t.rename temporary mcapPath
      pure ⟨"zstd", "compressed", sourceBytes, outputBytes,
        compressionEnded - compressionStarted, doctorEnded - doctorStarted⟩

/-- `finalize` -/
def finalize (mcapPath : Path) (streams : List StreamSpec) (expectedMetrics : List StreamMetrics) :
    Program B CompressionMetadata := do
  if ¬ (← reads .isFile fun _ t => t.isFile mcapPath) then
    .raise ⟨.exception, "/" ++ "/".intercalate mcapPath⟩
  else do
    let sourceBytes ← finalizer.stat .sourceStat mcapPath
    if sourceBytes = 0 then .raise ⟨.runtimeError, "cannot finalize an empty MCAP"⟩
    else if ¬ finalizer.enabled then pure ⟨"none", "skipped", sourceBytes, sourceBytes, 0, 0⟩
    else do
      requireCapacity sourceBytes
      if ← reads .temporaryExists fun _ t => t.exists (temporaryPath mcapPath) then
        .raise ⟨.exception, "/" ++ "/".intercalate (temporaryPath mcapPath)⟩
      else do
        let compressionStarted ← reads .clock fun a _ => a.clock
        compress (temporaryPath mcapPath)
        finalizer.verify mcapPath streams expectedMetrics sourceBytes compressionStarted

/-! ### What the finalizer does -/

/-- The contents are an output of the compressor in the run `tr`, and the audit reads in them what
was seen while they were recorded. -/
structure Audited (streams : List StreamSpec) (expectedMetrics : List StreamMetrics)
    (tr : List (FinalizerCall × FinalizerAnswer B)) (b : B) : Prop where
  /-- The compressor has left them at the temporary path. -/
  output : ∃ a, (.compress, a) ∈ tr ∧ a.output = some b
  /-- The metrics are those of the recording. -/
  metrics : (finalizer.auditor b streams).map StreamMetrics.signature =
    expectedMetrics.map StreamMetrics.signature

/-- What `finalize` does. -/
inductive Finalizes (t : FileTree B) (mcapPath : Path) (streams : List StreamSpec)
    (expectedMetrics : List StreamMetrics) (tr : List (FinalizerCall × FinalizerAnswer B)) :
    Except PyError CompressionMetadata → FileTree B → Prop
  /-- It raises an exception, and the recording is as it was. -/
  | refused {err : PyError} {t' : FileTree B}
    (same : ∀ q, q ≠ temporaryPath mcapPath → t'.entry q = t.entry q) :
    Finalizes t mcapPath streams expectedMetrics tr (.error err) t'
  /-- There is nothing to do. -/
  | skipped {metadata : CompressionMetadata} (disabled : finalizer.enabled = false) :
    Finalizes t mcapPath streams expectedMetrics tr (.ok metadata) t
  /-- The recording was replaced. -/
  | replaced {metadata : CompressionMetadata} {t' : FileTree B} {b : B}
    (audited : finalizer.Audited streams expectedMetrics tr b)
    (entry : ∀ q, t'.entry q = if q = mcapPath then some (.file b)
      else if q = temporaryPath mcapPath then none else t.entry q) :
    Finalizes t mcapPath streams expectedMetrics tr (.ok metadata) t'

variable {finalizer} {t : FileTree B} {mcapPath : Path}

theorem temporaryPath_ne (mcapPath : Path) : temporaryPath mcapPath ≠ mcapPath := by
  intro h
  by_cases hnil : mcapPath = []
  · subst hnil
    simp [temporaryPath] at h
  · have hlast : mcapPath = mcapPath.dropLast ++ [mcapPath.getLast hnil] :=
      (List.dropLast_append_getLast hnil).symm
    have hget : mcapPath.getLastD "" = mcapPath.getLast hnil := by
      rw [List.getLastD_eq_getLast?, List.getLast?_eq_some_getLast hnil]
      rfl
    rw [temporaryPath, hget] at h
    nth_rewrite 3 [hlast] at h
    have hname := List.append_cancel_left h
    simp only [List.cons.injEq, and_true] at hname
    have hlen := congrArg (fun name => name.toList.length) hname
    simp only [String.toList_append, List.length_append] at hlen
    have hdot : ".".toList.length = 1 := rfl
    omega

theorem stat_post {l : FinalizerCall} {path : Path} {Q : Except PyError ℕ → FileTree B → Prop}
    (herr : ∀ err, Q (.error err) t) (h : ∀ n, Q (.ok n) t) : (finalizer.stat l path).Post t Q :=
  Prog.ends_atomic fun a => by
    cases a.raises with
    | some err => exact herr err
    | none =>
      dsimp only
      split
      · exact h _
      · exact h _
      · exact herr _

theorem audit_post {path : Path} {streams : List StreamSpec}
    {Q : Except PyError (List StreamMetrics) → FileTree B → Prop} (herr : ∀ err, Q (.error err) t)
    (h : ∀ b, t.entry path = some (.file b) → Q (.ok (finalizer.auditor b streams)) t) :
    (finalizer.audit path streams).Post t Q :=
  Prog.ends_atomic fun a => by
    cases a.raises with
    | some err => exact herr err
    | none =>
      dsimp only
      split
      · rename_i b hb
        exact h b hb
      · exact herr _

theorem report_post {warnings : List String} {Q : Except PyError Unit → FileTree B → Prop}
    (herr : ∀ err, Q (.error err) t) (h : Q (.ok ()) t) :
    (report warnings : Program B Unit).Post t Q := by
  induction warnings with
  | nil => exact Prog.post_ret h
  | cons warning warnings ih =>
    rw [report]
    split
    · exact look_bind_post herr fun _ => ih
    · exact ih

theorem requireCapacity_post {sourceBytes : ℕ} {Q : Except PyError Unit → FileTree B → Prop}
    (herr : ∀ err, Q (.error err) t) (h : Q (.ok ()) t) :
    (requireCapacity sourceBytes : Program B Unit).Post t Q := by
  unfold requireCapacity
  refine look_bind_post herr fun _ => ?_
  split
  · exact Prog.post_ret (herr _)
  refine look_bind_post herr fun _ => ?_
  split
  · exact Prog.post_ret (herr _)
  · exact Prog.post_ret h

/-- The temporary file is audited before it takes the place of the recording. -/
theorem verify_post {streams : List StreamSpec} {expectedMetrics : List StreamMetrics}
    {sourceBytes : ℕ} {compressionStarted : ℚ} (hmcap : t.entry mcapPath ≠ some .directory) :
    (finalizer.verify mcapPath streams expectedMetrics sourceBytes compressionStarted).Post t
      fun r t' => match r with
      | .error _ => t' = t
      | .ok _ => ∃ b, t.entry (temporaryPath mcapPath) = some (.file b) ∧
          (finalizer.auditor b streams).map StreamMetrics.signature =
            expectedMetrics.map StreamMetrics.signature ∧
          ∀ q, t'.entry q = if q = mcapPath then some (.file b)
            else if q = temporaryPath mcapPath then none else t.entry q := by
  unfold verify
  refine look_bind_post (fun _ => rfl) fun _ => ?_
  refine look_bind_post (fun _ => rfl) fun _ => ?_
  split
  · exact Prog.post_ret rfl
  refine Prog.post_bind (stat_post (fun _ => rfl) fun n => ?_)
  dsimp only
  split
  · exact Prog.post_ret rfl
  refine look_bind_post (fun _ => rfl) fun _ => ?_
  refine look_bind_post (fun _ => rfl) fun _ => ?_
  refine look_bind_post (fun _ => rfl) fun _ => ?_
  refine Prog.post_bind (report_post (fun _ => rfl) ?_)
  refine Prog.post_bind (audit_post (fun _ => rfl) fun b hb => ?_)
  dsimp only
  split
  · exact Prog.post_ret rfl
  rename_i hmetrics
  refine Prog.post_bind (stat_post (fun _ => rfl) fun n => ?_)
  refine Prog.post_bind (syscall_post (fun _ => rfl) fun _ t' hrename => ?_)
  have hentry := FileTree.rename_file hrename (temporaryPath_ne mcapPath) (by simp [hb]) hmcap
  refine Prog.post_ret ⟨b, hb, not_not.1 hmetrics, fun q => ?_⟩
  rw [hentry, hb]

section

variable {streams : List StreamSpec} {expectedMetrics : List StreamMetrics}

theorem Finalizes.mono {tr tr' : List (FinalizerCall × FinalizerAnswer B)}
    {r : Except PyError CompressionMetadata} {t' : FileTree B} (hsub : tr ⊆ tr')
    (h : finalizer.Finalizes t mcapPath streams expectedMetrics tr r t') :
    finalizer.Finalizes t mcapPath streams expectedMetrics tr' r t' := by
  cases h with
  | refused same => exact .refused same
  | skipped disabled => exact .skipped disabled
  | replaced audited entry =>
    obtain ⟨⟨a, ha, hb⟩, hm⟩ := audited
    exact .replaced ⟨⟨a, hsub ha, hb⟩, hm⟩ entry

/-- Go on after a part that changes nothing. -/
theorem finalizes_bind {α : Type} {p : Program B α} {f : α → Program B CompressionMetadata}
    (h : p.Post t fun r t' => t' = t ∧ ∀ a, r = .ok a →
      (f a).Ends t (finalizer.Finalizes t mcapPath streams expectedMetrics)) :
    (p >>= f).Ends t (finalizer.Finalizes t mcapPath streams expectedMetrics) := by
  refine Prog.ends_bind (Prog.Ends.mono h fun tr r t' hr => ?_)
  obtain ⟨rfl, hr⟩ := hr
  cases r with
  | error err => exact .refused fun _ _ => rfl
  | ok a => exact (hr a rfl).mono fun tr' r t'' => .mono (List.subset_append_right tr tr')

/-- `finalize` replaces the recording only by an output that was audited. -/
theorem finalize_ends : (finalizer.finalize mcapPath streams expectedMetrics).Ends t
    (finalizer.Finalizes t mcapPath streams expectedMetrics) := by
  have hraise : ∀ err : PyError, (Prog.raise err : Program B CompressionMetadata).Ends t
      (finalizer.Finalizes t mcapPath streams expectedMetrics) :=
    fun _ => Prog.ends_ret (.refused fun _ _ => rfl)
  unfold finalize
  refine finalizes_bind (look_post (fun _ => ⟨rfl, by simp⟩) fun _ => ⟨rfl, ?_⟩)
  rintro _ ⟨⟩
  split
  · exact hraise _
  rename_i hfile
  obtain ⟨source, hsource⟩ := FileTree.isFile_eq.1 (not_not.1 hfile)
  refine finalizes_bind (stat_post (fun _ => ⟨rfl, by simp⟩) fun n => ⟨rfl, ?_⟩)
  rintro _ ⟨⟩
  split
  · exact hraise _
  split
  · rename_i hdisabled
    exact Prog.ends_ret (.skipped (by simpa using hdisabled))
  refine finalizes_bind (requireCapacity_post (fun _ => ⟨rfl, by simp⟩) ⟨rfl, ?_⟩)
  rintro _ ⟨⟩
  refine finalizes_bind (look_post (fun _ => ⟨rfl, by simp⟩) fun _ => ⟨rfl, ?_⟩)
  rintro _ ⟨⟩
  split
  · exact hraise _
  rename_i htemporary
  rw [FileTree.not_exists_eq] at htemporary
  refine finalizes_bind (look_post (fun _ => ⟨rfl, by simp⟩) fun _ => ⟨rfl, ?_⟩)
  rintro _ ⟨⟩
  -- the compressor leaves what it wants at the temporary path
  refine Prog.ends_bind (Prog.ends_atomic fun a => ?_)
  have hcompressed : ∃ t₁, (match a.output with
      | some b => match t.write (temporaryPath mcapPath) b with
        | .ok t' => t'
        | .error _ => t
      | none => t) = t₁ ∧ (∀ q, q ≠ temporaryPath mcapPath → t₁.entry q = t.entry q) ∧
      ∀ b, t₁.entry (temporaryPath mcapPath) = some (.file b) → a.output = some b := by
    refine ⟨_, rfl, ?_⟩
    split
    · rename_i b hb
      split
      · rename_i t' hwrite
        have hentry := (FileTree.write_ok hwrite).2.2
        refine ⟨fun q hq => by rw [hentry, if_neg hq], fun b' hb' => ?_⟩
        rw [hentry, if_pos rfl] at hb'
        cases hb'
        exact hb
      · exact ⟨fun _ _ => rfl, fun b' hb' => by simp [htemporary] at hb'⟩
    · exact ⟨fun _ _ => rfl, fun b' hb' => by simp [htemporary] at hb'⟩
  obtain ⟨t₁, ht₁, hsame, houtput⟩ := hcompressed
  dsimp only
  rw [ht₁]
  cases a.raises with
  | some err => exact .refused hsame
  | none =>
    have hmcap : t₁.entry mcapPath ≠ some .directory := by
      rw [hsame _ (temporaryPath_ne mcapPath).symm, hsource]
      simp
    refine Prog.Ends.mono (verify_post hmcap) fun tr r t' hr => ?_
    cases r with
    | error err =>
      obtain rfl : t' = t₁ := hr
      exact .refused hsame
    | ok metadata =>
      obtain ⟨b, hb, hmetrics, hentry⟩ := hr
      refine .replaced ⟨⟨a, by simp, houtput b hb⟩, hmetrics⟩ fun q => ?_
      rw [hentry]
      by_cases hq : q = temporaryPath mcapPath
      · simp [hq, temporaryPath_ne]
      · rw [if_neg hq, if_neg hq, hsame q hq]

end

end McapFinalizer

end DualCollection
