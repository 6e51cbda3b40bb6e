import DualCollection.Episode.Store
import DualCollection.Files.Replace
import DualCollection.Station.Migration

/-!
# The store of the station configuration

`StationConfigStore` of `station/store.py` over a file tree.  `commit` writes a file next to that of the
configuration, loads it, and puts it in its place; `set_ros_domain_id` loads the configuration,
changes it and commits it.

Every system call is a section named by a `StationConfigStore.Call`.  It may raise what the
environment says, and then has no effect but on the temporary file.  `commit_under` has all that a
commit does.
-/

namespace DualCollection

open Files Thread StationConfig

/-- `StationConfigStore`, with its path. -/
structure StationConfigStore where
  /-- The directory of the file. -/
  parent : Path
  /-- The name of the file. -/
  name : String

namespace StationConfigStore

/-- The calls of the store. -/
inductive Call
  | isFile
  | read
  | mkdir
  | mkstemp
  | fchmod
  | fdopen
  | write
  | flush
  | fsync
  | close
  | replace
  | openDirectory
  | fsyncDirectory
  | closeDirectory
  | closeDescriptor
  | unlink
  deriving DecidableEq

/-- What the environment answers. -/
structure Answer (W : Type) where
  /-- The exception of the call. -/
  raises : Option StationError := none
  /-- The random part of the name of a temporary file; it is in use if all that were tried are. -/
  random : String := ""
  /-- What a call that writes has left in the file, unless it has written everything. -/
  contents : Option W := none

/-- What the system answers, unless its answer is an exception. -/
def osError (err : OsError) : StationError := .osError err.toPyError.text

/-- The programs of the store. -/
abbrev Program (W α : Type) := Prog Call (Answer W) (FileTree W) StationError α

variable (store : StationConfigStore) {W : Type} (codec : Json.Codec W) (blank : W)

/-- `self.path` -/
def path : Path := store.parent ++ [store.name]

/-- The path of a temporary file. -/
def temporary (random : String) : Path :=
  store.parent ++ ["." ++ store.name ++ "." ++ random ++ ".tmp"]

/-- A call without an effect on the tree. -/
def calls (l : Call) : Program W Unit := look Answer.raises l fun _ _ => ()

/-- `path.read_text()` -/
def readText (t : FileTree W) (path : Path) : Except String W :=
  match t.entry path with
  | some (.file b) => .ok b
  | some .directory => .error OsError.isDirectory.toPyError.text
  | none => .error OsError.noEntry.toPyError.text

/-- `load_station_config` -/
def loadStationConfig (path : Path) : Program W StationConfig :=
  .atomic .read fun a t => match a.raises with
    | some (.osError text) => (load codec (.error text), t)
    | some err => (.error err, t)
    | none => (load codec (readText t path), t)

/-- `tempfile.mkstemp` -/
def mkstemp : Program W Path :=
  .atomic .mkstemp fun a t => match a.raises with
    | some err => (.error err, t)
    | none =>
      if t.exists (store.temporary a.random) then (.error (osError .exists), t)
      else match t.write (store.temporary a.random) blank with
        | .ok t' => (.ok (store.temporary a.random), t')
        | .error err => (.error (osError err), t)

/-- The file, after a call that may have written some of the data. -/
def touched (temporary : Path) (a : Answer W) (t : FileTree W) : FileTree W :=
  match a.contents with
  | some b => match t.write temporary b with
    | .ok t' => t'
    | .error _ => t
  | none => t

/-- A call that may write some of the data. -/
def touch (l : Call) (temporary : Path) : Program W Unit :=
  .atomic l fun a t => match a.raises with
    | some err => (.error err, touched temporary a t)
    | none => (.ok (), touched temporary a t)

/-- `output.flush()` -/
def flush (data : W) (temporary : Path) : Program W Unit :=
  .atomic .flush fun a t => match a.raises with
    | some err => (.error err, touched temporary a t)
    | none => match t.write temporary data with
      | .ok t' => (.ok (), t')
      | .error err => (.error (osError err), t)

/-- `with os.fdopen(descriptor, "wb") as output`: what was not flushed may be written when the file is
closed. -/
def output (data : W) (temporary : Path) : Program W Unit := do
  calls .fdopen
  (do
    touch .write temporary
    flush data temporary
    calls .fsync).andThen fun
    | .ok () => calls .close
    | .error err => do
      touch .close temporary
      .raise err

/-- What is done before the replacement. -/
def stage (data : W) (temporary : Path) : Program W StationConfig := do
  calls .fchmod
  output data temporary
  loadStationConfig codec temporary

/-- What is done after the replacement. -/
def syncDirectory : Program W Unit := do
  calls .openDirectory
  (calls .fsyncDirectory).tryFinally (calls .closeDirectory)

/-- `except BaseException` -/
def cleanup (temporary : Path) (err : StationError) : Program W Unit := do
  (calls .closeDescriptor).tryCatch fun
    | .osError _ => pure ()
    | err => .raise err
  syscall Answer.raises osError .unlink fun _ t => t.unlink temporary
  .raise err

/-- The body of the `try` of `commit`. -/
def replaceFile (data : W) (temporary : Path) : Program W Unit := do
  let _ ← stage codec data temporary
  syscall Answer.raises osError .replace fun _ t => t.rename temporary store.path
  syncDirectory

/-- `commit` -/
def commit (station : StationConfig) : Program W Unit := do
  let data := codec.dumps (.obj station.payload)
  syscall Answer.raises osError .mkdir fun _ t => t.mkdirs store.parent
  let temporary ← store.mkstemp blank
  (store.replaceFile codec data temporary).tryCatch (cleanup temporary)

/-- `set_ros_domain_id` -/
def setRosDomainId (rosDomainId : Json) : Program W StationConfig := do
  let isFile ← look Answer.raises .isFile fun _ t => t.isFile store.path
  if !isFile then .raise (.valueError
    ("station configuration is missing: /" ++ "/".intercalate store.path))
  else do
    let station ← loadStationConfig codec store.path
    if station.triggers = none then .raise (.valueError
      ("station schema v1 cannot be upgraded in place; run " ++
        "'arx5-collect station configure'"))
    else match validateRosDomainId rosDomainId with
      | .error err => .raise err
      | .ok rosDomainId => do
        let updated : StationConfig := { station with
          schemaVersion := .int stationSchemaVersion, rosDomainId := some rosDomainId }
        store.commit codec blank updated
        pure updated

/-! ### What a commit does -/

/-- Only the entry of the temporary file has changed. -/
def Elsewhere (temporary : Path) (t t' : FileTree W) : Prop :=
  ∀ q, q ≠ temporary → t'.entry q = t.entry q

variable {store codec blank} {A : Call × Answer W → Prop} {t t' t'' : FileTree W} {data : W}
  {random : String}

theorem Elsewhere.trans {temporary : Path} (h : Elsewhere temporary t t')
    (h' : Elsewhere temporary t' t'') : Elsewhere temporary t t'' :=
  fun q hq => (h' q hq).trans (h q hq)

/-- The temporary file is another one. -/
theorem path_ne_temporary : store.path ≠ store.temporary random := by
  intro h
  have hname : store.name = "." ++ store.name ++ "." ++ random ++ ".tmp" := by
    simpa [path, temporary] using h
  have hlength := congrArg String.length hname
  simp only [String.length_append] at hlength
  have hdot : ".".length = 1 := rfl
  omega

theorem elsewhere_write {temporary : Path} {b : W} (h : t.write temporary b = .ok t') :
    Elsewhere temporary t t' := by
  intro q hq
  rw [(FileTree.write_ok h).2.2, if_neg hq]

theorem elsewhere_touched {temporary : Path} {a : Answer W} :
    Elsewhere temporary t (touched temporary a t) := by
  unfold touched
  split
  · split
    · rename_i h
      exact elsewhere_write h
    · exact fun q _ => rfl
  · exact fun q _ => rfl

variable (store codec A t data) in
/-- Why a commit raises. -/
inductive Reason : Prop
  /-- A call has raised. -/
  | raised (x : Call × Answer W) (hx : A x) (h : x.2.raises ≠ none)
  /-- The names of the temporary files are in use. -/
  | taken (a : Answer W) (ha : A (.mkstemp, a)) (h : t.entry (store.temporary a.random) ≠ none)
  /-- What was written is not loaded. -/
  | refused (err : StationError) (h : load codec (.ok data) = .error err)
  /-- There is no directory for the file. -/
  | parent (h : t.entry store.parent ≠ some .directory)
  /-- There is a directory in its place. -/
  | directory (h : t.entry store.path = some .directory)

variable (store codec A t data) in
/-- What a commit has done when it ends. -/
inductive Committed (r : Except StationError Unit) (t' : FileTree W) : Prop
  /-- It has raised before the replacement. -/
  | kept (h : t'.entry store.path = t.entry store.path) (err : StationError) (hr : r = .error err)
    (why : Reason store codec A t data)
  /-- It has replaced the file, and gone on to its directory. -/
  | replaced (h : t'.entry store.path = some (.file data)) (c : StationConfig)
    (hload : load codec (.ok data) = .ok c) (a : Answer W) (ha : A (.openDirectory, a))
    (why : ∀ err, r = .error err → Reason store codec A t data)

theorem calls_under {l : Call} : (calls l : Program W Unit).Under (Given A) t () fun r t' _ =>
    t' = t ∧ (∃ a, A (l, a)) ∧ ∀ err, r = .error err → ∃ x, A x ∧ x.2.raises ≠ none := by
  refine look_under (fun a err ha hr => ⟨rfl, ⟨a, ha⟩, fun err' h => ⟨_, ha, ?_⟩⟩)
    fun a ha hr => ⟨rfl, ⟨a, ha⟩, fun err' h => ?_⟩
  · rw [hr]
    exact Option.some_ne_none _
  · cases h

/-- A file can be written. -/
structure Writable (temporary : Path) (t : FileTree W) : Prop where
  /-- It is no directory. -/
  file : t.entry temporary ≠ some .directory
  /-- It is in a directory. -/
  parent : t.entry temporary.dropLast = some .directory

theorem Writable.touched {temporary : Path} {a : Answer W} (h : Writable temporary t) :
    Writable temporary (touched temporary a t) := by
  unfold StationConfigStore.touched
  split
  · split
    · rename_i t' hwrite
      have hentry := (FileTree.write_ok hwrite).2.2
      refine ⟨?_, ?_⟩
      · rw [hentry, if_pos rfl]
        simp
      · rw [hentry]
        split
        · rename_i hsame
          exact absurd (hsame ▸ h.parent) h.file
        · exact h.parent
    · exact h
  · exact h

theorem touch_under {l : Call} {temporary : Path} (h : Writable temporary t) :
    (touch l temporary).Under (Given A) t () fun r t' _ => Elsewhere temporary t t' ∧
      Writable temporary t' ∧ ∀ err, r = .error err → ∃ x, A x ∧ x.2.raises ≠ none :=
  Prog.under_atomic fun a _ ha => by
    cases hr : a.raises with
    | some err =>
      refine ⟨elsewhere_touched, h.touched, fun err' _ => ⟨_, ha, ?_⟩⟩
      rw [hr]
      exact Option.some_ne_none _
    | none =>
      refine ⟨elsewhere_touched, h.touched, fun err herr => ?_⟩
      cases herr

theorem flush_under {temporary : Path} (h : Writable temporary t) :
    (flush data temporary).Under (Given A) t () fun r t' _ => Elsewhere temporary t t' ∧
      Writable temporary t' ∧ (r = .ok () → t'.entry temporary = some (.file data)) ∧
        ∀ err, r = .error err → ∃ x, A x ∧ x.2.raises ≠ none :=
  Prog.under_atomic fun a _ ha => by
    cases hr : a.raises with
    | some err =>
      refine ⟨elsewhere_touched, h.touched, fun hok => ?_, fun err' _ => ⟨_, ha, ?_⟩⟩
      · cases hok
      · rw [hr]
        exact Option.some_ne_none _
    | none =>
      obtain ⟨t', ht⟩ := FileTree.exists_write h.file h.parent data
      have hentry := (FileTree.write_ok ht).2.2
      have hfile : t'.entry temporary = some (.file data) := by rw [hentry, if_pos rfl]
      simp only [ht]
      refine ⟨elsewhere_write ht, ⟨by simp [hfile], ?_⟩, fun _ => hfile, fun err herr => ?_⟩
      · rw [hentry, if_neg fun hsame => h.file (by rw [← hsame]; exact h.parent)]
        exact h.parent
      · cases herr

/-- The temporary file has the data, if nothing was raised. -/
theorem output_under {temporary : Path} (h : Writable temporary t) :
    (output data temporary).Under (Given A) t () fun r t' _ => Elsewhere temporary t t' ∧
      (r = .ok () → t'.entry temporary = some (.file data)) ∧
        ∀ err, r = .error err → ∃ x, A x ∧ x.2.raises ≠ none := by
  refine Prog.under_bind (calls_under.mono fun r t₁ _ hr => ?_)
  obtain ⟨rfl, -, hwhy⟩ := hr
  cases r with
  | error err => exact ⟨fun q _ => rfl, nofun, hwhy⟩
  | ok u =>
    refine Prog.under_andThen (Prog.Under.mono (Q := fun r t' _ => Elsewhere temporary t₁ t' ∧
      Writable temporary t' ∧ (r = .ok () → t'.entry temporary = some (.file data)) ∧
        ∀ err, r = .error err → ∃ x, A x ∧ x.2.raises ≠ none) ?_ ?_)
    · refine Prog.under_bind ((touch_under h).mono fun r t₂ _ hr => ?_)
      obtain ⟨helse, hwritable, hwhy⟩ := hr
      cases r with
      | error err => exact ⟨helse, hwritable, nofun, hwhy⟩
      | ok u =>
        refine Prog.under_bind ((flush_under hwritable).mono fun r t₃ _ hr => ?_)
        obtain ⟨helse', hwritable', hdata, hwhy⟩ := hr
        cases r with
        | error err => exact ⟨helse.trans helse', hwritable', nofun, hwhy⟩
        | ok u =>
          refine calls_under.mono fun r t₄ _ hr => ?_
          obtain ⟨rfl, -, hwhy⟩ := hr
          exact ⟨helse.trans helse', hwritable', fun _ => hdata rfl, hwhy⟩
    · rintro r t₂ ⟨⟩ ⟨helse, hwritable, hdata, hwhy⟩
      cases r with
      | ok u =>
        refine calls_under.mono fun r t₃ _ hr => ?_
        obtain ⟨rfl, -, hwhy⟩ := hr
        exact ⟨helse, fun _ => hdata rfl, hwhy⟩
      | error err =>
        refine Prog.under_bind ((touch_under hwritable).mono fun r t₃ _ hr => ?_)
        obtain ⟨helse', -, hwhy'⟩ := hr
        cases r with
        | error err' => exact ⟨helse.trans helse', nofun, hwhy'⟩
        | ok u => exact Prog.under_raise ⟨helse.trans helse', nofun, fun _ _ => hwhy err rfl⟩

/-- What was written was loaded, if nothing was raised. -/
theorem stage_under {temporary : Path} (h : Writable temporary t) :
    (stage codec data temporary).Under (Given A) t () fun r t' _ => Elsewhere temporary t t' ∧
      (∀ c, r = .ok c → t'.entry temporary = some (.file data) ∧ load codec (.ok data) = .ok c) ∧
        ∀ err, r = .error err → (∃ x, A x ∧ x.2.raises ≠ none) ∨
          ∃ err, load codec (.ok data) = .error err := by
  refine Prog.under_bind (calls_under.mono fun r t₁ _ hr => ?_)
  obtain ⟨rfl, -, hwhy⟩ := hr
  cases r with
  | error err => exact ⟨fun q _ => rfl, nofun, fun _ _ => .inl (hwhy err rfl)⟩
  | ok u =>
    refine Prog.under_bind ((output_under h).mono fun r t₂ _ hr => ?_)
    obtain ⟨helse, hdata, hwhy⟩ := hr
    cases r with
    | error err => exact ⟨helse, nofun, fun _ _ => .inl (hwhy err rfl)⟩
    | ok u =>
      have hfile := hdata rfl
      refine Prog.under_atomic fun a _ ha => ?_
      cases hr : a.raises with
      | some err =>
        have hraised : ∃ x, A x ∧ x.2.raises ≠ none :=
          ⟨_, ha, by rw [hr]; exact Option.some_ne_none _⟩
        cases err with
        | osError text => exact ⟨helse, nofun, fun _ _ => .inl hraised⟩
        | _ => exact ⟨helse, nofun, fun _ _ => .inl hraised⟩
      | none =>
        have hread : readText t₂ temporary = .ok data := by rw [readText, hfile]
        simp only [hread]
        exact ⟨helse, fun c hc => ⟨hfile, hc⟩, fun err herr => .inr ⟨err, herr⟩⟩

theorem syncDirectory_under : (syncDirectory : Program W Unit).Under (Given A) t () fun r t' _ =>
    t' = t ∧ (∃ a, A (.openDirectory, a)) ∧
      ∀ err, r = .error err → ∃ x, A x ∧ x.2.raises ≠ none := by
  refine Prog.under_bind (calls_under.mono fun r t₁ _ hr => ?_)
  obtain ⟨rfl, hopen, hwhy⟩ := hr
  cases r with
  | error err => exact ⟨rfl, hopen, hwhy⟩
  | ok u =>
    refine Prog.under_tryFinally (calls_under.mono fun r t₂ _ hr => ?_)
    obtain ⟨rfl, -, hwhy⟩ := hr
    refine calls_under.mono fun r' t₃ _ hr' => ?_
    obtain ⟨rfl, -, hwhy'⟩ := hr'
    cases r' with
    | ok u => exact ⟨rfl, hopen, hwhy⟩
    | error err => exact ⟨rfl, hopen, hwhy'⟩

theorem cleanup_under {temporary : Path} {err : StationError} :
    (cleanup temporary err).Under (Given A) t () fun r t' _ => Elsewhere temporary t t' ∧
      ∃ err', r = .error err' := by
  refine Prog.under_bind (Prog.Under.mono (Q := fun _ t' _ => t' = t) ?_ ?_)
  · refine Prog.under_tryCatch (calls_under.mono fun r t₁ _ hr => ?_)
    obtain ⟨rfl, -, -⟩ := hr
    rcases r with (text | text | text | text | text) | u
    · exact Prog.under_raise rfl
    · exact Prog.under_raise rfl
    · exact Prog.under_raise rfl
    · exact Prog.under_pure rfl
    · exact Prog.under_raise rfl
    · rfl
  · rintro r t₁ ⟨⟩ rfl
    cases r with
    | error err' => exact ⟨fun q _ => rfl, err', rfl⟩
    | ok u =>
      refine Prog.under_bind (syscall_under ?_ ?_)
      · exact fun a err' _ _ => ⟨fun q _ => rfl, err', rfl⟩
      · exact fun a t₂ _ _ ht => Prog.under_raise ⟨FileTree.unlink_ok ht, err, rfl⟩

variable (codec data) in
theorem mkstemp_under (hdir : t.entry store.parent = some .directory) :
    (store.mkstemp blank).Under (Given A) t () fun r t' _ => match r with
      | .ok temporary => (∃ random, temporary = store.temporary random) ∧
        Elsewhere temporary t t' ∧ Writable temporary t'
      | .error _ => t' = t ∧ Reason store codec A t data :=
  Prog.under_atomic fun a _ ha => by
    cases hr : a.raises with
    | some err =>
      refine ⟨rfl, .raised _ ha ?_⟩
      rw [hr]
      exact Option.some_ne_none _
    | none =>
      by_cases htaken : t.exists (store.temporary a.random) = true
      · simp only [htaken, if_true]
        exact ⟨trivial, .taken a ha (FileTree.exists_eq.1 htaken)⟩
      · have hfree := FileTree.not_exists_eq.1 htaken
        have hparent : t.entry (store.temporary a.random).dropLast = some .directory := by
          rwa [temporary, List.dropLast_concat]
        obtain ⟨t', ht⟩ := FileTree.exists_write (by rw [hfree]; simp) hparent blank
        have hentry := (FileTree.write_ok ht).2.2
        simp only [htaken, Bool.false_eq_true, if_false, ht]
        refine ⟨⟨_, rfl⟩, elsewhere_write ht, by rw [hentry, if_pos rfl]; simp, ?_⟩
        rw [hentry, if_neg, hparent]
        intro hsame
        rw [hsame, hfree] at hparent
        cases hparent

theorem parent_ne_temporary : store.parent ≠ store.temporary random := by
  intro h
  have hlength := congrArg List.length h
  rw [temporary, List.length_append, List.length_singleton] at hlength
  omega

/-- A commit, once the temporary file is there. -/
theorem replaceFile_under (hwritable : Writable (store.temporary random) t')
    (hdir : t'.entry store.parent = some .directory)
    (hpath : t'.entry store.path = t.entry store.path) :
    ((store.replaceFile codec data (store.temporary random)).tryCatch
      (cleanup (store.temporary random))).Under (Given A) t' () fun r t'' _ =>
        Committed store codec A t data r t'' := by
  -- the handler does not touch the file
  have hclean {err : StationError} {t₁ : FileTree W} (h : t₁.entry store.path = t.entry store.path)
      (hwhy : Reason store codec A t data) :
      (cleanup (store.temporary random) err).Under (Given A) t₁ () fun r t' _ =>
        Committed store codec A t data r t' :=
    cleanup_under.mono fun r t' _ hr => by
      obtain ⟨helse, err', rfl⟩ := hr
      exact .kept ((helse _ path_ne_temporary).trans h) err' rfl hwhy
  refine Prog.under_tryCatch (Prog.under_bind ((stage_under hwritable).mono fun r t₁ _ hr => ?_))
  obtain ⟨helse, hloaded, hwhy⟩ := hr
  have hpath := (helse _ path_ne_temporary).trans hpath
  cases r with
  | error err =>
    refine hclean hpath ?_
    rcases hwhy err rfl with ⟨x, hx, hraises⟩ | ⟨err', hrefused⟩
    · exact .raised x hx hraises
    · exact .refused err' hrefused
  | ok c =>
    obtain ⟨hfile, hload⟩ := hloaded c rfl
    have hne : store.temporary random ≠ store.path := path_ne_temporary.symm
    refine Prog.under_bind (syscall_under (fun a err ha hwhy => hclean hpath ?_)
      fun a t₂ ha hr ht₂ => ?_)
    · rcases hwhy with hraises | ⟨-, e, hrename, -⟩
      · exact .raised _ ha (by rw [hraises]; exact Option.some_ne_none _)
      · refine .directory ?_
        by_contra hnot
        have hparent : t₁.entry store.path.dropLast = some .directory := by
          rw [path, List.dropLast_concat, helse _ parent_ne_temporary, hdir]
        obtain ⟨t', ht'⟩ := FileTree.exists_rename hfile (by rwa [hpath]) hparent hne
        rw [ht'] at hrename
        cases hrename
    · have hreplaced : t₂.entry store.path = some (.file data) := by
        rw [(FileTree.rename_ok ht₂ hne).2, if_pos List.prefix_rfl, List.drop_length,
          List.append_nil, hfile]
      refine syncDirectory_under.mono fun r t₃ _ hr => ?_
      obtain ⟨rfl, ⟨a', ha'⟩, hwhy⟩ := hr
      cases r with
      | ok u => exact .replaced hreplaced c hload a' ha' nofun
      | error err =>
        obtain ⟨x, hx, hraises⟩ := hwhy err rfl
        refine cleanup_under.mono fun r t' _ hr => ?_
        obtain ⟨helse', err', rfl⟩ := hr
        exact .replaced ((helse' _ path_ne_temporary).trans hreplaced) c hload a' ha'
          fun _ _ => .raised x hx hraises

/-- What a commit does. -/
theorem commit_under {station : StationConfig} :
    (store.commit codec blank station).Under (Given A) t () fun r t' _ =>
      Committed store codec A t (codec.dumps (.obj station.payload)) r t' := by
  unfold commit
  generalize hdata : codec.dumps (.obj station.payload) = data
  refine Prog.under_bind (syscall_under (fun a err ha hwhy => ?_) fun a t₁ ha hr ht₁ => ?_)
  · refine .kept rfl err rfl ?_
    rcases hwhy with hraises | ⟨-, e, hmkdirs, -⟩
    · exact .raised _ ha (by rw [hraises]; exact Option.some_ne_none _)
    · refine .parent fun hdir => ?_
      rw [FileTree.mkdirs_of_isDir hdir] at hmkdirs
      cases hmkdirs
  have hmkdirs := FileTree.mkdirs_ok ht₁
  have hdir : t₁.entry store.parent = some .directory := by
    rw [hmkdirs, if_pos List.prefix_rfl]
  have hkeep (name : String) :
      t₁.entry (store.parent ++ [name]) = t.entry (store.parent ++ [name]) := by
    rw [hmkdirs, if_neg]
    intro hpre
    have hlength := hpre.length_le
    rw [List.length_append, List.length_singleton] at hlength
    omega
  -- what is a reason once the directories are there was a reason before
  have hbefore (h : Reason store codec A t₁ data) : Reason store codec A t data := by
    cases h with
    | raised x hx h => exact .raised x hx h
    | taken a ha h => exact .taken a ha (by rwa [temporary, ← hkeep])
    | refused err h => exact .refused err h
    | parent h => exact absurd hdir h
    | directory h => exact .directory (by rwa [path, ← hkeep])
  refine Prog.under_bind ((mkstemp_under codec data hdir).mono fun r t₂ _ hr => ?_)
  cases r with
  | error err =>
    obtain ⟨rfl, hwhy⟩ := hr
    exact .kept (hkeep _) err rfl (hbefore hwhy)
  | ok temporary =>
    obtain ⟨⟨random, rfl⟩, helse, hwritable⟩ := hr
    have hdir₂ : t₂.entry store.parent = some .directory := by
      rw [helse _ parent_ne_temporary, hdir]
    exact replaceFile_under hwritable hdir₂ ((helse _ path_ne_temporary).trans (hkeep _))

/-! ### Round trips -/

variable (store codec t) in
/-- What `load_station_config` gives of the file. -/
def stationConfig : Except StationError StationConfig := load codec (readText t store.path)

variable (store t) in
/-- The call is answered without an exception, and a name that is tried is not in use. -/
structure Quiet (x : Call × Answer W) : Prop where
  /-- It does not raise. -/
  raises : x.2.raises = none
  /-- Its name is free. -/
  free : t.entry (store.temporary x.2.random) = none

variable (store t) in
/-- A program ends with `Q` when all calls are answered without an exception, and it does end. -/
structure Does {α : Type} (p : Program W α) (Q : Except StationError α → FileTree W → Prop) :
    Prop where
  /-- At the end of every run. -/
  ends : ∀ tr r t', p.Run t tr r t' → (∀ x ∈ tr, store.Quiet t x) → Q r t'
  /-- There are such runs. -/
  exists_run : ∀ a : Answer W, a.raises = none → t.entry (store.temporary a.random) = none →
    ∃ tr r t', p.Run t tr r t' ∧ ∀ x ∈ tr, store.Quiet t x

/-- A file is found where a configuration is loaded. -/
theorem entry_of_stationConfig {c : StationConfig} (h : store.stationConfig codec t = .ok c) :
    ∃ b, t.entry store.path = some (.file b) ∧ load codec (.ok b) = .ok c := by
  unfold stationConfig readText at h
  split at h
  · rename_i b hb
    exact ⟨b, hb, h⟩
  · cases h
  · cases h

theorem stationConfig_of {b : W} (h : t.entry store.path = some (.file b)) :
    store.stationConfig codec t = load codec (.ok b) := by
  rw [stationConfig, readText, h]

/-- Nothing is a reason to raise in a quiet run over a file. -/
theorem not_reason {b : W} {c : StationConfig} (hfile : t.entry store.path = some (.file b))
    (hload : load codec (.ok data) = .ok c) : ¬ Reason store codec (store.Quiet t) t data := by
  rintro (⟨x, hx, h⟩ | ⟨a, ha, h⟩ | ⟨err, h⟩ | h | h)
  · exact h hx.raises
  · exact h ha.free
  · rw [hload] at h
    cases h
  · exact h (t.parent store.parent store.name (by rw [← path, hfile]; simp))
  · rw [hfile] at h
    cases h

theorem ending_calls {l : Call} : (calls l : Program W Unit).Ending := Prog.ending_atomic

theorem ending_commit {station : StationConfig} :
    (store.commit codec blank station).Ending := by
  have houtput (temporary : Path) (data : W) : (output data temporary).Ending := by
    refine Prog.ending_bind ending_calls fun _ => Prog.ending_andThen ?_ fun r => ?_
    · exact Prog.ending_bind Prog.ending_atomic fun _ =>
        Prog.ending_bind Prog.ending_atomic fun _ => ending_calls
    · cases r with
      | ok u => exact ending_calls
      | error err => exact Prog.ending_bind Prog.ending_atomic fun _ => trivial
  have hcleanup (temporary : Path) (err : StationError) :
      (cleanup temporary err : Program W Unit).Ending := by
    refine Prog.ending_bind (Prog.ending_tryCatch ending_calls fun err => ?_) fun _ =>
      Prog.ending_bind Prog.ending_atomic fun _ => trivial
    cases err <;> trivial
  refine Prog.ending_bind Prog.ending_atomic fun _ => Prog.ending_bind Prog.ending_atomic
    fun temporary => Prog.ending_tryCatch ?_ (hcleanup temporary)
  refine Prog.ending_bind ?_ fun _ => Prog.ending_bind Prog.ending_atomic fun _ => ?_
  · exact Prog.ending_bind ending_calls fun _ => Prog.ending_bind (houtput _ _) fun _ =>
      Prog.ending_atomic
  · exact Prog.ending_bind ending_calls fun _ =>
      Prog.ending_tryFinally ending_calls ending_calls

theorem ending_setRosDomainId {value : Json} :
    (store.setRosDomainId codec blank value).Ending := by
  refine Prog.ending_bind Prog.ending_atomic fun isFile => ?_
  split
  · trivial
  · refine Prog.ending_bind Prog.ending_atomic fun station => ?_
    split
    · trivial
    · split
      · trivial
      · exact Prog.ending_bind ending_commit fun _ => trivial

/-- A program that does not stop, of which it is known what it does in quiet runs. -/
theorem does_of_under {α : Type} {p : Program W α}
    {Q : Except StationError α → FileTree W → Prop} (hp : p.Ending)
    (h : p.Under (Given (store.Quiet t)) t () fun r t' _ => Q r t') : store.Does t p Q where
  ends _ _ _ hrun hquiet := h.of_run hrun hquiet
  exists_run a hraises hfree := by
    obtain ⟨tr, r, t', hrun, htr⟩ := hp.exists_run a t
    refine ⟨tr, r, t', hrun, fun x hx => ⟨?_, ?_⟩⟩
    · rw [htr x hx, hraises]
    · rw [htr x hx, hfree]

/-- A quiet commit of a configuration that is loaded again. -/
theorem commit_quiet {station c : StationConfig} {b : W}
    (hfile : t.entry store.path = some (.file b))
    (hload : load codec (.ok (codec.dumps (.obj station.payload))) = .ok c) :
    (store.commit codec blank station).Under (Given (store.Quiet t)) t () fun r t' _ =>
      r = .ok () ∧ store.stationConfig codec t' = .ok c := by
  refine commit_under.mono fun r t' _ hr => ?_
  have hno : ¬ Reason store codec (store.Quiet t) t (codec.dumps (.obj station.payload)) :=
    not_reason hfile hload
  cases hr with
  | kept h err hr why => exact absurd why hno
  | replaced h c' hload' a ha why =>
    rw [stationConfig_of h, hload]
    cases r with
    | ok u => exact ⟨rfl, rfl⟩
    | error err => exact absurd (why err rfl) hno

/-- The configuration with another id of the ROS domain. -/
def withRosDomainId (c : StationConfig) (z : ℤ) : StationConfig :=
  { c with schemaVersion := .int stationSchemaVersion, rosDomainId := some z }

theorem valid_withRosDomainId {c : StationConfig} {z : ℤ} (h : c.Valid)
    (htriggers : atLeast c.schemaVersion 2 = true) (hz : RosDomain z) :
    (withRosDomainId c z).Valid := by
  have hnumber : (Json.int stationSchemaVersion).number = some ((5 : ℕ) : ℚ) := rfl
  exact {
    schemaVersion := ⟨5, by decide, le_rfl, hnumber⟩
    stationId := h.stationId
    hasRosDomainId := by
      rw [withRosDomainId, atLeast_of hnumber]
      norm_num
    rosDomainId := by
      rintro _ ⟨⟩
      exact hz
    sdkType := h.sdkType
    armRoles := h.armRoles
    arms := h.arms
    cameraRoles := h.cameraRoles
    cameras := h.cameras
    hasTriggers := by
      rw [withRosDomainId, h.hasTriggers, htriggers, atLeast_of hnumber]
      norm_num
    triggers := h.triggers
    serials := h.serials
    interfaces := h.interfaces }

theorem migrated_withRosDomainId {c : StationConfig} {z : ℤ} :
    (withRosDomainId c z).migrated = withRosDomainId c z := by
  rw [migrated, withRosDomainId, writtenVersion, ite_self]

/-- Changing the id of the ROS domain, when nothing is raised. -/
theorem setRosDomainId_quiet {c : StationConfig} {z : ℤ} (hcodec : codec.Faithful)
    (hload : store.stationConfig codec t = .ok c) (htriggers : atLeast c.schemaVersion 2 = true)
    (hz : RosDomain z) :
    (store.setRosDomainId codec blank (.int z)).Under (Given (store.Quiet t)) t () fun r t' _ =>
      r = .ok (withRosDomainId c z) ∧
        store.stationConfig codec t' = .ok (withRosDomainId c z) := by
  obtain ⟨b, hfile, hb⟩ := entry_of_stationConfig hload
  have hvalid : c.Valid := load_valid hb
  have hdumps := load_dumps hcodec (valid_withRosDomainId hvalid htriggers hz)
  rw [migrated_withRosDomainId] at hdumps
  refine Prog.under_bind (look_under (fun a err ha hr => ?_) fun a ha hr => ?_)
  · rw [ha.raises] at hr
    cases hr
  have hisFile : t.isFile store.path = true := FileTree.isFile_eq.2 ⟨b, hfile⟩
  simp only [hisFile, Bool.not_true, Bool.false_eq_true, if_false]
  refine Prog.under_bind (Prog.under_atomic fun a _ ha => ?_)
  have hread : load codec (readText t store.path) = .ok c := hload
  have hsome : ¬ c.triggers = none := by
    intro hnone
    have hhas := hvalid.hasTriggers
    rw [hnone, htriggers] at hhas
    cases hhas
  have hraises : a.raises = none := ha.raises
  simp only [hraises, hread, hsome, if_false, validateRosDomainId_of hz]
  have hcommit : (store.commit codec blank (withRosDomainId c z)).Under (Given (store.Quiet t)) t ()
      fun r t' _ => r = .ok () ∧ store.stationConfig codec t' = .ok (withRosDomainId c z) :=
    commit_quiet hfile hdumps
  refine Prog.under_bind (hcommit.mono fun r t' _ hr => ?_)
  obtain ⟨rfl, hloaded⟩ := hr
  exact Prog.under_pure ⟨rfl, hloaded⟩

variable (store codec blank t) in
/-- What the store does with a file that was loaded as `c`. -/
structure RoundTrip (c : StationConfig) : Prop where
  /-- The versions `1` and `2` are kept. -/
  kept : c.schemaVersion.number = some 1 ∨ c.schemaVersion.number = some 2 → c.migrated = c
  /-- The others are written as `5`. -/
  migrated : c.schemaVersion.number = some 3 ∨ c.schemaVersion.number = some 4 ∨
    c.schemaVersion.number = some 5 → c.migrated = { c with schemaVersion := .int 5 }
  /-- What is committed is loaded as it was, with the version that was written. -/
  commit : ∀ tr t', (store.commit codec blank c).Run t tr (.ok ()) t' →
    store.stationConfig codec t' = .ok c.migrated
  /-- A commit returns, if no call raises. -/
  returns : store.Does t (store.commit codec blank c) fun r _ => r = .ok ()
  /-- To do it again changes nothing. -/
  again : ∀ tr t', (store.commit codec blank c).Run t tr (.ok ()) t' →
    ∀ tr' t'', (store.commit codec blank c.migrated).Run t' tr' (.ok ()) t'' →
      t''.entry store.path = t'.entry store.path ∧
        store.stationConfig codec t'' = .ok c.migrated
  /-- `set_ros_domain_id` changes the id and the version. -/
  setRosDomainId : atLeast c.schemaVersion 2 = true → ∀ z, RosDomain z →
    store.Does t (store.setRosDomainId codec blank (.int z)) fun r t' =>
      r = .ok { c with schemaVersion := .int 5, rosDomainId := some z } ∧
        store.stationConfig codec t' =
          .ok { c with schemaVersion := .int 5, rosDomainId := some z }
  /-- A commit that has not come to the replacement leaves the file as it was. -/
  unreplaced : ∀ station tr r t', (store.commit codec blank station).Run t tr r t' →
    (∀ x ∈ tr, x.1 ≠ .openDirectory) →
      t'.entry store.path = t.entry store.path ∧ ∃ err, r = .error err
  /-- So does a commit whose result would not load. -/
  refused : ∀ station tr r t', (store.commit codec blank station).Run t tr r t' →
    (∀ c', load codec (.ok (codec.dumps (.obj station.payload))) ≠ .ok c') →
      t'.entry store.path = t.entry store.path ∧ ∃ err, r = .error err

theorem commit_run {station : StationConfig} {tr : List (Call × Answer W)}
    {r : Except StationError Unit} (hrun : (store.commit codec blank station).Run t tr r t') :
    Committed store codec (fun x => x ∈ tr) t (codec.dumps (.obj station.payload)) r t' :=
  commit_under.of_run hrun fun _ hx => hx

/-- A commit that returns has written its data. -/
theorem commit_returned {station : StationConfig} {tr : List (Call × Answer W)}
    (hrun : (store.commit codec blank station).Run t tr (.ok ()) t') :
    t'.entry store.path = some (.file (codec.dumps (.obj station.payload))) := by
  cases commit_run hrun with
  | kept h err hr why => cases hr
  | replaced h c hload a ha why => exact h

/-- **Round trip and migration.** A configuration that is loaded is committed as one that is loaded
again, with the version that is written for its own; the id of its ROS domain can be changed, and a
commit that fails before the replacement leaves the file as it was. -/
theorem station_round_trip {c : StationConfig} (hcodec : codec.Faithful)
    (hload : store.stationConfig codec t = .ok c) : store.RoundTrip codec blank t c := by
  obtain ⟨b, hfile, hb⟩ := entry_of_stationConfig hload
  have hvalid : c.Valid := load_valid hb
  have hdumps := load_dumps hcodec hvalid
  refine ⟨fun hversion => ?_, fun hversion => ?_, fun tr t' hrun => ?_, ?_,
    fun tr t' hrun tr' t'' hrun' => ?_, fun htriggers z hz => ?_, fun station tr r t' hrun hopen => ?_,
    fun station tr r t' hrun hrefused => ?_⟩
  · rcases hversion with hversion | hversion
    · rw [StationConfig.migrated,
        writtenVersion_low (n := 1) (by rw [hversion, Nat.cast_one]) (by decide)]
    · rw [StationConfig.migrated,
        writtenVersion_low (n := 2) (by rw [hversion, Nat.cast_ofNat]) le_rfl]
  · rw [StationConfig.migrated]
    rcases hversion with hversion | hversion | hversion
    · rw [writtenVersion_high (n := 3) (by rw [hversion, Nat.cast_ofNat]) le_rfl (by decide)]
      rfl
    · rw [writtenVersion_high (n := 4) (by rw [hversion, Nat.cast_ofNat]) (by decide) (by decide)]
      rfl
    · rw [writtenVersion_high (n := 5) (by rw [hversion, Nat.cast_ofNat]) (by decide) le_rfl]
      rfl
  · rw [stationConfig_of (commit_returned hrun), hdumps]
  · exact does_of_under ending_commit ((commit_quiet hfile hdumps).mono fun r t' _ hr => hr.1)
  · -- the configuration that was written is written as the same text
    have hsame := commit_returned hrun'
    rw [payload_migrated] at hsame
    exact ⟨hsame.trans (commit_returned hrun).symm, by rw [stationConfig_of hsame, hdumps]⟩
  · exact does_of_under ending_setRosDomainId (setRosDomainId_quiet hcodec hload htriggers hz)
  · cases commit_run hrun with
    | kept h err hr why => exact ⟨h, err, hr⟩
    | replaced h c' hload' a ha why => exact absurd rfl (hopen _ ha)
  · cases commit_run hrun with
    | kept h err hr why => exact ⟨h, err, hr⟩
    | replaced h c' hload' a ha why => exact absurd hload' (hrefused c')

namespace V4

/-- The store of a file at the top. -/
def configStore : StationConfigStore := ⟨[], "station.json"⟩

/-- Documents that are their own texts. -/
def literal : Json.Codec Json := ⟨.ok, id⟩

/-- A document of the version `4`, with the arms in the other order. -/
def document : Json := .obj [
  ("schema_version", .int 4),
  ("station_id", .str " station-1 "),
  ("ros_domain_id", .int 7),
  ("sdk_type", .int 2),
  ("arms", .arr [
    .obj [("name", .str "right"), ("usb_serial", .str "B"), ("can_interface", .str "can1")],
    .obj [("name", .str "left"), ("usb_serial", .str "A"), ("can_interface", .str "can0")]]),
  ("cameras", .obj [("left", .str "C"), ("right", .str "D"),
    ("overview", .obj [("serial_number", .str "E")])]),
  ("triggers", .obj [
    ("activate", .obj [("vendor_id", .str "1A86"), ("product_id", .str "e026"),
      ("serial_number", .str "F")]),
    ("abort", .obj [("vendor_id", .str "1a86"), ("product_id", .str "e026"),
      ("serial_number", .str "G")])]),
  ("task_upload_routes", .obj [])]

/-- The configuration of it. -/
def station : StationConfig where
  schemaVersion := .int 4
  stationId := "station-1"
  rosDomainId := some 7
  sdkType := .int 2
  arms := [⟨"left", "A", "can0"⟩, ⟨"right", "B", "can1"⟩]
  cameras := [⟨"left", "C"⟩, ⟨"right", "D"⟩, ⟨"overview", "E"⟩]
  triggers := some ⟨⟨"activate", "1a86", "e026", "F"⟩, ⟨"abort", "1a86", "e026", "G"⟩⟩

end V4

theorem station_round_trip_v4 : ∃ t : FileTree Json, t.entry V4.configStore.path ≠ none ∧
    V4.configStore.RoundTrip V4.literal .null t V4.station := by
  obtain ⟨t, ht⟩ := FileTree.exists_write (t := FileTree.empty Json) (p := V4.configStore.path)
    (by simp [FileTree.empty, V4.configStore, path]) rfl V4.document
  have hfile : t.entry V4.configStore.path = some (.file V4.document) := by
    rw [(FileTree.write_ok ht).2.2, if_pos rfl]
  refine ⟨t, by simp [hfile], station_round_trip (fun v _ => rfl) ?_⟩
  rw [stationConfig_of hfile]
  rfl

end StationConfigStore

end DualCollection
