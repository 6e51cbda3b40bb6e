import DualCollection.Episode.Store

/-!
# The store keeps every Episode in one place

`Archive` is a store at work: `prepare` and `commit` are called in any order, and between them
anything may be written below the directory of an Episode that was prepared and is not committed.
`Kept` says that every Episode is in one place, that what was committed stays as it is, and that
`list_partials` lists what was prepared and not committed.

`prepare` looks for the number of an Episode only among those that are recorded or successful, and
the names of the directories of the store are numbers that an Episode can have.  `Careful` excludes
both, and `kept` shows that nothing else can go wrong: the directories of two Episodes are never
one below the other (`place_apart`), so that every operation leaves all others alone.
-/

namespace DualCollection

open Files Thread

namespace EpisodeStore

variable {store : EpisodeStore} {B : Type} {t t' : FileTree B} {episodeId : String}

/-! ### What the operations do -/

variable (store t episodeId) in
/-- What `prepare` does. -/
inductive Prepares : Except PyError PendingEpisode → FileTree B → Prop
  /-- It raises an exception, when the root may have been made. -/
  | refused {err : PyError} {t' : FileTree B}
    (same : ∀ q, ¬ q <+: store.root → t'.entry q = t.entry q) : Prepares (.error err) t'
  /-- It makes a directory that was not there. -/
  | made {t' : FileTree B} (valid : ValidEpisodeId episodeId)
    (free : t.entry (store.partialDir episodeId) = none)
    (final : t.entry (store.outcomeDir .success episodeId) = none)
    (entry : ∀ q, t'.entry q = if q = store.partialDir episodeId ∨ q <+: store.root
      then some .directory else t.entry q) : Prepares (.ok (store.pendingEpisode episodeId)) t'

theorem not_prefix_append {p : Path} {n : String} : ¬ p ++ [n] <+: p := fun h => by
  have := h.length_le
  simp at this

theorem prepare_post : (store.prepare episodeId).Post t (store.Prepares t episodeId) := by
  unfold prepare
  split
  · exact Prog.post_ret (.refused fun _ _ => rfl)
  rename_i hvalid
  refine Prog.post_bind (syscall_post (fun _ => .refused fun _ _ => rfl) fun _ t₁ h₁ => ?_)
  have hroot := FileTree.mkdirs_ok h₁
  have hsame : ∀ q, ¬ q <+: store.root → t₁.entry q = t.entry q := fun q hq => by
    rw [hroot, if_neg hq]
  refine Prog.post_bind (look_post (fun _ => .refused hsame) fun a => ?_)
  dsimp only
  split
  · exact Prog.post_ret (.refused hsame)
  refine Prog.post_bind (look_post (fun _ => .refused hsame) fun _ => ?_)
  dsimp only
  split
  · exact Prog.post_ret (.refused hsame)
  rename_i hfree
  refine Prog.post_bind (look_post (fun _ => .refused hsame) fun _ => ?_)
  dsimp only
  split
  · exact Prog.post_ret (.refused hsame)
  rename_i hfinal
  refine Prog.post_bind (syscall_post (fun _ => .refused hsame) fun _ t₂ h₂ => ?_)
  have hmade := (FileTree.mkdir_ok h₂).2.2
  rw [FileTree.not_exists_eq, hsame (store.partialDir episodeId) not_prefix_append] at hfree
  rw [FileTree.not_exists_eq, hsame (store.outcomeDir .success episodeId) not_prefix_append]
    at hfinal
  refine Prog.post_ret (.made (not_not.1 hvalid) hfree hfinal fun q => ?_)
  rw [hmade, hroot]
  by_cases hq : q = store.partialDir episodeId
  · simp [hq]
  · simp [hq]

variable (store t) in
/-- What `commit` does. -/
inductive Commits (pending : PendingEpisode) (outcome : EpisodeOutcome) :
    Except PyError StoredEpisode → FileTree B → Prop
  /-- It raises an exception, when the directory of the outcome may have been made. -/
  | refused {err : PyError} {t' : FileTree B}
    (same : ∀ q, ¬ q <+: store.outcomeRoot outcome → t'.entry q = t.entry q) :
    Commits pending outcome (.error err) t'
  /-- It moves a directory with the two artifacts to where nothing was. -/
  | moved {t' : FileTree B} (directory : t.entry pending.partialDir = some .directory)
    (names : t.names pending.partialDir = {"episode.mcap", "metadata.json"})
    (mcap : t.isFile pending.mcapPath = true) (metadata : t.isFile pending.metadataPath = true)
    (free : t.entry (store.outcomeDir outcome pending.episodeId) = none)
    (apart : ¬ pending.partialDir <+: store.outcomeDir outcome pending.episodeId)
    (entry : ∀ q, t'.entry q =
      if store.outcomeDir outcome pending.episodeId <+: q then
        t.entry (pending.partialDir ++
          q.drop (store.outcomeDir outcome pending.episodeId).length)
      else if pending.partialDir <+: q then none
      else if q <+: store.outcomeRoot outcome then some .directory else t.entry q) :
    Commits pending outcome (.ok ⟨pending.episodeId, store.outcomeDir outcome pending.episodeId,
      store.outcomeDir outcome pending.episodeId ++ ["episode.mcap"],
      store.outcomeDir outcome pending.episodeId ++ ["metadata.json"]⟩) t'

theorem commit_post {pending : PendingEpisode} {outcome : EpisodeOutcome} :
    (store.commit pending outcome).Post t (store.Commits t pending outcome) := by
  unfold commit
  refine Prog.post_bind (look_post (fun _ => .refused fun _ _ => rfl) fun _ => ?_)
  dsimp only
  split
  · exact Prog.post_ret (.refused fun _ _ => rfl)
  rename_i hdir
  refine Prog.post_bind (look_post (fun _ => .refused fun _ _ => rfl) fun _ => ?_)
  dsimp only
  split
  · exact Prog.post_ret (.refused fun _ _ => rfl)
  rename_i hnames
  refine Prog.post_bind (look_post (fun _ => .refused fun _ _ => rfl) fun _ => ?_)
  dsimp only
  split
  · exact Prog.post_ret (.refused fun _ _ => rfl)
  rename_i hmcap
  refine Prog.post_bind (look_post (fun _ => .refused fun _ _ => rfl) fun _ => ?_)
  dsimp only
  split
  · exact Prog.post_ret (.refused fun _ _ => rfl)
  rename_i hmetadata
  refine Prog.post_bind (look_post (fun _ => .refused fun _ _ => rfl) fun _ => ?_)
  dsimp only
  split
  · exact Prog.post_ret (.refused fun _ _ => rfl)
  rename_i hfinal
  refine Prog.post_bind (syscall_post (fun _ => .refused fun _ _ => rfl) fun _ t₁ h₁ => ?_)
  have hroot := FileTree.mkdirs_ok h₁
  refine Prog.post_bind (syscall_post (fun _ => .refused fun q hq => ?_) fun _ t₂ h₂ => ?_)
  · rw [hroot, if_neg hq]
  have hdir := FileTree.isDir_eq.1 (not_not.1 hdir)
  have hfree := FileTree.not_exists_eq.1 hfinal
  have hne : pending.partialDir ≠ store.outcomeDir outcome pending.episodeId := fun heq => by
    rw [heq, hfree] at hdir
    cases hdir
  obtain ⟨hcan, hmoved⟩ := FileTree.rename_ok h₂ hne
  refine Prog.post_ret (.moved hdir (not_not.1 hnames) (not_not.1 hmcap) (not_not.1 hmetadata) hfree
    hcan.apart fun q => ?_)
  rw [hmoved, hroot, hroot]
  by_cases hq : store.outcomeDir outcome pending.episodeId <+: q
  · rw [if_pos hq, if_pos hq, if_neg]
    intro hpre
    -- what is moved is not on the way to the target
    exact hcan.apart (((List.prefix_append _ _).trans hpre).trans (List.prefix_append _ _))
  · rw [if_neg hq, if_neg hq]

/-! ### Places -/

/-- Where an Episode may be found. -/
inductive Place
  /-- Where it is recorded. -/
  | recording
  /-- Where it is committed. -/
  | committed (outcome : EpisodeOutcome)
  deriving DecidableEq

variable (store) in
/-- The directory of an Episode. -/
def place : Place → String → Path
  | .recording, episodeId => store.partialDir episodeId
  | .committed outcome, episodeId => store.outcomeDir outcome episodeId

variable (store) in
/-- The directory of the failed Episodes is no other directory of the store. -/
structure Regular : Prop where
  /-- It is below the root. -/
  below : store.failDirectory ≠ ".."
  /-- It is not that of the aborted Episodes. -/
  abort : store.failDirectory ≠ "abort"
  /-- It has not the name of a directory in which an Episode is recorded. -/
  recording : ¬ IsPartialName store.failDirectory

variable (store episodeId) in
/-- The number of the Episode is not the name of a directory of the store. -/
structure Unreserved : Prop where
  /-- It is not that of the aborted Episodes. -/
  abort : episodeId ≠ "abort"
  /-- It is not that of the failed Episodes. -/
  fail : episodeId ≠ store.failDirectory
  /-- It has not the name of a directory in which an Episode is recorded. -/
  recording : ¬ IsPartialName episodeId

theorem isPartialName_partialName : IsPartialName (partialName episodeId) := by
  refine ⟨by simp [partialName], ?_⟩
  rw [partialName, String.toList_append, String.toList_append]
  exact List.suffix_append episodeId.toList ".partial".toList

theorem IsPartialName.exists_eq {name : String} (h : IsPartialName name) :
    ∃ episodeId, name = partialName episodeId := by
  obtain ⟨hhead, m, htail⟩ := h
  refine ⟨String.ofList m, ?_⟩
  apply String.toList_inj.1
  cases hl : name.toList with
  | nil => rw [hl] at hhead; cases hhead
  | cons c l =>
    rw [hl] at hhead htail
    obtain rfl : c = '.' := Option.some.inj hhead
    rw [List.tail_cons] at htail
    simp [partialName, ← htail]

theorem partialName_inj {id id' : String} (h : partialName id = partialName id') : id = id' := by
  rw [partialName, partialName, String.append_left_inj, String.append_right_inj] at h
  exact h

/-- A place whose name is not that of a directory of the store. -/
def Place.Proper (store : EpisodeStore) (l : Place) (episodeId : String) : Prop :=
  l ≠ .recording → store.Unreserved episodeId

variable (store) in
/-- The directory of an Episode below the root. -/
def suffix : Place → String → Path
  | .recording, episodeId => [partialName episodeId]
  | .committed .success, episodeId => [episodeId]
  | .committed .fail, episodeId => [store.failDirectory, episodeId]
  | .committed .aborted, episodeId => ["abort", episodeId]

theorem outcomeRoot_fail (hstore : store.Regular) :
    store.outcomeRoot .fail = store.root ++ [store.failDirectory] := if_neg hstore.below

theorem place_eq (hstore : store.Regular) (l : Place) (id : String) :
    store.place l id = store.root ++ store.suffix l id := by
  rcases l with - | (- | - | -)
  · rfl
  · rfl
  · rw [place, outcomeDir, outcomeRoot_fail hstore, List.append_assoc]
    rfl
  · rw [place, outcomeDir, outcomeRoot, List.append_assoc]
    rfl

/-- The directories of two Episodes are not one below the other. -/
theorem place_apart (hstore : store.Regular) {l l' : Place} {id id' : String} {r : Path}
    (h : l.Proper store id) (h' : l'.Proper store id')
    (hpre : store.place l id <+: store.place l' id' ++ r) : l = l' ∧ id = id' := by
  have habort : ¬ IsPartialName "abort" := by decide
  have hpartial : ∀ m, IsPartialName (partialName m) := fun m => isPartialName_partialName
  rw [place_eq hstore, place_eq hstore, List.append_assoc, List.prefix_append_right_inj] at hpre
  cases l with
  | recording =>
    cases l' with
    | recording =>
      simp only [suffix, List.cons_append, List.cons_prefix_cons] at hpre
      exact ⟨rfl, partialName_inj hpre.1⟩
    | committed o' =>
      have hid := h' (by simp)
      cases o' <;> simp only [suffix, List.cons_append, List.cons_prefix_cons] at hpre
      · exact absurd (hpre.1 ▸ hpartial id) hid.recording
      · exact absurd (hpre.1 ▸ hpartial id) hstore.recording
      · exact absurd (hpre.1 ▸ hpartial id) habort
  | committed o =>
    have hid := h (by simp)
    cases l' with
    | recording =>
      cases o <;> simp only [suffix, List.cons_append, List.cons_prefix_cons] at hpre
      · exact absurd (hpre.1 ▸ hpartial id') hid.recording
      · exact absurd (hpre.1 ▸ hpartial id') hstore.recording
      · exact absurd (hpre.1 ▸ hpartial id') habort
    | committed o' =>
      have hid' := h' (by simp)
      cases o <;> cases o' <;>
        simp only [suffix, List.cons_append, List.cons_prefix_cons] at hpre
      · exact ⟨rfl, hpre.1⟩
      · exact absurd hpre.1 hid.fail
      · exact absurd hpre.1 hid.abort
      · exact absurd hpre.1.symm hid'.fail
      · exact ⟨rfl, hpre.2.1⟩
      · exact absurd hpre.1 hstore.abort
      · exact absurd hpre.1.symm hid'.abort
      · exact absurd hpre.1.symm hstore.abort
      · exact ⟨rfl, hpre.2.1⟩

/-- The directory of an Episode is not above that of an outcome. -/
theorem place_not_above (hstore : store.Regular) {l : Place} {id : String} {r : Path}
    {o : EpisodeOutcome} (h : l.Proper store id) :
    ¬ store.place l id ++ r <+: store.outcomeRoot o := by
  intro hpre
  have hroot : store.outcomeRoot o =
      store.root ++ (store.suffix (.committed o) id).dropLast := by
    cases o with
    | success => exact (List.append_nil _).symm
    | fail => exact outcomeRoot_fail hstore
    | aborted => rfl
  have habort : ¬ IsPartialName "abort" := by decide
  have hpartial : ∀ m, IsPartialName (partialName m) := fun m => isPartialName_partialName
  rw [place_eq hstore, hroot, List.append_assoc, List.prefix_append_right_inj] at hpre
  have hlen := hpre.length_le
  cases l with
  | recording =>
    cases o <;>
      simp only [suffix, List.cons_append, List.dropLast_cons_cons, List.dropLast_singleton,
        List.cons_prefix_cons, List.length_cons, List.length_nil, List.nil_append] at hpre hlen
    · omega
    · exact hstore.recording (hpre.1 ▸ hpartial id)
    · exact habort (hpre.1 ▸ hpartial id)
  | committed o' =>
    have hid := h (by simp)
    cases o' <;> cases o <;>
      simp only [suffix, List.cons_append, List.dropLast_cons_cons, List.dropLast_singleton,
        List.cons_prefix_cons, List.length_cons, List.length_nil, List.nil_append] at hpre hlen
    · omega
    · exact hid.fail hpre.1
    · exact hid.abort hpre.1
    all_goals omega

/-! ### A store at work -/

variable (B) in
/-- An Episode that was committed. -/
structure Committed where
  /-- The number of the Episode. -/
  episodeId : String
  /-- How it ended. -/
  outcome : EpisodeOutcome
  /-- Where it was stored. -/
  directory : Path
  /-- What was stored, below the directory. -/
  contents : Path → Option (Entry B)

variable (B) in
/-- The tree and what was done so far. -/
structure Archive where
  /-- The tree. -/
  tree : FileTree B
  /-- What `prepare` has returned. -/
  prepared : List PendingEpisode := []
  /-- What is prepared and not committed. -/
  opened : List PendingEpisode := []
  /-- What was committed. -/
  committed : List (Committed B) := []

/-- The operations. -/
inductive StoreOp
  /-- `prepare` -/
  | prepare (episodeId : String)
  /-- `commit` -/
  | commit (pending : PendingEpisode) (outcome : EpisodeOutcome)
  /-- The artifacts are written. -/
  | record (pending : PendingEpisode)

variable (store) in
/-- The store at work. -/
inductive Step : StoreOp → Archive B → Archive B → Prop
  | prepared {s : Archive B} {episodeId : String} {pending : PendingEpisode}
    {tr : List (StoreCall × StoreAnswer)} {t' : FileTree B}
    (h : (store.prepare episodeId).Run s.tree tr (.ok pending) t') : Step (.prepare episodeId) s
      { s with tree := t', prepared := pending :: s.prepared, opened := pending :: s.opened }
  | notPrepared {s : Archive B} {episodeId : String} {err : PyError}
    {tr : List (StoreCall × StoreAnswer)} {t' : FileTree B}
    (h : (store.prepare episodeId).Run s.tree tr (.error err) t') :
    Step (.prepare episodeId) s { s with tree := t' }
  | committed {s : Archive B} {pending : PendingEpisode} {outcome : EpisodeOutcome}
    {stored : StoredEpisode} {tr : List (StoreCall × StoreAnswer)} {t' : FileTree B}
    (hp : pending ∈ s.prepared)
    (h : (store.commit pending outcome).Run s.tree tr (.ok stored) t') :
    Step (.commit pending outcome) s
      { s with
        tree := t'
        opened := s.opened.filter (· ≠ pending)
        committed := ⟨stored.episodeId, outcome, stored.directory,
          fun r => t'.entry (stored.directory ++ r)⟩ :: s.committed }
  | notCommitted {s : Archive B} {pending : PendingEpisode} {outcome : EpisodeOutcome}
    {err : PyError} {tr : List (StoreCall × StoreAnswer)} {t' : FileTree B}
    (hp : pending ∈ s.prepared)
    (h : (store.commit pending outcome).Run s.tree tr (.error err) t') :
    Step (.commit pending outcome) s { s with tree := t' }
  | recorded {s : Archive B} {pending : PendingEpisode} {t' : FileTree B}
    (hp : pending ∈ s.opened)
    (h : ∀ q, (pending.partialDir <+: q → q = pending.partialDir) → t'.entry q = s.tree.entry q) :
    Step (.record pending) s { s with tree := t' }

variable (store) in
/-- What is reached from a root with nothing in it, when every operation satisfies `P`. -/
inductive Reachable (P : Archive B → StoreOp → Prop) : Archive B → Prop
  | fresh {t : FileTree B} (h : ∀ n, t.entry (store.root ++ [n]) = none) : Reachable P { tree := t }
  | step {s s' : Archive B} {op : StoreOp} (h : Reachable P s) (hop : P s op)
    (hs : store.Step op s s') : Reachable P s'

variable (store) in
/-- Every Episode is in one place, what was committed stays as it is, and `list_partials` lists what
is prepared and not committed. -/
structure Kept (s : Archive B) : Prop where
  /-- Every Episode is in at most one place. -/
  onePlace : ∀ pending ∈ s.prepared, ∀ l l', s.tree.exists (store.place l pending.episodeId) = true →
    s.tree.exists (store.place l' pending.episodeId) = true → l = l'
  /-- What was committed is as it was. -/
  untouched : ∀ c ∈ s.committed, ∀ r, s.tree.entry (c.directory ++ r) = c.contents r
  /-- What is prepared and not committed is listed. -/
  partials : ∀ p, p ∈ store.listPartials s.tree ↔ ∃ pending ∈ s.opened, p = pending.partialDir
  /-- Nothing is listed twice. -/
  once : (store.listPartials s.tree).Nodup

variable (store) in
/-- An Episode is prepared only if its number is not the name of a directory of the store, and if no
Episode with its number failed or was aborted. -/
def Careful (s : Archive B) : StoreOp → Prop
  | .prepare episodeId => store.Unreserved episodeId ∧
      ∀ outcome, s.tree.entry (store.outcomeDir outcome episodeId) ≠ none → outcome = .success
  | _ => True

/-! ### The invariant -/

variable (store) in
/-- What is found at the places of the Episodes was put there by the operations. -/
structure Inv (s : Archive B) : Prop where
  /-- The number of every Episode is unreserved. -/
  prepared : ∀ pending ∈ s.prepared, pending = store.pendingEpisode pending.episodeId ∧
    store.Unreserved pending.episodeId
  /-- What is not committed was prepared. -/
  opened_prepared : ∀ pending ∈ s.opened, pending ∈ s.prepared
  /-- What is not committed is where it is recorded. -/
  opened_directory : ∀ pending ∈ s.opened,
    s.tree.entry (store.place .recording pending.episodeId) = some .directory
  /-- Only what is not committed is where it is recorded. -/
  recording : ∀ id, s.tree.entry (store.place .recording id) ≠ none →
    ∃ pending ∈ s.opened, pending.episodeId = id
  /-- What was committed is where it belongs. -/
  committed_directory : ∀ c ∈ s.committed, store.Unreserved c.episodeId ∧
    c.directory = store.place (.committed c.outcome) c.episodeId ∧ c.contents [] ≠ none
  /-- What was committed is as it was. -/
  committed_contents : ∀ c ∈ s.committed, ∀ r, s.tree.entry (c.directory ++ r) = c.contents r
  /-- Only what was committed is where the Episodes are committed. -/
  filed : ∀ id outcome, store.Unreserved id →
    s.tree.entry (store.place (.committed outcome) id) ≠ none →
      ∃ c ∈ s.committed, c.episodeId = id ∧ c.outcome = outcome
  /-- What is not committed was not committed before. -/
  opened_committed : ∀ pending ∈ s.opened, ∀ c ∈ s.committed, c.episodeId ≠ pending.episodeId
  /-- An Episode is committed with one outcome. -/
  outcome : ∀ c ∈ s.committed, ∀ c' ∈ s.committed, c.episodeId = c'.episodeId →
    c.outcome = c'.outcome

theorem proper_recording {n : String} : Place.recording.Proper store n := fun h => absurd rfl h

theorem proper_committed {o : EpisodeOutcome} {id : String} (h : store.Unreserved id) :
    (Place.committed o).Proper store id := fun _ => h

section

variable {s s' : Archive B}

/-- The invariant depends on the tree only through the places of the Episodes. -/
theorem Inv.congr (h : store.Inv s)
    (hsame : ∀ l id r, l.Proper store id → l ≠ .recording ∨ r = [] →
      t'.entry (store.place l id ++ r) = s.tree.entry (store.place l id ++ r)) :
    store.Inv { s with tree := t' } where
  prepared := h.prepared
  opened_prepared := h.opened_prepared
  opened_directory pending hp := by
    have := hsame .recording pending.episodeId [] proper_recording (.inr rfl)
    rw [List.append_nil] at this
    rw [this]
    exact h.opened_directory pending hp
  recording id hid := by
    have := hsame .recording id [] proper_recording (.inr rfl)
    rw [List.append_nil] at this
    rw [this] at hid
    exact h.recording id hid
  committed_directory := h.committed_directory
  committed_contents c hc r := by
    obtain ⟨hid, hdir, -⟩ := h.committed_directory c hc
    have := hsame (.committed c.outcome) c.episodeId r (proper_committed hid) (.inl (by simp))
    rw [hdir, this, ← hdir]
    exact h.committed_contents c hc r
  filed id outcome hid hne := by
    have := hsame (.committed outcome) id [] (proper_committed hid) (.inr rfl)
    rw [List.append_nil] at this
    rw [this] at hne
    exact h.filed id outcome hid hne
  opened_committed := h.opened_committed
  outcome := h.outcome

/-- An Episode that was committed is found where it was stored. -/
theorem Inv.found (h : store.Inv s) {c : Committed B} (hc : c ∈ s.committed) :
    s.tree.entry (store.place (.committed c.outcome) c.episodeId) ≠ none := by
  obtain ⟨-, hdir, hne⟩ := h.committed_directory c hc
  have := h.committed_contents c hc []
  rw [List.append_nil, hdir] at this
  rwa [this]

theorem Inv.fresh (h : ∀ n, t.entry (store.root ++ [n]) = none) (hstore : store.Regular) :
    store.Inv { tree := t } where
  prepared := by simp
  opened_prepared := by simp
  opened_directory := by simp
  recording id hid := absurd (h _) hid
  committed_directory := by simp
  committed_contents := by simp
  filed id outcome hid hne := by
    exfalso
    rw [place_eq hstore] at hne
    have hbelow : ∀ n r, t.entry (store.root ++ (n :: r)) = none := by
      intro n r
      cases r with
      | nil => exact h n
      | cons m r =>
        refine FileTree.entry_of_prefix (p := store.root ++ [n]) (by simp) (by simp) ?_
        rw [h n]
        simp
    cases outcome <;> exact hne (hbelow _ _)
  opened_committed := by simp
  outcome := by simp

/-- A new Episode is prepared. -/
theorem Inv.prepare (hstore : store.Regular) (h : store.Inv s)
    (hcareful : store.Careful s (.prepare episodeId))
    (free : s.tree.entry (store.partialDir episodeId) = none)
    (final : s.tree.entry (store.outcomeDir .success episodeId) = none)
    (entry : ∀ q, t'.entry q = if q = store.partialDir episodeId ∨ q <+: store.root
      then some .directory else s.tree.entry q) :
    store.Inv { s with
      tree := t'
      prepared := store.pendingEpisode episodeId :: s.prepared
      opened := store.pendingEpisode episodeId :: s.opened } := by
  have hroot : ∀ l id r, l.Proper store id → ¬ store.place l id ++ r <+: store.root :=
    fun l id r hl => place_not_above (o := .success) hstore hl
  -- the other places are as they were
  have hsame : ∀ l id r, l.Proper store id → (l = .recording → id ≠ episodeId) →
      t'.entry (store.place l id ++ r) = s.tree.entry (store.place l id ++ r) := by
    intro l id r hl hne
    rw [entry, if_neg]
    rintro (heq | hpre)
    · have hpre : store.place l id <+: store.place .recording episodeId ++ [] := by
        rw [List.append_nil]
        exact ⟨r, heq⟩
      obtain ⟨hl', hid⟩ := place_apart hstore hl proper_recording hpre
      exact hne hl' hid
    · exact hroot l id r hl hpre
  have hnew : ∀ c ∈ s.committed, c.episodeId ≠ episodeId := by
    rintro c hc rfl
    have hfound := h.found hc
    have hsuccess := hcareful.2 c.outcome hfound
    rw [hsuccess] at hfound
    exact hfound final
  refine ⟨?_, ?_, ?_, ?_, h.committed_directory, ?_, ?_, ?_, h.outcome⟩
  · intro pending hp
    rcases List.mem_cons.1 hp with rfl | hp
    · exact ⟨rfl, hcareful.1⟩
    · exact h.prepared pending hp
  · intro pending hp
    rcases List.mem_cons.1 hp with rfl | hp
    · exact List.mem_cons_self
    · exact List.mem_cons_of_mem _ (h.opened_prepared pending hp)
  · intro pending hp
    by_cases hid : pending.episodeId = episodeId
    · rw [hid]
      exact (entry _).trans (if_pos (.inl rfl))
    · rcases List.mem_cons.1 hp with rfl | hp
      · exact absurd rfl hid
      · have := hsame .recording pending.episodeId [] proper_recording fun _ => hid
        rw [List.append_nil] at this
        exact this.trans (h.opened_directory pending hp)
  · intro id hne
    by_cases hid : id = episodeId
    · exact ⟨_, List.mem_cons_self, hid.symm⟩
    · have := hsame .recording id [] proper_recording fun _ => hid
      rw [List.append_nil] at this
      obtain ⟨pending, hp, heq⟩ := h.recording id (this ▸ hne)
      exact ⟨pending, List.mem_cons_of_mem _ hp, heq⟩
  · intro c hc r
    obtain ⟨hid, hdir, -⟩ := h.committed_directory c hc
    rw [← h.committed_contents c hc r, hdir]
    exact hsame _ _ r (proper_committed hid) (by simp)
  · intro id outcome hid hne
    have := hsame (.committed outcome) id [] (proper_committed hid) (by simp)
    rw [List.append_nil] at this
    exact h.filed id outcome hid (this ▸ hne)
  · intro pending hp c hc
    rcases List.mem_cons.1 hp with rfl | hp
    · exact hnew c hc
    · exact h.opened_committed pending hp c hc

/-- An Episode is committed. -/
theorem Inv.commit (hstore : store.Regular) (h : store.Inv s) {outcome : EpisodeOutcome}
    (hp : store.pendingEpisode episodeId ∈ s.prepared)
    (directory : s.tree.entry (store.partialDir episodeId) = some .directory)
    (free : s.tree.entry (store.outcomeDir outcome episodeId) = none)
    (entry : ∀ q, t'.entry q =
      if store.outcomeDir outcome episodeId <+: q then
        s.tree.entry (store.partialDir episodeId ++
          q.drop (store.outcomeDir outcome episodeId).length)
      else if store.partialDir episodeId <+: q then none
      else if q <+: store.outcomeRoot outcome then some .directory else s.tree.entry q) :
    store.Inv { s with
      tree := t'
      opened := s.opened.filter (· ≠ store.pendingEpisode episodeId)
      committed := ⟨episodeId, outcome, store.outcomeDir outcome episodeId,
        fun r => t'.entry (store.outcomeDir outcome episodeId ++ r)⟩ :: s.committed } := by
  have hid₀ : store.Unreserved episodeId := (h.prepared _ hp).2
  obtain ⟨pending, hpo, heq⟩ := h.recording episodeId (by
    rw [place, directory]
    simp)
  obtain rfl : pending = store.pendingEpisode episodeId := by
    rw [(h.prepared pending (h.opened_prepared pending hpo)).1, heq]
  -- the other places are as they were
  have hsame : ∀ l id r, l.Proper store id → (l = .recording ∨ l = .committed outcome →
      id ≠ episodeId) → t'.entry (store.place l id ++ r) = s.tree.entry (store.place l id ++ r) := by
    intro l id r hl hne
    rw [entry, if_neg, if_neg, if_neg]
    · exact place_not_above hstore hl
    · intro hpre
      obtain ⟨hl', hid⟩ := place_apart (l := .recording) hstore proper_recording hl hpre
      exact hne (.inl hl'.symm) hid.symm
    · intro hpre
      obtain ⟨hl', hid⟩ := place_apart (l := .committed outcome) hstore (proper_committed hid₀) hl
        hpre
      exact hne (.inr hl'.symm) hid.symm
  have hgone : t'.entry (store.place .recording episodeId) = none := by
    rw [entry, if_neg, if_pos]
    · exact List.prefix_rfl
    · intro hpre
      obtain ⟨hl', -⟩ := place_apart (l := .committed outcome) (r := []) hstore
        (proper_committed hid₀) (proper_recording (n := episodeId)) (by rwa [List.append_nil])
      cases hl'
  have hstored : t'.entry (store.outcomeDir outcome episodeId) = some .directory := by
    rw [entry, if_pos List.prefix_rfl, List.drop_length, List.append_nil, directory]
  have hne : ∀ pending ∈ s.opened, pending ≠ store.pendingEpisode episodeId →
      pending.episodeId ≠ episodeId := by
    intro pending hpo hne hid
    apply hne
    rw [(h.prepared pending (h.opened_prepared pending hpo)).1, hid]
  have hnew : ∀ c ∈ s.committed, c.episodeId ≠ episodeId := h.opened_committed _ hpo
  refine ⟨h.prepared, ?_, ?_, ?_, ?_, ?_, ?_, ?_, ?_⟩
  · intro pending hpo
    exact h.opened_prepared pending (List.mem_filter.1 hpo).1
  · intro pending hpo
    obtain ⟨hpo, hpe⟩ := List.mem_filter.1 hpo
    have := hsame .recording pending.episodeId [] proper_recording
      fun _ => hne pending hpo (of_decide_eq_true hpe)
    rw [List.append_nil] at this
    exact this.trans (h.opened_directory pending hpo)
  · intro id hfound
    have hid : id ≠ episodeId := by
      rintro rfl
      exact hfound hgone
    have := hsame .recording id [] proper_recording fun _ => hid
    rw [List.append_nil] at this
    obtain ⟨pending, hpo, rfl⟩ := h.recording id (this ▸ hfound)
    refine ⟨pending, List.mem_filter.2 ⟨hpo, decide_eq_true ?_⟩, rfl⟩
    rintro rfl
    exact hid rfl
  · intro c hc
    rcases List.mem_cons.1 hc with rfl | hc
    · exact ⟨hid₀, rfl, by simp [hstored]⟩
    · exact h.committed_directory c hc
  · intro c hc r
    rcases List.mem_cons.1 hc with rfl | hc
    · rfl
    · obtain ⟨hid, hdir, -⟩ := h.committed_directory c hc
      rw [← h.committed_contents c hc r, hdir]
      exact hsame _ _ r (proper_committed hid) fun _ => hnew c hc
  · intro id outcome' hid hfound
    by_cases heq : id = episodeId ∧ outcome' = outcome
    · exact ⟨_, List.mem_cons_self, heq.1.symm, heq.2.symm⟩
    · have := hsame (.committed outcome') id [] (proper_committed hid) fun hl hid =>
        heq ⟨hid, by simpa using hl⟩
      rw [List.append_nil] at this
      obtain ⟨c, hc, hcid⟩ := h.filed id outcome' hid (this ▸ hfound)
      exact ⟨c, List.mem_cons_of_mem _ hc, hcid⟩
  · intro pending hpo c hc
    obtain ⟨hpo, hpe⟩ := List.mem_filter.1 hpo
    rcases List.mem_cons.1 hc with rfl | hc
    · exact (hne pending hpo (of_decide_eq_true hpe)).symm
    · exact h.opened_committed pending hpo c hc
  · intro c hc c' hc' hid
    rcases List.mem_cons.1 hc with rfl | hc
    · rcases List.mem_cons.1 hc' with rfl | hc'
      · rfl
      · exact absurd hid.symm (hnew c' hc')
    · rcases List.mem_cons.1 hc' with rfl | hc'
      · exact absurd hid (hnew c hc)
      · exact h.outcome c hc c' hc' hid

/-- Every operation keeps the invariant. -/
theorem Inv.step (hstore : store.Regular) (h : store.Inv s) {op : StoreOp}
    (hcareful : store.Careful s op) (hs : store.Step op s s') : store.Inv s' := by
  cases hs with
  | prepared hrun =>
    cases prepare_post _ _ _ hrun with
    | made valid free final entry => exact h.prepare hstore hcareful free final entry
  | notPrepared hrun =>
    cases prepare_post _ _ _ hrun with
    | refused same =>
      exact h.congr fun l id r hl _ => same _ (place_not_above (o := .success) hstore hl)
  | @committed _ pending outcome stored tr t' hp hrun =>
    have hpending := (h.prepared pending hp).1
    rw [hpending] at hp hrun ⊢
    cases commit_post _ _ _ hrun with
    | moved directory names mcap metadata free apart entry =>
      exact h.commit hstore hp directory free entry
  | notCommitted hp hrun =>
    cases commit_post _ _ _ hrun with
    | refused same => exact h.congr fun l id r hl _ => same _ (place_not_above hstore hl)
  | @recorded _ pending t' hp hsame =>
    obtain ⟨hpending, hid⟩ := h.prepared pending (h.opened_prepared pending hp)
    refine h.congr fun l id r hl hr => hsame _ fun hpre => ?_
    rw [hpending] at hpre
    obtain ⟨rfl, rfl⟩ := place_apart (l := .recording) hstore proper_recording hl hpre
    rcases hr with hr | rfl
    · exact absurd rfl hr
    · rw [List.append_nil, hpending]
      rfl

theorem Inv.partials (h : store.Inv s) {p : Path} :
    p ∈ store.listPartials s.tree ↔ ∃ pending ∈ s.opened, p = pending.partialDir := by
  have hmem : p ∈ store.listPartials s.tree ↔
      ∃ n, IsPartialName n ∧ p = store.root ++ [n] ∧ s.tree.entry p = some .directory := by
    unfold listPartials
    by_cases hroot : s.tree.exists store.root = true
    · simp only [if_pos hroot, List.mem_filter, List.mem_map, Finset.mem_sort, Finset.mem_filter,
        FileTree.isDir_eq, FileTree.mem_names]
      constructor
      · rintro ⟨⟨n, ⟨-, hn⟩, rfl⟩, hdir⟩
        exact ⟨n, hn, rfl, hdir⟩
      · rintro ⟨n, hn, rfl, hdir⟩
        exact ⟨⟨n, ⟨by simp [hdir], hn⟩, rfl⟩, hdir⟩
    · rw [if_neg hroot]
      refine iff_of_false (by simp) ?_
      rintro ⟨n, -, rfl, hdir⟩
      rw [FileTree.not_exists_eq] at hroot
      rw [s.tree.parent store.root n (by simp [hdir])] at hroot
      cases hroot
  rw [hmem]
  constructor
  · rintro ⟨n, hn, rfl, hdir⟩
    obtain ⟨id, rfl⟩ := IsPartialName.exists_eq hn
    obtain ⟨pending, hp, rfl⟩ := h.recording id (by
      show s.tree.entry (store.root ++ [partialName id]) ≠ none
      rw [hdir]
      simp)
    refine ⟨pending, hp, ?_⟩
    rw [(h.prepared pending (h.opened_prepared pending hp)).1]
    rfl
  · rintro ⟨pending, hp, rfl⟩
    have hdir := h.opened_directory pending hp
    rw [(h.prepared pending (h.opened_prepared pending hp)).1]
    exact ⟨_, isPartialName_partialName, rfl, hdir⟩

/-- The invariant says what is to be kept. -/
theorem Inv.keeps (h : store.Inv s) : store.Kept s where
  onePlace := by
    intro pending hp l l' hl hl'
    rw [FileTree.exists_eq] at hl hl'
    have hid := (h.prepared pending hp).2
    have hopen : ∀ o, s.tree.entry (store.place .recording pending.episodeId) ≠ none →
        s.tree.entry (store.place (.committed o) pending.episodeId) ≠ none → False := by
      intro o hr hc
      obtain ⟨pending', hp', heq⟩ := h.recording _ hr
      obtain ⟨c, hc, hcid, -⟩ := h.filed _ o hid hc
      exact h.opened_committed pending' hp' c hc (hcid.trans heq.symm)
    cases l with
    | recording =>
      cases l' with
      | recording => rfl
      | committed o' => exact (hopen o' hl hl').elim
    | committed o =>
      cases l' with
      | recording => exact (hopen o hl' hl).elim
      | committed o' =>
        obtain ⟨c, hc, hcid, rfl⟩ := h.filed _ o hid hl
        obtain ⟨c', hc', hcid', rfl⟩ := h.filed _ o' hid hl'
        rw [h.outcome c hc c' hc' (hcid.trans hcid'.symm)]
  untouched := h.committed_contents
  partials _ := h.partials
  once := by
    unfold listPartials
    split
    · refine List.Nodup.filter _ (List.Nodup.map ?_ (Finset.sort_nodup _ _))
      intro n n' hn
      simpa using hn
    · exact List.nodup_nil

theorem Reachable.inv (hstore : store.Regular) (h : store.Reachable store.Careful s) :
    store.Inv s := by
  induction h with
  | fresh h => exact .fresh h hstore
  | step _ hop hs ih => exact ih.step hstore hop hs

/-- A store that is used with care keeps every Episode in one place, and what was committed as it
is. -/
theorem kept (hstore : store.Regular) (h : store.Reachable store.Careful s) : store.Kept s :=
  (h.inv hstore).keeps

end

/-! ### A small store -/

/-- An operation and what the system answers. -/
inductive Move (B : Type)
  | prepare (episodeId : String) (answers : List StoreAnswer)
  | commit (pending : PendingEpisode) (outcome : EpisodeOutcome) (answers : List StoreAnswer)
  | write (pending : PendingEpisode) (name : String) (contents : B)

/-- The operation of a move. -/
def Move.op : Move B → StoreOp
  | .prepare episodeId _ => .prepare episodeId
  | .commit pending outcome _ => .commit pending outcome
  | .write pending _ _ => .record pending

variable (store) in
/-- Make a move. -/
def next (s : Archive B) : Move B → Option (Archive B)
  | .prepare episodeId answers => ((store.prepare episodeId).exec answers s.tree).map fun x =>
    match x.2.1 with
    | .ok pending => { s with
        tree := x.2.2, prepared := pending :: s.prepared, opened := pending :: s.opened }
    | .error _ => { s with tree := x.2.2 }
  | .commit pending outcome answers =>
    if pending ∈ s.prepared then
      ((store.commit pending outcome).exec answers s.tree).map fun x => match x.2.1 with
      | .ok stored => { s with
          tree := x.2.2
          opened := s.opened.filter (· ≠ pending)
          committed := ⟨stored.episodeId, outcome, stored.directory,
            fun r => x.2.2.entry (stored.directory ++ r)⟩ :: s.committed }
      | .error _ => { s with tree := x.2.2 }
    else none
  | .write pending name contents =>
    if pending ∈ s.opened then
      (s.tree.write (pending.partialDir ++ [name]) contents).toOption.map fun t =>
        { s with tree := t }
    else none

theorem next_step {s s' : Archive B} {m : Move B} (h : store.next s m = some s') :
    store.Step m.op s s' := by
  cases m with
  | prepare episodeId answers =>
    obtain ⟨⟨tr, r, t'⟩, hexec, rfl⟩ := Option.map_eq_some_iff.1 h
    cases r with
    | ok pending => exact .prepared (Prog.run_of_exec hexec)
    | error err => exact .notPrepared (Prog.run_of_exec hexec)
  | commit pending outcome answers =>
    simp only [next] at h
    split at h
    · rename_i hp
      obtain ⟨⟨tr, r, t'⟩, hexec, rfl⟩ := Option.map_eq_some_iff.1 h
      cases r with
      | ok stored => exact .committed hp (Prog.run_of_exec hexec)
      | error err => exact .notCommitted hp (Prog.run_of_exec hexec)
    · cases h
  | write pending name contents =>
    simp only [next] at h
    split at h
    · rename_i hp
      obtain ⟨t', hwrite, rfl⟩ := Option.map_eq_some_iff.1 h
      cases hw : s.tree.write (pending.partialDir ++ [name]) contents with
      | error err => rw [hw] at hwrite; cases hwrite
      | ok t'' =>
        rw [hw] at hwrite
        obtain rfl : t'' = t' := Option.some.inj hwrite
        refine .recorded hp fun q hq => ?_
        rw [(FileTree.write_ok hw).2.2, if_neg]
        rintro rfl
        simpa using hq (List.prefix_append _ _)
    · cases h

variable (store) in
/-- Make moves, as long as `ok` admits them. -/
def play (ok : Archive B → StoreOp → Bool) (s : Archive B) : List (Move B) → Option (Archive B)
  | [] => some s
  | m :: ms => if ok s m.op then (store.next s m).bind fun s' => play ok s' ms else none

theorem play_reachable {P : Archive B → StoreOp → Prop} {ok : Archive B → StoreOp → Bool}
    (hok : ∀ s op, ok s op = true → P s op) {s s' : Archive B} (h : store.Reachable P s)
    {ms : List (Move B)} (hplay : store.play ok s ms = some s') : store.Reachable P s' := by
  induction ms generalizing s with
  | nil =>
    cases hplay
    exact h
  | cons m ms ih =>
    rw [play] at hplay
    split at hplay
    · rename_i hm
      obtain ⟨s₁, hnext, hplay⟩ := Option.bind_eq_some_iff.1 hplay
      exact ih (h.step (hok s m.op hm) (next_step hnext)) hplay
    · cases hplay

namespace Station

theorem fail_name : IsPathName "fail" := by decide +kernel

/-- A store with the default names. -/
def small : EpisodeStore := ⟨["episodes"], 0, "fail", fail_name⟩

theorem regular : small.Regular := ⟨by decide, by decide, by decide +kernel⟩

/-- An Episode is prepared. -/
def prepare : Move Unit := .prepare "x" (List.replicate 5 {})

/-- The Episode is recorded, and committed as failed. -/
def failed : List (Move Unit) :=
  [prepare, .write (small.pendingEpisode "x") "episode.mcap" (),
    .write (small.pendingEpisode "x") "metadata.json" (),
    .commit (small.pendingEpisode "x") .fail (List.replicate 8 {})]

/-- `Careful` can be evaluated at this Episode. -/
def careful (s : Archive Unit) : StoreOp → Bool
  | .prepare episodeId => episodeId = "x" && !s.tree.exists (small.outcomeDir .fail "x") &&
      !s.tree.exists (small.outcomeDir .aborted "x")
  | _ => true

theorem unreserved : small.Unreserved "x" := ⟨by decide, by decide, by decide +kernel⟩

theorem careful_spec (s : Archive Unit) (op : StoreOp) (h : careful s op = true) :
    small.Careful s op := by
  cases op with
  | prepare episodeId =>
    simp only [careful, Bool.and_eq_true, decide_eq_true_eq, Bool.not_eq_true'] at h
    obtain ⟨⟨rfl, hfail⟩, habort⟩ := h
    refine ⟨unreserved, fun outcome hne => ?_⟩
    rw [← FileTree.exists_eq] at hne
    cases outcome with
    | success => rfl
    | fail => rw [hfail] at hne; cases hne
    | aborted => rw [habort] at hne; cases hne
  | commit => trivial
  | record => trivial

/-- What moves show is shown by a state that is reached. -/
theorem shows {P : Archive Unit → StoreOp → Prop} {ok : Archive Unit → StoreOp → Bool}
    (hok : ∀ s op, ok s op = true → P s op) (ms : List (Move Unit)) (test : Archive Unit → Bool)
    (h : (small.play ok { tree := FileTree.empty Unit } ms).any test = true) :
    ∃ s, small.Reachable P s ∧ test s = true := by
  obtain ⟨s, hplay, htest⟩ := (Option.any_eq_true _ _).1 h
  have hfresh : ∀ n, (FileTree.empty Unit).entry (small.root ++ [n]) = none := fun n => by
    simp [FileTree.empty]
  exact ⟨s, play_reachable hok (.fresh hfresh) hplay, htest⟩

end Station

/-- An Episode was committed, and is kept. -/
theorem kept_failed : ∃ s : Archive Unit, Station.small.Regular ∧
    Station.small.Reachable Station.small.Careful s ∧ s.committed.length = 1 ∧
      Station.small.Kept s := by
  obtain ⟨s, hs, hlen⟩ := Station.shows Station.careful_spec Station.failed
    (fun s => decide (s.committed.length = 1)) (by decide +kernel)
  exact ⟨s, Station.regular, hs, of_decide_eq_true hlen, kept Station.regular hs⟩

/-- The number of an Episode that failed is prepared again, and the Episode is in two places. -/
theorem not_kept_again : ∃ s : Archive Unit, Station.small.Reachable (fun _ _ => True) s ∧
    ¬ Station.small.Kept s := by
  obtain ⟨s, hs, htest⟩ := @Station.shows (fun _ _ => True) (fun _ _ => true)
    (by simp) (Station.failed ++ [Station.prepare])
    (fun s => decide (Station.small.pendingEpisode "x" ∈ s.prepared) &&
      s.tree.exists (Station.small.place .recording "x") &&
        s.tree.exists (Station.small.place (.committed .fail) "x")) (by decide +kernel)
  simp only [Bool.and_eq_true, decide_eq_true_eq] at htest
  obtain ⟨⟨hp, hrecording⟩, hfail⟩ := htest
  refine ⟨s, hs, fun hkept => ?_⟩
  have hplace := hkept.onePlace _ hp .recording (.committed .fail) hrecording hfail
  cases hplace

end EpisodeStore

end DualCollection
