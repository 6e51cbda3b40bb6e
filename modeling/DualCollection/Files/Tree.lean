import Mathlib

/-!
# File trees

A *tree* says what is found at every path: a directory, a file with its contents, or nothing.
Every tree is well formed: what is found below a path says that the path is a directory, and only
finitely many paths are in use.

* `FileTree.put` is the one way to add something, and `FileTree.move` the one way to take something away;
  `mkdir`, `mkdirs`, `write` and `rename` are the system calls made of them, with their errors.
* Nothing is found below a path that is no directory (`entry_below`), so that a path that is not
  in use can be the target of `rename`.
* `FileTree.names` lists a directory.
-/

namespace DualCollection

namespace Files

/-- The names on the way from the top of the tree. -/
abbrev Path := List String

/-- `path / name`, as the system resolves it. -/
def Path.child (p : Path) (n : String) : Path := if n = ".." then p.dropLast else p ++ [n]

/-- What can be found at a path. -/
inductive Entry (B : Type)
  /-- A directory. -/
  | directory
  /-- A file. -/
  | file (contents : B)
  deriving DecidableEq

/-- Why a system call fails. -/
inductive OsError
  | noEntry
  | exists
  | notDirectory
  | isDirectory
  | notEmpty
  | invalid
  deriving DecidableEq, Repr

/-- What is found at every path. -/
structure FileTree (B : Type) where
  /-- What is found there, if anything. -/
  entry : Path → Option (Entry B)
  /-- The paths in use. -/
  paths : Finset Path
  /-- These are the paths at which something is found. -/
  mem_paths : ∀ p, p ∈ paths ↔ entry p ≠ none
  /-- The top is a directory. -/
  top : entry [] = some .directory
  /-- Only directories contain something. -/
  parent : ∀ p n, entry (p ++ [n]) ≠ none → entry p = some .directory

namespace FileTree

variable {B : Type} (t : FileTree B)

/-! ### What is found -/

/-- `path.exists()` -/
def «exists» (p : Path) : Bool := (t.entry p).isSome

/-- `path.is_dir()` -/
def isDir (p : Path) : Bool := match t.entry p with
  | some .directory => true
  | _ => false

/-- `path.is_file()` -/
def isFile (p : Path) : Bool := match t.entry p with
  | some (.file _) => true
  | _ => false

/-- The names in a directory. -/
def names (p : Path) : Finset String :=
  (t.paths.filter fun q => q ≠ [] ∧ q.dropLast = p).image fun q => q.getLastD ""

variable {t} {p q : Path} {n : String} {e : Entry B}

theorem exists_eq : t.exists p = true ↔ t.entry p ≠ none := by
  rw [«exists», Option.isSome_iff_ne_none]

theorem not_exists_eq : ¬ t.exists p = true ↔ t.entry p = none := by
  rw [exists_eq, not_not]

theorem isDir_eq : t.isDir p = true ↔ t.entry p = some .directory := by
  unfold isDir
  split
  · rename_i h
    exact iff_of_true rfl h
  · rename_i h
    exact iff_of_false Bool.false_ne_true h

theorem isFile_eq : t.isFile p = true ↔ ∃ b, t.entry p = some (.file b) := by
  unfold isFile
  split
  · rename_i b h
    exact iff_of_true rfl ⟨b, h⟩
  · rename_i h
    exact iff_of_false Bool.false_ne_true fun ⟨b, hb⟩ => h b hb

theorem mem_names : n ∈ t.names p ↔ t.entry (p ++ [n]) ≠ none := by
  simp only [names, Finset.mem_image, Finset.mem_filter, mem_paths]
  constructor
  · rintro ⟨q, ⟨hq, hne, rfl⟩, rfl⟩
    have hlast : q.getLastD "" = q.getLast hne := by
      rw [List.getLastD_eq_getLast?, List.getLast?_eq_some_getLast hne]
      rfl
    rwa [hlast, List.dropLast_append_getLast]
  · intro h
    exact ⟨p ++ [n], ⟨h, by simp, by simp⟩, by simp⟩

/-- What is found below a path says that the path is a directory. -/
theorem entry_below {r : Path} (hr : r ≠ []) (h : t.entry (p ++ r) ≠ none) :
    t.entry p = some .directory := by
  induction r using List.reverseRecOn with
  | nil => exact absurd rfl hr
  | append_singleton r n ih =>
    rw [← List.append_assoc] at h
    have hdir := t.parent _ _ h
    by_cases hr : r = []
    · rwa [hr, List.append_nil] at hdir
    · exact ih hr (by simp [hdir])

/-- Nothing is found below a path that is no directory. -/
theorem entry_of_prefix (hpq : p <+: q) (hne : p ≠ q) (h : t.entry p ≠ some .directory) :
    t.entry q = none := by
  obtain ⟨r, rfl⟩ := hpq
  by_contra hq
  exact h (entry_below (fun hr => hne (by rw [hr, List.append_nil])) hq)

/-- Two trees with the same entries are the same. -/
theorem ext {t t' : FileTree B} (h : t.entry = t'.entry) : t = t' := by
  have hp : t.paths = t'.paths := by
    ext p
    rw [t.mem_paths, t'.mem_paths, h]
  cases t
  cases t'
  obtain rfl : _ = _ := h
  obtain rfl : _ = _ := hp
  rfl

variable (B) in
/-- Nothing but the top. -/
def empty : FileTree B where
  entry p := if p = [] then some .directory else none
  paths := {[]}
  mem_paths p := by simp
  top := if_pos rfl
  parent p n h := by simp at h

/-! ### Adding an entry -/

variable (t) in
/-- Put `e` at a path where no directory is, in a directory. -/
def put (p : Path) (e : Entry B) (hp : p ≠ []) (hd : t.entry p.dropLast = some .directory)
    (hn : t.entry p ≠ some .directory) : FileTree B where
  entry := Function.update t.entry p (some e)
  paths := insert p t.paths
  mem_paths q := by
    by_cases hq : q = p
    · subst hq
      simp
    · simp [hq, t.mem_paths]
  top := by rw [Function.update_of_ne hp.symm, t.top]
  parent q n h := by
    by_cases hqn : q ++ [n] = p
    · subst hqn
      rw [List.dropLast_concat] at hd
      rwa [Function.update_of_ne (by simp)]
    · rw [Function.update_of_ne hqn] at h
      have hq := t.parent q n h
      rwa [Function.update_of_ne]
      rintro rfl
      exact hn hq

theorem put_entry {hp hd hn} : (t.put p e hp hd hn).entry q = if q = p then some e else t.entry q :=
  Function.update_apply ..

variable (t) in
/-- `path.mkdir()` -/
def mkdir (p : Path) : Except OsError (FileTree B) :=
  if hn : t.entry p = none then
    if hd : t.isDir p.dropLast = true then
      .ok (t.put p .directory (by rintro rfl; rw [t.top] at hn; cases hn) (isDir_eq.1 hd)
        (by simp [hn]))
    else if t.exists p.dropLast then .error .notDirectory
    else .error .noEntry
  else .error .exists

variable (t) in
/-- Write a file, which may be there already. -/
def write (p : Path) (b : B) : Except OsError (FileTree B) :=
  if hn : t.isDir p = true then .error .isDirectory
  else if hd : t.isDir p.dropLast = true then
    .ok (t.put p (.file b) (by rintro rfl; exact hn (isDir_eq.2 t.top)) (isDir_eq.1 hd)
      (fun h => hn (isDir_eq.2 h)))
  else if t.exists p.dropLast then .error .notDirectory
  else .error .noEntry

theorem mkdir_ok {t' : FileTree B} (h : t.mkdir p = .ok t') : t.entry p = none ∧
    t.entry p.dropLast = some .directory ∧
      ∀ q, t'.entry q = if q = p then some .directory else t.entry q := by
  unfold mkdir at h
  split at h
  · rename_i hn
    split at h
    · rename_i hd
      cases h
      exact ⟨hn, isDir_eq.1 hd, fun q => put_entry⟩
    · split at h <;> cases h
  · cases h

theorem write_ok {b : B} {t' : FileTree B} (h : t.write p b = .ok t') :
    t.entry p ≠ some .directory ∧ t.entry p.dropLast = some .directory ∧
      ∀ q, t'.entry q = if q = p then some (.file b) else t.entry q := by
  unfold write at h
  split at h
  · cases h
  · rename_i hn
    split at h
    · rename_i hd
      cases h
      exact ⟨fun hd => hn (isDir_eq.2 hd), isDir_eq.1 hd, fun q => put_entry⟩
    · split at h <;> cases h

variable (t) in
/-- `path.mkdir(exist_ok=True)` -/
def ensureDir (p : Path) : Except OsError (FileTree B) := if t.isDir p then .ok t else t.mkdir p

theorem ensureDir_ok {t' : FileTree B} (h : t.ensureDir p = .ok t') :
    ∀ q, t'.entry q = if q = p then some .directory else t.entry q := by
  unfold ensureDir at h
  split at h
  · rename_i hd
    cases h
    intro q
    split
    · rename_i hq
      rw [hq]
      exact isDir_eq.1 hd
    · rfl
  · exact (mkdir_ok h).2.2

/-- Create the directories from `base` down that are not there. -/
def mkdirsFrom (t : FileTree B) (base : Path) : Path → Except OsError (FileTree B)
  | [] => .ok t
  | n :: rest => match t.ensureDir (base ++ [n]) with
    | .ok t => mkdirsFrom t (base ++ [n]) rest
    | .error err => .error err

variable (t) in
/-- `path.mkdir(parents=True, exist_ok=True)` -/
def mkdirs (p : Path) : Except OsError (FileTree B) := mkdirsFrom t [] p

theorem mkdirsFrom_ok {base rest : Path} {t t' : FileTree B} (h : mkdirsFrom t base rest = .ok t')
    (hbase : t.entry base = some .directory) : ∀ q, t'.entry q =
      if base <+: q ∧ q <+: base ++ rest then some .directory else t.entry q := by
  induction rest generalizing t base with
  | nil =>
    cases h
    intro q
    split
    · rename_i hq
      rw [List.append_nil] at hq
      rw [← hq.1.eq_of_length_le hq.2.length_le, hbase]
    · rfl
  | cons n rest ih =>
    rw [mkdirsFrom] at h
    cases h₁ : t.ensureDir (base ++ [n]) with
    | error err => rw [h₁] at h; cases h
    | ok t₁ =>
      rw [h₁] at h
      have hentry := ensureDir_ok h₁
      intro q
      rw [ih h (by rw [hentry, if_pos rfl]), hentry, List.append_assoc, List.singleton_append]
      by_cases hq : base ++ [n] <+: q ∧ q <+: base ++ n :: rest
      · rw [if_pos hq, if_pos ⟨(List.prefix_append _ _).trans hq.1, hq.2⟩]
      · rw [if_neg hq, if_neg fun heq => hq (by simp [heq])]
        split
        · rename_i hpre
          -- only `base` itself is on the way to `base` and not to `base ++ [n]`
          obtain ⟨⟨r, rfl⟩, hr⟩ := hpre
          rw [List.prefix_append_right_inj] at hr
          cases r with
          | nil => rw [List.append_nil, hbase]
          | cons m r =>
            obtain ⟨rfl, hr⟩ := List.cons_prefix_cons.1 hr
            exact absurd ⟨by simp, by simpa using hr⟩ hq
        · rfl

/-- After `mkdirs` the path and everything above it are directories. -/
theorem mkdirs_ok {t' : FileTree B} (h : t.mkdirs p = .ok t') :
    ∀ q, t'.entry q = if q <+: p then some .directory else t.entry q := by
  intro q
  rw [mkdirsFrom_ok h t.top, List.nil_append]
  simp

/-! ### Moving an entry -/

/-- Where a path is found after `src` was moved to `dst`. -/
def moved (src dst q : Path) : Path := if src <+: q then dst ++ q.drop src.length else q

/-- What is found at `src` can be moved to `dst`. -/
structure CanMove (t : FileTree B) (src dst : Path) : Prop where
  /-- There is something to move. -/
  source : t.entry src ≠ none
  /-- It is not moved below itself. -/
  apart : ¬ src <+: dst
  /-- It is moved into a directory. -/
  target : t.entry dst.dropLast = some .directory
  /-- Nothing is lost below the target. -/
  free : ∀ n, t.entry (dst ++ [n]) = none

namespace CanMove

variable {src dst : Path} (h : CanMove t src dst)

include h

/-- Nothing is found below the target. -/
theorem below (hpq : dst <+: q) (hne : dst ≠ q) : t.entry q = none := by
  obtain ⟨r, rfl⟩ := hpq
  cases r with
  | nil => simp at hne
  | cons n r =>
    by_contra hq
    have hn := h.free n
    cases r with
    | nil => exact hq hn
    | cons m r =>
      rw [List.append_cons] at hq
      rw [entry_below (by simp) hq] at hn
      cases hn

theorem ne_nil : dst ≠ [] := by
  rintro rfl
  exact h.source (h.below List.nil_prefix fun hsrc => h.apart (by rw [← hsrc]))

theorem source_ne_nil : src ≠ [] := by
  rintro rfl
  exact h.apart List.nil_prefix

end CanMove

variable (t) in
/-- Move what is found at `src` to `dst`. -/
def move (src dst : Path) (h : t.CanMove src dst) : FileTree B where
  entry q := if dst <+: q then t.entry (src ++ q.drop dst.length)
    else if src <+: q then none else t.entry q
  paths := (t.paths.erase dst).image (moved src dst)
  mem_paths q := by
    simp only [Finset.mem_image, Finset.mem_erase, mem_paths, moved]
    constructor
    · rintro ⟨p, ⟨hne, hp⟩, rfl⟩
      by_cases hsrc : src <+: p
      · obtain ⟨r, rfl⟩ := hsrc
        simpa using hp
      · have hdst : ¬ dst <+: p := fun hd => hp (h.below hd hne.symm)
        simpa [hsrc, hdst] using hp
    · intro hq
      by_cases hdst : dst <+: q
      · obtain ⟨r, rfl⟩ := hdst
        rw [if_pos (List.prefix_append _ _), List.drop_left] at hq
        exact ⟨src ++ r, ⟨fun heq => h.apart ⟨r, heq⟩, hq⟩, by simp⟩
      · rw [if_neg hdst] at hq
        by_cases hsrc : src <+: q
        · exact absurd (if_pos hsrc) hq
        · rw [if_neg hsrc] at hq
          exact ⟨q, ⟨fun heq => hdst (by rw [heq]), hq⟩, if_neg hsrc⟩
  top := by
    rw [if_neg (by simpa using h.ne_nil), if_neg (by simpa using h.source_ne_nil), t.top]
  parent q n hq := by
    by_cases hdst : dst <+: q
    · obtain ⟨r, rfl⟩ := hdst
      simp only [List.append_assoc, List.prefix_append, if_true, List.drop_left] at hq ⊢
      rw [← List.append_assoc] at hq
      exact t.parent _ _ hq
    · have hsrc : ¬ src <+: q := by
        intro hsrc
        by_cases hdn : dst <+: q ++ [n]
        · rcases List.prefix_concat_iff.1 hdn with rfl | hd
          · exact h.apart (hsrc.trans (List.prefix_append _ _))
          · exact hdst hd
        · rw [if_neg hdn, if_pos (hsrc.trans (List.prefix_append _ _))] at hq
          exact hq rfl
      rw [if_neg hdst, if_neg hsrc]
      by_cases hdn : dst <+: q ++ [n]
      · -- the entry is the target itself
        rcases List.prefix_concat_iff.1 hdn with rfl | hd
        · have htarget := h.target
          rwa [List.dropLast_concat] at htarget
        · exact absurd hd hdst
      · rw [if_neg hdn] at hq
        split at hq
        · exact absurd rfl hq
        · exact t.parent _ _ hq

variable (t) in
/-- `src.rename(dst)`, which is also `os.replace(src, dst)`: a file may take the place of a file,
and a directory that of an empty directory. -/
def rename (src dst : Path) : Except OsError (FileTree B) :=
  if t.entry src = none then .error .noEntry
  else if src = dst then .ok t
  else if t.isDir src && t.isFile dst then .error .notDirectory
  else if t.isFile src && t.isDir dst then .error .isDirectory
  else if h : (t.entry src ≠ none ∧ ¬ src <+: dst ∧ t.isDir dst.dropLast) ∧ t.names dst = ∅ then
    .ok (t.move src dst ⟨h.1.1, h.1.2.1, isDir_eq.1 h.1.2.2, fun n => by
      by_contra hn
      exact Finset.notMem_empty n (h.2 ▸ mem_names.2 hn)⟩)
  else if src <+: dst then .error .invalid
  else if t.names dst ≠ ∅ then .error .notEmpty
  else if t.exists dst.dropLast then .error .notDirectory
  else .error .noEntry

/-- A successful `rename` to another path. -/
theorem rename_ok {src dst : Path} {t' : FileTree B} (h : t.rename src dst = .ok t')
    (hne : src ≠ dst) : t.CanMove src dst ∧ ∀ q, t'.entry q =
      if dst <+: q then t.entry (src ++ q.drop dst.length)
      else if src <+: q then none else t.entry q := by
  unfold rename at h
  rw [if_neg hne] at h
  split at h
  · cases h
  split at h
  · cases h
  split at h
  · cases h
  split at h
  · rename_i hcan
    cases h
    exact ⟨⟨hcan.1.1, hcan.1.2.1, isDir_eq.1 hcan.1.2.2, fun n => by
      by_contra hn
      exact Finset.notMem_empty n (hcan.2 ▸ mem_names.2 hn)⟩, fun q => rfl⟩
  · split at h
    · cases h
    split at h
    · cases h
    split at h <;> cases h

/-- A file that takes the place of a file. -/
theorem rename_file {src dst : Path} {t' : FileTree B} (h : t.rename src dst = .ok t')
    (hne : src ≠ dst) (hsrc : t.entry src ≠ some .directory)
    (hdst : t.entry dst ≠ some .directory) : ∀ q, t'.entry q =
      if q = dst then t.entry src else if q = src then none else t.entry q := by
  have hentry := (rename_ok h hne).2
  intro q
  rw [hentry]
  by_cases hd : dst <+: q
  · rw [if_pos hd]
    by_cases hq : q = dst
    · rw [if_pos hq, hq, List.drop_length, List.append_nil]
    · -- nothing is below a file
      obtain ⟨r, rfl⟩ := hd
      have hr : r ≠ [] := fun hr => hq (by rw [hr, List.append_nil])
      have hbelow : t.entry (src ++ r) = none :=
        entry_of_prefix (List.prefix_append _ _) (by simpa using hr.symm) hsrc
      have hbelow' : t.entry (dst ++ r) = none :=
        entry_of_prefix (List.prefix_append _ _) (by simpa using hr.symm) hdst
      rw [List.drop_left, hbelow, if_neg hq, hbelow', ite_self]
  · rw [if_neg hd, if_neg fun hq : q = dst => hd (by rw [hq])]
    by_cases hs : src <+: q
    · rw [if_pos hs]
      by_cases hq : q = src
      · rw [if_pos hq]
      · rw [if_neg hq, entry_of_prefix hs (Ne.symm hq) hsrc]
    · rw [if_neg hs, if_neg fun hq : q = src => hs (by rw [hq])]

end FileTree

end Files

end DualCollection
