import DualCollection.Files.Calls
import DualCollection.Thread.Given

/-!
# Replacing a file

A file is replaced by one that was written next to it and then renamed, or removed if that was not to
be.  Here is when the calls that do this succeed, and what is left of them in a run whose answers
are restricted (`Thread.Given`).
-/

namespace DualCollection

namespace Files

namespace FileTree

variable {B : Type} {t : FileTree B} {p q : Path} {b : B}

/-! ### Removing a file -/

variable (t) in
/-- The tree without a file. -/
def remove (p : Path) (h : t.isFile p = true) : FileTree B where
  entry := Function.update t.entry p none
  paths := t.paths.erase p
  mem_paths q := by
    by_cases hq : q = p
    · subst hq
      simp
    · simp [hq, t.mem_paths]
  top := by
    obtain ⟨b, hb⟩ := isFile_eq.1 h
    rw [Function.update_of_ne, t.top]
    rintro rfl
    rw [t.top] at hb
    cases hb
  parent q n hq := by
    obtain ⟨b, hb⟩ := isFile_eq.1 h
    by_cases hqn : q ++ [n] = p
    · rw [hqn, Function.update_self] at hq
      exact absurd rfl hq
    · rw [Function.update_of_ne hqn] at hq
      have hdir := t.parent q n hq
      rwa [Function.update_of_ne]
      rintro rfl
      rw [hdir] at hb
      cases hb

variable (t) in
/-- `path.unlink(missing_ok=True)` -/
def unlink (p : Path) : Except OsError (FileTree B) :=
  if h : t.isFile p = true then .ok (t.remove p h)
  else if t.isDir p then .error .isDirectory
  else if t.exists p.dropLast && !t.isDir p.dropLast then .error .notDirectory
  else .ok t

theorem unlink_ok {t' : FileTree B} (h : t.unlink p = .ok t') :
    ∀ q, q ≠ p → t'.entry q = t.entry q := by
  unfold unlink at h
  split at h
  · cases h
    exact fun q hq => Function.update_of_ne hq ..
  split at h
  · cases h
  split at h
  · cases h
  · cases h
    exact fun q _ => rfl

/-! ### Calls that succeed -/

/-- What is above a directory is a directory. -/
theorem entry_above (hpq : p <+: q) (h : t.entry q = some .directory) :
    t.entry p = some .directory := by
  obtain ⟨r, rfl⟩ := hpq
  by_cases hr : r = []
  · rwa [hr, List.append_nil] at h
  · exact entry_below hr (by rw [h]; exact Option.some_ne_none _)

theorem mkdirsFrom_of_isDir {base rest : Path} (h : t.entry (base ++ rest) = some .directory) :
    mkdirsFrom t base rest = .ok t := by
  induction rest generalizing base with
  | nil => rfl
  | cons n rest ih =>
    have happend : base ++ n :: rest = base ++ [n] ++ rest := by simp
    rw [happend] at h
    have hdir : t.entry (base ++ [n]) = some .directory := entry_above (List.prefix_append _ _) h
    rw [mkdirsFrom, ensureDir, if_pos (isDir_eq.2 hdir)]
    exact ih h

/-- Nothing is done for a directory that is there. -/
theorem mkdirs_of_isDir (h : t.entry p = some .directory) : t.mkdirs p = .ok t :=
  mkdirsFrom_of_isDir (by rwa [List.nil_append])

theorem exists_write (hp : t.entry p ≠ some .directory)
    (hd : t.entry p.dropLast = some .directory) (b : B) : ∃ t', t.write p b = .ok t' := by
  rw [write, dif_neg fun h => hp (isDir_eq.1 h), dif_pos (isDir_eq.2 hd)]
  exact ⟨_, rfl⟩

/-- A file can take the place of a file. -/
theorem exists_rename {src dst : Path} (hsrc : t.entry src = some (.file b))
    (hdst : t.entry dst ≠ some .directory) (hd : t.entry dst.dropLast = some .directory)
    (hne : src ≠ dst) : ∃ t', t.rename src dst = .ok t' := by
  have hfile : t.isDir src = false := by
    rw [Bool.eq_false_iff]
    intro h
    rw [isDir_eq.1 h] at hsrc
    cases hsrc
  have htarget : t.isDir dst = false := Bool.eq_false_iff.2 fun h => hdst (isDir_eq.1 h)
  have hsource : t.entry src ≠ none := by simp [hsrc]
  have hapart : ¬ src <+: dst := by
    intro hpre
    -- what is above the target is a directory
    obtain ⟨r, rfl⟩ := hpre
    have hr : r ≠ [] := fun hr => hne (by rw [hr, List.append_nil])
    rw [List.dropLast_append_of_ne_nil hr] at hd
    rw [entry_above (List.prefix_append _ _) hd] at hsrc
    cases hsrc
  have hempty : t.names dst = ∅ := by
    refine Finset.eq_empty_of_forall_notMem fun n hn => hdst ?_
    exact t.parent dst n (mem_names.1 hn)
  rw [rename, if_neg hsource, if_neg hne, hfile, htarget, Bool.false_and, Bool.and_false,
    if_neg Bool.false_ne_true, if_neg Bool.false_ne_true,
    dif_pos ⟨⟨hsource, hapart, isDir_eq.2 hd⟩, hempty⟩]
  exact ⟨_, rfl⟩

end FileTree

end Files

namespace Files

open Thread

variable {L E ε B α : Type} {A : L × E → Prop} {raises : E → Option ε} {conv : OsError → ε} {l : L}
  {t : FileTree B}

theorem look_under {f : E → FileTree B → α} {Q : Except ε α → FileTree B → Unit → Prop}
    (herr : ∀ a err, A (l, a) → raises a = some err → Q (.error err) t ())
    (h : ∀ a, A (l, a) → raises a = none → Q (.ok (f a t)) t ()) :
    (look raises l f).Under (Given A) t () Q :=
  Prog.under_atomic fun a _ ha => by
    cases hr : raises a with
    | some err => exact herr a err ha hr
    | none => exact h a ha hr

theorem syscall_under {f : E → FileTree B → Except OsError (FileTree B)}
    {Q : Except ε Unit → FileTree B → Unit → Prop}
    (herr : ∀ a err, A (l, a) → raises a = some err ∨ raises a = none ∧
      (∃ e, f a t = .error e ∧ err = conv e) → Q (.error err) t ())
    (h : ∀ a t', A (l, a) → raises a = none → f a t = .ok t' → Q (.ok ()) t' ()) :
    (syscall raises conv l f).Under (Given A) t () Q :=
  Prog.under_atomic fun a _ ha => by
    cases hr : raises a with
    | some err => exact herr a err ha (.inl hr)
    | none =>
      dsimp only
      cases hf : f a t with
      | ok t' => exact h a t' ha hr hf
      | error e => exact herr a _ ha (.inr ⟨hr, e, hf, rfl⟩)

end Files

end DualCollection
