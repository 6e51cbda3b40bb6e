import Mathlib.Data.List.Pairwise
import Mathlib.Logic.Function.Basic

/-!
# Slots with versions

A writer publishes values in slots, and readers copy them without a lock: before it changes the
cells of a slot the writer makes its version odd, and when all of them are stored it makes the
version a new even number.  A reader that sees the same even version before and after it has loaded
the cells has loaded what was published with this version.

`Consistent m h` ties the slots `m` to the publications `h` so far, and `Advances m h m' h'` is what
the writer does to both, as far as readers can tell: a version that it has left does not come back.
`Seen` is what a reader knows of a value that it has loaded.
-/

namespace DualCollection

namespace Thread

/-- A slot. -/
@[ext] structure Slot (ι : Type) (V : ι → Type) where
  /-- The version. -/
  version : ℕ
  /-- The values. -/
  cell : ∀ i, V i

/-- What was published: the slot, the version and the values. -/
@[ext] structure Publication (κ ι : Type) (V : ι → Type) where
  /-- The slot. -/
  slot : κ
  /-- The version. -/
  version : ℕ
  /-- The values. -/
  cell : ∀ i, V i

/-- The cells of the slot may be read. -/
def Stable (version : ℕ) : Prop := 0 < version ∧ version % 2 = 0

variable {κ ι : Type} {V : ι → Type}

/-- The slots that may be read hold what was published. -/
structure Consistent (m : κ → Slot ι V) (h : List (Publication κ ι V)) : Prop where
  /-- A version that may be read was published with the values that are there. -/
  current : ∀ k, Stable (m k).version → ⟨k, (m k).version, (m k).cell⟩ ∈ h
  /-- No version is published twice in a slot. -/
  once : h.Pairwise fun p q => ¬ (p.slot = q.slot ∧ p.version = q.version)
  /-- What was published may be read. -/
  stable : ∀ p ∈ h, Stable p.version

/-- What the writer does. -/
structure Advances (m : κ → Slot ι V) (h : List (Publication κ ι V)) (m' : κ → Slot ι V)
    (h' : List (Publication κ ι V)) : Prop where
  /-- What was published stays published. -/
  published : h ⊆ h'
  /-- A slot with a version that was published before has not changed. -/
  kept : ∀ p ∈ h, (m' p.slot).version = p.version → m' p.slot = m p.slot

/-- What a reader that looks for the publication `p` knows of the value `v` of a cell. -/
def Seen (p : Publication κ ι V) (m : κ → Slot ι V) (i : ι) (v : V i) : Prop :=
  (m p.slot).version = p.version → v = p.cell i

variable {m m' m'' : κ → Slot ι V} {h h' h'' : List (Publication κ ι V)} {p q : Publication κ ι V}

theorem Advances.refl : Advances m h m h := ⟨List.Subset.refl h, fun _ _ _ => rfl⟩

theorem Advances.trans (a : Advances m h m' h') (a' : Advances m' h' m'' h'') :
    Advances m h m'' h'' where
  published := List.Subset.trans a.published a'.published
  kept p hp hv := by
    have hlate := a'.kept p (a.published hp) hv
    rw [hlate] at hv ⊢
    exact a.kept p hp hv

/-- A publication is determined by its slot and its version. -/
theorem Consistent.unique (c : Consistent m h) (hp : p ∈ h) (hq : q ∈ h) (hs : p.slot = q.slot)
    (hv : p.version = q.version) : p = q := by
  by_contra hne
  have hsymm : Std.Symm fun p q : Publication κ ι V =>
    ¬ (p.slot = q.slot ∧ p.version = q.version) := ⟨fun p q h heq => h ⟨heq.1.symm, heq.2.symm⟩⟩
  exact c.once.forall hp hq hne ⟨hs, hv⟩

/-- A version that was published is that of the publication. -/
theorem Consistent.cell_eq (c : Consistent m h) (hp : p ∈ h) (hv : (m p.slot).version = p.version) :
    (m p.slot).cell = p.cell := by
  have hcurrent := c.current p.slot (hv ▸ c.stable p hp)
  exact congrArg Publication.cell (c.unique hcurrent hp rfl hv)

section Reader

/-- The value that is there is what the reader looks for, if the version is. -/
theorem Consistent.seen (c : Consistent m h) (hp : p ∈ h) (i : ι) :
    Seen p m i ((m p.slot).cell i) := fun hv => by rw [c.cell_eq hp hv]

end Reader

section Writer

variable [DecidableEq κ]

/-- Change the version of a slot. -/
def setVersion (m : κ → Slot ι V) (k : κ) (version : ℕ) : κ → Slot ι V :=
  Function.update m k { m k with version }

/-- Change a cell of a slot. -/
def setCell [DecidableEq ι] (m : κ → Slot ι V) (k : κ) (i : ι) (v : V i) : κ → Slot ι V :=
  Function.update m k { m k with cell := Function.update (m k).cell i v }

@[simp] theorem setVersion_self (k : κ) (version : ℕ) :
    setVersion m k version k = { m k with version } := Function.update_self ..

theorem setVersion_of_ne {k k' : κ} (hk : k' ≠ k) (version : ℕ) :
    setVersion m k version k' = m k' := Function.update_of_ne hk ..

@[simp] theorem setCell_self [DecidableEq ι] (k : κ) (i : ι) (v : V i) :
    setCell m k i v k = { m k with cell := Function.update (m k).cell i v } :=
  Function.update_self ..

theorem setCell_of_ne [DecidableEq ι] {k k' : κ} (hk : k' ≠ k) (i : ι) (v : V i) :
    setCell m k i v k' = m k' := Function.update_of_ne hk ..

omit [DecidableEq κ] in
/-- A slot that may not be read can be changed. -/
theorem Consistent.change (c : Consistent m h) {k : κ} (hother : ∀ k', k' ≠ k → m' k' = m k')
    (hk : ¬ Stable (m' k).version) : Consistent m' h ∧ Advances m h m' h := by
  refine ⟨⟨fun k' hk' => ?_, c.once, c.stable⟩, List.Subset.refl h, fun p hp hv => ?_⟩
  · have hne : k' ≠ k := fun heq => hk (heq ▸ hk')
    rw [hother k' hne] at hk' ⊢
    exact c.current k' hk'
  · refine hother _ fun heq => hk ?_
    rw [← heq, hv]
    exact c.stable p hp

/-- Nobody reads the slot from now on. -/
theorem Consistent.lock (c : Consistent m h) {k : κ} {version : ℕ} (hv : ¬ Stable version) :
    Consistent (setVersion m k version) h ∧ Advances m h (setVersion m k version) h :=
  c.change (fun _ hk' => setVersion_of_ne hk' version) (by rwa [setVersion_self])

/-- A cell of a slot that nobody reads is changed. -/
theorem Consistent.store [DecidableEq ι] (c : Consistent m h) {k : κ}
    (hk : ¬ Stable (m k).version) (i : ι) (v : V i) :
    Consistent (setCell m k i v) h ∧ Advances m h (setCell m k i v) h :=
  c.change (fun _ hk' => setCell_of_ne hk' i v) (by rwa [setCell_self])

/-- The values are published with a version that is new. -/
theorem Consistent.publish (c : Consistent m h) {k : κ} {version : ℕ} (hv : Stable version)
    (hnew : ∀ p ∈ h, p.slot = k → p.version ≠ version) :
    Consistent (setVersion m k version) (⟨k, version, (m k).cell⟩ :: h) ∧
      Advances m h (setVersion m k version) (⟨k, version, (m k).cell⟩ :: h) := by
  refine ⟨⟨fun k' hk' => ?_, ?_, ?_⟩, List.subset_cons_self _ _, fun p hp hv => ?_⟩
  · by_cases heq : k' = k
    · rw [heq, setVersion_self]
      exact List.mem_cons_self
    · rw [setVersion_of_ne heq] at hk' ⊢
      exact List.mem_cons_of_mem _ (c.current k' hk')
  · exact c.once.cons fun q hq heq => hnew q hq heq.1.symm heq.2.symm
  · intro p hp
    rcases List.mem_cons.1 hp with rfl | hp
    · exact hv
    · exact c.stable p hp
  · by_cases heq : p.slot = k
    · rw [heq, setVersion_self] at hv
      exact absurd hv.symm (hnew p hp heq)
    · exact setVersion_of_ne heq version

end Writer

end Thread

end DualCollection
