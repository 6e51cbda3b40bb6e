import DualCollection.Thread.Serve

/-!
# Ledgers of resources

A section of a program may open a resource, close one, or find that one has ended by itself.  A
`Ledger` lists what was opened, closed and found to have ended, and `Ledger.Released` says that
nothing is left: whatever was opened and has not ended by itself was closed once, and the resources
were closed in the order of their ranks.

`Ledger.Accounts` is the balance from which this follows.  It knows what is still held, and each of
`opens`, `closes` and `ends` says how an entry changes that.
-/

namespace DualCollection

namespace Thread

/-- What a section does to the resources. -/
inductive Entry (R : Type)
  | opens (r : R)
  | closes (r : R)
  | ends (r : R)
  | other

/-- What has happened to the resources. -/
structure Ledger (R : Type) where
  /-- What was opened. -/
  opened : List R := []
  /-- What was closed, in this order. -/
  closed : List R := []
  /-- What has ended by itself. -/
  ended : List R := []

namespace Ledger

variable {R : Type} (rank : R → ℕ) (k : Ledger R)

/-- Note an entry. -/
def enter : Entry R → Ledger R
  | .opens r => { k with opened := k.opened ++ [r] }
  | .closes r => { k with closed := k.closed ++ [r] }
  | .ends r => { k with ended := k.ended ++ [r] }
  | .other => k

/-- Nothing is left. -/
structure Released [DecidableEq R] : Prop where
  /-- What was opened was closed once, unless it has ended by itself. -/
  once : ∀ r ∈ k.opened, r ∉ k.ended → k.closed.count r = 1
  /-- The resources of a low rank are closed first. -/
  order : (k.closed.map rank).Pairwise (· ≤ ·)

/-- Nothing was closed, and the resources that were opened are those in `held`. -/
structure Opening (held : R → Prop) : Prop where
  opened : ∀ r, r ∈ k.opened ↔ held r
  closed : k.closed = []
  ended : k.ended = []

/-- What was opened is still held unless it was closed or has ended, and what was closed has a rank
of at most `n`. -/
structure Accounts (held : R → Prop) (n : ℕ) : Prop where
  opened : ∀ r, r ∈ k.opened ↔ held r ∨ r ∈ k.closed ∨ r ∈ k.ended
  apart : ∀ r, held r → r ∉ k.closed ∧ r ∉ k.ended
  once : k.closed.Nodup
  order : (k.closed.map rank).Pairwise (· ≤ ·)
  upto : ∀ r ∈ k.closed, rank r ≤ n

variable {rank k} {held held' : R → Prop} {n m : ℕ} {r : R}

theorem Opening.congr (h : k.Opening held) (heq : ∀ r, held r ↔ held' r) : k.Opening held' :=
  { h with opened := fun r => (h.opened r).trans (heq r) }

/-- Open a resource. -/
theorem Opening.opens (h : k.Opening held) :
    (k.enter (.opens r)).Opening fun x => held x ∨ x = r where
  opened x := by
    simp only [enter, List.mem_append, List.mem_singleton, h.opened]
  closed := h.closed
  ended := h.ended

theorem Opening.accounts (h : k.Opening held) : k.Accounts rank held n where
  opened x := by simp [h.opened, h.closed, h.ended]
  apart x _ := by simp [h.closed, h.ended]
  once := by simp [h.closed]
  order := by simp [h.closed]
  upto := by simp [h.closed]

theorem Accounts.congr (h : k.Accounts rank held n) (heq : ∀ r, held r ↔ held' r) :
    k.Accounts rank held' n :=
  { h with
    opened := fun r => by rw [h.opened, heq]
    apart := fun r hr => h.apart r ((heq r).2 hr) }

theorem Accounts.mono (h : k.Accounts rank held n) (hnm : n ≤ m) : k.Accounts rank held m :=
  { h with upto := fun r hr => (h.upto r hr).trans hnm }

/-- Close a resource that is held. -/
theorem Accounts.closes (h : k.Accounts rank held n) (hr : held r) (hn : n ≤ rank r) :
    (k.enter (.closes r)).Accounts rank (fun x => held x ∧ x ≠ r) (rank r) where
  opened x := by
    have hx := h.opened x
    by_cases hxr : x = r
    · subst hxr
      simp [enter, hx, hr]
    · simp [enter, hx, hxr]
  apart x hx := by
    have hapart := h.apart x hx.1
    simp [enter, hapart.1, hapart.2, hx.2]
  once := List.nodup_append.2 ⟨h.once, List.nodup_singleton r, fun x hx y hy => by
    rw [List.mem_singleton.1 hy]
    rintro rfl
    exact (h.apart x hr).1 hx⟩
  order := by
    simp only [enter, List.map_append, List.map_cons, List.map_nil, List.pairwise_append]
    refine ⟨h.order, List.pairwise_singleton _ _, ?_⟩
    intro a ha b hb
    obtain ⟨x, hx, rfl⟩ := List.mem_map.1 ha
    rw [List.mem_singleton.1 hb]
    exact (h.upto x hx).trans hn
  upto x hx := by
    rcases List.mem_append.1 hx with hx | hx
    · exact (h.upto x hx).trans hn
    · rw [List.mem_singleton.1 hx]

/-- A resource that is held has ended. -/
theorem Accounts.ends (h : k.Accounts rank held n) (hr : held r) :
    (k.enter (.ends r)).Accounts rank (fun x => held x ∧ x ≠ r) n where
  opened x := by
    have hx := h.opened x
    by_cases hxr : x = r
    · subst hxr
      simp [enter, hx, hr]
    · simp [enter, hx, hxr]
  apart x hx := by
    have hapart := h.apart x hx.1
    simp [enter, hapart.1, hapart.2, hx.2]
  once := h.once
  order := h.order
  upto := h.upto

/-- Nothing is left if and only if nothing is held. -/
theorem Accounts.released_iff [DecidableEq R] (h : k.Accounts rank held n) :
    k.Released rank ↔ ∀ r, ¬ held r := by
  constructor
  · intro hreleased r hr
    obtain ⟨hclosed, hended⟩ := h.apart r hr
    have hcount := hreleased.once r ((h.opened r).2 (.inl hr)) hended
    rw [List.count_eq_zero_of_not_mem hclosed] at hcount
    exact absurd hcount (by decide)
  · intro hnone
    refine ⟨fun r hr hended => ?_, h.order⟩
    rcases (h.opened r).1 hr with hheld | hclosed | hend
    · exact absurd hheld (hnone r)
    · exact List.count_eq_one_of_mem h.once hclosed
    · exact absurd hend hended

end Ledger

end Thread

end DualCollection
