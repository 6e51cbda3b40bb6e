import Mathlib

/-!
# Searches in a buffer

`nearest_not_after` and `latest_not_after` of `snapshot_buffer.cpp`, for messages `M` whose times are
`ns`.  A buffer is a list, oldest message first.
-/

namespace DualCollection

/-- `std::numeric_limits<std::int64_t>::max()` -/
def int64Max : ℤ := 2 ^ 63 - 1

/-- `std::numeric_limits<std::int64_t>::min()` -/
def int64Min : ℤ := -2 ^ 63

namespace Search

variable {M : Type}

variable (M) in
/-- The local variables of `nearest_not_after`. -/
structure Best where
  /-- `best` -/
  best : Option M := none
  /-- `best_delta` -/
  bestDelta : ℤ := int64Max
  /-- `best_stamp` -/
  bestStamp : ℤ := int64Min

variable (ns : M → ℤ) (anchorNs nowNs : ℤ)

/-- A round of the loop of `nearest_not_after`. -/
def nearestStep (b : Best M) (message : M) : Best M :=
  let candidateNs := ns message
  if candidateNs > nowNs then b
  else
    let delta := |candidateNs - anchorNs|
    if delta < b.bestDelta ∨ delta = b.bestDelta ∧ candidateNs > b.bestStamp then
      ⟨some message, delta, candidateNs⟩
    else b

/-- `nearest_not_after` -/
def nearestNotAfter (messages : List M) : Option M :=
  (messages.foldl (nearestStep ns anchorNs nowNs) {}).best

/-- `latest_not_after` -/
def latestNotAfter (messages : List M) (cutoffNs : ℤ) : Option M :=
  messages.reverse.find? fun message => ns message ≤ cutoffNs

variable {ns} {anchorNs nowNs} {messages : List M} {m : M}

/-- One message is as good as another: it is nearer to the anchor, or as near and not earlier. -/
def AsGood (ns : M → ℤ) (anchorNs : ℤ) (m m' : M) : Prop :=
  |ns m - anchorNs| < |ns m' - anchorNs| ∨ |ns m - anchorNs| = |ns m' - anchorNs| ∧ ns m' ≤ ns m

/-- The message is the nearest to the anchor among those that are not after now, and the later one
on a tie. -/
structure IsNearest (ns : M → ℤ) (anchorNs nowNs : ℤ) (messages : List M) (m : M) : Prop where
  /-- It is in the buffer. -/
  mem : m ∈ messages
  /-- It is not after now. -/
  notAfter : ns m ≤ nowNs
  /-- No other is better. -/
  asGood : ∀ m' ∈ messages, ns m' ≤ nowNs → AsGood ns anchorNs m m'

/-- What the loop knows of the messages that it has seen. -/
inductive Found (ns : M → ℤ) (anchorNs nowNs : ℤ) (seen : List M) (b : Best M) : Prop
  /-- All of them are after now. -/
  | none (hb : b = {}) (h : ∀ m ∈ seen, nowNs < ns m)
  /-- The best is among them. -/
  | some (m : M) (hb : b = ⟨Option.some m, |ns m - anchorNs|, ns m⟩)
    (h : IsNearest ns anchorNs nowNs seen m)

theorem AsGood.trans {m' m'' : M} (h : AsGood ns anchorNs m m') (h' : AsGood ns anchorNs m' m'') :
    AsGood ns anchorNs m m'' := by
  unfold AsGood at *
  omega

theorem Found.step {seen : List M} {b : Best M} (h : Found ns anchorNs nowNs seen b)
    (hm : |ns m - anchorNs| < int64Max) :
    Found ns anchorNs nowNs (seen ++ [m]) (nearestStep ns anchorNs nowNs b m) := by
  unfold nearestStep
  dsimp only
  split
  · rename_i hafter
    cases h with
    | none hb h =>
      refine .none hb fun m' hm' => ?_
      rcases List.mem_append.1 hm' with hm' | hm'
      · exact h m' hm'
      · rw [List.mem_singleton.1 hm']
        omega
    | some best hb h =>
      refine .some best hb ⟨List.mem_append_left _ h.mem, h.notAfter, fun m' hm' hle => ?_⟩
      rcases List.mem_append.1 hm' with hm' | hm'
      · exact h.asGood m' hm' hle
      · rw [List.mem_singleton.1 hm'] at hle
        omega
  rename_i hnow
  have hself : AsGood ns anchorNs m m := .inr ⟨rfl, le_rfl⟩
  cases h with
  | none hb h =>
    subst hb
    rw [if_pos (.inl hm)]
    refine .some m rfl ⟨by simp, by omega, fun m' hm' hle => ?_⟩
    rcases List.mem_append.1 hm' with hm' | hm'
    · have := h m' hm'
      omega
    · rw [List.mem_singleton.1 hm']
      exact hself
  | some best hb h =>
    subst hb
    dsimp only
    split
    · -- the message is better than the best so far
      rename_i hbetter
      have hgood : AsGood ns anchorNs m best := by
        unfold AsGood
        omega
      refine .some m rfl ⟨by simp, by omega, fun m' hm' hle => ?_⟩
      rcases List.mem_append.1 hm' with hm' | hm'
      · exact hgood.trans (h.asGood m' hm' hle)
      · rw [List.mem_singleton.1 hm']
        exact hself
    · rename_i hworse
      refine .some best rfl ⟨List.mem_append_left _ h.mem, h.notAfter, fun m' hm' hle => ?_⟩
      rcases List.mem_append.1 hm' with hm' | hm'
      · exact h.asGood m' hm' hle
      · rw [List.mem_singleton.1 hm']
        unfold AsGood
        omega

theorem Found.foldl {seen : List M} {b : Best M} (h : Found ns anchorNs nowNs seen b)
    (hm : ∀ m ∈ messages, |ns m - anchorNs| < int64Max) :
    Found ns anchorNs nowNs (seen ++ messages)
      (messages.foldl (nearestStep ns anchorNs nowNs) b) := by
  induction messages generalizing seen b with
  | nil => rwa [List.append_nil]
  | cons m messages ih =>
    have hstep := ih (h.step (hm m List.mem_cons_self)) fun m' hm' =>
      hm m' (List.mem_cons_of_mem _ hm')
    rwa [List.append_assoc] at hstep

theorem found_nearest (nowNs : ℤ) (hm : ∀ m ∈ messages, |ns m - anchorNs| < int64Max) :
    Found ns anchorNs nowNs messages (messages.foldl (nearestStep ns anchorNs nowNs) {}) :=
  have hnone : Found ns anchorNs nowNs [] {} := .none rfl fun _ hm => (List.not_mem_nil hm).elim
  hnone.foldl hm

/-- What is found is the nearest message. -/
theorem nearestNotAfter_some (hm : ∀ m ∈ messages, |ns m - anchorNs| < int64Max)
    (h : nearestNotAfter ns anchorNs nowNs messages = some m) :
    IsNearest ns anchorNs nowNs messages m := by
  unfold nearestNotAfter at h
  cases found_nearest nowNs hm with
  | none hb =>
    rw [hb] at h
    cases h
  | some best hb hbest =>
    rw [hb] at h
    cases h
    exact hbest

/-- Nothing is found only if all messages are after now. -/
theorem nearestNotAfter_none (hm : ∀ m ∈ messages, |ns m - anchorNs| < int64Max)
    (h : nearestNotAfter ns anchorNs nowNs messages = none) : ∀ m ∈ messages, nowNs < ns m := by
  unfold nearestNotAfter at h
  cases found_nearest nowNs hm with
  | none _ hafter => exact hafter
  | some best hb =>
    rw [hb] at h
    cases h

/-- The nearest message to a later anchor is not earlier. -/
theorem IsNearest.mono {anchorNs' : ℤ} {m' : M} (h : IsNearest ns anchorNs nowNs messages m)
    (h' : IsNearest ns anchorNs' nowNs messages m') (hle : anchorNs ≤ anchorNs') : ns m ≤ ns m' := by
  have hgood := h.asGood m' h'.mem h'.notAfter
  have hgood' := h'.asGood m h.mem h.notAfter
  unfold AsGood at hgood hgood'
  by_contra hlt
  rcases abs_cases (ns m - anchorNs) with ha | ha <;>
    rcases abs_cases (ns m' - anchorNs) with hb | hb <;>
      rcases abs_cases (ns m - anchorNs') with hc | hc <;>
        rcases abs_cases (ns m' - anchorNs') with hd | hd <;> omega

theorem latestNotAfter_some {cutoffNs : ℤ} (h : latestNotAfter ns messages cutoffNs = some m) :
    m ∈ messages ∧ ns m ≤ cutoffNs := by
  have hmem := List.mem_of_find?_eq_some h
  have hle := List.find?_some h
  exact ⟨List.mem_reverse.1 hmem, of_decide_eq_true hle⟩

/-- In a buffer that was filled in order, the latest message is found. -/
theorem latestNotAfter_latest {cutoffNs : ℤ} (hsorted : messages.Pairwise fun m m' => ns m ≤ ns m')
    (h : latestNotAfter ns messages cutoffNs = some m) :
    ∀ m' ∈ messages, ns m' ≤ cutoffNs → ns m' ≤ ns m := by
  obtain ⟨-, later, earlier, heq, hlater⟩ := List.find?_eq_some_iff_append.1 h
  have hmessages : messages = earlier.reverse ++ m :: later.reverse := by
    rw [← List.reverse_reverse messages, heq]
    simp
  intro m' hm' hle
  rw [hmessages] at hsorted hm'
  rcases List.mem_append.1 hm' with hm' | hm'
  · exact (List.pairwise_append.1 hsorted).2.2 m' hm' m List.mem_cons_self
  rcases List.mem_cons.1 hm' with rfl | hm'
  · exact le_rfl
  · have hnot := hlater m' (List.mem_reverse.1 hm')
    simp [hle] at hnot

end Search

end DualCollection
