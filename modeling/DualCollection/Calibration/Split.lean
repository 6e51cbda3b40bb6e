import DualCollection.Numpy.Linspace

/-!
# The split of the observations

`split_observations` of `calibration/routes.py` holds out evenly spaced observations of a run, before
anything is known of how well they fit.  The same function is applied to a run that is loaded, whose
labels have to be those it gives, and `require_usable_views` counts the labels.
-/

namespace DualCollection.Calibration

/-- What an observation is used for. -/
inductive Split
  | training
  | validation
  deriving DecidableEq, Repr

/-- An observation, with its label once it has one. -/
structure Observation (α : Type) where
  /-- What was observed. -/
  evidence : α
  /-- `split` -/
  split : Option Split
  deriving DecidableEq

/-- The counts of a split. -/
structure Selection where
  /-- All observations. -/
  accepted : ℕ
  /-- Those for training. -/
  training : ℕ
  /-- Those for validation. -/
  validation : ℕ
  deriving DecidableEq

/-- `min(count, max(5, int(np.ceil(count * 0.2))))` -/
def validationCount (count : ℕ) : ℕ := min count (max 5 ⌈(count : ℚ) * (1 / 5)⌉₊)

/-- The indices that are held out. -/
def heldout (count : ℕ) : List ℤ :=
  if count = 0 then [] else Numpy.linspace 0 (count - 1) (validationCount count)

/-- The label of an index. -/
def splitAt (count index : ℕ) : Split :=
  if (index : ℤ) ∈ heldout count then .validation else .training

variable {α : Type}

/-- `split_observations`: the labelled observations and the counts. -/
def splitObservations (observations : List (Observation α)) :
    List (Observation α) × Selection :=
  let count := observations.length
  (observations.zipIdx.map fun entry =>
      { entry.1 with split := some (splitAt count entry.2) },
    ⟨count, count - validationCount count, validationCount count⟩)

/-- The observations with a label. -/
def labelled (label : Split) (observations : List (Observation α)) : List (Observation α) :=
  observations.filter fun o => o.split = some label

/-- The comparison of `require_usable_views`, before it looks at the training views. -/
def requireUsableViews (role : String) (observations : List (Observation α)) :
    Except String Unit :=
  let training := labelled .training observations
  let held := labelled .validation observations
  if training.length < 15 ∨ held.length < 5 then
    .error (s!"{role}: need 15 training + 5 validation accepted views; got " ++
      s!"{training.length} + {held.length}")
  else .ok ()

/-! ### The indices that are held out -/

theorem validationCount_le (count : ℕ) : validationCount count ≤ count := min_le_left _ _

theorem heldout_nodup (count : ℕ) : (heldout count).Nodup := by
  unfold heldout
  split_ifs with h
  · exact List.nodup_nil
  · refine Numpy.linspace_nodup ?_
    have : (validationCount count : ℚ) ≤ count := by exact_mod_cast validationCount_le count
    linarith

theorem mem_heldout {count : ℕ} {x : ℤ} (hx : x ∈ heldout count) : 0 ≤ x ∧ x < count := by
  unfold heldout at hx
  split_ifs at hx with h
  · cases hx
  · have hcount : (1 : ℚ) ≤ count := by exact_mod_cast Nat.one_le_iff_ne_zero.2 h
    obtain ⟨hlow, hhigh⟩ := Numpy.mem_linspace (by linarith) hx
    have hlow : (-1 : ℤ) < x := by exact_mod_cast (by simpa using hlow : (-1 : ℚ) < x)
    have hhigh : x ≤ (count : ℤ) - 1 := by exact_mod_cast hhigh
    omega

theorem length_heldout (count : ℕ) : (heldout count).length = validationCount count := by
  unfold heldout
  split_ifs with h
  · subst h
    exact (Nat.zero_min _).symm
  · exact Numpy.length_linspace

/-- Two ends are held out, where two observations are. -/
theorem ends_mem_heldout {count : ℕ} (h : 2 ≤ validationCount count) :
    (0 : ℤ) ∈ heldout count ∧ ((count - 1 : ℕ) : ℤ) ∈ heldout count := by
  have hcount := validationCount_le count
  unfold heldout
  rw [if_neg (by omega)]
  constructor
  · simpa using Numpy.floor_start_mem_linspace 0 ((count : ℚ) - 1)
      (show 0 < validationCount count by omega)
  · have hmem := Numpy.floor_stop_mem_linspace 0 ((count : ℚ) - 1)
      (show 1 < validationCount count by omega)
    have hfloor : ⌊(count : ℚ) - 1⌋ = ((count - 1 : ℕ) : ℤ) := by
      rw [Int.floor_sub_one, Int.floor_natCast, Nat.cast_sub (by omega), Nat.cast_one]
    rwa [hfloor] at hmem

/-! ### Labels -/

/-- The labels of a list of observations depend on its length only. -/
theorem map_split_splitObservations (observations : List (Observation α)) :
    (splitObservations observations).1.map Observation.split =
      (List.range observations.length).map fun i => some (splitAt observations.length i) := by
  have hindices : observations.zipIdx.map Prod.snd = List.range observations.length := by
    rw [List.zipIdx_map_snd, List.range_eq_range']
  rw [splitObservations, List.map_map, ← hindices, List.map_map]
  rfl

@[simp] theorem length_splitObservations (observations : List (Observation α)) :
    (splitObservations observations).1.length = observations.length := by
  simp [splitObservations]

/-- Labels are counted by the indices they are given to. -/
theorem length_labelled (label : Split) (observations : List (Observation α)) :
    (labelled label (splitObservations observations).1).length =
      (List.range observations.length).countP fun i => splitAt observations.length i = label := by
  have hcount : (labelled label (splitObservations observations).1).length =
      ((splitObservations observations).1.map Observation.split).countP (· = some label) := by
    rw [labelled, ← List.countP_eq_length_filter, List.countP_map]
    rfl
  rw [hcount, map_split_splitObservations, List.countP_map]
  simp [Function.comp_def]

theorem length_validation (observations : List (Observation α)) :
    (labelled .validation (splitObservations observations).1).length =
      validationCount observations.length := by
  rw [length_labelled, ← length_heldout,
    ← Numpy.countP_mem_of_nodup (heldout_nodup _) fun x => mem_heldout]
  congr 1
  funext i
  by_cases h : (i : ℤ) ∈ heldout observations.length
  · simp [splitAt, h]
  · simp [splitAt, h]

/-- An observation without the one label has the other. -/
theorem length_training (observations : List (Observation α)) :
    (labelled .training (splitObservations observations).1).length =
      observations.length - validationCount observations.length := by
  have hvalidation := length_validation observations
  rw [length_labelled] at hvalidation ⊢
  have hsum := List.length_eq_countP_add_countP
    (fun i => decide (splitAt observations.length i = .validation))
    (l := List.range observations.length)
  have hother : (List.range observations.length).countP
        (fun i => decide (¬ decide (splitAt observations.length i = .validation) = true)) =
      (List.range observations.length).countP
        fun i => decide (splitAt observations.length i = .training) := by
    congr 1
    funext i
    cases splitAt observations.length i <;> rfl
  rw [List.length_range, hother, hvalidation] at hsum
  omega

/-- Labels are replaced, and are what they were. -/
theorem splitObservations_again (observations : List (Observation α)) :
    splitObservations (splitObservations observations).1 = splitObservations observations := by
  have hlength := length_splitObservations observations
  refine Prod.ext ?_ ?_
  · refine List.ext_getElem (by simp) fun i h₁ h₂ => ?_
    simp [splitObservations]
  · simp [splitObservations]

/-- The labels of the ends. -/
theorem split_ends (observations : List (Observation α))
    (h : 2 ≤ validationCount observations.length) :
    (∀ o ∈ (splitObservations observations).1.head?, o.split = some .validation) ∧
      ∀ o ∈ (splitObservations observations).1.getLast?, o.split = some .validation := by
  obtain ⟨hfirst, hlast⟩ := ends_mem_heldout h
  have hsplit : ∀ (i : ℕ) (o : Observation α), (splitObservations observations).1[i]? = some o →
      (i : ℤ) ∈ heldout observations.length → o.split = some .validation := by
    intro i o ho hi
    have hlabel := congrArg (·[i]?) (map_split_splitObservations observations)
    simp only [List.getElem?_map, ho, Option.map_some] at hlabel
    obtain ⟨hlt, -⟩ := List.getElem?_eq_some_iff.1 ho
    rw [length_splitObservations] at hlt
    rw [List.getElem?_range hlt, Option.map_some, splitAt, if_pos hi] at hlabel
    exact Option.some.inj hlabel
  constructor
  · intro o ho
    rw [List.head?_eq_getElem?] at ho
    exact hsplit 0 o ho hfirst
  · intro o ho
    rw [List.getLast?_eq_getElem?, length_splitObservations] at ho
    exact hsplit _ o ho hlast

/-- Enough observations leave enough of both kinds. -/
theorem twenty_le_split {count : ℕ} (h : 20 ≤ count) :
    5 ≤ validationCount count ∧ 15 ≤ count - validationCount count := by
  have hceil : (⌈(count : ℚ) * (1 / 5)⌉₊ : ℚ) < count * (1 / 5) + 1 :=
    Nat.ceil_lt_add_one (by positivity)
  have hfifth : 5 * ⌈(count : ℚ) * (1 / 5)⌉₊ < count + 5 := by
    have : (5 * ⌈(count : ℚ) * (1 / 5)⌉₊ : ℚ) < count + 5 := by linarith
    exact_mod_cast this
  unfold validationCount
  omega

/-- What a split promises. -/
structure SplitLaw (observations : List (Observation α))
    (result : List (Observation α) × Selection) : Prop where
  /-- Nothing but the labels changes. -/
  evidence : result.1.map Observation.evidence = observations.map Observation.evidence
  /-- Every observation has a label. -/
  labels : ∀ o ∈ result.1, o.split = some .validation ∨ o.split = some .training
  /-- How many are held out. -/
  heldout : (labelled .validation result.1).length =
    min observations.length (max 5 ⌈(observations.length : ℚ) / 5⌉₊)
  /-- The first and the last are among them. -/
  ends : 2 ≤ (labelled .validation result.1).length →
    (∀ o ∈ result.1.head?, o.split = some .validation) ∧
      ∀ o ∈ result.1.getLast?, o.split = some .validation
  /-- The counts are those of the labels. -/
  selection : result.2 = ⟨observations.length, (labelled .training result.1).length,
    (labelled .validation result.1).length⟩
  /-- The labels are a fixed point. -/
  again : splitObservations result.1 = result
  /-- As many observations of a loaded run have the same labels and counts. -/
  loaded : ∀ (β : Type) (expected : List (Observation β)),
    expected.length = observations.length →
    (splitObservations expected).1.map Observation.split = result.1.map Observation.split ∧
      (splitObservations expected).2 = result.2
  /-- Twenty observations are enough. -/
  usable : 20 ≤ observations.length → 5 ≤ (labelled .validation result.1).length ∧
    15 ≤ (labelled .training result.1).length ∧
      ∀ role, requireUsableViews role result.1 = .ok ()

/-- A split holds out what it reports, and can be repeated. -/
theorem splitObservations_law (observations : List (Observation α)) :
    SplitLaw observations (splitObservations observations) := by
  have hvalidation := length_validation observations
  have htraining := length_training observations
  refine ⟨?_, ?_, ?_, ?_, ?_, splitObservations_again observations, ?_, ?_⟩
  · have hfst := congrArg (List.map Observation.evidence) (List.zipIdx_map_fst 0 observations)
    rw [List.map_map] at hfst
    rw [splitObservations, List.map_map, ← hfst]
    rfl
  · intro o ho
    obtain ⟨⟨o', i⟩, -, rfl⟩ := List.mem_map.1 ho
    cases splitAt observations.length i
    · exact .inr rfl
    · exact .inl rfl
  · rw [hvalidation, validationCount, mul_one_div]
  · rw [hvalidation]
    exact split_ends observations
  · rw [hvalidation, htraining]
    rfl
  · intro β expected hlength
    constructor
    · rw [map_split_splitObservations, map_split_splitObservations, hlength]
    · rw [splitObservations, splitObservations, hlength]
  · intro h
    obtain ⟨hheld, htrain⟩ := twenty_le_split h
    refine ⟨by omega, by omega, fun role => ?_⟩
    unfold requireUsableViews
    exact if_neg (by omega)

end DualCollection.Calibration
