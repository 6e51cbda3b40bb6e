import DualCollection.Calibration.Bound

/-!
# The controller of an arm

The calibration mode of `X5Controller`: a controller freezes its arm when a command comes too late,
is too old or steps too far, and when no command comes at all.  Host and controller measure time at
different points, so that the step that a controller allows is the one of the host only up to the
jitter between them.

`host_controller_agree` has that the two agree: if the time from the clock reading of a tick to the
handling of its command varies by at most 5 ms, no controller freezes its arm while the host keeps
publishing.
-/

namespace DualCollection

open Thread

namespace Calibration

variable {K : Type} [Field K] [LinearOrder K]

/-- The attributes of a controller in calibration mode. -/
structure Controller (K : Type) where
  /-- `manual_takeover_` -/
  manualTakeover : Bool := true
  /-- `calibration_target_`, if it has six joints. -/
  target : Option (Joints K) := none
  /-- `calibration_last_command_` -/
  lastCommand : K

namespace Controller

variable (k : Controller K)

/-- `freezeCalibration`; `actual` are the measured joints, if there are six finite ones. -/
def freezeCalibration (actual : Option (Joints K)) : Controller K :=
  { k with manualTakeover := true, target := actual }

/-- `enablePolicyControl`, with the success of its response. -/
def enablePolicyControl (actual : Option (Joints K)) (now : K) : Bool × Controller K :=
  let k := k.freezeCalibration actual
  if k.target.isNone then (false, k)
  else (true, { k with manualTakeover := false, lastCommand := now })

/-- `calibrationCommand` for a message with the joints `joints`, if they are finite. -/
def calibrationCommand (now sourceAge : K) (joints actual : Option (Joints K)) : Controller K :=
  let dt := now - k.lastCommand
  let allowedStep := 0.20 * min dt 0.10 + 0.001
  match k.target with
  | none => k.freezeCalibration actual
  | some target =>
    if 0.25 < dt ∨ sourceAge < -0.02 ∨ 0.10 < sourceAge then k.freezeCalibration actual
    else match joints with
      | none => k.freezeCalibration actual
      | some q =>
        if ∃ i, allowedStep < |q i - target i| then k.freezeCalibration actual
        else { k with target := some q, lastCommand := now }

/-- `FollowCmdCallback` -/
def followCmdCallback (now sourceAge : K) (joints actual : Option (Joints K)) : Controller K :=
  if k.manualTakeover then k else k.calibrationCommand now sourceAge joints actual

/-- The watchdog of `PubState`. -/
def pubState (now : K) (actual : Option (Joints K)) : Controller K :=
  if k.manualTakeover = false ∧ 0.25 < now - k.lastCommand then k.freezeCalibration actual else k

end Controller

/-- What a controller does. -/
inductive ControllerEvent (K : Type)
  /-- A command is handled, some time after its source stamp. -/
  | command (publication : Publication K) (handled sourceAge : K) (actual : Option (Joints K))
  /-- The state is published. -/
  | state (now : K) (actual : Option (Joints K))

namespace ControllerEvent

/-- When it happens. -/
def time : ControllerEvent K → K
  | command _ handled _ _ => handled
  | state now _ => now

/-- The command that is handled, and when. -/
def handled? : ControllerEvent K → Option (Publication K × K)
  | command publication handled _ _ => some (publication, handled)
  | state _ _ => none

/-- What the controller of an arm does. -/
def handle (side : Side) (k : Controller K) : ControllerEvent K → Controller K
  | command publication handled sourceAge actual =>
    k.followCmdCallback handled sourceAge (some (publication.command side)) actual
  | state now actual => k.pubState now actual

end ControllerEvent

/-- The commands that are handled. -/
def handledCommands (events : List (ControllerEvent K)) : List (Publication K × K) :=
  events.filterMap ControllerEvent.handled?

/-- The commands that were published (newest first) reach a controller: the events happen one after
the other once it is enabled, while the host keeps publishing. -/
structure Delivered (enabled : K) (published : List (Publication K))
    (events : List (ControllerEvent K)) : Prop where
  /-- Time does not run backwards. -/
  sorted : (enabled :: events.map ControllerEvent.time).IsChain (· ≤ ·)
  /-- No command is lost, and none overtakes another one. -/
  commands : (handledCommands events).map Prod.fst <+: published.reverse
  /-- The time from the reading of a tick to the handling of its command varies by at most 5 ms. -/
  jitter : ∃ delay, ∀ x ∈ handledCommands events, delay ≤ x.2 - x.1.now ∧
    x.2 - x.1.now ≤ delay + 1 / 200
  /-- The source stamps are fresh. -/
  fresh : ∀ publication handled sourceAge actual,
    .command publication handled sourceAge actual ∈ events →
      -(1 / 50) ≤ sourceAge ∧ sourceAge ≤ 1 / 10
  /-- The first command is handled soon. -/
  first : ∀ x ∈ (handledCommands events).head?, x.2 - enabled ≤ 1 / 4
  /-- The host keeps publishing: the state is not published after the last command. -/
  last : ∀ event ∈ events.getLast?, event.handled?.isSome = true

/-- What a controller holds after some events, if it holds the pose `pose` before them. -/
def lastTarget (side : Side) (pose : Joints K) (events : List (ControllerEvent K)) : Joints K :=
  match (handledCommands events).getLast? with
  | none => pose
  | some x => x.1.command side

/-! ### What a controller accepts -/

/-- The events are accepted by a controller that holds the joints `q` since the time `since`. -/
def Accepted (side : Side) : K → Joints K → List (ControllerEvent K) → Prop
  | _, _, [] => True
  | since, q, .command publication handled sourceAge _ :: events =>
    (handled - since ≤ 1 / 4 ∧ (-(1 / 50) ≤ sourceAge ∧ sourceAge ≤ 1 / 10) ∧
      ∀ j, |publication.command side j - q j| ≤
        1 / 5 * min (handled - since) (1 / 10) + 1 / 1000) ∧
    Accepted side handled (publication.command side) events
  | since, q, .state now _ :: events => now - since ≤ 1 / 4 ∧ Accepted side since q events

/-- The controller follows commands, and holds the joints `q` since the time `since`. -/
structure Controller.Holds (k : Controller K) (since : K) (q : Joints K) : Prop where
  /-- It is not frozen. -/
  following : k.manualTakeover = false
  /-- The joints that it holds. -/
  target : k.target = some q
  /-- The time of the last command. -/
  lastCommand : k.lastCommand = since

theorem Controller.Holds.command [IsStrictOrderedRing K] {k : Controller K}
    {since handled sourceAge : K} {q q' : Joints K} {actual : Option (Joints K)}
    (h : k.Holds since q) (hdt : handled - since ≤ 1 / 4)
    (hage : -(1 / 50) ≤ sourceAge ∧ sourceAge ≤ 1 / 10)
    (hstep : ∀ j, |q' j - q j| ≤ 1 / 5 * min (handled - since) (1 / 10) + 1 / 1000) :
    (k.followCmdCallback handled sourceAge (some q') actual).Holds handled q' := by
  have htimes : ¬(0.25 < handled - k.lastCommand ∨ sourceAge < -0.02 ∨ 0.10 < sourceAge) := by
    rw [h.lastCommand]
    push Not
    exact ⟨by linarith, by linarith [hage.1], by linarith [hage.2]⟩
  have hallowed : ¬∃ j, 0.20 * min (handled - k.lastCommand) 0.10 + 0.001 < |q' j - q j| := by
    rw [h.lastCommand]
    push Not
    norm_num
    exact hstep
  unfold Controller.followCmdCallback Controller.calibrationCommand
  rw [if_neg (by simp [h.following]), h.target]
  dsimp only
  rw [if_neg htimes, if_neg hallowed]
  exact ⟨h.following, rfl, rfl⟩

theorem Controller.Holds.state [IsStrictOrderedRing K] {k : Controller K} {since now : K}
    {q : Joints K} {actual : Option (Joints K)} (h : k.Holds since q) (hnow : now - since ≤ 1 / 4) :
    k.pubState now actual = k := by
  unfold Controller.pubState
  rw [h.lastCommand, if_neg fun hlate => absurd hlate.2 (not_lt.2 (by linarith))]

omit [Field K] [LinearOrder K] in
theorem handledCommands_command {publication : Publication K} {handled sourceAge : K}
    {actual : Option (Joints K)} {events : List (ControllerEvent K)} :
    handledCommands (.command publication handled sourceAge actual :: events) =
      (publication, handled) :: handledCommands events := rfl

omit [Field K] [LinearOrder K] in
@[simp]
theorem lastTarget_command {side : Side} {pose : Joints K} {publication : Publication K}
    {handled sourceAge : K} {actual : Option (Joints K)} {events : List (ControllerEvent K)} :
    lastTarget side pose (.command publication handled sourceAge actual :: events) =
      lastTarget side (publication.command side) events := by
  unfold lastTarget
  rw [handledCommands_command, List.getLast?_cons]
  cases (handledCommands events).getLast? <;> rfl

omit [Field K] [LinearOrder K] in
@[simp]
theorem lastTarget_state {side : Side} {pose : Joints K} {now : K} {actual : Option (Joints K)}
    {events : List (ControllerEvent K)} :
    lastTarget side pose (.state now actual :: events) = lastTarget side pose events := rfl

/-- A controller that accepts the events follows to the end. -/
theorem Accepted.following [IsStrictOrderedRing K] {side : Side}
    {events : List (ControllerEvent K)} {since : K} {q : Joints K} {k : Controller K}
    (h : Accepted side since q events) (hk : k.Holds since q) :
    (events.foldl (ControllerEvent.handle side) k).manualTakeover = false ∧
      (events.foldl (ControllerEvent.handle side) k).target = some (lastTarget side q events) := by
  induction events generalizing since q k with
  | nil => exact ⟨hk.following, hk.target⟩
  | cons event events ih =>
    cases event with
    | command publication handled sourceAge actual =>
      obtain ⟨⟨hdt, hage, hstep⟩, hrest⟩ := h
      rw [lastTarget_command]
      exact ih hrest (hk.command hdt hage hstep)
    | state now actual =>
      rw [lastTarget_state, List.foldl_cons, ControllerEvent.handle, hk.state h.1]
      exact ih h.2 hk

theorem Accepted.of_prefix {side : Side} {events es : List (ControllerEvent K)} {since : K}
    {q : Joints K} (h : Accepted side since q events) (hes : es <+: events) :
    Accepted side since q es := by
  induction events generalizing since q es with
  | nil =>
    rw [List.prefix_nil.1 hes]
    trivial
  | cons event events ih =>
    cases es with
    | nil => trivial
    | cons event' es =>
      obtain ⟨rfl, hes'⟩ := List.cons_prefix_cons.1 hes
      cases event' with
      | command publication handled sourceAge actual => exact ⟨h.1, ih h.2 hes'⟩
      | state now actual => exact ⟨h.1, ih h.2 hes'⟩

/-! ### What the host sends -/

variable [IsStrictOrderedRing K]

/-- A command that is handled at the time `y.2` is accepted after the one that is handled at the
time `x.2`. -/
structure Allowed (x y : Publication K × K) : Prop where
  /-- The controller has not given up waiting. -/
  gap : y.2 - x.2 ≤ 1 / 4
  /-- No joint moves too far. -/
  step : ∀ side j, |y.1.command side j - x.1.command side j| ≤
    1 / 5 * min (y.2 - x.2) (1 / 10) + 1 / 1000

omit [Field K] [IsStrictOrderedRing K] in
/-- If the last event is a command, then there is a next command. -/
theorem exists_handled {events : List (ControllerEvent K)} (hne : events ≠ [])
    (hlast : ∀ event ∈ events.getLast?, event.handled?.isSome = true) :
    ∃ x, (handledCommands events).head? = some x ∧
      ∀ t, (∀ event ∈ events, t ≤ event.time) → t ≤ x.2 := by
  induction events with
  | nil => exact absurd rfl hne
  | cons event events ih =>
    cases event with
    | command publication handled sourceAge actual =>
      exact ⟨(publication, handled), rfl, fun t ht => ht _ List.mem_cons_self⟩
    | state now actual =>
      have hne' : events ≠ [] := by
        rintro rfl
        have hstate := hlast _ rfl
        cases hstate
      have hlast' : ∀ event ∈ events.getLast?, event.handled?.isSome = true := by
        obtain ⟨event', events', rfl⟩ := List.exists_cons_of_ne_nil hne'
        rwa [List.getLast?_cons_cons] at hlast
      obtain ⟨x, hx, hle⟩ := ih hne' hlast'
      exact ⟨x, hx, fun t ht => hle t fun event hevent => ht event (List.mem_cons_of_mem _ hevent)⟩

/-- Events whose commands are allowed one after the other are accepted. -/
theorem accepted_of_allowed {side : Side} {events : List (ControllerEvent K)} {since : K}
    {q : Joints K} (hsorted : (since :: events.map ControllerEvent.time).Pairwise (· ≤ ·))
    (hfresh : ∀ publication handled sourceAge actual,
      .command publication handled sourceAge actual ∈ events →
        -(1 / 50) ≤ sourceAge ∧ sourceAge ≤ 1 / 10)
    (hlast : ∀ event ∈ events.getLast?, event.handled?.isSome = true)
    (hfirst : ∀ x ∈ (handledCommands events).head?, x.2 - since ≤ 1 / 4 ∧
      ∀ j, |x.1.command side j - q j| ≤ 1 / 5 * min (x.2 - since) (1 / 10) + 1 / 1000)
    (hallowed : (handledCommands events).IsChain Allowed) : Accepted side since q events := by
  induction events generalizing since q with
  | nil => trivial
  | cons event events ih =>
    have hlast' : ∀ event ∈ events.getLast?, event.handled?.isSome = true := by
      cases events with
      | nil => simp
      | cons event' events => rwa [List.getLast?_cons_cons] at hlast
    have hfresh' : ∀ publication handled sourceAge actual,
        .command publication handled sourceAge actual ∈ events →
          -(1 / 50) ≤ sourceAge ∧ sourceAge ≤ 1 / 10 := fun _ _ _ _ hmem =>
      hfresh _ _ _ _ (List.mem_cons_of_mem _ hmem)
    rw [List.map_cons, List.pairwise_cons, List.pairwise_cons] at hsorted
    obtain ⟨hsince, htime, hrest⟩ := hsorted
    cases event with
    | command publication handled sourceAge actual =>
      have hfirst' := hfirst _ rfl
      refine ⟨⟨hfirst'.1, hfresh _ _ _ _ List.mem_cons_self, hfirst'.2⟩, ?_⟩
      rw [handledCommands_command, List.isChain_cons] at hallowed
      refine ih (List.pairwise_cons.2 ⟨htime, hrest⟩) hfresh' hlast' (fun x hx => ?_) hallowed.2
      obtain ⟨hgap, hstep⟩ := hallowed.1 x hx
      exact ⟨hgap, hstep side⟩
    | state now actual =>
      -- the state is published before the next command is handled
      have hsorted' : (since :: events.map ControllerEvent.time).Pairwise (· ≤ ·) :=
        List.pairwise_cons.2 ⟨fun t ht => hsince t (List.mem_cons_of_mem _ ht), hrest⟩
      refine ⟨?_, ih hsorted' hfresh' hlast' hfirst hallowed⟩
      have hne : events ≠ [] := by
        rintro rfl
        have hstate := hlast _ rfl
        cases hstate
      obtain ⟨x, hx, hle⟩ := exists_handled hne hlast'
      have hnow : now ≤ x.2 :=
        hle now fun event hevent => htime _ (List.mem_map_of_mem hevent)
      exact (sub_le_sub_right hnow since).trans (hfirst x hx).1

/-- What a tick publishes after the command `p`. -/
structure Follows (velocity : K) (p q : Publication K) : Prop where
  /-- No joint is faster than the velocity. -/
  near : Near (velocity * (q.now - p.now)) q.command p.command
  /-- There is no overrun. -/
  gap : q.now - p.now ≤ 1 / 10

omit [IsStrictOrderedRing K] in
theorem Paced.follows {velocity constructed : K} {pose : Side → Joints K}
    {published : List (Publication K)} (h : Paced velocity constructed pose published) :
    published.reverse.IsChain (Follows velocity) := by
  rw [List.isChain_reverse]
  induction published with
  | nil => exact .nil
  | cons p published ih =>
    cases published with
    | nil => exact .singleton p
    | cons q earlier =>
      obtain ⟨⟨hnear, hgap, _⟩, hrest⟩ := h
      exact .cons_cons ⟨hnear, hgap⟩ (ih hrest)

/-- Under the ceiling, what a tick publishes is allowed, whatever the jitter. -/
theorem Follows.allowed {velocity delay : K} {x y : Publication K × K}
    (h : Follows velocity x.1 y.1) (hpos : 0 < velocity) (hceiling : velocity ≤ 1 / 5)
    (hx : delay ≤ x.2 - x.1.now ∧ x.2 - x.1.now ≤ delay + 1 / 200)
    (hy : delay ≤ y.2 - y.1.now ∧ y.2 - y.1.now ≤ delay + 1 / 200) : Allowed x y := by
  obtain ⟨hnear, hgap⟩ := h
  refine ⟨by linarith, fun side j => (hnear side j).trans ?_⟩
  -- the velocity is positive, and so the reading is not before the last one
  have hstep : 0 ≤ velocity * (y.1.now - x.1.now) := (abs_nonneg _).trans (hnear .left 0)
  have hnonneg : 0 ≤ y.1.now - x.1.now := nonneg_of_mul_nonneg_right hstep hpos
  have hspeed : velocity * (y.1.now - x.1.now) ≤ 1 / 5 * (y.1.now - x.1.now) :=
    mul_le_mul_of_nonneg_right hceiling hnonneg
  rcases le_total (y.2 - x.2) (1 / 10) with hdt | hdt
  · rw [min_eq_left hdt]
    linarith
  · rw [min_eq_right hdt]
    linarith

/-- What was published reaches a controller that holds the measured pose as it accepts it. -/
theorem Delivered.accepted {velocity constructed enabled : K} {pose : Side → Joints K}
    {published : List (Publication K)} {events : List (ControllerEvent K)} {side : Side}
    (h : Delivered enabled published events) (hpaced : Paced velocity constructed pose published)
    (hpos : 0 < velocity) (hceiling : velocity ≤ 1 / 5)
    (hfirst : ∀ p ∈ published.getLast?, p.command = pose) :
    Accepted side enabled (pose side) events := by
  obtain ⟨delay, hjitter⟩ := h.jitter
  have hsorted := List.isChain_iff_pairwise.1 h.sorted
  refine accepted_of_allowed hsorted h.fresh h.last (fun x hx => ⟨h.first x hx, fun j => ?_⟩) ?_
  · -- the first command is the pose that the controller holds
    have hhead : published.getLast? = some x.1 := by
      rw [← List.head?_reverse]
      obtain ⟨later, hlater⟩ := h.commands
      rw [← hlater, List.head?_append, List.head?_map, Option.mem_def.1 hx]
      rfl
    have hmem : ∃ event ∈ events, event.handled? = some x :=
      List.mem_filterMap.1 (List.mem_of_mem_head? hx)
    obtain ⟨event, hevent, hhandled⟩ := hmem
    have htime : event.time = x.2 := by
      cases event with
      | command publication handled sourceAge actual =>
        cases hhandled
        rfl
      | state now actual => cases hhandled
    have hle : enabled ≤ x.2 := by
      rw [← htime]
      exact (List.pairwise_cons.1 hsorted).1 _ (List.mem_map_of_mem hevent)
    rw [hfirst _ hhead, sub_self, abs_zero]
    have hmin : 0 ≤ min (x.2 - enabled) (1 / 10) := le_min (sub_nonneg.2 hle) (by norm_num)
    positivity
  · have hchain := hpaced.follows.prefix h.commands
    rw [List.isChain_map] at hchain
    exact hchain.imp_of_mem_imp fun x y hx hy hxy =>
      hxy.allowed hpos hceiling (hjitter x hx) (hjitter y hy)

/-- A controller that is enabled at the measured pose accepts every command that a host publishes,
and does not freeze its arm while the host keeps publishing. -/
theorem host_controller_agree (sqrt : K → K) (limits : MotionLimits K) {activeArm : Side}
    {sample : Side → ArmSample K} {clock clockAgain : K} {s₀ : Replay limits}
    (hcreate : Replay.create limits activeArm sample clock clockAgain = .ok s₀)
    {c : Config Replay.Role ReplaySection (ReplayEnv K) (Replay limits) MotionError}
    (hc : (Replay.system sqrt limits).Reachable (Replay.Admits True) (.init s₀) c)
    (side : Side) {before controller : Controller K} {enabled : K}
    (henable : before.enablePolicyControl (some (s₀.targets side)) enabled = (true, controller))
    {events : List (ControllerEvent K)} (hevents : Delivered enabled c.shared.published events) :
    ∀ es, es <+: events →
      (es.foldl (ControllerEvent.handle side) controller).manualTakeover = false ∧
        (es.foldl (ControllerEvent.handle side) controller).target =
          some (lastTarget side (s₀.targets side) es) := by
  obtain ⟨_, h₀, hid⟩ : _ ∧ Replay.Inv True clockAgain s₀.targets s₀ ∧
      ∀ t, (Replay.outline True clockAgain s₀.targets).idle t s₀ := Replay.create_ok hcreate
  have hinv := Replay.outline_sound.inv h₀ hid hc
  have hholds : controller.Holds enabled (s₀.targets side) := by
    unfold Controller.enablePolicyControl Controller.freezeCalibration at henable
    obtain ⟨-, rfl⟩ := Prod.mk.inj henable
    exact ⟨rfl, rfl, rfl⟩
  have haccepted : Accepted side enabled (s₀.targets side) events :=
    hevents.accepted hinv.paced limits.velocity_pos (by linarith [limits.ceiling.1])
      (hinv.first trivial)
  intro es hes
  exact (haccepted.of_prefix hes).following hholds

/-! ### Two moves -/

namespace Station

/-- The commands reach a controller, each some time after its reading, with the state published at
each reading. -/
def deliver (late : ℚ → ℚ) (published : List (Publication ℚ)) : List (ControllerEvent ℚ) :=
  published.reverse.flatMap fun p =>
    [.state p.now none, .command p (p.now + late p.now) (late p.now) none]

variable {late : ℚ → ℚ} {published : List (Publication ℚ)}

theorem handledCommands_deliver : handledCommands (deliver late published) =
    published.reverse.map fun p => (p, p.now + late p.now) := by
  unfold handledCommands deliver
  induction published.reverse with
  | nil => rfl
  | cons p ps ih =>
    rw [List.flatMap_cons, List.filterMap_append, ih]
    rfl

theorem times_deliver : (deliver late published).map ControllerEvent.time =
    (published.map Publication.now).reverse.flatMap fun t => [t, t + late t] := by
  unfold deliver
  rw [← List.map_reverse, List.map_flatMap, List.flatMap_map]
  rfl

/-- It is enough that the times are in order. -/
theorem deliver_delivered (hlate : ∀ t, 0 ≤ late t ∧ late t ≤ 1 / 200)
    (hsorted : (0 :: (published.map Publication.now).reverse.flatMap fun t =>
      [t, t + late t]).IsChain (· ≤ ·))
    (hfirst : ∀ t ∈ (published.map Publication.now).reverse.head?, t + late t ≤ 1 / 4) :
    Delivered 0 published (deliver late published) where
  sorted := by
    rw [times_deliver]
    exact hsorted
  commands := by
    have hcommands :
        (handledCommands (deliver late published)).map Prod.fst = published.reverse := by
      rw [handledCommands_deliver, List.map_map]
      exact List.map_id _
    rw [hcommands]
  jitter := by
    refine ⟨0, fun x hx => ?_⟩
    rw [handledCommands_deliver] at hx
    obtain ⟨p, -, rfl⟩ := List.mem_map.1 hx
    have h := hlate p.now
    constructor <;> linarith
  fresh := by
    intro publication handled sourceAge actual hmem
    obtain ⟨p, -, hp⟩ := List.mem_flatMap.1 hmem
    simp only [List.mem_cons, reduceCtorEq, ControllerEvent.command.injEq, List.not_mem_nil,
      or_false, false_or] at hp
    obtain ⟨-, -, rfl, -⟩ := hp
    have h := hlate p.now
    constructor <;> linarith
  first := by
    intro x hx
    rw [handledCommands_deliver, List.head?_map] at hx
    obtain ⟨p, hp, rfl⟩ := Option.mem_map.1 hx
    have h := hfirst p.now (by rw [← List.map_reverse, List.head?_map, Option.mem_def.1 hp]; rfl)
    linarith
  last := by
    intro event hevent
    unfold deliver at hevent
    cases published with
    | nil => cases hevent
    | cons p ps =>
      rw [List.reverse_cons, List.flatMap_append, List.getLast?_append] at hevent
      obtain rfl := Option.some.inj hevent
      rfl

/-- Commands that are handled late, and later ones that are handled at once. -/
def lateness (t : ℚ) : ℚ := if t < 1 / 4 then 1 / 200 else 0

theorem lateness_mem (t : ℚ) : 0 ≤ lateness t ∧ lateness t ≤ 1 / 200 := by
  unfold lateness
  split <;> norm_num

end Station

open Station in
/-- Both controllers follow while both arms are moved. -/
theorem host_controller_agree_moved : ∃ s₀ c, Replay.create limits .left (resting 0) 0 0 = .ok s₀ ∧
    (Replay.system Station.sqrt limits).Reachable (Replay.Admits True) (.init s₀) c ∧
    Moved c.shared.published ∧
    Delivered 0 c.shared.published (deliver lateness c.shared.published) ∧
    ∀ side, ∃ controller,
      Controller.enablePolicyControl (K := ℚ) ⟨true, none, 0⟩ (some (s₀.targets side)) 0 =
        (true, controller) ∧
      ∀ es, es <+: deliver lateness c.shared.published →
        (es.foldl (ControllerEvent.handle side) controller).manualTakeover = false ∧
          (es.foldl (ControllerEvent.handle side) controller).target =
            some (lastTarget side (s₀.targets side) es) := by
  obtain ⟨c, hc, hmoved⟩ := played_moved
  obtain ⟨s₀, hcreate, hreach⟩ := played_reachable hc
  have hevents : Delivered 0 c.shared.published (deliver lateness c.shared.published) := by
    refine deliver_delivered lateness_mem ?_ ?_
    · rw [hmoved.clocks]
      decide +kernel
    · rw [hmoved.clocks]
      decide +kernel
  exact ⟨s₀, c, hcreate, hreach, hmoved, hevents, fun side => ⟨_, rfl,
    host_controller_agree Station.sqrt limits hcreate hreach side rfl hevents⟩⟩

end Calibration

end DualCollection
