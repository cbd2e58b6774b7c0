import GpsDeniedDrone.FenceGeometry
import GpsDeniedDrone.Handshake

/-!
HOVER: the station it holds, and the number of its ticks. The target, the countdown and
the queue are set on different ways into HOVER and read in it, over any number of goals.
-/
namespace OffboardControl
open FrameTransforms Messages PastTime BoundingBox
variable {K : Type} [Field K] [LinearOrder K] [FloorRing K] [FloatMath K]

def Node.hoverTarget {K : Type} (n : Node K) : K × K := (n.hoverTargetX, n.hoverTargetY)

def fullDwell (p : Params K) : Nat := (max 1 (toInt (p.hoverSeconds * p.controlRateHz))).toNat

/-- What one callback is to the stay in HOVER. -/
inductive Stay (p : Params K) (n : Node K) (e : Event K) (n' : Node K) (out : List (Output K)) :
    Prop where
  | elsewhere (before : n.state ≠ .hover) (after : n'.state ≠ .hover)
      (target : n'.hoverTarget = n.hoverTarget) (ground : n'.state.Grounded → n.state.Grounded)
  | fromTakeoff (before : n.state = .takeoff) (after : n'.state = .hover)
      (running : n'.process = .running) (target : n'.hoverTarget = n.hoverTarget)
      (armed : n'.hoverTicksRemaining = hoverTicks p)
  | fromRoute (before : n.state = .navWaypoints) (after : n'.state = .hover)
      (running : n'.process = .running) (wp : Waypoint K)
      (current : n.waypoints[n.waypointIndex]? = some wp)
      (last : n.waypoints.length ≤ n.waypointIndex + 1) (target : n'.hoverTarget = (wp.x, wp.y))
      (queue : n'.waypoints = n.waypoints) (armed : n'.hoverTicksRemaining = hoverTicks p)
  | wait (before : n.state = .hover) (after : n'.state = .hover)
      (running : n'.process = .running) (other : ¬ IsTick e)
      (target : n'.hoverTarget = n.hoverTarget) (queue : n'.waypoints = n.waypoints)
      (remaining : n'.hoverTicksRemaining = n.hoverTicksRemaining)
  | hold (before : n.state = .hover) (after : n'.state = .hover)
      (running : n'.process = .running) (tick : IsTick e) (more : 1 < n.hoverTicksRemaining)
      (target : n'.hoverTarget = n.hoverTarget) (queue : n'.waypoints = n.waypoints)
      (remaining : n'.hoverTicksRemaining = n.hoverTicksRemaining - 1)
      (flown : hoverSetpoint p e.now n ∈ out) (word : signals out = [.heartbeat, .setpoint])
  | finish (before : n.state = .hover) (after : n'.state = .land) (tick : IsTick e)
      (last : n.hoverTicksRemaining ≤ 1) (target : n'.hoverTarget = n.hoverTarget)
      (flown : hoverSetpoint p e.now n ∈ out)
      (word : signals out = [.heartbeat, .setpoint, .navLand])
  | abort (before : n.state = .hover) (after : n'.state = .land) (tick : IsTick e)
      (latched : Aborted n') (target : n'.hoverTarget = n.hoverTarget)
  | accept (before : n.state = .hover) (after : n'.state = .navWaypoints)
      (goal : e.callback.IsGoal) (target : n'.hoverTarget = n.hoverTarget)

omit [FloatMath K] in
theorem fullDwell_eq (p : Params K) : (fullDwell p : Int) = max 1 (hoverTicks p) :=
  Int.toNat_of_nonneg (by omega)

section Step
variable {p : Params K} {n n' : Node K} {e : Event K} {out : List (Output K)}

omit [Field K] [LinearOrder K] [FloorRing K] [FloatMath K] in
theorem goal_no_tick (goal : e.callback.IsGoal) : ¬ IsTick e := by
  intro tick
  rw [tick] at goal
  exact goal

theorem not_grounded_landed {s : FlightState} (landed : s = .land ∨ s = .done) : ¬ s.Grounded := by
  rcases landed with rfl | rfl <;> simp [FlightState.Grounded]

theorem tick_stay {now : Int} (went : Tick p now n n' out) (running : n.process = .running) :
    Stay p n ⟨now, .control⟩ n' out := by
  cases went with
  | fenceAbort | estimateAbort =>
    by_cases hover : n.state = .hover
    · exact Stay.abort hover rfl rfl (by simp [Aborted, Node.landing]) rfl
    · exact Stay.elsewhere hover (by simp [Node.landing]) rfl
        fun ground => absurd ground (not_grounded_landed (Or.inl rfl))
  | startHover state => exact Stay.fromTakeoff state rfl running rfl rfl
  | hoverRoute state _ wp current _ last =>
    exact Stay.fromRoute state rfl running wp current last rfl rfl rfl
  | hold state _ more =>
    exact Stay.hold state state running rfl (by omega) rfl rfl rfl (by simp) (by simp)
  | landHover state _ last => exact Stay.finish state rfl rfl (by omega) rfl (by simp) (by simp)
  | indexFault route | cruise route | reach route =>
    rcases route with state | state
    · exact Stay.elsewhere (by simp [state]) (by simp [Node.checked, state]) rfl id
    · exact Stay.elsewhere (by simp [state]) (by simp [Node.checked, state]) rfl id
  | stream state | rateFault state | retry state | climb state | fallback state | warn state
  | descend state | exit state =>
    exact Stay.elsewhere (by simp [state]) (by simp [Node.checked, state]) rfl id
  | confirmed state => exact Stay.elsewhere (by simp [state]) (by simp) rfl fun _ => Or.inl state
  | startRoute state => exact Stay.elsewhere (by simp [state]) (by simp) rfl fun _ => Or.inr state
  | landRoute state | fenceEmergency state | estimateEmergency state | disarmed state =>
    exact Stay.elsewhere (by simp [state]) (by simp [Node.landing]) rfl
      fun ground => absurd ground (by simp [Node.landing, FlightState.Grounded])

theorem move_stay (moved : Move p n e n' out) (allowed : QueueAllowed n.state e.callback)
    (alive : n.state = .hover → n.process = .running) : Stay p n e n' out := by
  have unchanged (other : ¬ IsTick e) (state : n'.state = n.state)
      (process : n'.process = n.process) (target : n'.hoverTarget = n.hoverTarget)
      (queue : n'.waypoints = n.waypoints)
      (remaining : n'.hoverTicksRemaining = n.hoverTicksRemaining) : Stay p n e n' out := by
    by_cases hover : n.state = .hover
    · exact Stay.wait hover (state.trans hover) (process.trans (alive hover)) other target queue
        remaining
    · exact Stay.elsewhere hover (by rwa [state]) target (by rw [state]; exact id)
  cases moved with
  | stopped _ gone =>
    have aground : n.state ≠ .hover := fun hover => gone (alive hover)
    exact Stay.elsewhere aground aground rfl id
  | tick now running went => exact tick_stay went running
  | accepted _ goal _ state => exact Stay.accept state rfl goal rfl
  | refused _ goal | emptyPlan _ goal => exact unchanged (goal_no_tick goal) rfl rfl rfl rfl rfl
  | queued now waypoints =>
    have aground : n.state ≠ .hover := by
      rcases allowed with state | state <;> simp [state]
    exact Stay.elsewhere aground aground rfl id
  | _ => exact unchanged (by simp [IsTick]) rfl rfl rfl rfl rfl

end Step

section History
variable (p : Params K)

def ReachesGoal : Moment (Event K) := fun past e =>
  stateAfter p past = .navWaypoints ∧ stateAfter p (e :: past) = .hover

instance (past : List (Event K)) (e : Event K) : Decidable (ReachesGoal p past e) :=
  inferInstanceAs (Decidable (_ ∧ _))

/-- Where the last waypoint of the latest completed runtime route is, at the takeoff
    origin before there is one. -/
def station : List (Event K) → K × K
  | [] => (0, 0)
  | e :: past =>
    match (acceptedRoute p past).getLast? with
    | some wp => if ReachesGoal p past e then (wp.x, wp.y) else station past
    | none => station past

def ticksHovered : List (Event K) → Nat
  | [] => 0
  | e :: past =>
    if stateAfter p past = .hover then ticksHovered past + if IsTick e then 1 else 0 else 0

end History

theorem getLast_of_last {α : Type} {l : List α} {i : Nat} {a : α} (found : l[i]? = some a)
    (last : l.length ≤ i + 1) : l.getLast? = some a := by
  obtain ⟨inside, _⟩ := List.getElem?_eq_some_iff.mp found
  have at_end : l.length - 1 = i := by omega
  rw [List.getLast?_eq_getElem?, at_end, found]

section Invariant
variable {p : Params K} {past run : List (Event K)} {e : Event K}

theorem ticksHovered_entry (before : stateAfter p past ≠ .hover) :
    ticksHovered p (e :: past) = 0 := if_neg before

theorem ticksHovered_tick (before : stateAfter p past = .hover) (tick : IsTick e) :
    ticksHovered p (e :: past) = ticksHovered p past + 1 := by
  rw [ticksHovered, if_pos before, if_pos tick]

theorem ticksHovered_other (before : stateAfter p past = .hover) (other : ¬ IsTick e) :
    ticksHovered p (e :: past) = ticksHovered p past := by
  rw [ticksHovered, if_pos before, if_neg other, Nat.add_zero]

theorem station_kept (no_goal : ¬ ReachesGoal p past e) :
    station p (e :: past) = station p past := by
  simp only [station, if_neg no_goal]
  split <;> rfl

/-- The last waypoint of a completed runtime route is the station from then on. -/
theorem station_reached (legal : Run p past) (goal : ReachesGoal p past e) {wp : Waypoint K}
    (current : ((flight p).after past).waypoints[((flight p).after past).waypointIndex]? = some wp)
    (last : ((flight p).after past).waypoints.length ≤
      ((flight p).after past).waypointIndex + 1) :
    station p (e :: past) = (wp.x, wp.y) := by
  obtain ⟨it, itinerary⟩ := route_itinerary p legal (Or.inr goal.1)
  have ends : (acceptedRoute p past).getLast? = some wp := by
    rw [← itinerary.route, ← itinerary.queue]
    exact getLast_of_last current last
  simp only [station, ends, if_pos goal]

theorem hover_no_goal (before : stateAfter p past = .hover) : ¬ ReachesGoal p past e := by
  intro goal
  have route := goal.1
  rw [before] at route
  exact nomatch route

/-- HOVER's target, countdown and queue in terms of the history. -/
structure OnStation (p : Params K) (run : List (Event K)) : Prop where
  target : ((flight p).after run).hoverTarget = station p run
  grounded : (stateAfter p run).Grounded → station p run = (0, 0)
  running : stateAfter p run = .hover → ((flight p).after run).process = .running
  inside : stateAfter p run = .hover →
    station p run ∈ routePoints ((flight p).after run).waypoints
  remaining : stateAfter p run = .hover →
    ((flight p).after run).hoverTicksRemaining = hoverTicks p - ticksHovered p run
  bounded : stateAfter p run = .hover → ticksHovered p run < fullDwell p

theorem stay_of_legal (legal : Run p (e :: past)) (on : OnStation p past) :
    Stay p ((flight p).after past) e ((flight p).after (e :: past))
      ((flight p).emitted past e) :=
  move_stay (after_move p past e) legal.1 on.running

/- One callback keeps it: out of HOVER, into HOVER and within HOVER. -/

theorem onStation_outside (gone : stateAfter p (e :: past) ≠ .hover)
    (target : ((flight p).after (e :: past)).hoverTarget = station p (e :: past))
    (grounded : (stateAfter p (e :: past)).Grounded → station p (e :: past) = (0, 0)) :
    OnStation p (e :: past) where
  target := target
  grounded := grounded
  running hover := absurd hover gone
  inside hover := absurd hover gone
  remaining hover := absurd hover gone
  bounded hover := absurd hover gone

theorem hover_not_grounded {run : List (Event K)} (hover : stateAfter p run = .hover) :
    ¬ (stateAfter p run).Grounded := by
  simp [hover, FlightState.Grounded]

theorem onStation_entered (before : stateAfter p past ≠ .hover)
    (after : stateAfter p (e :: past) = .hover)
    (running : ((flight p).after (e :: past)).process = .running)
    (target : ((flight p).after (e :: past)).hoverTarget = station p (e :: past))
    (inside : station p (e :: past) ∈ routePoints ((flight p).after (e :: past)).waypoints)
    (armed : ((flight p).after (e :: past)).hoverTicksRemaining = hoverTicks p) :
    OnStation p (e :: past) where
  target := target
  grounded low := absurd low (hover_not_grounded after)
  running _ := running
  inside _ := inside
  remaining _ := by rw [armed, ticksHovered_entry before, Nat.cast_zero, sub_zero]
  bounded _ := by
    have full := fullDwell_eq p
    have entry := ticksHovered_entry (e := e) before
    omega

theorem onStation_staying (on : OnStation p past) (before : stateAfter p past = .hover)
    (after : stateAfter p (e :: past) = .hover)
    (running : ((flight p).after (e :: past)).process = .running)
    (target : ((flight p).after (e :: past)).hoverTarget = ((flight p).after past).hoverTarget)
    (queue : ((flight p).after (e :: past)).waypoints = ((flight p).after past).waypoints)
    (remaining : ((flight p).after (e :: past)).hoverTicksRemaining =
      hoverTicks p - ticksHovered p (e :: past))
    (bounded : ticksHovered p (e :: past) < fullDwell p) : OnStation p (e :: past) := by
  have kept := station_kept (hover_no_goal (e := e) before)
  exact {
    target := by rw [target, on.target, kept]
    grounded := fun low => absurd low (hover_not_grounded after)
    running := fun _ => running
    inside := fun _ => by
      rw [kept, queue]
      exact on.inside before
    remaining := fun _ => remaining
    bounded := fun _ => bounded }

theorem onStation_step (legal : Run p (e :: past)) (on : OnStation p past) :
    OnStation p (e :: past) := by
  have full := fullDwell_eq p
  cases stay_of_legal legal on with
  | elsewhere before after target ground =>
    have kept := station_kept fun goal : ReachesGoal p past e => after goal.2
    apply onStation_outside after
    · rw [target, on.target, kept]
    · intro low
      exact kept.trans (on.grounded (ground low))
  | fromTakeoff before after running target armed =>
    have takeoff : stateAfter p past = .takeoff := before
    have origin := on.grounded (Or.inr before)
    have no_goal : ¬ ReachesGoal p past e := by simp [ReachesGoal, takeoff]
    have kept := station_kept no_goal
    apply onStation_entered (by simp [takeoff]) after running _ _ armed
    · rw [target, on.target, kept]
    · rw [kept, origin]
      exact Set.mem_insert _ _
  | fromRoute before after running wp current last target queue armed =>
    have route : stateAfter p past = .navWaypoints := before
    have reached := station_reached legal.2 ⟨before, after⟩ current last
    apply onStation_entered (by simp [route]) after running _ _ armed
    · rw [target, reached]
    · rw [reached, queue]
      exact Or.inr ⟨wp, List.mem_of_getElem? current, rfl⟩
  | wait before after running other target queue remaining =>
    have count := ticksHovered_other before other
    have left := on.remaining before
    have fewer := on.bounded before
    exact onStation_staying on before after running target queue (by rw [remaining, left, count])
      (by omega)
  | hold before after running tick more target queue remaining =>
    have count := ticksHovered_tick before tick
    have left := on.remaining before
    exact onStation_staying on before after running target queue (by omega) (by omega)
  | finish before after tick last target | abort before after tick latched target
  | accept before after goal target =>
    have gone : stateAfter p (e :: past) ≠ .hover := by simp [stateAfter, after]
    have kept := station_kept (hover_no_goal (e := e) before)
    apply onStation_outside gone
    · rw [target, on.target, kept]
    · intro low
      rw [stateAfter, after] at low
      exact absurd low (by simp [FlightState.Grounded])

theorem on_station (legal : Run p run) : OnStation p run := by
  induction run with
  | nil =>
    exact {
      target := rfl
      grounded := fun _ => rfl
      running := fun _ => rfl
      inside := nofun
      remaining := nofun
      bounded := nofun }
  | cons e past ih => exact onStation_step legal (ih legal.2)

structure HoverLaw (p : Params K) (past : List (Event K)) (e : Event K) : Prop where
  held : stateAfter p past = .hover → IsTick e → ¬ Aborted ((flight p).after (e :: past)) →
    SetpointAt ((flight p).emitted past e) (station p past).1 (station p past).2 p.targetZ 0 ∧
      (sentAt p past e).count .setpoint = 1
  completed : stateAfter p past = .navWaypoints →
    (ReachesGoal p past e ↔ Completed p (e :: past) (acceptedRoute p past))
  fenced : stateAfter p past = .hover →
    station p past ∈ box (routePoints ((flight p).after past).waypoints)
  entered : stateAfter p past ≠ .hover → stateAfter p (e :: past) = .hover →
    (stateAfter p past = .takeoff ∨ ReachesGoal p past e) ∧ ticksHovered p (e :: past) = 0 ∧
      ((flight p).after (e :: past)).hoverTicksRemaining =
        toInt (p.hoverSeconds * p.controlRateHz)
  dwell : stateAfter p past = .hover → ticksHovered p past < fullDwell p
  last : stateAfter p past = .hover → IsTick e → ¬ Aborted ((flight p).after (e :: past)) →
    (.navLand ∈ sentAt p past e ↔ ticksHovered p (e :: past) = fullDwell p) ∧
      (stateAfter p (e :: past) = .land ↔ ticksHovered p (e :: past) = fullDwell p)
  left : stateAfter p past = .hover → stateAfter p (e :: past) ≠ .hover →
    (IsTick e ∧ ticksHovered p (e :: past) = fullDwell p ∧ .navLand ∈ sentAt p past e) ∨
      (IsTick e ∧ stateAfter p (e :: past) = .land ∧ Aborted ((flight p).after (e :: past))) ∨
      (e.callback.IsGoal ∧ stateAfter p (e :: past) = .navWaypoints)

theorem reaches_iff_completed (legal : Run p (e :: past))
    (before : stateAfter p past = .navWaypoints) :
    ReachesGoal p past e ↔ Completed p (e :: past) (acceptedRoute p past) := by
  rw [← leaves_iff_completed p legal (Or.inr before)]
  constructor
  · intro goal
    exact ⟨Or.inr goal, flying_latches (after_latches p (e :: past)) (by
      rw [show ((flight p).after (e :: past)).state = .hover from goal.2]
      decide)⟩
  · rintro ⟨⟨static, _⟩ | goal, _⟩
    · rw [before] at static
      exact nomatch static
    · exact goal

theorem last_tick (on : OnStation p past) (before : stateAfter p past = .hover) (tick : IsTick e)
    (last : ((flight p).after past).hoverTicksRemaining ≤ 1) :
    ticksHovered p (e :: past) = fullDwell p := by
  have full := fullDwell_eq p
  have count := ticksHovered_tick before tick
  have left := on.remaining before
  have fewer := on.bounded before
  omega

theorem more_ticks (on : OnStation p past) (before : stateAfter p past = .hover) (tick : IsTick e)
    (more : 1 < ((flight p).after past).hoverTicksRemaining) :
    ticksHovered p (e :: past) ≠ fullDwell p := by
  have full := fullDwell_eq p
  have count := ticksHovered_tick before tick
  have left := on.remaining before
  omega

theorem clean_tick (legal : Run p (e :: past)) (before : stateAfter p past = .hover)
    (tick : IsTick e) (clean : ¬ Aborted ((flight p).after (e :: past))) :
    hoverSetpoint p e.now ((flight p).after past) ∈ (flight p).emitted past e ∧
      (stateAfter p (e :: past) = .hover ∧ ticksHovered p (e :: past) ≠ fullDwell p ∧
          sentAt p past e = [.heartbeat, .setpoint] ∨
        stateAfter p (e :: past) = .land ∧ ticksHovered p (e :: past) = fullDwell p ∧
          sentAt p past e = [.heartbeat, .setpoint, .navLand]) := by
  have on := on_station legal.2
  cases stay_of_legal legal on with
  | hold _ after _ _ more _ _ _ flown word =>
    exact ⟨flown, Or.inl ⟨after, more_ticks on before tick more, word⟩⟩
  | finish _ after _ last _ flown word =>
    exact ⟨flown, Or.inr ⟨after, last_tick on before tick last, word⟩⟩
  | elsewhere aground => exact absurd before aground
  | wait _ _ _ other => exact absurd tick other
  | abort _ _ _ latched => exact absurd latched clean
  | accept _ _ goal => exact absurd tick (goal_no_tick goal)
  | fromTakeoff state | fromRoute state => exact absurd (before.symm.trans state) (by decide)

theorem entry_arms (legal : Run p (e :: past)) (before : stateAfter p past ≠ .hover)
    (after : stateAfter p (e :: past) = .hover) :
    (stateAfter p past = .takeoff ∨ ReachesGoal p past e) ∧ ticksHovered p (e :: past) = 0 ∧
      ((flight p).after (e :: past)).hoverTicksRemaining = hoverTicks p := by
  have none_taken := ticksHovered_entry (e := e) before
  cases stay_of_legal legal (on_station legal.2) with
  | fromTakeoff state _ _ _ armed => exact ⟨Or.inl state, none_taken, armed⟩
  | fromRoute state hover _ _ _ _ _ _ armed => exact ⟨Or.inr ⟨state, hover⟩, none_taken, armed⟩
  | elsewhere _ gone => exact absurd after gone
  | wait state | hold state | finish state | abort state | accept state =>
    exact absurd state before

theorem leaving (legal : Run p (e :: past)) (before : stateAfter p past = .hover)
    (gone : stateAfter p (e :: past) ≠ .hover) :
    (IsTick e ∧ ticksHovered p (e :: past) = fullDwell p ∧ .navLand ∈ sentAt p past e) ∨
      (IsTick e ∧ stateAfter p (e :: past) = .land ∧ Aborted ((flight p).after (e :: past))) ∨
      (e.callback.IsGoal ∧ stateAfter p (e :: past) = .navWaypoints) := by
  have on := on_station legal.2
  cases stay_of_legal legal on with
  | finish _ _ tick last _ _ word =>
    refine Or.inl ⟨tick, last_tick on before tick last, ?_⟩
    rw [sentAt, word]
    decide
  | abort _ after tick latched => exact Or.inr (Or.inl ⟨tick, after, latched⟩)
  | accept _ after goal => exact Or.inr (Or.inr ⟨goal, after⟩)
  | elsewhere aground => exact absurd before aground
  | fromTakeoff _ after | fromRoute _ after | wait _ after | hold _ after =>
    exact absurd after gone

theorem hover_holds_station (legal : Run p run) : Always (HoverLaw p) run := by
  apply always_intro _ legal
  intro past e legal
  have on := on_station legal.2
  constructor
  · intro before tick clean
    obtain ⟨flown, word⟩ := clean_tick legal before tick clean
    have aim := on.target
    rw [hoverSetpoint, show ((flight p).after past).hoverTargetX = (station p past).1 from
      congrArg Prod.fst aim, show ((flight p).after past).hoverTargetY = (station p past).2 from
      congrArg Prod.snd aim] at flown
    refine ⟨setpointAt_of_mem flown, ?_⟩
    rcases word with ⟨_, _, sent⟩ | ⟨_, _, sent⟩ <;> rw [sent] <;> decide
  · exact reaches_iff_completed legal
  · exact fun before => subset_box _ (on.inside before)
  · exact entry_arms legal
  · exact on.bounded
  · intro before tick clean
    obtain ⟨_, ⟨after, count, sent⟩ | ⟨after, count, sent⟩⟩ := clean_tick legal before tick clean
    · rw [sent, after]
      exact ⟨iff_of_false (by decide) count, iff_of_false (by decide) count⟩
    · rw [sent, after]
      exact ⟨iff_of_true (by decide) count, iff_of_true rfl count⟩
  · exact leaving legal

end Invariant

def secondGoal : List (Event ℚ) :=
  tickAt 53 :: tickAt 52 :: tickAt 51 :: tickAt 50 :: sampleAt 50 1 0 (-2) true ::
    planAt 42 [1] :: tickAt 41 :: twoLegs

def shortDwell : Params ℚ := { simParams with hoverSeconds := 3 / 10 }

theorem hover_holds_station_second_goal :
    station shortDwell twoLegs = (2, 0) ∧ station shortDwell secondGoal = (1, 0) ∧
      stateAfter shortDwell secondGoal = .land ∧ ticksHovered shortDwell secondGoal = 3 ∧
      Always (HoverLaw shortDwell) secondGoal :=
  ⟨by decide +kernel, by decide +kernel, by decide +kernel, by decide +kernel,
    hover_holds_station (by decide +kernel)⟩

end OffboardControl
