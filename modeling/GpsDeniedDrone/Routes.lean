import GpsDeniedDrone.FlightGrammar
import GpsDeniedDrone.OrderedRoute
import GpsDeniedDrone.Readings

/-!
Routes. A route is the queue at the end of takeoff or what an accepted goal asks for;
while it is flown the node's queue and index are an itinerary of it, and the lines
logged are that itinerary's reports.
-/
namespace OffboardControl
open FrameTransforms Messages PastTime OrderedRoute
variable {K : Type}

structure Declaration (K : Type) where
  number : Nat
  count : Nat
  x : K
  y : K
  z : K
  deriving DecidableEq, Repr

def declaration (number count : Nat) (wp : Waypoint K) : Declaration K :=
  ⟨number, count, wp.x, wp.y, wp.z⟩

def Output.declared : Output K → Option (Declaration K)
  | .log (.waypointReached number count x y z) => some ⟨number, count, x, y, z⟩
  | .log (.navWaypointReached number count x y z) => some ⟨number, count, x, y, z⟩
  | _ => none

def declarations (out : List (Output K)) : List (Declaration K) :=
  out.filterMap Output.declared

def Aborted (n : Node K) : Prop := n.geofenceBreached = true ∨ n.estimateBreach = true

instance (n : Node K) : Decidable (Aborted n) := inferInstanceAs (Decidable (_ ∨ _))

section Lines
variable [Field K] [LinearOrder K] [FloatMath K]

omit [Field K] [LinearOrder K] [FloatMath K] in
theorem declared_reachedLog (s : FlightState) (number count : Nat) (wp : Waypoint K) :
    (Output.log (reachedLog s number count wp)).declared = some (declaration number count wp) := by
  by_cases static : s = .waypoints <;>
    simp [reachedLog, static, Output.declared, declaration]

theorem declarations_reach (p : Params K) (now : Int) (n : Node K) (wp : Waypoint K)
    {rest : List (Output K)} (quiet : declarations rest = []) :
    declarations (heartbeatNow now :: waypointSetpoint p now n wp ::
      .log (reachedLog n.state (n.waypointIndex + 1) n.waypoints.length wp) :: rest) =
        [declaration (n.waypointIndex + 1) n.waypoints.length wp] := by
  have beat : (heartbeatNow now : Output K).declared = none := rfl
  have point : (waypointSetpoint p now n wp).declared = none := rfl
  unfold declarations at quiet ⊢
  rw [List.filterMap_cons_none beat, List.filterMap_cons_none point,
    List.filterMap_cons_some (declared_reachedLog n.state _ _ wp), quiet]

end Lines

theorem flying_latches {n : Node K} (latches : LatchesClear n) (flying : n.state.Flying) :
    ¬ Aborted n := by
  have ne := flying_ne flying
  have clear := latches.flight ne.2.1 ne.2.2
  simp [Aborted, clear]

variable [Field K] [LinearOrder K] [FloorRing K] [FloatMath K]

/-- One callback as part of a route. -/
inductive Leg (p : Params K) (n : Node K) (e : Event K) (n' : Node K) (out : List (Output K)) :
    Prop where
  | off (before : ¬ n.state.OnRoute) (after : ¬ n'.state.OnRoute)
      (silent : declarations out = [])
  | start (running : n.process = .running) (before : n.state = .takeoff)
      (after : n'.state = .waypoints) (queue : n'.waypoints = n.waypoints)
      (index : n'.waypointIndex = n.waypointIndex) (nonempty : n.waypoints ≠ [])
      (silent : declarations out = [])
  | accept (before : n.state = .hover) (after : n'.state = .navWaypoints)
      (queue : n'.waypoints = goalRoute p n e.callback) (index : n'.waypointIndex = 0)
      (nonempty : goalRoute p n e.callback ≠ []) (silent : declarations out = [])
  | cruise (before : n.state.OnRoute) (after : n'.state = n.state)
      (queue : n'.waypoints = n.waypoints) (index : n'.waypointIndex = n.waypointIndex)
      (silent : declarations out = [])
  | reach (before : n.state.OnRoute) (after : n'.state = n.state)
      (queue : n'.waypoints = n.waypoints) (index : n'.waypointIndex = n.waypointIndex + 1)
      (more : n.waypointIndex + 1 < n.waypoints.length) (control : e.callback = .control)
      (wp : Waypoint K) (current : n.waypoints[n.waypointIndex]? = some wp)
      (near : Within p n wp) (flown : waypointSetpoint p e.now n wp ∈ out)
      (said : declarations out = [declaration (n.waypointIndex + 1) n.waypoints.length wp])
  | finish (leaves : n.state = .waypoints ∧ n'.state = .land ∨
        n.state = .navWaypoints ∧ n'.state = .hover) (clean : ¬ Aborted n')
      (last : n.waypoints.length ≤ n.waypointIndex + 1) (control : e.callback = .control)
      (wp : Waypoint K) (current : n.waypoints[n.waypointIndex]? = some wp)
      (near : Within p n wp) (flown : waypointSetpoint p e.now n wp ∈ out)
      (said : declarations out = [declaration (n.waypointIndex + 1) n.waypoints.length wp])
  | abort (before : n.state.OnRoute) (after : n'.state = .land) (latched : Aborted n')
      (silent : declarations out = [])

omit [FloorRing K] in
theorem abort_leg {p : Params K} {n n' : Node K} {e : Event K} {out : List (Output K)}
    (after : n'.state = .land) (latched : Aborted n') (silent : declarations out = []) :
    Leg p n e n' out := by
  by_cases route : n.state.OnRoute
  · exact Leg.abort route after latched silent
  · exact Leg.off route (by simp [after, FlightState.OnRoute]) silent

theorem tick_leg {p : Params K} {now : Int} {n n' : Node K} {out : List (Output K)}
    (went : Tick p now n n' out) (running : n.process = .running) (latches : LatchesClear n)
    (inRange : n.state.OnRoute → n.waypointIndex < n.waypoints.length) :
    Leg p n ⟨now, .control⟩ n' out := by
  cases went with
  | stream state | rateFault state | climb state | hold state | warn state | descend state
  | exit state =>
    exact Leg.off (by simp [state, FlightState.OnRoute])
      (by simp [Node.checked, state, FlightState.OnRoute]) rfl
  | retry state =>
    apply Leg.off (by simp [state, FlightState.OnRoute]) (by simp [state, FlightState.OnRoute])
    cases offboard : offboardConfirmed n <;> cases armed : armedConfirmed n <;>
      simp [retryOutputs, offboard, armed] <;> rfl
  | fallback state =>
    apply Leg.off (by simp [state, FlightState.OnRoute])
      (by simp [Node.checked, state, FlightState.OnRoute])
    by_cases first : n.lastDisarmAttemptTime = none <;> simp [fallbackOutputs, first] <;> rfl
  | confirmed state | startHover state | landHover state | fenceEmergency state
  | estimateEmergency state | disarmed state =>
    exact Leg.off (by simp [state, FlightState.OnRoute])
      (by simp [Node.landing, FlightState.OnRoute]) rfl
  | fenceAbort => exact abort_leg rfl (Or.inl rfl) rfl
  | estimateAbort => exact abort_leg rfl (Or.inr rfl) rfl
  | startRoute state _ _ queued => exact Leg.start running state rfl rfl rfl queued rfl
  | indexFault route _ beyond =>
    exact absurd (inRange route) (Nat.not_lt.mpr (List.getElem?_eq_none_iff.mp beyond))
  | cruise route => exact Leg.cruise route rfl rfl rfl rfl
  | reach route _ wp current near more =>
    exact Leg.reach route rfl rfl rfl more rfl wp current near (by simp)
      (declarations_reach p now n wp rfl)
  | landRoute state _ wp current near last =>
    have clean := flying_latches latches (Or.inr (Or.inl state))
    exact Leg.finish (Or.inl ⟨state, rfl⟩) clean last rfl wp current near (by simp)
      (declarations_reach p now n wp rfl)
  | hoverRoute state _ wp current near last =>
    have clean := flying_latches latches (Or.inr (Or.inr (Or.inl state)))
    exact Leg.finish (Or.inr ⟨state, rfl⟩) clean last rfl wp current near (by simp)
      (declarations_reach p now n wp rfl)

theorem move_leg {p : Params K} {n n' : Node K} {e : Event K} {out : List (Output K)}
    (moved : Move p n e n' out) (allowed : QueueAllowed n.state e.callback)
    (latches : LatchesClear n)
    (inRange : n.state.OnRoute → n.waypointIndex < n.waypoints.length) : Leg p n e n' out := by
  have unchanged : n'.state = n.state → n'.waypoints = n.waypoints →
      n'.waypointIndex = n.waypointIndex → declarations out = [] → Leg p n e n' out := by
    intro state queue index silent
    by_cases route : n.state.OnRoute
    · exact Leg.cruise route state queue index silent
    · exact Leg.off route (state ▸ route) silent
  cases moved with
  | tick now running went => exact tick_leg went running latches inRange
  | accepted _ goal running state nonempty => exact Leg.accept state rfl rfl rfl nonempty rfl
  | queued now waypoints =>
    have ground : ¬ n.state.OnRoute := by
      rcases allowed with state | state <;> simp [state, FlightState.OnRoute]
    exact Leg.off ground ground rfl
  | _ => exact unchanged rfl rfl rfl rfl

/- The static queue. -/

def staticQueue : List (Event K) → List (Waypoint K)
  | [] => []
  | e :: past =>
    match e.callback with
    | .setWaypoints waypoints => waypoints
    | _ => staticQueue past

def FlightState.Grounded (s : FlightState) : Prop := s = .init ∨ s = .takeoff

theorem move_queue {p : Params K} {n n' : Node K} {e : Event K} {out : List (Output K)}
    (moved : Move p n e n' out) (running : n.process = .running) (ground : n'.state.Grounded)
    (index : n.state.Grounded → n.waypointIndex = 0) :
    n.state.Grounded ∧ n'.waypointIndex = 0 ∧
      n'.waypoints =
        match e.callback with
        | .setWaypoints waypoints => waypoints
        | _ => n.waypoints := by
  cases moved with
  | stopped _ gone => exact absurd running gone
  | queued => exact ⟨ground, rfl, rfl⟩
  | refused _ goal | emptyPlan _ goal =>
    obtain ⟨now, callback⟩ := e
    apply And.intro ground
    apply And.intro (index ground)
    cases callback <;> first | rfl | exact goal.elim
  | accepted => simp [Node.flying, FlightState.Grounded] at ground
  | tick now running went =>
    cases went with
    | confirmed state => exact ⟨Or.inl state, index (Or.inl state), rfl⟩
    | reach route =>
      rcases route with state | state <;> simp [Node.checked, state, FlightState.Grounded] at ground
    | stream | rateFault | retry | climb | indexFault | cruise | hold | fallback | warn | descend
    | exit => exact ⟨ground, index ground, rfl⟩
    | _ => simp [Node.landing, FlightState.Grounded] at ground
  | _ => exact ⟨ground, index ground, rfl⟩

theorem queue_is_static {p : Params K} {run : List (Event K)}
    (running : ((flight p).after run).process = .running)
    (ground : (stateAfter p run).Grounded) :
    ((flight p).after run).waypointIndex = 0 ∧
      ((flight p).after run).waypoints = staticQueue run := by
  revert running ground
  apply (flight p).invariant (fun run n => n.process = .running → n.state.Grounded →
    n.waypointIndex = 0 ∧ n.waypoints = staticQueue run)
  · intro _ _
    exact ⟨rfl, rfl⟩
  · intro past e ih running ground
    have before := running_before running
    obtain ⟨earlier, index, queue⟩ := move_queue (after_move p past e) before ground
      fun ground => (ih before ground).1
    rw [(ih before earlier).2] at queue
    exact ⟨index, queue⟩

section Runs
variable (p : Params K)

def startedRoute (past : List (Event K)) (e : Event K) : Option (List (Waypoint K)) :=
  if stateAfter p past = .takeoff ∧ stateAfter p (e :: past) = .waypoints then
    some (staticQueue past)
  else if stateAfter p past = .hover ∧ stateAfter p (e :: past) = .navWaypoints then
    some (goalRoute p ((flight p).after past) e.callback)
  else none

def acceptedRoute : List (Event K) → List (Waypoint K)
  | [] => []
  | e :: past => (startedRoute p past e).getD (acceptedRoute past)

def declaredAt (past : List (Event K)) (e : Event K) : List (Declaration K) :=
  declarations ((flight p).emitted past e)

def declared : List (Event K) → List (Declaration K)
  | [] => []
  | e :: past =>
    match startedRoute p past e with
    | some _ => declaredAt p past e
    | none => declared past ++ declaredAt p past e

theorem declared_cons (past : List (Event K)) (e : Event K) :
    declared p (e :: past) =
      (if (startedRoute p past e).isSome then [] else declared p past) ++ declaredAt p past e := by
  cases started : startedRoute p past e <;> simp [declared, started]

theorem started_on_route {past : List (Event K)} {e : Event K}
    (route : (stateAfter p past).OnRoute) : startedRoute p past e = none := by
  rcases route with state | state <;> simp [startedRoute, state]

structure OnItinerary (run : List (Event K)) (it : Itinerary (Waypoint K)) : Prop where
  route : it.route = acceptedRoute p run
  queue : ((flight p).after run).waypoints = it.route
  index : ((flight p).after run).waypointIndex = it.index
  said : declared p run = it.reports declaration

theorem itinerary_in_range {run : List (Event K)} {it : Itinerary (Waypoint K)}
    (on : OnItinerary p run it) :
    ((flight p).after run).waypointIndex < ((flight p).after run).waypoints.length := by
  rw [on.queue, on.index]
  exact it.inRange

theorem begin_itinerary {past : List (Event K)} {e : Event K} {route : List (Waypoint K)}
    (started : startedRoute p past e = some route) (nonempty : route ≠ [])
    (queue : ((flight p).after (e :: past)).waypoints = route)
    (index : ((flight p).after (e :: past)).waypointIndex = 0)
    (silent : declaredAt p past e = []) :
    OnItinerary p (e :: past) (begin route nonempty) where
  route := by simp [acceptedRoute, started, begin]
  queue := queue
  index := index
  said := by rw [declared_cons, started, silent, reports_begin]; rfl

section Underway
variable {p} {past : List (Event K)} {e : Event K} {it : Itinerary (Waypoint K)}

theorem cruise_itinerary (on : OnItinerary p past it) (before : (stateAfter p past).OnRoute)
    (queue : ((flight p).after (e :: past)).waypoints = ((flight p).after past).waypoints)
    (index : ((flight p).after (e :: past)).waypointIndex =
      ((flight p).after past).waypointIndex)
    (silent : declaredAt p past e = []) : OnItinerary p (e :: past) it where
  route := by simp [acceptedRoute, started_on_route p before, on.route]
  queue := queue.trans on.queue
  index := index.trans on.index
  said := by simp [declared_cons, started_on_route p before, silent, on.said]

theorem reach_itinerary (on : OnItinerary p past it) (before : (stateAfter p past).OnRoute)
    (more : it.index + 1 < it.route.length)
    (queue : ((flight p).after (e :: past)).waypoints = ((flight p).after past).waypoints)
    (index : ((flight p).after (e :: past)).waypointIndex =
      ((flight p).after past).waypointIndex + 1)
    (said : declaredAt p past e = [declaration (it.index + 1) it.route.length it.ahead]) :
    OnItinerary p (e :: past) (it.advance more) where
  route := by simp [acceptedRoute, started_on_route p before, Itinerary.advance, on.route]
  queue := queue.trans on.queue
  index := by
    rw [index, on.index]
    rfl
  said := by
    rw [reports_advance, declared_cons, started_on_route p before, said, on.said]
    rfl

end Underway

/-- The node's queue and index refine an itinerary of the accepted route. -/
theorem route_itinerary {run : List (Event K)} (legal : Run p run)
    (route : (stateAfter p run).OnRoute) : ∃ it, OnItinerary p run it := by
  induction run with
  | nil => exact absurd route (show ¬ FlightState.init.OnRoute by decide)
  | cons e past ih =>
    have earlier := ih legal.2
    have inRange : (stateAfter p past).OnRoute →
        ((flight p).after past).waypointIndex < ((flight p).after past).waypoints.length := by
      intro before
      obtain ⟨it, on⟩ := earlier before
      exact itinerary_in_range p on
    cases move_leg (after_move p past e) legal.1 (after_latches p past) inRange with
    | off _ after => exact absurd route after
    | start running before after queue index nonempty silent =>
      obtain ⟨start, static⟩ := queue_is_static running (Or.inr before)
      have started : startedRoute p past e = some (staticQueue past) :=
        if_pos ⟨before, after⟩
      exact ⟨_, begin_itinerary p started (static ▸ nonempty) (queue.trans static)
        (index.trans start) silent⟩
    | accept before after queue index nonempty silent =>
      have started : startedRoute p past e =
          some (goalRoute p ((flight p).after past) e.callback) := by
        have hover : stateAfter p past = .hover := before
        simp only [startedRoute, hover, reduceCtorEq, false_and, if_false, true_and]
        exact if_pos after
      exact ⟨_, begin_itinerary p started nonempty queue index silent⟩
    | cruise before _ queue index silent =>
      obtain ⟨it, on⟩ := earlier before
      exact ⟨it, cruise_itinerary on before queue index silent⟩
    | reach before _ queue index more _ wp current _ _ said =>
      obtain ⟨it, on⟩ := earlier before
      rw [on.queue, on.index] at more current said
      have ahead : wp = it.ahead := Option.some.inj (current.symm.trans it.ahead_eq_some)
      exact ⟨_, reach_itinerary on before more queue index (ahead ▸ said)⟩
    | finish leaves =>
      have after : (stateAfter p (e :: past)).OnRoute := route
      rcases leaves with ⟨_, land⟩ | ⟨_, hover⟩
      · rw [stateAfter, land] at after
        exact absurd after (by decide)
      · rw [stateAfter, hover] at after
        exact absurd after (by decide)
    | abort _ land =>
      rw [stateAfter, land] at route
      exact absurd route (by decide)

theorem index_in_range {run : List (Event K)} (legal : Run p run)
    (route : (stateAfter p run).OnRoute) :
    ((flight p).after run).waypointIndex < ((flight p).after run).waypoints.length := by
  obtain ⟨it, on⟩ := route_itinerary p legal route
  exact itinerary_in_range p on

theorem legal_leg {past : List (Event K)} {e : Event K} (legal : Run p (e :: past)) :
    Leg p ((flight p).after past) e ((flight p).after (e :: past))
      ((flight p).emitted past e) :=
  move_leg (after_move p past e) legal.1 (after_latches p past) (index_in_range p legal.2)

def Leaves (past : List (Event K)) (e : Event K) : Prop :=
  (stateAfter p past = .waypoints ∧ stateAfter p (e :: past) = .land ∨
    stateAfter p past = .navWaypoints ∧ stateAfter p (e :: past) = .hover) ∧
  ¬ Aborted ((flight p).after (e :: past))

def Completed (run : List (Event K)) (route : List (Waypoint K)) : Prop :=
  declared p run = reportsOf declaration route route.length

theorem leaves_changes {past : List (Event K)} {e : Event K} (leaves : Leaves p past e) :
    stateAfter p (e :: past) ≠ stateAfter p past := by
  rcases leaves.1 with ⟨before, after⟩ | ⟨before, after⟩ <;> rw [before, after] <;> decide

theorem incomplete {run : List (Event K)} {route : List (Waypoint K)}
    {it : Itinerary (Waypoint K)} (same : it.route = route)
    (said : declared p run = it.reports declaration) : ¬ Completed p run route := by
  intro whole
  rw [Completed, said, ← same] at whole
  exact reports_ne_all declaration it whole

theorem still_flying {past : List (Event K)} {e : Event K} (legal : Run p (e :: past))
    (before : (stateAfter p past).OnRoute)
    (after : stateAfter p (e :: past) = stateAfter p past) :
    ¬ Completed p (e :: past) (acceptedRoute p past) := by
  obtain ⟨it, on⟩ := route_itinerary p legal (after ▸ before)
  apply incomplete p _ on.said
  rw [on.route, acceptedRoute, started_on_route p before]
  rfl

theorem leaves_iff_completed {past : List (Event K)} {e : Event K} (legal : Run p (e :: past))
    (before : (stateAfter p past).OnRoute) :
    Leaves p past e ↔ Completed p (e :: past) (acceptedRoute p past) := by
  have same := started_on_route p (e := e) before
  cases legal_leg p legal with
  | off off => exact absurd before off
  | start _ state | accept state =>
    rw [stateAfter, state] at before
    exact absurd before (by decide)
  | cruise _ after | reach _ after =>
    exact iff_of_false (fun leaves => leaves_changes p leaves after)
      (still_flying p legal before after)
  | finish leaves clean last _ wp current _ _ said =>
    obtain ⟨it, on⟩ := route_itinerary p legal.2 before
    rw [on.queue, on.index] at last current said
    have ahead : wp = it.ahead := Option.some.inj (current.symm.trans it.ahead_eq_some)
    have line : declaredAt p past e = [declaration (it.index + 1) it.route.length it.ahead] :=
      ahead ▸ said
    apply iff_of_true ⟨leaves, clean⟩
    rw [Completed, declared_cons, same, line, on.said, ← on.route]
    exact reports_finish declaration it last
  | abort _ _ latched silent =>
    obtain ⟨it, on⟩ := route_itinerary p legal.2 before
    have quiet : declaredAt p past e = [] := silent
    have kept : declared p (e :: past) = it.reports declaration := by
      simp [declared_cons, same, quiet, on.said]
    exact iff_of_false (fun leaves => leaves.2 latched) (incomplete p on.route kept)

/-- The line `d` declares the waypoint ahead, at a tick that published it as setpoint and
    had a position stored that is near it. -/
structure DeclaredNear (past : List (Event K)) (e : Event K) (d : Declaration K) : Prop where
  route : (stateAfter p past).OnRoute
  control : e.callback = .control
  ahead : ∃ wp, (acceptedRoute p past)[((flight p).after past).waypointIndex]? = some wp ∧
    d = declaration (((flight p).after past).waypointIndex + 1) (acceptedRoute p past).length wp ∧
    SetpointAt ((flight p).emitted past e) wp.x wp.y wp.z wp.yaw ∧
    let pos := ((flight p).after past).vehicleLocalPosition
    FloatMath.sqrt ((pos.x - wp.x) ^ 2 + (pos.y - wp.y) ^ 2 + (pos.z - wp.z) ^ 2) ≤
      p.waypointToleranceM

theorem leg_declares {past : List (Event K)} {e : Event K} {wp : Waypoint K} {d : Declaration K}
    (legal : Run p past) (route : (stateAfter p past).OnRoute) (control : e.callback = .control)
    (current : ((flight p).after past).waypoints[((flight p).after past).waypointIndex]? =
      some wp)
    (near : Within p ((flight p).after past) wp)
    (flown : waypointSetpoint p e.now ((flight p).after past) wp ∈ (flight p).emitted past e)
    (said : declaredAt p past e = [declaration (((flight p).after past).waypointIndex + 1)
      ((flight p).after past).waypoints.length wp])
    (mem : d ∈ declaredAt p past e) : DeclaredNear p past e d := by
  obtain ⟨it, on⟩ := route_itinerary p legal route
  rw [on.queue, on.route] at current said
  rw [said, List.mem_singleton] at mem
  exact ⟨route, control, wp, current, mem, setpointAt_of_mem flown, near⟩

theorem declared_near {past : List (Event K)} {e : Event K} (legal : Run p (e :: past)) :
    ∀ d ∈ declaredAt p past e, DeclaredNear p past e d := by
  intro d mem
  cases legal_leg p legal with
  | reach before _ _ _ _ control wp current near flown said =>
    exact leg_declares p legal.2 before control current near flown said mem
  | finish leaves _ _ control wp current near flown said =>
    exact leg_declares p legal.2 (leaves.imp And.left And.left) control current near flown said
      mem
  | off _ _ silent | start _ _ _ _ _ _ silent | accept _ _ _ _ _ silent
  | cruise _ _ _ _ silent | abort _ _ _ silent =>
    rw [declaredAt, silent] at mem
    exact absurd mem List.not_mem_nil

structure RouteLaw (past : List (Event K)) (e : Event K) : Prop where
  held : (stateAfter p (e :: past)).OnRoute →
    ((flight p).after (e :: past)).waypoints = acceptedRoute p (e :: past) ∧
      ((flight p).after (e :: past)).waypointIndex < (acceptedRoute p (e :: past)).length ∧
      declared p (e :: past) = reportsOf declaration (acceptedRoute p (e :: past))
        ((flight p).after (e :: past)).waypointIndex
  reached : ∀ d ∈ declaredAt p past e, DeclaredNear p past e d
  completed : (stateAfter p past).OnRoute →
    (Leaves p past e ↔ Completed p (e :: past) (acceptedRoute p past))

theorem routes_flown_in_order {run : List (Event K)} (legal : Run p run) :
    Always (RouteLaw p) run := by
  apply always_intro _ legal
  intro past e legal
  constructor
  · intro route
    obtain ⟨it, on⟩ := route_itinerary p legal route
    rw [← on.route, on.queue, on.index]
    exact ⟨rfl, it.inRange, on.said⟩
  · exact declared_near p legal
  · exact leaves_iff_completed p legal

end Runs

def twoLegs : List (Event ℚ) :=
  tickAt 40 :: sampleAt 40 2 0 (-2) true :: tickAt 30 :: sampleAt 30 1 0 (-2) true ::
    tickAt 13 :: planAt 12 [1, 2] :: hovering

theorem routes_flown_in_order_two_legs :
    declared simParams twoLegs = [⟨1, 2, 1, 0, -2⟩, ⟨2, 2, 2, 0, -2⟩] ∧
      stateAfter simParams twoLegs = .hover ∧ Always (RouteLaw simParams) twoLegs :=
  ⟨by decide +kernel, by decide +kernel, routes_flown_in_order simParams (by decide +kernel)⟩

end OffboardControl
