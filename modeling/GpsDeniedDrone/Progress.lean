import GpsDeniedDrone.Handshake
import GpsDeniedDrone.PromptSteps
import GpsDeniedDrone.RouteLedger

/-!
A flight gets on. The node waits for the vehicle in two ways, for takeoff height and for
the waypoint ahead; a vehicle that is where it is wanted within a given number of ticks
brings every climb and every route to an end, and the ticks of a whole flight are bounded
by the waypoints it was given.
-/
namespace OffboardControl
open PastTime Cadence PromptSteps OrderedRoute
variable {K : Type} [Field K] [LinearOrder K] [FloorRing K] [FloatMath K]

def FlightState.Travelling (s : FlightState) : Prop := s = .takeoff ∨ s.OnRoute

instance (s : FlightState) : Decidable s.Travelling := inferInstanceAs (Decidable (_ ∨ _))

def Arrived (p : Params K) (n : Node K) : Prop :=
  n.state = .takeoff ∧ n.vehicleLocalPosition.z ≤ p.targetZ + 1 / (5 : ℕ) ∨
    n.state.OnRoute ∧ ∃ wp ∈ n.waypoints[n.waypointIndex]?, Within p n wp

instance (p : Params K) (n : Node K) : Decidable (Arrived p n) :=
  inferInstanceAs (Decidable (_ ∨ _))

section Moments
variable (p : Params K)

def TravelTick : Moment (Event K) := fun past e =>
  ((flight p).after past).process = .running ∧ IsTick e ∧ (stateAfter p past).Travelling

instance (past : List (Event K)) (e : Event K) : Decidable (TravelTick p past e) :=
  inferInstanceAs (Decidable (_ ∧ _))

/-- A tick of travelling that changes what the node waits for. -/
def Advances : Moment (Event K) := fun past e =>
  TravelTick p past e ∧ (stateAfter p (e :: past) ≠ stateAfter p past ∨
    ((flight p).after (e :: past)).waypointIndex ≠ ((flight p).after past).waypointIndex)

instance (past : List (Event K)) (e : Event K) : Decidable (Advances p past e) :=
  inferInstanceAs (Decidable (_ ∧ _))

/-- The vehicle does what it is asked within `limit` ticks of being asked. -/
def Responsive (limit : Nat) : Moment (Event K) := fun past e =>
  TravelTick p past e → limit ≤ waited (TravelTick p) (Advances p) past + 1 →
    Arrived p ((flight p).after past)

instance (limit : Nat) (past : List (Event K)) (e : Event K) :
    Decidable (Responsive p limit past e) := inferInstanceAs (Decidable (_ → _))

end Moments

section Step
variable {p : Params K} {now : Int} {n n' : Node K} {out : List (Output K)}

theorem arrived_advances (went : Tick p now n n' out) (arrived : Arrived p n)
    (inRange : n.state.OnRoute → n.waypointIndex < n.waypoints.length) :
    n'.state ≠ n.state ∨ n'.waypointIndex ≠ n.waypointIndex := by
  cases went with
  | climb state _ low =>
    rcases arrived with ⟨_, high⟩ | ⟨route, _⟩
    · exact absurd (by exact_mod_cast high) low
    · rw [state] at route
      exact absurd route (by decide)
  | cruise route _ wp current far =>
    rcases arrived with ⟨state, _⟩ | ⟨_, there, mem, near⟩
    · rw [state] at route
      exact absurd route (by decide)
    · rw [current, Option.mem_some_iff] at mem
      exact absurd (mem ▸ near) far
  | indexFault route _ beyond =>
    exact absurd (inRange route) (Nat.not_lt.mpr (List.getElem?_eq_none_iff.mp beyond))
  | reach => exact Or.inr (Nat.succ_ne_self _)
  | fenceAbort flying | estimateAbort flying =>
    exact Or.inl fun same => (flying_ne flying).2.1 same.symm
  | startRoute state | startHover state | landRoute state | hoverRoute state =>
    exact Or.inl fun same => by simp [Node.landing, state] at same
  | stream state | rateFault state | confirmed state | retry state | hold state | landHover state
  | fenceEmergency state | estimateEmergency state | disarmed state | fallback state | warn state
  | descend state | exit state =>
    rcases arrived with ⟨takeoff, _⟩ | ⟨route, _⟩
    · exact absurd (state.symm.trans takeoff) (by decide)
    · rw [state] at route
      exact absurd route (by decide)

/-- What an advance can be, besides a waypoint reached: the end of takeoff, or an abort. -/
def FlightState.stage : FlightState → Nat
  | .init | .takeoff => 0
  | .waypoints | .hover | .navWaypoints => 1
  | .land | .done => 2

theorem takeoff_advances (went : Tick p now n n' out) (state : n.state = .takeoff)
    (changes : n'.state ≠ n.state ∨ n'.waypointIndex ≠ n.waypointIndex) : 1 ≤ n'.state.stage := by
  cases went with
  | climb => simp [Node.checked] at changes
  | startRoute | startHover | fenceAbort | estimateAbort => simp [FlightState.stage, Node.landing]
  | indexFault route | cruise route | reach route =>
    rw [state] at route
    exact absurd route (by decide)
  | _ => simp_all

end Step

section Runs
variable {p : Params K} {run past : List (Event K)} {e : Event K}

theorem responsive_prompt {limit : Nat} (legal : Run p run)
    (responsive : Always (Responsive p limit) run) :
    Always (Prompt (TravelTick p) (Advances p) limit) run := by
  induction run with
  | nil => trivial
  | cons e past ih =>
    refine ⟨fun tick late => ⟨tick, ?_⟩, ih legal.2 responsive.2⟩
    have arrived := responsive.1 tick late
    exact arrived_advances (after_tick tick.2.1 tick.1) arrived (index_in_range p legal.2)

omit [Field K] [LinearOrder K] [FloorRing K] [FloatMath K] in
theorem stage_mono {s s' : FlightState} {word : List Signal} (g : Grammar s word s') :
    s.stage ≤ s'.stage := by
  cases g with
  | finish _ flying | abort _ flying => rcases flying with rfl | rfl | rfl | rfl <;> decide
  | silent | fly | fault => exact Nat.le_refl _
  | _ => decide

omit [Field K] [LinearOrder K] [FloorRing K] [FloatMath K] in
theorem stage_on_route {s : FlightState} (route : s.OnRoute) : s.stage = 1 := by
  rcases route with rfl | rfl <;> rfl

theorem advance_counted (legal : Run p (e :: past)) (advances : Advances p past e) :
    1 + (stateAfter p past).stage ≤
      (declaredAt p past e).length + (stateAfter p (e :: past)).stage := by
  obtain ⟨tick, changes⟩ := advances
  have later := stage_mono (step_grammar p past e)
  rcases tick.2.2 with takeoff | route
  · have ended := takeoff_advances (after_tick tick.2.1 tick.1) takeoff changes
    change 1 ≤ (stateAfter p (e :: past)).stage at ended
    rw [takeoff]
    exact le_add_left ended
  · have declares : ∀ d : Declaration K, declaredAt p past e = [d] →
        (declaredAt p past e).length = 1 := fun d said => by rw [said]; rfl
    cases legal_leg p legal with
    | off before => exact absurd route before
    | start _ before | accept before =>
      rw [stateAfter, before] at route
      exact absurd route (by decide)
    | cruise _ same _ index =>
      rcases changes with moved | counted
      · exact absurd same moved
      · exact absurd index counted
    | reach _ _ _ _ _ _ _ _ _ _ said | finish _ _ _ _ _ _ _ _ said =>
      rw [declares _ said]
      exact Nat.add_le_add_left later 1
    | abort _ landed =>
      have after : stateAfter p (e :: past) = .land := landed
      rw [stage_on_route route, after]
      exact Nat.le_add_left _ _

theorem advances_counted (legal : Run p run) :
    tally (Advances p) run ≤ (flightLog p run).length + (stateAfter p run).stage := by
  induction run with
  | nil => exact Nat.zero_le _
  | cons e past ih =>
    have earlier := ih legal.2
    have later := stage_mono (step_grammar p past e)
    rw [flightLog, List.length_append]
    by_cases advances : Advances p past e
    · have counted := advance_counted legal advances
      rw [tally_hit advances]
      omega
    · rw [tally_miss advances]
      omega

theorem log_le_routes (legal : Run p run) :
    (flightLog p run).length ≤ ((startedRoutes p run).map List.length).sum := by
  have whole : (completedLog p run).length = ((completedRoutes p run).map List.length).sum := by
    rw [completedLog, List.length_flatMap]
    congr 1
    exact List.map_congr_left fun route _ => reportsOf_length declaration route (Nat.le_refl _)
  have part : ∀ it : Itinerary (Waypoint K), (it.reports declaration).length ≤ it.route.length := by
    intro it
    have within := Nat.le_of_lt it.inRange
    rwa [Itinerary.reports, reportsOf_length declaration it.route within]
  cases ledger p legal with
  | closed _ begun said => rw [said, begun, whole]
  | underway route begun said =>
    obtain ⟨it, on⟩ := route_itinerary p legal route
    have rest := part it
    rw [said, begun, on.said, ← on.route, List.length_append, whole, List.map_append,
      List.sum_append]
    simpa using rest
  | cut _ _ it begun said =>
    have rest := part it
    rw [said, begun, List.length_append, whole, List.map_append, List.sum_append]
    simpa using rest

end Runs

/-- Every flight gets on: the ticks a flight of any length spends climbing and on routes are
    bounded by the waypoints of the routes it was given. -/
theorem travel_is_bounded (p : Params K) {limit : Nat} (positive : 0 < limit)
    {run : List (Event K)} (legal : Run p run) (responsive : Always (Responsive p limit) run) :
    tally (TravelTick p) run <
      limit * (((startedRoutes p run).map List.length).sum + (stateAfter p run).stage + 1) := by
  have bound := ticks_bounded positive (responsive_prompt legal responsive)
  have advances := advances_counted legal
  have declared := log_le_routes legal
  apply bound.trans_le
  apply Nat.mul_le_mul_left
  omega

end OffboardControl
