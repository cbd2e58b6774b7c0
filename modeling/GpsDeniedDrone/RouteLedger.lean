import GpsDeniedDrone.Routes

/-!
The waypoint lines of a whole flight. The routes begun are the routes completed and at
most one more, and what the node has logged is the report of each of them in turn: a
flight, however often it is given new goals, is a sequence of whole routes.
-/
namespace OffboardControl
open PastTime OrderedRoute
variable {K : Type} [Field K] [LinearOrder K] [FloorRing K] [FloatMath K]
variable (p : Params K)

instance (past : List (Event K)) (e : Event K) : Decidable (Leaves p past e) :=
  inferInstanceAs (Decidable (_ ∧ _))

def startedRoutes : List (Event K) → List (List (Waypoint K))
  | [] => []
  | e :: past => startedRoutes past ++ (startedRoute p past e).toList

/-- The routes flown to their end without a safety abort, oldest first. -/
def completedRoutes : List (Event K) → List (List (Waypoint K))
  | [] => []
  | e :: past => completedRoutes past ++ if Leaves p past e then [acceptedRoute p past] else []

def flightLog : List (Event K) → List (Declaration K)
  | [] => []
  | e :: past => flightLog past ++ declaredAt p past e

omit [Field K] [LinearOrder K] [FloorRing K] [FloatMath K] in
def wholeReport (route : List (Waypoint K)) : List (Declaration K) :=
  reportsOf declaration route route.length

def completedLog (run : List (Event K)) : List (Declaration K) :=
  (completedRoutes p run).flatMap wholeReport

/-- Where the books of a run can stand: no route open, one being flown, or one cut short
    by an abort. -/
inductive Ledger (run : List (Event K)) : Prop where
  | closed (off : ¬ (stateAfter p run).OnRoute)
      (begun : startedRoutes p run = completedRoutes p run)
      (said : flightLog p run = completedLog p run)
  | underway (route : (stateAfter p run).OnRoute)
      (begun : startedRoutes p run = completedRoutes p run ++ [acceptedRoute p run])
      (said : flightLog p run = completedLog p run ++ declared p run)
  | cut (landed : (stateAfter p run).Landed) (latched : Aborted ((flight p).after run))
      (it : Itinerary (Waypoint K))
      (begun : startedRoutes p run = completedRoutes p run ++ [it.route])
      (said : flightLog p run = completedLog p run ++ it.reports declaration)

section Entries
variable {p} {past : List (Event K)} {e : Event K}

theorem startedRoutes_same (none_started : startedRoute p past e = none) :
    startedRoutes p (e :: past) = startedRoutes p past := by
  rw [startedRoutes, none_started, Option.toList_none, List.append_nil]

theorem completedRoutes_same (stays : ¬ Leaves p past e) :
    completedRoutes p (e :: past) = completedRoutes p past := by
  rw [completedRoutes, if_neg stays, List.append_nil]

theorem completedLog_same (stays : ¬ Leaves p past e) :
    completedLog p (e :: past) = completedLog p past := by
  rw [completedLog, completedRoutes_same stays, completedLog]

theorem flightLog_same (silent : declaredAt p past e = []) :
    flightLog p (e :: past) = flightLog p past := by
  rw [flightLog, silent, List.append_nil]

theorem landed_off_route {s : FlightState} (landed : s.Landed) : ¬ s.OnRoute := by
  rcases landed with rfl | rfl <;> decide

theorem landed_kept (landed : (stateAfter p past).Landed) : (stateAfter p (e :: past)).Landed :=
  (grammar_landed (step_grammar p past e) landed).1

theorem tick_keeps_abort {now : Int} {n n' : Node K} {out : List (Output K)}
    (went : Tick p now n n' out) (latched : Aborted n) : Aborted n' := by
  cases went with
  | fenceAbort => exact Or.inl rfl
  | estimateAbort => exact Or.inr rfl
  | _ => exact latched

theorem move_keeps_abort {n n' : Node K} {out : List (Output K)} (moved : Move p n e n' out)
    (latched : Aborted n) : Aborted n' := by
  cases moved with
  | tick now running went => exact tick_keeps_abort went latched
  | _ => exact latched

theorem none_started_off (after : ¬ (stateAfter p (e :: past)).OnRoute) :
    startedRoute p past e = none := by
  unfold startedRoute
  rw [if_neg fun begins => after (Or.inl begins.2), if_neg fun begins => after (Or.inr begins.2)]

theorem leaves_on_route (leaves : Leaves p past e) : (stateAfter p past).OnRoute :=
  leaves.1.imp And.left And.left

theorem leaves_off_route (leaves : Leaves p past e) : ¬ (stateAfter p (e :: past)).OnRoute := by
  rcases leaves.1 with ⟨_, land⟩ | ⟨_, hover⟩
  · rw [land]
    decide
  · rw [hover]
    decide

theorem ledger_closed (books : Ledger p past) (off : ¬ (stateAfter p past).OnRoute)
    (aloft : ¬ (stateAfter p past).Landed) :
    startedRoutes p past = completedRoutes p past ∧ flightLog p past = completedLog p past := by
  cases books with
  | closed _ begun said => exact ⟨begun, said⟩
  | underway route => exact absurd route off
  | cut landed => exact absurd landed aloft

theorem ledger_underway (books : Ledger p past) (route : (stateAfter p past).OnRoute) :
    startedRoutes p past = completedRoutes p past ++ [acceptedRoute p past] ∧
      flightLog p past = completedLog p past ++ declared p past := by
  cases books with
  | closed off => exact absurd route off
  | underway _ begun said => exact ⟨begun, said⟩
  | cut landed => exact absurd route (landed_off_route landed)

theorem ledger_begin (books : Ledger p past) (off : ¬ (stateAfter p past).OnRoute)
    (aloft : ¬ (stateAfter p past).Landed) (after : (stateAfter p (e :: past)).OnRoute)
    {route : List (Waypoint K)} (started : startedRoute p past e = some route)
    (silent : declaredAt p past e = []) : Ledger p (e :: past) := by
  obtain ⟨begun, said⟩ := ledger_closed books off aloft
  have stays : ¬ Leaves p past e := fun leaves => off (leaves_on_route leaves)
  apply Ledger.underway after
  · rw [startedRoutes, started, completedRoutes_same stays, begun, acceptedRoute, started]
    rfl
  · rw [flightLog_same silent, completedLog_same stays, said, declared_cons, started, silent]
    simp

theorem ledger_continue (books : Ledger p past) (before : (stateAfter p past).OnRoute)
    (after : stateAfter p (e :: past) = stateAfter p past) : Ledger p (e :: past) := by
  obtain ⟨begun, said⟩ := ledger_underway books before
  have same := started_on_route p (e := e) before
  have stays : ¬ Leaves p past e := fun leaves => leaves_changes p leaves after
  apply Ledger.underway (after ▸ before)
  · rw [startedRoutes_same same, completedRoutes_same stays, begun, acceptedRoute, same]
    rfl
  · rw [flightLog, completedLog_same stays, said, declared_cons, same, List.append_assoc]
    rfl

theorem ledger_complete (legal : Run p (e :: past)) (books : Ledger p past)
    (leaves : Leaves p past e) : Ledger p (e :: past) := by
  have before := leaves_on_route leaves
  obtain ⟨begun, said⟩ := ledger_underway books before
  have same := started_on_route p (e := e) before
  have whole : declared p past ++ declaredAt p past e = wholeReport (acceptedRoute p past) := by
    have reports := (leaves_iff_completed p legal before).mp leaves
    rw [Completed, declared_cons, same] at reports
    exact reports
  have closed : completedRoutes p (e :: past) =
      completedRoutes p past ++ [acceptedRoute p past] := by
    rw [completedRoutes, if_pos leaves]
  apply Ledger.closed (leaves_off_route leaves)
  · rw [startedRoutes_same same, begun, closed]
  · rw [flightLog, said, List.append_assoc, whole]
    unfold completedLog
    rw [closed, List.flatMap_append, List.flatMap_singleton]

theorem ledger_abort (legal : Run p (e :: past)) (books : Ledger p past)
    (before : (stateAfter p past).OnRoute) (after : stateAfter p (e :: past) = .land)
    (latched : Aborted ((flight p).after (e :: past))) (silent : declaredAt p past e = []) :
    Ledger p (e :: past) := by
  obtain ⟨begun, said⟩ := ledger_underway books before
  obtain ⟨it, on⟩ := route_itinerary p legal.2 before
  have same := started_on_route p (e := e) before
  have stays : ¬ Leaves p past e := fun leaves => leaves.2 latched
  apply Ledger.cut (Or.inl after) latched it
  · rw [startedRoutes_same same, completedRoutes_same stays, begun, on.route]
  · rw [flightLog_same silent, completedLog_same stays, said, on.said]

theorem ledger_idle (books : Ledger p past) (before : ¬ (stateAfter p past).OnRoute)
    (after : ¬ (stateAfter p (e :: past)).OnRoute) (silent : declaredAt p past e = []) :
    Ledger p (e :: past) := by
  have stays : ¬ Leaves p past e := fun leaves => before (leaves_on_route leaves)
  have started := startedRoutes_same (none_started_off after)
  cases books with
  | closed _ begun said =>
    apply Ledger.closed after
    · rw [started, completedRoutes_same stays, begun]
    · rw [flightLog_same silent, completedLog_same stays, said]
  | underway route => exact absurd route before
  | cut landed latched it begun said =>
    apply Ledger.cut (landed_kept landed) (move_keeps_abort (after_move p past e) latched) it
    · rw [started, completedRoutes_same stays, begun]
    · rw [flightLog_same silent, completedLog_same stays, said]

end Entries

theorem ledger {run : List (Event K)} (legal : Run p run) : Ledger p run := by
  induction run with
  | nil => exact Ledger.closed (show ¬ FlightState.init.OnRoute by decide) rfl rfl
  | cons e past ih =>
    have books := ih legal.2
    cases legal_leg p legal with
    | off before after silent => exact ledger_idle books before after silent
    | start _ before after queue index nonempty silent =>
      have state : stateAfter p past = .takeoff := before
      have route : stateAfter p (e :: past) = .waypoints := after
      exact ledger_begin books (by rw [state]; decide) (by rw [state]; decide)
        (by rw [route]; decide) (if_pos ⟨before, after⟩) silent
    | accept before after queue index nonempty silent =>
      have state : stateAfter p past = .hover := before
      have route : stateAfter p (e :: past) = .navWaypoints := after
      have started : startedRoute p past e =
          some (goalRoute p ((flight p).after past) e.callback) := by
        simp only [startedRoute, state, reduceCtorEq, false_and, if_false, true_and]
        exact if_pos route
      exact ledger_begin books (by rw [state]; decide) (by rw [state]; decide)
        (by rw [route]; decide) started silent
    | cruise before after => exact ledger_continue books before after
    | reach before after => exact ledger_continue books before after
    | finish leaves clean => exact ledger_complete legal books ⟨leaves, clean⟩
    | abort before after latched silent =>
      exact ledger_abort legal books before after latched silent

/-- The flight as a sequence of routes: each begun only when the one before it was
    complete, and reported waypoint by waypoint in the order begun, so that the log of
    the whole flight is the reports of the completed routes followed by a proper prefix
    of at most one unfinished route's, cut short only by an abort. -/
theorem flight_log_is_routes_in_order {run : List (Event K)} (legal : Run p run) :
    ∃ unfinished : List (Itinerary (Waypoint K)), unfinished.length ≤ 1 ∧
      startedRoutes p run = completedRoutes p run ++ unfinished.map Itinerary.route ∧
      flightLog p run = (completedRoutes p run).flatMap wholeReport ++
        unfinished.flatMap (Itinerary.reports declaration) ∧
      ((stateAfter p run).OnRoute → ∃ it, unfinished = [it] ∧ OnItinerary p run it) ∧
      (unfinished ≠ [] → (stateAfter p run).OnRoute ∨
        (stateAfter p run).Landed ∧ Aborted ((flight p).after run)) := by
  cases ledger p legal with
  | closed off begun said =>
    exact ⟨[], by simp, by simpa using begun, by simpa [completedLog] using said,
      fun route => absurd route off, fun some_left => absurd rfl some_left⟩
  | underway route begun said =>
    obtain ⟨it, on⟩ := route_itinerary p legal route
    refine ⟨[it], by simp, ?_, ?_, fun _ => ⟨it, rfl, on⟩, fun _ => Or.inl route⟩
    · rw [begun, List.map_singleton, on.route]
    · rw [said, on.said, List.flatMap_singleton]
      rfl
  | cut landed latched it begun said =>
    refine ⟨[it], by simp, ?_, ?_, fun route => absurd route (landed_off_route landed),
      fun _ => Or.inr ⟨landed, latched⟩⟩
    · rw [begun, List.map_singleton]
    · rw [said, List.flatMap_singleton]
      rfl

def secondPlan : List (Event ℚ) :=
  tickAt 50 :: sampleAt 50 1 0 (-2) true :: planAt 45 [1, 3] :: twoLegs

theorem flight_log_is_routes_in_order_second_plan :
    completedRoutes simParams secondPlan = [[⟨1, 0, -2, 0⟩, ⟨2, 0, -2, 0⟩]] ∧
      flightLog simParams secondPlan = [⟨1, 2, 1, 0, -2⟩, ⟨2, 2, 2, 0, -2⟩, ⟨1, 2, 1, 0, -2⟩] ∧
      ∃ unfinished : List (Itinerary (Waypoint ℚ)), unfinished.length ≤ 1 ∧
        startedRoutes simParams secondPlan =
          completedRoutes simParams secondPlan ++ unfinished.map Itinerary.route :=
  have legal : Run simParams secondPlan := by decide +kernel
  have books := flight_log_is_routes_in_order simParams legal
  have ⟨unfinished, few, begun, _⟩ := books
  ⟨by decide +kernel, by decide +kernel, unfinished, few, begun⟩

end OffboardControl
