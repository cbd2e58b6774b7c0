import GpsDeniedDrone.FlightGrammar
import GpsDeniedDrone.Readings
import GpsDeniedDrone.TwoRuns

/-!
The flight and the vehicle's status. INIT waits for OFFBOARD and armed and LAND for the
disarm; in between nothing reads `vehicle_status` or `vehicle_land_detected`. A vehicle
that loses OFFBOARD or is disarmed in the air is flown as if it had not.
-/
namespace OffboardControl
open FrameTransforms Messages PastTime TwoRuns
variable {K : Type}

def StatusEvent (e : Event K) : Prop :=
  match e.callback with
  | .vehicleStatus _ => True
  | .landDetected _ => True
  | _ => False

def decideStatusEvent : (e : Event K) → Decidable (StatusEvent e)
  | ⟨_, .vehicleStatus _⟩ | ⟨_, .landDetected _⟩ => isTrue trivial
  | ⟨_, .localPosition _⟩ | ⟨_, .goalPose _⟩ | ⟨_, .navPath _⟩ | ⟨_, .setWaypoints _⟩
  | ⟨_, .control⟩ => isFalse id

instance : DecidablePred (StatusEvent (K := K)) := decideStatusEvent

/-- The node without what the status topics leave in it. -/
def Node.heedless (n : Node K) : Node K :=
  { n with
    vehicleStatus := .default
    vehicleLandDetected := .default
    lowThrottleSince := none }

def Turn.heedless (t : Turn K) : Turn K := { t with node := t.node.heedless }

section Checks
variable [Field K] [LinearOrder K] (p : Params K) (now : Int) (duringLand : Bool) (t : Turn K)

theorem checkGeofence_heedless :
    (checkGeofence p now duringLand t).map id Turn.heedless =
      checkGeofence p now duringLand t.heedless := by
  simp only [checkGeofence, apply_ite (Prod.map id Turn.heedless)]
  rfl

theorem checkEstimateHealth_heedless :
    (checkEstimateHealth p now duringLand t).map id Turn.heedless =
      checkEstimateHealth p now duringLand t.heedless := by
  simp only [checkEstimateHealth, apply_ite (Prod.map id Turn.heedless)]
  rfl

theorem safetyAbort_heedless :
    (safetyAbort p now duringLand t).map id Turn.heedless =
      safetyAbort p now duringLand t.heedless := by
  simp only [safetyAbort, apply_ite (Prod.map id Turn.heedless), checkEstimateHealth_heedless,
    ← checkGeofence_heedless]
  rfl

theorem supervised_heedless {body : Turn K → Turn K}
    (same : ∀ t : Turn K, (body t).heedless = body t.heedless) :
    (supervised p now duringLand body t).heedless =
      supervised p now duringLand body t.heedless := by
  have checked := safetyAbort_heedless p now duringLand t
  unfold supervised
  rw [← checked]
  dsimp only [Prod.map, id]
  rw [apply_ite Turn.heedless, same]

end Checks

theorem acceptRuntimeWaypoints_heedless (route : List (Waypoint K)) (t : Turn K) :
    (acceptRuntimeWaypoints route t).heedless = acceptRuntimeWaypoints route t.heedless := by
  simp only [acceptRuntimeWaypoints, apply_ite Turn.heedless]
  rfl

theorem landAfterRoute_heedless [Field K] (now : Int) (wp : Waypoint K) (t : Turn K) :
    (landAfterRoute now wp t).heedless = landAfterRoute now wp t.heedless := rfl

theorem hoverAfterRoute_heedless [Field K] [LinearOrder K] [FloorRing K] (p : Params K)
    (wp : Waypoint K) (t : Turn K) :
    (hoverAfterRoute p wp t).heedless = hoverAfterRoute p wp t.heedless := rfl

variable [Field K] [LinearOrder K] [FloatMath K]

theorem flyRoute_heedless (p : Params K) (now : Int) {reached : Nat → Nat → K → K → K → Log K}
    {finish : Waypoint K → Turn K → Turn K}
    (same : ∀ wp (t : Turn K), (finish wp t).heedless = finish wp t.heedless) (t : Turn K) :
    (flyRoute p now reached finish t).heedless = flyRoute p now reached finish t.heedless := by
  unfold flyRoute
  apply supervised_heedless
  intro t
  have queue : t.heedless.node.waypoints[t.heedless.node.waypointIndex]? =
      t.node.waypoints[t.node.waypointIndex]? := rfl
  rw [queue]
  cases t.node.waypoints[t.node.waypointIndex]? with
  | none => rfl
  | some wp =>
    dsimp only
    simp only [apply_ite Turn.heedless, same]
    rfl

variable [FloorRing K]

theorem controlTakeoff_heedless (p : Params K) (now : Int) (t : Turn K) :
    (controlTakeoff p now t).heedless = controlTakeoff p now t.heedless := by
  unfold controlTakeoff
  apply supervised_heedless
  intro t
  simp only [apply_ite Turn.heedless]
  rfl

omit [FloorRing K] in
theorem controlHover_heedless (p : Params K) (now : Int) (t : Turn K) :
    (controlHover p now t).heedless = controlHover p now t.heedless := by
  unfold controlHover
  apply supervised_heedless
  intro t
  simp only [apply_ite Turn.heedless]
  rfl

theorem controlLoop_heedless (p : Params K) (now : Int) (t : Turn K)
    (flying : t.node.state.Flying) :
    (controlLoop p now t).heedless = controlLoop p now t.heedless := by
  have beat : publishHeartbeat now t.heedless = (publishHeartbeat now t).heedless := rfl
  have state : (publishHeartbeat now t).node.state = t.node.state := rfl
  have state' : (publishHeartbeat now t).heedless.node.state = t.node.state := rfl
  unfold controlLoop
  rw [beat]
  simp only [state, state']
  rcases flying with is | is | is | is <;> rw [is]
  · exact controlTakeoff_heedless p now _
  · exact flyRoute_heedless p now (landAfterRoute_heedless now) _
  · exact flyRoute_heedless p now (hoverAfterRoute_heedless p) _
  · exact controlHover_heedless p now _

theorem step_heedless {p : Params K} {n : Node K} {e : Event K} (flying : n.state.Flying)
    (other : ¬ StatusEvent e) :
    ((step p n e).1.heedless, (step p n e).2) =
      ((step p n.heedless e).1.heedless, (step p n.heedless e).2) := by
  obtain ⟨now, callback⟩ := e
  unfold step
  by_cases running : n.process = .running
  · have running' : n.heedless.process = .running := running
    rw [if_pos running, if_pos running']
    have turn : (runCallback p now callback ⟨n, []⟩).heedless =
        runCallback p now callback ⟨n.heedless, []⟩ := by
      cases callback with
      | vehicleStatus | landDetected => exact absurd trivial other
      | goalPose msg => exact acceptRuntimeWaypoints_heedless _ ⟨n, []⟩
      | navPath msg =>
        simp only [runCallback, onNavPath, apply_ite Turn.heedless,
          acceptRuntimeWaypoints_heedless]
        rfl
      | control => exact controlLoop_heedless p now ⟨n, []⟩ flying
      | localPosition | setWaypoints => rfl
    dsimp only
    rw [← turn]
    rfl
  · have gone : ¬ n.heedless.process = .running := running
    rw [if_neg running, if_neg gone]
    rfl

omit [FloorRing K] [FloatMath K] [Field K] [LinearOrder K] in
theorem heedless_landed {n n' : Node K} (alike : n.heedless = n'.heedless) :
    n.state.Landed ↔ n'.state.Landed := by
  have state : n.heedless.state = n'.heedless.state := by rw [alike]
  have state' : n.state = n'.state := state
  rw [state']

theorem step_status {p : Params K} {n : Node K} {e : Event K} (status : StatusEvent e) :
    (step p n e).1.heedless = n.heedless := by
  obtain ⟨now, callback⟩ := e
  unfold step
  by_cases running : n.process = .running
  · rw [if_pos running]
    cases callback with
    | vehicleStatus | landDetected => rfl
    | _ => exact status.elim
  · rw [if_neg running]

def resumed (p : Params K) (past : List (Event K)) :
    Machine (Node K) (Event K) (Output K) := ⟨(flight p).after past, step p⟩

theorem resumed_after (p : Params K) (newer past : List (Event K)) :
    (resumed p past).after newer = (flight p).after (newer ++ past) := by
  induction newer with
  | nil => rfl
  | cons e newer ih =>
    show (step p ((resumed p past).after newer) e).1 = _
    rw [ih]
    rfl

/-- The rest of a flight up to the tick that enters LAND: at every callback but those of
    the status topics, the node without the status and all it published and logged. -/
def restOfFlight (p : Params K) (past newer : List (Event K)) :
    List (Node K × List (Output K)) :=
  heard (resumed p past) StatusEvent (fun n => n.state.Landed) Node.heedless newer

theorem aloft_flying {p : Params K} {past : List (Event K)} (flying : (stateAfter p past).Flying)
    (newer : List (Event K)) (aloft : ¬ ((resumed p past).after newer).state.Landed) :
    ((resumed p past).after newer).state.Flying := by
  rw [resumed_after] at aloft ⊢
  have grown := rank_grows p newer past
  have started : 1 ≤ (stateAfter p past).rank := by
    rcases flying with is | is | is | is <;> rw [is] <;> decide
  have later : 1 ≤ (stateAfter p (newer ++ past)).rank := le_trans started grown
  unfold stateAfter at later
  cases is : ((flight p).after (newer ++ past)).state <;>
    simp_all [FlightState.rank, FlightState.Landed, FlightState.Flying]

/-- Where the two rests have not both reached LAND, the nodes differ in the status alone. -/
def SameButStatus (p : Params K) (past newer newer' : List (Event K)) : Prop :=
  ((stateAfter p (newer ++ past)).Landed ∧ (stateAfter p (newer' ++ past)).Landed) ∨
    ((flight p).after (newer ++ past)).heedless = ((flight p).after (newer' ++ past)).heedless

theorem without_status {p : Params K} {past : List (Event K)}
    (flying : (stateAfter p past).Flying) (newer : List (Event K)) :
    restOfFlight p past (loud StatusEvent newer) = restOfFlight p past newer ∧
      SameButStatus p past (loud StatusEvent newer) newer := by
  unfold SameButStatus stateAfter
  simp only [← resumed_after]
  let next (n : Node K) (e : Event K) := ((step p n e).1.heedless, (step p n e).2)
  refine @heard_loud _ _ _ (resumed p past) _ _ _ _ _ _ next
    (fun _ _ alike => heedless_landed alike) ?_ ?_ ?_ newer
  · intro older e landed
    have grammar := step_grammar p (older ++ past) e
    unfold stateAfter at grammar
    rw [← List.cons_append, ← resumed_after, ← resumed_after] at grammar
    exact (grammar_landed grammar landed).1
  · intro older e status _
    exact step_status status
  · intro older e other aloft
    exact step_heedless (aloft_flying flying older aloft) other

/-- Two rests of one flight that differ in status messages alone fly the same way. -/
theorem flight_ignores_status (p : Params K) {past newer newer' : List (Event K)}
    (flying : (stateAfter p past).Flying)
    (same : loud StatusEvent newer = loud StatusEvent newer') :
    restOfFlight p past newer = restOfFlight p past newer' ∧
      SameButStatus p past newer newer' := by
  obtain ⟨seen, ended⟩ := without_status flying newer
  obtain ⟨seen', ended'⟩ := without_status flying newer'
  rw [same] at seen ended
  refine ⟨seen.symm.trans seen', ?_⟩
  rcases ended with ⟨landed, once⟩ | view <;> rcases ended' with ⟨landed', other⟩ | view'
  · exact Or.inl ⟨once, other⟩
  · exact Or.inl ⟨once, (heedless_landed view').mp landed⟩
  · exact Or.inl ⟨(heedless_landed view).mp landed', other⟩
  · exact Or.inr (view.symm.trans view')

def restFlown : List (Event ℚ) :=
  [tickAt 12, tickAt 11, sampleAt 11 0 0 (-2) true, ⟨tenths 10, .setWaypoints [⟨0, 0, -2, 0⟩]⟩]

def restFlownDisarmed : List (Event ℚ) :=
  [tickAt 12, lowThrottleAt 12 true, statusAt 12 4 1, tickAt 11, statusAt 11 4 2,
    sampleAt 11 0 0 (-2) true, ⟨tenths 10, .setWaypoints [⟨0, 0, -2, 0⟩]⟩]

theorem flight_ignores_status_disarmed :
    restOfFlight simParams started restFlownDisarmed =
        restOfFlight simParams started restFlown ∧
      SameButStatus simParams started restFlownDisarmed restFlown :=
  flight_ignores_status simParams (by decide +kernel) (by decide +kernel)

end OffboardControl
