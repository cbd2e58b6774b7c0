import Mathlib.Algebra.Order.Ring.Defs
import GpsDeniedDrone.Supervision

/-!
The geofence when a goal is accepted in HOVER. The fence is computed from the queue, so
replacing the queue moves it; this module says exactly when the vehicle is still inside.
-/
namespace OffboardControl
open FrameTransforms Messages PastTime

section Extent
variable {α : Type} [LinearOrder α] {xs : List α} {a : α}

theorem min_le_iff_exists (nonempty : xs ≠ []) : xs.min nonempty ≤ a ↔ ∃ x ∈ xs, x ≤ a := by
  constructor
  · intro le
    exact ⟨_, List.min_mem nonempty, le⟩
  · intro found
    obtain ⟨x, mem, le⟩ := found
    exact (List.min_le_of_mem mem).trans le

theorem le_max_iff_exists (nonempty : xs ≠ []) : a ≤ xs.max nonempty ↔ ∃ x ∈ xs, a ≤ x := by
  constructor
  · intro le
    exact ⟨_, List.max_mem nonempty, le⟩
  · intro found
    obtain ⟨x, mem, le⟩ := found
    exact le.trans (List.le_max_of_mem mem)

variable [AddCommGroup α] [IsOrderedAddMonoid α] {margin limit : α}

theorem lower_bound_iff (nonempty : xs ≠ []) :
    max (xs.min nonempty - margin) limit ≤ a ↔ (∃ x ∈ xs, x ≤ a + margin) ∧ limit ≤ a := by
  rw [max_le_iff, sub_le_iff_le_add, min_le_iff_exists]

theorem upper_bound_iff (nonempty : xs ≠ []) :
    a ≤ min (xs.max nonempty + margin) limit ↔ (∃ x ∈ xs, a - margin ≤ x) ∧ a ≤ limit := by
  rw [le_min_iff, ← sub_le_iff_le_add, le_max_iff_exists]

end Extent

variable {K : Type} [Field K] [LinearOrder K]

/-- In each of the four directions the origin or a waypoint of the route is no more than
    the margin short of the position. -/
structure NearRoute (p : Params K) (route : List (Waypoint K)) (pos : VehicleLocalPosition K) :
    Prop where
  south : ∃ x ∈ 0 :: route.map Waypoint.x, x ≤ pos.x + p.geofenceMarginM
  north : ∃ x ∈ 0 :: route.map Waypoint.x, pos.x - p.geofenceMarginM ≤ x
  west : ∃ y ∈ 0 :: route.map Waypoint.y, y ≤ pos.y + p.geofenceMarginM
  east : ∃ y ∈ 0 :: route.map Waypoint.y, pos.y - p.geofenceMarginM ≤ y

structure WithinLimits (p : Params K) (route : List (Waypoint K))
    (pos : VehicleLocalPosition K) : Prop where
  south : -p.geofenceHardLimitM ≤ pos.x
  north : pos.x ≤ p.geofenceHardLimitM
  west : -p.geofenceHardLimitM ≤ pos.y
  east : pos.y ≤ p.geofenceHardLimitM
  ceiling : (geofenceBounds p route).zMin ≤ pos.z

theorem inside_iff [IsStrictOrderedRing K] {p : Params K} {route : List (Waypoint K)}
    {pos : VehicleLocalPosition K} :
    ¬ (geofenceBounds p route).Outside pos ↔ NearRoute p route pos ∧ WithinLimits p route pos := by
  simp only [Bounds.Outside, not_or, not_lt, gt_iff_lt]
  constructor
  · intro inside
    obtain ⟨xMin, xMax, yMin, yMax, ceiling⟩ := inside
    obtain ⟨south, limit_south⟩ := (lower_bound_iff (by simp)).mp xMin
    obtain ⟨north, limit_north⟩ := (upper_bound_iff (by simp)).mp xMax
    obtain ⟨west, limit_west⟩ := (lower_bound_iff (by simp)).mp yMin
    obtain ⟨east, limit_east⟩ := (upper_bound_iff (by simp)).mp yMax
    exact ⟨⟨south, north, west, east⟩,
      ⟨limit_south, limit_north, limit_west, limit_east, ceiling⟩⟩
  · intro both
    obtain ⟨near, limits⟩ := both
    exact ⟨(lower_bound_iff (by simp)).mpr ⟨near.south, limits.south⟩,
      (upper_bound_iff (by simp)).mpr ⟨near.north, limits.north⟩,
      (lower_bound_iff (by simp)).mpr ⟨near.west, limits.west⟩,
      (upper_bound_iff (by simp)).mpr ⟨near.east, limits.east⟩, limits.ceiling⟩

/- The ceiling of a level route. -/

def Level (p : Params K) (route : List (Waypoint K)) : Prop := ∀ wp ∈ route, wp.z = p.targetZ

theorem level_ceiling {p : Params K} {route : List (Waypoint K)} (level : Level p route) :
    (geofenceBounds p route).zMin = p.targetZ - p.geofenceHeightMarginM := by
  have all : ∀ z ∈ p.targetZ :: route.map Waypoint.z, z = p.targetZ := by
    simpa [Level] using level
  exact congrArg (· - p.geofenceHeightMarginM) (all _ (List.min_mem (by simp)))

theorem inside_after_iff [IsStrictOrderedRing K] {p : Params K} {old new : List (Waypoint K)}
    {pos : VehicleLocalPosition K} (level_old : Level p old) (level_new : Level p new)
    (inside : ¬ (geofenceBounds p old).Outside pos) :
    ¬ (geofenceBounds p new).Outside pos ↔ NearRoute p new pos := by
  obtain ⟨_, limits⟩ := inside_iff.mp inside
  have same : (geofenceBounds p new).zMin ≤ pos.z := by
    rw [level_ceiling level_new, ← level_ceiling level_old]
    exact limits.ceiling
  rw [inside_iff]
  exact and_iff_left ⟨limits.south, limits.north, limits.west, limits.east, same⟩

variable [FloorRing K] [FloatMath K]

omit [FloorRing K] in
theorem routeThrough_level (p : Params K) (poses : List (PoseStamped K)) (n e : K) :
    Level p (routeThrough p poses n e) := by
  induction poses generalizing n e with
  | nil => simp [Level, routeThrough]
  | cons pose poses ih =>
    intro wp mem
    rcases List.mem_cons.mp mem with rfl | rest
    · rfl
    · exact ih _ _ wp rest

omit [FloorRing K] in
theorem goalRoute_level (p : Params K) (n : Node K) (c : Callback K) :
    Level p (goalRoute p n c) := routeThrough_level p _ _ _

def FlightState.Runtime (s : FlightState) : Prop := s = .hover ∨ s = .navWaypoints

theorem tick_runtime {p : Params K} {now : Int} {n n' : Node K} {out : List (Output K)}
    (went : Tick p now n n' out) :
    n'.waypoints = n.waypoints ∧
      (n'.state.Runtime → n.state.Runtime ∨ n.waypoints = []) := by
  cases went with
  | startHover _ _ _ empty => exact ⟨rfl, fun _ => Or.inr empty⟩
  | hoverRoute state => exact ⟨rfl, fun _ => Or.inl (Or.inr state)⟩
  | stream | rateFault | retry | climb | indexFault | cruise | reach | hold | fallback | warn
  | descend | exit => exact ⟨rfl, Or.inl⟩
  | _ => exact ⟨rfl, fun runtime => by simp [Node.landing, FlightState.Runtime] at runtime⟩

theorem move_level {p : Params K} {n n' : Node K} {e : Event K} {out : List (Output K)}
    (moved : Move p n e n' out) (allowed : QueueAllowed n.state e.callback)
    (level : n.state.Runtime → Level p n.waypoints) (runtime : n'.state.Runtime) :
    Level p n'.waypoints := by
  cases moved with
  | accepted e => exact goalRoute_level p n e.callback
  | queued => rcases allowed with state | state <;> simp [state, FlightState.Runtime] at runtime
  | tick now _ went =>
    obtain ⟨same, before⟩ := tick_runtime went
    rw [same]
    rcases before runtime with earlier | empty
    · exact level earlier
    · simp [empty, Level]
  | _ => exact level runtime

/-- In HOVER and NAV_WAYPOINTS the queue is level: empty, or from a goal. -/
theorem runtime_level (p : Params K) {run : List (Event K)} (legal : Run p run)
    (runtime : (stateAfter p run).Runtime) : Level p ((flight p).after run).waypoints := by
  revert runtime
  apply (flight p).legal_invariant (fun _ n => n.state.Runtime → Level p n.waypoints) _ _ legal
  · intro runtime
    simp [flight, Node.initial, FlightState.Runtime] at runtime
  · intro past e legal level
    exact move_level (after_move p past e) legal.1 level

/- Accepting a goal. -/

theorem move_accepted {p : Params K} {n n' : Node K} {e : Event K} {out : List (Output K)}
    (moved : Move p n e n' out) (hover : n.state = .hover) (accepted : n'.state = .navWaypoints) :
    n.process = .running ∧ n' = n.flying (goalRoute p n e.callback) := by
  cases moved with
  | accepted _ _ running => exact ⟨running, rfl⟩
  | tick now _ went =>
    cases went with
    | stream | rateFault | retry | climb | indexFault | cruise | reach | hold | fallback | warn
    | descend | exit => cases hover.symm.trans accepted
    | _ => cases accepted
  | _ => cases hover.symm.trans accepted

theorem breach_iff {p : Params K} {past : List (Event K)} {e : Event K}
    (flying : FlyingTick p past e) :
    ((flight p).after (e :: past)).geofenceBreached = true ↔
      OutsideFence p ((flight p).after past) := by
  cases flyingTick_supervised flying with
  | stopped _ breach => exact breach
  | kept passed inside => exact iff_of_false (by simp [inside]) passed.inside

theorem goal_keeps_inside_iff [IsStrictOrderedRing K] {p : Params K} {past : List (Event K)}
    {e : Event K} (legal : Run p past) (hover : stateAfter p past = .hover)
    (accepted : stateAfter p (e :: past) = .navWaypoints)
    (inside : ¬ OutsideFence p ((flight p).after past)) :
    (¬ OutsideFence p ((flight p).after (e :: past)) ↔
      NearRoute p (goalRoute p ((flight p).after past) e.callback)
        ((flight p).after past).vehicleLocalPosition) ∧
    ∀ now, ((flight p).after (⟨now, .control⟩ :: e :: past)).geofenceBreached = false ↔
      NearRoute p (goalRoute p ((flight p).after past) e.callback)
        ((flight p).after past).vehicleLocalPosition := by
  obtain ⟨running, goal⟩ := move_accepted (after_move p past e) hover accepted
  have first : ¬ OutsideFence p ((flight p).after (e :: past)) ↔
      NearRoute p (goalRoute p ((flight p).after past) e.callback)
        ((flight p).after past).vehicleLocalPosition := by
    rw [goal]
    exact inside_after_iff (runtime_level p legal (Or.inl hover)) (goalRoute_level p _ _) inside
  apply And.intro first
  intro now
  have alive : ((flight p).after (e :: past)).process = .running := by
    rw [goal]
    exact running
  have flying : FlyingTick p (e :: past) ⟨now, .control⟩ :=
    ⟨rfl, alive, Or.inr (Or.inr (Or.inl accepted))⟩
  rw [← first, ← breach_iff flying, Bool.not_eq_true]

def hoveringNorth : List (Event ℚ) :=
  tickAt 30 :: sampleAt 30 3 0 (-2) true :: tickAt 13 :: planAt 12 [3] :: hovering

theorem goal_keeps_inside_iff_north :
    (¬ OutsideFence simParams ((flight simParams).after (planAt 31 [2] :: hoveringNorth)) ↔
      NearRoute simParams
        (goalRoute simParams ((flight simParams).after hoveringNorth) (planAt 31 [2]).callback)
        ((flight simParams).after hoveringNorth).vehicleLocalPosition) ∧
    ∀ now, ((flight simParams).after
        (⟨now, .control⟩ :: planAt 31 [2] :: hoveringNorth)).geofenceBreached = false ↔
      NearRoute simParams
        (goalRoute simParams ((flight simParams).after hoveringNorth) (planAt 31 [2]).callback)
        ((flight simParams).after hoveringNorth).vehicleLocalPosition :=
  goal_keeps_inside_iff (by decide +kernel) (by decide +kernel) (by decide +kernel)
    (by decide +kernel)

/-- A goal one metre south of the origin leaves the vehicle outside its own fence. -/
theorem goal_shrinks_fence : ¬ ∀ (p : Params ℚ) (past : List (Event ℚ)) (e : Event ℚ),
    0 ≤ p.geofenceMarginM → 0 ≤ p.geofenceHeightMarginM → 0 ≤ p.geofenceHardLimitM →
      Run p past → stateAfter p past = .hover → stateAfter p (e :: past) = .navWaypoints →
        (∀ wp ∈ goalRoute p ((flight p).after past) e.callback,
          |wp.x| ≤ p.geofenceHardLimitM ∧ |wp.y| ≤ p.geofenceHardLimitM) →
        ¬ OutsideFence p ((flight p).after past) →
          ¬ OutsideFence p ((flight p).after (e :: past)) := by
  intro all
  have inside := all simParams hoveringNorth (planAt 31 [-1]) (by decide +kernel)
    (by decide +kernel) (by decide +kernel) (by decide +kernel) (by decide +kernel)
    (by decide +kernel) (by decide +kernel) (by decide +kernel)
  exact absurd inside (by decide +kernel)

end OffboardControl
