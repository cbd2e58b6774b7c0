import GpsDeniedDrone.BoundingBox
import GpsDeniedDrone.Missions

/-!
The geometry of the fence: the area a route gives it, what the order and number of the
waypoints have to do with it, and which of its own waypoints a route leaves outside.
-/
namespace OffboardControl
open FrameTransforms Messages BoundingBox
variable {K : Type} [LinearOrder K]

def Bounds.area (b : Bounds K) : Set (K × K) := Set.Icc b.xMin b.xMax ×ˢ Set.Icc b.yMin b.yMax

def Waypoint.arrival (wp : Waypoint K) : VehicleLocalPosition K := ⟨wp.x, wp.y, wp.z, true, true⟩

theorem not_outside_iff {b : Bounds K} {pos : VehicleLocalPosition K} :
    ¬ b.Outside pos ↔ (pos.x, pos.y) ∈ b.area ∧ b.zMin ≤ pos.z := by
  simp only [Bounds.Outside, Bounds.area, not_or, not_lt, gt_iff_lt, Set.mem_prod, Set.mem_Icc]
  tauto

/- Every bound of the first fence holds in the second. -/

structure Bounds.Within (b b' : Bounds K) : Prop where
  xMin : b'.xMin ≤ b.xMin
  xMax : b.xMax ≤ b'.xMax
  yMin : b'.yMin ≤ b.yMin
  yMax : b.yMax ≤ b'.yMax
  zMin : b'.zMin ≤ b.zMin

theorem Bounds.Within.antisymm {b b' : Bounds K} (le : b.Within b') (ge : b'.Within b) :
    b = b' := by
  cases b
  cases b'
  simp only [Bounds.mk.injEq]
  exact ⟨le_antisymm ge.xMin le.xMin, le_antisymm le.xMax ge.xMax, le_antisymm ge.yMin le.yMin,
    le_antisymm le.yMax ge.yMax, le_antisymm ge.zMin le.zMin⟩

theorem Bounds.Within.area {b b' : Bounds K} (le : b.Within b') : b.area ⊆ b'.area :=
  Set.prod_mono (Set.Icc_subset_Icc le.xMin le.xMax) (Set.Icc_subset_Icc le.yMin le.yMax)

section Extremes
variable {xs ys : List K}

theorem min_anti (sub : xs ⊆ ys) (nonempty : xs ≠ []) (nonempty' : ys ≠ []) :
    ys.min nonempty' ≤ xs.min nonempty :=
  List.min_le_of_mem (sub (List.min_mem nonempty))

theorem max_mono (sub : xs ⊆ ys) (nonempty : xs ≠ []) (nonempty' : ys ≠ []) :
    xs.max nonempty ≤ ys.max nonempty' :=
  List.le_max_of_mem (sub (List.max_mem nonempty))

end Extremes

variable [Field K]

def routePoints (route : List (Waypoint K)) : Set (K × K) :=
  insert (0, 0) {q | ∃ wp ∈ route, (wp.x, wp.y) = q}

def hardLimitSquare (limit : K) : Set (K × K) :=
  Set.Icc (-limit) limit ×ˢ Set.Icc (-limit) limit

omit [LinearOrder K] in
theorem routePoints_fst (route : List (Waypoint K)) :
    Prod.fst '' routePoints route = {x | x ∈ 0 :: route.map Waypoint.x} := by
  ext x
  simp [routePoints, eq_comm]

omit [LinearOrder K] in
theorem routePoints_snd (route : List (Waypoint K)) :
    Prod.snd '' routePoints route = {y | y ∈ 0 :: route.map Waypoint.y} := by
  ext y
  simp [routePoints, eq_comm]

variable [IsStrictOrderedRing K] {p : Params K} {route route' : List (Waypoint K)}

theorem mem_side {xs : List K} {margin : K} (nonneg : 0 ≤ margin) (nonempty : xs ≠ [])
    (limit x : K) :
    x ∈ Set.Icc (max (xs.min nonempty - margin) (-limit)) (min (xs.max nonempty + margin) limit) ↔
      x ∈ widened margin (hull {a | a ∈ xs}) ∧ x ∈ Set.Icc (-limit) limit := by
  rw [Set.mem_Icc, lower_bound_iff, upper_bound_iff, mem_widened_hull nonneg, Set.mem_Icc]
  simp only [Set.mem_ofPred_eq]
  tauto

theorem area_eq (nonneg : 0 ≤ p.geofenceMarginM) (route : List (Waypoint K)) :
    (geofenceBounds p route).area =
      grown p.geofenceMarginM (box (routePoints route)) ∩
        hardLimitSquare p.geofenceHardLimitM := by
  ext q
  rw [box, grown_prod, routePoints_fst, routePoints_snd]
  have north := mem_side nonneg (List.cons_ne_nil 0 (route.map Waypoint.x))
    p.geofenceHardLimitM q.1
  have east := mem_side nonneg (List.cons_ne_nil 0 (route.map Waypoint.y))
    p.geofenceHardLimitM q.2
  have sides : q ∈ (geofenceBounds p route).area ↔ _ ∧ _ := and_congr north east
  rw [sides]
  simp only [hardLimitSquare, Set.mem_inter_iff, Set.mem_prod]
  tauto

theorem fence_widens (p : Params K) (sub : route ⊆ route') :
    (geofenceBounds p route).Within (geofenceBounds p route') := by
  have north := List.cons_subset_cons 0 (List.map_subset Waypoint.x sub)
  have east := List.cons_subset_cons 0 (List.map_subset Waypoint.y sub)
  have down := List.cons_subset_cons p.targetZ (List.map_subset Waypoint.z sub)
  exact {
    xMin := max_le_max (sub_le_sub_right (min_anti north (by simp) (by simp)) _) le_rfl
    xMax := min_le_min (add_le_add_left (max_mono north (by simp) (by simp)) _) le_rfl
    yMin := max_le_max (sub_le_sub_right (min_anti east (by simp) (by simp)) _) le_rfl
    yMax := min_le_min (add_le_add_left (max_mono east (by simp) (by simp)) _) le_rfl
    zMin := sub_le_sub_right (min_anti down (by simp) (by simp)) _ }

theorem fence_of_set (p : Params K) (same : ∀ wp, wp ∈ route ↔ wp ∈ route') :
    geofenceBounds p route = geofenceBounds p route' :=
  (fence_widens p fun wp => (same wp).mp).antisymm (fence_widens p fun wp => (same wp).mpr)

theorem ceiling_le (p : Params K) {z : K} (mem : z ∈ p.targetZ :: route.map Waypoint.z) :
    (geofenceBounds p route).zMin ≤ z - p.geofenceHeightMarginM :=
  sub_le_sub_right (List.min_le_of_mem mem) _

theorem box_grown (nonneg : 0 ≤ p.geofenceMarginM) (route : List (Waypoint K)) :
    box (routePoints route) ⊆ grown p.geofenceMarginM (box (routePoints route)) :=
  fun q mem => ⟨q, mem, by simpa using nonneg⟩

theorem route_point_grown (nonneg : 0 ≤ p.geofenceMarginM) {q : K × K}
    (mem : q ∈ routePoints route) : q ∈ grown p.geofenceMarginM (box (routePoints route)) :=
  box_grown nonneg route (subset_box _ mem)

theorem origin_inside (margin : 0 ≤ p.geofenceMarginM) (limit : 0 ≤ p.geofenceHardLimitM)
    (route : List (Waypoint K)) : (0, 0) ∈ (geofenceBounds p route).area := by
  rw [area_eq margin]
  refine ⟨route_point_grown margin (Set.mem_insert _ _), ?_⟩
  simp [hardLimitSquare, limit]

structure FenceAlgebra (p : Params K) (route : List (Waypoint K)) : Prop where
  area : (geofenceBounds p route).area =
    grown p.geofenceMarginM (box (routePoints route)) ∩ hardLimitSquare p.geofenceHardLimitM
  origin : (0, 0) ∈ (geofenceBounds p route).area
  sameSet : ∀ route', (∀ wp, wp ∈ route' ↔ wp ∈ route) →
    geofenceBounds p route' = geofenceBounds p route
  grows : ∀ more, (geofenceBounds p route).area ⊆ (geofenceBounds p (route ++ more)).area ∧
    (geofenceBounds p (route ++ more)).zMin ≤ (geofenceBounds p route).zMin
  ceiling : (geofenceBounds p route).zMin ≤ p.targetZ - p.geofenceHeightMarginM ∧
    ∀ wp ∈ route, (geofenceBounds p route).zMin ≤ wp.z - p.geofenceHeightMarginM

theorem fence_algebra (margin : 0 ≤ p.geofenceMarginM) (limit : 0 ≤ p.geofenceHardLimitM)
    (route : List (Waypoint K)) : FenceAlgebra p route where
  area := area_eq margin route
  origin := origin_inside margin limit route
  sameSet route' same := fence_of_set p same
  grows more := by
    have wider := fence_widens p (List.subset_append_left route more)
    exact ⟨wider.area, wider.zMin⟩
  ceiling := by
    refine ⟨ceiling_le p List.mem_cons_self, ?_⟩
    intro wp mem
    exact ceiling_le p (List.mem_cons_of_mem _ (List.mem_map_of_mem mem))

theorem fence_algebra_square :
    FenceAlgebra simParams (SquareMission.buildWaypoints simParams 3) :=
  fence_algebra (by decide +kernel) (by decide +kernel) _

/-- The hard limit cuts the fence off, and nothing else leaves a waypoint outside: the
    height never does. -/
theorem waypoint_inside_iff (margin : 0 ≤ p.geofenceMarginM)
    (heightMargin : 0 ≤ p.geofenceHeightMarginM) {wp : Waypoint K} (mem : wp ∈ route) :
    (¬ (geofenceBounds p route).Outside wp.arrival ↔
      |wp.x| ≤ p.geofenceHardLimitM ∧ |wp.y| ≤ p.geofenceHardLimitM) ∧
      (geofenceBounds p route).zMin ≤ wp.z := by
  have point : (wp.x, wp.y) ∈ routePoints route := Or.inr ⟨wp, mem, rfl⟩
  have below : (geofenceBounds p route).zMin ≤ wp.z := by
    have ceiling : (geofenceBounds p route).zMin ≤ wp.z - p.geofenceHeightMarginM :=
      ceiling_le p (List.mem_cons_of_mem _ (List.mem_map_of_mem mem))
    exact ceiling.trans (sub_le_self _ heightMargin)
  have covered := route_point_grown margin point
  refine ⟨?_, below⟩
  rw [not_outside_iff, area_eq margin, abs_le, abs_le]
  constructor
  · intro inside
    exact inside.1.2
  · intro limits
    exact ⟨⟨covered, limits⟩, below⟩

theorem waypoint_inside_iff_north :
    (¬ (geofenceBounds simParams [⟨3, 0, -2, 0⟩]).Outside (⟨3, 0, -2, 0⟩ : Waypoint ℚ).arrival ↔
      |(3 : ℚ)| ≤ simParams.geofenceHardLimitM ∧ |(0 : ℚ)| ≤ simParams.geofenceHardLimitM) ∧
      (geofenceBounds simParams [⟨3, 0, -2, 0⟩]).zMin ≤ -2 :=
  waypoint_inside_iff (by decide +kernel) (by decide +kernel) (List.mem_singleton_self _)

/-- Where the hard limit leaves every waypoint inside, it leaves the legs between them
    inside as well. -/
theorem legs_inside_iff (margin : 0 ≤ p.geofenceMarginM) (limit : 0 ≤ p.geofenceHardLimitM)
    (route : List (Waypoint K)) :
    box (routePoints route) ⊆ (geofenceBounds p route).area ↔
      ∀ wp ∈ route, |wp.x| ≤ p.geofenceHardLimitM ∧ |wp.y| ≤ p.geofenceHardLimitM := by
  rw [area_eq margin, Set.subset_inter_iff]
  constructor
  · intro inside wp mem
    have corner : (wp.x, wp.y) ∈ hardLimitSquare p.geofenceHardLimitM :=
      inside.2 (subset_box _ (Or.inr ⟨wp, mem, rfl⟩))
    exact ⟨abs_le.mpr corner.1, abs_le.mpr corner.2⟩
  · intro limits
    refine ⟨box_grown margin route, box_least ?_ Set.ordConnected_Icc Set.ordConnected_Icc⟩
    intro q mem
    rcases mem with rfl | ⟨wp, mem, rfl⟩
    · simpa using limit
    · exact ⟨abs_le.mp (limits wp mem).1, abs_le.mp (limits wp mem).2⟩

/-- A square of ten metres commands the vehicle out of its own fence. -/
theorem square_leaves_its_fence : ¬ ∀ (p : Params ℚ) (sideLengthM : ℚ),
    0 ≤ p.geofenceMarginM → 0 ≤ p.geofenceHeightMarginM → 0 ≤ p.geofenceHardLimitM →
      ∀ wp ∈ SquareMission.buildWaypoints p sideLengthM,
        ¬ (geofenceBounds p (SquareMission.buildWaypoints p sideLengthM)).Outside wp.arrival := by
  intro all
  have inside := all simParams 10 (by decide +kernel) (by decide +kernel) (by decide +kernel)
  exact absurd inside (by decide +kernel)

end OffboardControl
