import GpsDeniedDrone.Missions
import GpsDeniedDrone.Readings

/-!
Two ways to a route: a `/plan` of ENU poses taken up in HOVER, and the list a mission
builds from north/east points. The heading convention is written once in each.
-/
namespace OffboardControl
open FrameTransforms Messages PastTime SquareMission
variable {K : Type}

/-- Where an ENU pose lies on the map, north first. -/
def northEast (pose : PoseStamped K) : K × K := (pose.pose.position.y, pose.pose.position.x)

section Fold
variable [Field K] [LinearOrder K] [FloatMath K]

theorem poseToNedWaypoint_congr (p : Params K) {pose pose' : PoseStamped K}
    (same : northEast pose = northEast pose') (n e : K) :
    poseToNedWaypoint p pose.pose.position n e = poseToNedWaypoint p pose'.pose.position n e := by
  obtain ⟨north, east⟩ := Prod.ext_iff.mp same
  simp only [northEast] at north east
  simp only [poseToNedWaypoint, enuToNed, north, east]

theorem navPathWaypoints_congr (p : Params K) {poses poses' : List (PoseStamped K)}
    (same : poses.map northEast = poses'.map northEast) (n e : K) :
    navPathWaypoints p poses n e = navPathWaypoints p poses' n e := by
  induction poses generalizing poses' n e with
  | nil =>
    cases poses' with
    | nil => rfl
    | cons => simp at same
  | cons pose poses ih =>
    cases poses' with
    | nil => simp at same
    | cons pose' poses' =>
      obtain ⟨here, rest⟩ := List.cons_eq_cons.mp same
      simp only [navPathWaypoints, poseToNedWaypoint_congr p here, ih rest]

/-- The two loops agree wherever they start, if degrees are turned back into radians
    without loss. -/
theorem navPathWaypoints_eq_cornerWaypoints [FloatPi K]
    (lossless : ∀ x : K, radians (degrees x) = x) (p : Params K) (poses : List (PoseStamped K))
    (n e : K) :
    navPathWaypoints p poses n e =
      cornerWaypoints p.takeoffHeightM (n, e) (poses.map northEast) := by
  induction poses generalizing n e with
  | nil => rfl
  | cons pose poses ih =>
    have first : poseToNedWaypoint p pose.pose.position n e =
        waypoint pose.pose.position.y pose.pose.position.x p.takeoffHeightM
          (headingDeg (n, e) (northEast pose)) := by
      simp only [poseToNedWaypoint, enuToNed, waypoint, headingDeg, lossless, northEast,
        Params.targetZ]
    rw [navPathWaypoints, ih, first]
    rfl

end Fold

theorem radians_degrees (x : ℝ) : radians (degrees x) = x := by
  have pi : (FloatPi.pi : ℝ) ≠ 0 := Real.pi_ne_zero
  simp only [radians, degrees]
  field_simp

section Step
variable [Field K] [LinearOrder K] [FloorRing K] [FloatMath K]

theorem step_navPath (p : Params K) {n : Node K} (now : Int) {poses : List (PoseStamped K)}
    (running : n.process = .running) (hovering : n.state = .hover) (nonempty : poses ≠ []) :
    (step p n ⟨now, .navPath ⟨poses⟩⟩).1 =
      n.flying (navPathWaypoints p poses n.vehicleLocalPosition.x n.vehicleLocalPosition.y) := by
  simp only [step, running, if_true, runCallback, onNavPath, nonempty, if_false,
    acceptRuntimeWaypoints, hovering, ne_eq, not_true_eq_false, setWaypoints, Turn.emit,
    Node.flying]

theorem step_navPath_congr (p : Params K) (n : Node K) (now : Int)
    {poses poses' : List (PoseStamped K)} (same : poses.map northEast = poses'.map northEast) :
    step p n ⟨now, .navPath ⟨poses⟩⟩ = step p n ⟨now, .navPath ⟨poses'⟩⟩ := by
  have empty : poses = [] ↔ poses' = [] := by
    rw [← List.map_eq_nil_iff (f := northEast), same, List.map_eq_nil_iff]
  simp only [step, runCallback, onNavPath, empty, navPathWaypoints_congr p same]

end Step

/-- From the origin a plan queues what a mission builds for the same points, and what
    else its poses say is not looked at. -/
theorem plan_is_mission_route (p : Params ℝ) :
    (∀ (n : Node ℝ) (now : Int) (points : List (ℝ × ℝ)) (poses : List (PoseStamped ℝ)),
      n.process = .running → n.state = .hover →
      n.vehicleLocalPosition.x = 0 → n.vehicleLocalPosition.y = 0 →
      points ≠ [] → poses.map northEast = points →
      (step p n ⟨now, .navPath ⟨poses⟩⟩).1 =
        n.flying (cornerWaypoints p.takeoffHeightM (0, 0) points)) ∧
    ∀ (n : Node ℝ) (now : Int) (poses poses' : List (PoseStamped ℝ)),
      poses.map northEast = poses'.map northEast →
      step p n ⟨now, .navPath ⟨poses⟩⟩ = step p n ⟨now, .navPath ⟨poses'⟩⟩ := by
  constructor
  · intro n now points poses running hovering north east nonempty drawn
    have some_pose : poses ≠ [] := by
      rw [← drawn] at nonempty
      exact mt List.map_eq_nil_iff.mpr nonempty
    rw [step_navPath p now running hovering some_pose, north, east,
      navPathWaypoints_eq_cornerWaypoints radians_degrees, drawn]
  · intro n now poses poses' same
    exact step_navPath_congr p n now same

noncomputable def realParams : Params ℝ where
  takeoffHeightM := simParams.takeoffHeightM
  hoverSeconds := simParams.hoverSeconds
  waypointToleranceM := simParams.waypointToleranceM
  maxVelocityMS := simParams.maxVelocityMS
  controlRateHz := simParams.controlRateHz
  landDisarmLowThrottleDwellS := simParams.landDisarmLowThrottleDwellS
  landDisarmMaxTimeoutS := simParams.landDisarmMaxTimeoutS
  geofenceMarginM := simParams.geofenceMarginM
  geofenceHeightMarginM := simParams.geofenceHeightMarginM
  geofenceHardLimitM := simParams.geofenceHardLimitM
  estimateInvalidAbortDwellS := simParams.estimateInvalidAbortDwellS

/- Two points of a plan drawn one metre above the map. -/
theorem plan_is_mission_route_two :
    let hovering : Node ℝ := { Node.initial with state := .hover }
    (step realParams hovering
        ⟨0, .navPath ⟨[⟨⟨⟨1, 2, 1⟩, ⟨1, 0, 0, 0⟩⟩⟩, ⟨⟨⟨3, 2, 1⟩, ⟨0, 0, 0, 1⟩⟩⟩]⟩⟩).1 =
      hovering.flying (cornerWaypoints realParams.takeoffHeightM (0, 0) [(2, 1), (2, 3)]) :=
  (plan_is_mission_route realParams).1 { Node.initial with state := .hover } 0
    [(2, 1), (2, 3)] [⟨⟨⟨1, 2, 1⟩, ⟨1, 0, 0, 0⟩⟩⟩, ⟨⟨⟨3, 2, 1⟩, ⟨0, 0, 0, 1⟩⟩⟩]
    rfl rfl rfl rfl (List.cons_ne_nil _ _) rfl

end OffboardControl
