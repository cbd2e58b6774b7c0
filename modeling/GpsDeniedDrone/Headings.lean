import Mathlib.Analysis.Convex.Segment
import GpsDeniedDrone.CommandedMotion

/-!
Which way the vehicle looks. On a route every setpoint turns the nose along the leg to it,
from the waypoint before; a vehicle on that leg is then flown nose first. Off the routes it
looks north.
-/
namespace OffboardControl
open FrameTransforms Messages PastTime SquareMission

/- One leg, as points north and east. -/

section Leg
variable (a b : ℝ × ℝ)

/-- The angle both loops store: `atan2(east, north)` of the leg. -/
noncomputable def bearing : ℝ := FloatMath.atan2 (b.2 - a.2) (b.1 - a.1)

noncomputable def legLength : ℝ := Real.sqrt ((b.1 - a.1) ^ 2 + (b.2 - a.2) ^ 2)

/-- `Angle a b yaw`: the nose at `yaw` points from `a` to `b`. -/
structure Angle (yaw : ℝ) : Prop where
  turned : -Real.pi < yaw ∧ yaw ≤ Real.pi
  north : legLength a b * Real.cos yaw = b.1 - a.1
  east : legLength a b * Real.sin yaw = b.2 - a.2

theorem bearing_angle : Angle a b (bearing a b) := by
  have length : legLength a b = ‖(⟨b.1 - a.1, b.2 - a.2⟩ : ℂ)‖ := by
    rw [Complex.norm_eq_sqrt_sq_add_sq, legLength]
  constructor
  · exact Complex.arg_mem_Ioc _
  · rw [length]
    exact Complex.norm_mul_cos_arg _
  · rw [length]
    exact Complex.norm_mul_sin_arg _

end Leg

/- Routes. -/

def Waypoint.point (wp : Waypoint ℝ) : ℝ × ℝ := (wp.x, wp.y)

def FacesAlong : ℝ × ℝ → List (Waypoint ℝ) → Prop
  | _, [] => True
  | start, wp :: rest => wp.yaw = bearing start wp.point ∧ FacesAlong wp.point rest

def flownFrom : ℝ × ℝ → List (Waypoint ℝ) → Nat → ℝ × ℝ
  | _, wp :: rest, i + 1 => flownFrom wp.point rest i
  | start, _, _ => start

theorem facesAlong_get {start : ℝ × ℝ} {route : List (Waypoint ℝ)} (faces : FacesAlong start route)
    {i : Nat} {wp : Waypoint ℝ} (current : route[i]? = some wp) :
    wp.yaw = bearing (flownFrom start route i) wp.point := by
  induction route generalizing start i with
  | nil => simp at current
  | cons first rest ih =>
    cases i with
    | zero =>
      obtain rfl : first = wp := by simpa using current
      exact faces.1
    | succ i => exact ih faces.2 (by simpa using current)

theorem routeThrough_faces (p : Params ℝ) (poses : List (PoseStamped ℝ)) (n e : ℝ) :
    FacesAlong (n, e) (routeThrough p poses n e) := by
  induction poses generalizing n e with
  | nil => trivial
  | cons pose poses ih => exact ⟨rfl, ih _ _⟩

theorem goalRoute_faces (p : Params ℝ) (n : Node ℝ) (c : Callback ℝ) :
    FacesAlong (n.vehicleLocalPosition.x, n.vehicleLocalPosition.y) (goalRoute p n c) :=
  routeThrough_faces p _ _ _

theorem cornerWaypoints_faces (height : ℝ) (start : ℝ × ℝ) (points : List (ℝ × ℝ)) :
    FacesAlong start (cornerWaypoints height start points) := by
  induction points generalizing start with
  | nil => trivial
  | cons corner rest ih => exact ⟨radians_degrees _, ih corner⟩

/- Runs. -/

/-- `set_waypoints` gets what the loop of `build_waypoints` makes of some corners. -/
def MissionCall (p : Params ℝ) : Moment (Event ℝ) := fun _ e =>
  ∀ route, e.callback = .setWaypoints route →
    ∃ points, route = cornerWaypoints p.takeoffHeightM (0, 0) points

/-- Where the queue was drawn from: the origin for a mission's, and for a goal or a plan
    the position stored when it was taken up. -/
noncomputable def routeStart (p : Params ℝ) : List (Event ℝ) → ℝ × ℝ
  | [] => (0, 0)
  | e :: past =>
    match e.callback with
    | .setWaypoints _ => (0, 0)
    | _ =>
      if stateAfter p past = .hover ∧ stateAfter p (e :: past) = .navWaypoints then
        (((flight p).after past).vehicleLocalPosition.x,
          ((flight p).after past).vehicleLocalPosition.y)
      else routeStart p past

theorem move_other_queue {p : Params ℝ} {n n' : Node ℝ} {e : Event ℝ} {out : List (Output ℝ)}
    (moved : Move p n e n' out) (other : ∀ route, e.callback ≠ .setWaypoints route)
    (stays : ¬ (n.state = .hover ∧ n'.state = .navWaypoints)) : n'.waypoints = n.waypoints := by
  cases moved with
  | accepted _ _ _ state => exact absurd ⟨state, rfl⟩ stays
  | queued now route => exact absurd rfl (other route)
  | tick now _ went => exact (tick_runtime went).1
  | _ => rfl

theorem routeStart_other {p : Params ℝ} {past : List (Event ℝ)} {e : Event ℝ}
    (other : ∀ route, e.callback ≠ .setWaypoints route) :
    routeStart p (e :: past) =
      if stateAfter p past = .hover ∧ stateAfter p (e :: past) = .navWaypoints then
        (((flight p).after past).vehicleLocalPosition.x,
          ((flight p).after past).vehicleLocalPosition.y)
      else routeStart p past := by
  obtain ⟨now, callback⟩ := e
  cases callback with
  | setWaypoints route => exact absurd rfl (other route)
  | _ => rfl

theorem queue_faces {p : Params ℝ} {run : List (Event ℝ)} (drawn : Always (MissionCall p) run)
    (running : ((flight p).after run).process = .running) :
    FacesAlong (routeStart p run) ((flight p).after run).waypoints := by
  revert running
  apply (flight p).legal_invariant
    (fun run n => n.process = .running → FacesAlong (routeStart p run) n.waypoints) _ _ drawn
  · intro _
    trivial
  · intro past e drawn ih running
    have before := running_before running
    have moved := after_move p past e
    by_cases call : ∃ route, e.callback = .setWaypoints route
    · obtain ⟨route, set⟩ := call
      obtain ⟨points, rfl⟩ := drawn.1 route set
      obtain ⟨now, callback⟩ := e
      subst set
      have queue : ((flight p).after (⟨now, .setWaypoints
          (cornerWaypoints p.takeoffHeightM (0, 0) points)⟩ :: past)).waypoints =
          cornerWaypoints p.takeoffHeightM (0, 0) points := by
        simp only [flight, Machine.after, step] at before ⊢
        rw [if_pos before]
        rfl
      rw [queue]
      exact cornerWaypoints_faces _ _ points
    · have other : ∀ route, e.callback ≠ .setWaypoints route := not_exists.mp call
      rw [routeStart_other other]
      by_cases taken : stateAfter p past = .hover ∧ stateAfter p (e :: past) = .navWaypoints
      · obtain ⟨_, goal⟩ := move_accepted moved taken.1 taken.2
        rw [if_pos taken, goal]
        exact goalRoute_faces p _ _
      · rw [if_neg taken, move_other_queue moved other taken]
        exact ih before

/- Setpoints. -/

noncomputable def groundSpeed (v : Vec3 ℝ) : ℝ := Real.sqrt (v.x ^ 2 + v.y ^ 2)

theorem direction_eq {v : Vec3 ℝ} {h yaw : ℝ} (nonneg : 0 ≤ h) (north : v.x = h * Real.cos yaw)
    (east : v.y = h * Real.sin yaw) : groundSpeed v = h := by
  have square : v.x ^ 2 + v.y ^ 2 = h ^ 2 := by
    rw [north, east]
    linear_combination h ^ 2 * Real.cos_sq_add_sin_sq yaw
  rw [groundSpeed, square, Real.sqrt_sq nonneg]

theorem velocity_on_leg {p : Params ℝ} (forward : 0 ≤ p.maxVelocityMS) {n : Node ℝ} {a : ℝ × ℝ}
    {x y : ℝ} (z : ℝ)
    (on : (n.vehicleLocalPosition.x, n.vehicleLocalPosition.y) ∈ segment ℝ a (x, y)) :
    ∃ k, 0 ≤ k ∧ (cappedVelocityToward p n x y z).x = k * (x - a.1) ∧
      (cappedVelocityToward p n x y z).y = k * (y - a.2) := by
  obtain ⟨u, v, u_nonneg, _, one, here⟩ := on
  have north : u * a.1 + v * x = n.vehicleLocalPosition.x := congrArg Prod.fst here
  have east : u * a.2 + v * y = n.vehicleLocalPosition.y := congrArg Prod.snd here
  by_cases near : distanceAhead n x y z < 1 / 1000
  · rw [near_velocity p n x y z near]
    exact ⟨0, le_refl 0, by simp, by simp⟩
  · rw [far_velocity p n x y z near, ← north, ← east]
    refine ⟨u * (p.maxVelocityMS / distanceAhead n x y z), ?_, ?_, ?_⟩
    · have ahead : 0 ≤ distanceAhead n x y z := Real.sqrt_nonneg _
      positivity
    · dsimp only
      linear_combination (-x * (p.maxVelocityMS / distanceAhead n x y z)) * one
    · dsimp only
      linear_combination (-y * (p.maxVelocityMS / distanceAhead n x y z)) * one

/-- The law of the heading of one setpoint; `start` is where its route was drawn from. -/
structure HeadingLaw (p : Params ℝ) (n : Node ℝ) (start : ℝ × ℝ) (msg : TrajectorySetpoint ℝ) :
    Prop where
  northward : ¬ n.state.OnRoute → msg.yaw = 0
  along : n.state.OnRoute →
    Angle (flownFrom start n.waypoints n.waypointIndex) (msg.position.x, msg.position.y) msg.yaw
  noseFirst : n.state.OnRoute → 0 ≤ p.maxVelocityMS →
    (n.vehicleLocalPosition.x, n.vehicleLocalPosition.y) ∈
      segment ℝ (flownFrom start n.waypoints n.waypointIndex) (msg.position.x, msg.position.y) →
    msg.velocity.x = groundSpeed msg.velocity * Real.cos msg.yaw ∧
      msg.velocity.y = groundSpeed msg.velocity * Real.sin msg.yaw

theorem Angle.noseFirst {p : Params ℝ} (forward : 0 ≤ p.maxVelocityMS) {n : Node ℝ} {a : ℝ × ℝ}
    {x y yaw : ℝ} (angle : Angle a (x, y) yaw) (z : ℝ)
    (on : (n.vehicleLocalPosition.x, n.vehicleLocalPosition.y) ∈ segment ℝ a (x, y)) :
    let v := cappedVelocityToward p n x y z
    v.x = groundSpeed v * Real.cos yaw ∧ v.y = groundSpeed v * Real.sin yaw := by
  obtain ⟨k, nonneg, north, east⟩ := velocity_on_leg forward z on
  have length : 0 ≤ legLength a (x, y) := Real.sqrt_nonneg _
  rw [show x - a.1 = legLength a (x, y) * Real.cos yaw from angle.north.symm, ← mul_assoc]
    at north
  rw [show y - a.2 = legLength a (x, y) * Real.sin yaw from angle.east.symm, ← mul_assoc] at east
  have speed := direction_eq (mul_nonneg nonneg length) north east
  exact ⟨speed ▸ north, speed ▸ east⟩

/-- Every setpoint of a run looks along its leg, whoever drew the route. -/
theorem headings_follow_the_legs {p : Params ℝ} {run : List (Event ℝ)}
    (drawn : Always (MissionCall p) run) :
    Always (fun past e => ∀ msg, .setpoint msg ∈ (flight p).emitted past e →
      HeadingLaw p ((flight p).after past) (routeStart p past) msg) run := by
  apply always_intro _ drawn
  intro past e drawn msg emitted
  have moved := after_move p past e
  have running : ((flight p).after past).process = .running := by
    by_contra gone
    have silent : (flight p).emitted past e = [] := by
      simp only [flight, Machine.emitted, step] at gone ⊢
      rw [if_neg gone]
    rw [silent] at emitted
    cases emitted
  obtain ⟨wp, target, sent⟩ := move_setpoint moved emitted
  obtain ⟨position, velocity, yaw, timestamp⟩ := msg
  simp only [setpointTo, Output.setpoint.injEq, TrajectorySetpoint.mk.injEq] at sent
  obtain ⟨rfl, rfl, rfl, _⟩ := sent
  have off {s : FlightState} (idle : s = .init ∨ s = .takeoff ∨ s = .hover) : ¬ s.OnRoute := by
    rcases idle with rfl | rfl | rfl <;> decide
  cases target with
  | takeoff ground =>
    have idle := off (ground.elim Or.inl fun takeoff => Or.inr (Or.inl takeoff))
    exact ⟨fun _ => rfl, fun route => absurd route idle, fun route => absurd route idle⟩
  | station hover =>
    have idle := off (Or.inr (Or.inr hover))
    exact ⟨fun _ => rfl, fun route => absurd route idle, fun route => absurd route idle⟩
  | ahead route _ current =>
    have angle : Angle (flownFrom (routeStart p past) ((flight p).after past).waypoints
        ((flight p).after past).waypointIndex) (wp.x, wp.y) wp.yaw := by
      rw [facesAlong_get (queue_faces drawn.2 running) current]
      exact bearing_angle _ _
    exact ⟨fun idle => absurd route idle, fun _ => angle,
      fun _ forward on => angle.noseFirst forward wp.z on⟩

theorem climb_drawn (p : Params ℝ) (sideLengthM : ℝ) (k : Nat) :
    Always (MissionCall p)
      (List.replicate k ⟨0, .control⟩ ++ readied p (buildWaypoints p sideLengthM)) := by
  induction k with
  | zero =>
    refine ⟨?_, nofun, nofun, trivial⟩
    rintro route ⟨⟩
    exact ⟨_, rfl⟩
  | succ k ih => exact ⟨nofun, ih⟩

/-- The first leg of a square of three metres. -/
theorem headings_follow_the_legs_square :
    let route := buildWaypoints realParams 3
    (stateAfter realParams (climbed realParams route) = .waypoints ∧ ∃ msg, .setpoint msg ∈
        (flight realParams).emitted (climbed realParams route) ⟨0, .control⟩ ∧
          (msg.position.x, msg.position.y) = (3 / 2, -(3 / 2))) ∧
      Always (fun past e => ∀ msg, .setpoint msg ∈ (flight realParams).emitted past e →
        HeadingLaw realParams ((flight realParams).after past) (routeStart realParams past) msg)
        (⟨0, .control⟩ :: climbed realParams route) := by
  intro route
  have margins : 0 ≤ realParams.geofenceMarginM ∧ 0 ≤ realParams.geofenceHardLimitM ∧
      0 ≤ realParams.geofenceHeightMarginM := by
    norm_num [realParams, simParams]
  refine ⟨⟨?_, _, climb_sends margins.1 margins.2.1 margins.2.2 _ _, rfl⟩,
    headings_follow_the_legs (climb_drawn realParams 3 12)⟩
  have queued : route ≠ [] := List.cons_ne_nil _ _
  have climb := after_climb margins.1 margins.2.1 margins.2.2 queued
  rw [stateAfter, climb]

end OffboardControl
