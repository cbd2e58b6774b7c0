import GpsDeniedDrone.FenceGeometry
import GpsDeniedDrone.HoverStation
import GpsDeniedDrone.RuntimePlans

/-!
What the node asks of the vehicle. Every trajectory setpoint of every run is one of the
points of the present route, seen from above, and its feed-forward velocity points from the
stored position to it at the one speed `max_velocity_m_s`.
-/
namespace OffboardControl
open FrameTransforms Messages PastTime BoundingBox

section Target
variable {K : Type} [Field K] [LinearOrder K] [FloorRing K] [FloatMath K]

inductive Target (p : Params K) (n : Node K) : Waypoint K → Prop where
  | takeoff (ground : n.state.Grounded) : Target p n ⟨0, 0, p.targetZ, 0⟩
  | ahead (route : n.state.OnRoute) (wp : Waypoint K)
      (current : n.waypoints[n.waypointIndex]? = some wp) : Target p n wp
  | station (hover : n.state = .hover) : Target p n ⟨n.hoverTargetX, n.hoverTargetY, p.targetZ, 0⟩

omit [LinearOrder K] [FloorRing K] [FloatMath K] in
theorem retry_no_setpoint {now : Int} {n : Node K} {msg : TrajectorySetpoint K} :
    .setpoint msg ∉ retryOutputs now n := by
  cases offboard : offboardConfirmed n <;> cases armed : armedConfirmed n <;>
    simp [retryOutputs, offboard, armed, offboardModeCommand, armCommand, vehicleCommand]

omit [LinearOrder K] [FloorRing K] [FloatMath K] in
theorem fallback_no_setpoint {now : Int} {n : Node K} {msg : TrajectorySetpoint K} :
    .setpoint msg ∉ fallbackOutputs now n := by
  by_cases first : n.lastDisarmAttemptTime = none <;>
    simp [fallbackOutputs, first, forcedDisarm, vehicleCommand]

theorem tick_setpoint {p : Params K} {now : Int} {n n' : Node K} {out : List (Output K)}
    (went : Tick p now n n' out) {msg : TrajectorySetpoint K} (sent : .setpoint msg ∈ out) :
    ∃ wp, Target p n wp ∧ .setpoint msg = setpointTo p now n wp.x wp.y wp.z wp.yaw := by
  have beat : ∀ m, (.setpoint m : Output K) ≠ heartbeatNow now := by simp [heartbeatNow]
  have land : ∀ m, (.setpoint m : Output K) ≠ navLand now := by simp [navLand, vehicleCommand]
  have cut : ∀ m, (.setpoint m : Output K) ≠ forcedDisarm now := by
    simp [forcedDisarm, vehicleCommand]
  cases went with
  | stream state | rateFault state | confirmed state =>
    simp only [List.mem_cons, beat, false_or, reduceCtorEq, List.not_mem_nil, or_false] at sent
    exact ⟨_, Target.takeoff (Or.inl state), sent⟩
  | retry state =>
    simp only [List.mem_cons, beat, false_or, retry_no_setpoint, or_false] at sent
    exact ⟨_, Target.takeoff (Or.inl state), sent⟩
  | climb state | startRoute state | startHover state =>
    simp only [List.mem_cons, beat, false_or, reduceCtorEq, List.not_mem_nil, or_false] at sent
    exact ⟨_, Target.takeoff (Or.inr state), sent⟩
  | cruise route _ wp current | reach route _ wp current =>
    simp only [List.mem_cons, beat, false_or, reduceCtorEq, List.not_mem_nil, or_false] at sent
    exact ⟨wp, Target.ahead route wp current, sent⟩
  | landRoute state _ wp current =>
    simp only [List.mem_cons, beat, land, false_or, reduceCtorEq, List.not_mem_nil,
      or_false] at sent
    exact ⟨wp, Target.ahead (Or.inl state) wp current, sent⟩
  | hoverRoute state _ wp current =>
    simp only [List.mem_cons, beat, false_or, reduceCtorEq, List.not_mem_nil, or_false] at sent
    exact ⟨wp, Target.ahead (Or.inr state) wp current, sent⟩
  | hold state | landHover state =>
    simp only [List.mem_cons, beat, land, false_or, reduceCtorEq, List.not_mem_nil,
      or_false] at sent
    exact ⟨_, Target.station state, sent⟩
  | fallback =>
    simp only [List.mem_cons, beat, false_or, fallback_no_setpoint] at sent
  | _ =>
    simp only [List.mem_cons, beat, land, cut, reduceCtorEq, List.not_mem_nil, or_false] at sent

theorem move_setpoint {p : Params K} {n n' : Node K} {e : Event K} {out : List (Output K)}
    (moved : Move p n e n' out) {msg : TrajectorySetpoint K} (sent : .setpoint msg ∈ out) :
    ∃ wp, Target p n wp ∧ .setpoint msg = setpointTo p e.now n wp.x wp.y wp.z wp.yaw := by
  cases moved with
  | tick now running went => exact tick_setpoint went sent
  | refused | emptyPlan | accepted => simp at sent
  | _ => cases sent

/-- Seen from above a target is the origin or a waypoint of the queue, and no lower or
    higher than takeoff height or a waypoint. -/
theorem target_on_route {p : Params K} {run : List (Event K)} (legal : Run p run) {wp : Waypoint K}
    (target : Target p ((flight p).after run) wp) :
    (wp.x, wp.y) ∈ routePoints ((flight p).after run).waypoints ∧
      wp.z ∈ p.targetZ :: ((flight p).after run).waypoints.map Waypoint.z := by
  cases target with
  | takeoff => exact ⟨Set.mem_insert _ _, List.mem_cons_self⟩
  | ahead route wp current =>
    have mem := List.mem_of_getElem? current
    exact ⟨Or.inr ⟨wp, mem, rfl⟩, List.mem_cons_of_mem _ (List.mem_map_of_mem mem)⟩
  | station hover =>
    have on := on_station legal
    have inside := on.inside hover
    rw [← on.target] at inside
    exact ⟨inside, List.mem_cons_self⟩

end Target

/- The feed-forward velocity, in exact arithmetic. -/

section Velocity
variable (p : Params ℝ) (n : Node ℝ) (x y z : ℝ)

noncomputable def distanceAhead : ℝ :=
  Real.sqrt ((x - n.vehicleLocalPosition.x) ^ 2 + (y - n.vehicleLocalPosition.y) ^ 2 +
    (z - n.vehicleLocalPosition.z) ^ 2)

theorem distanceAhead_sq :
    distanceAhead n x y z ^ 2 = (x - n.vehicleLocalPosition.x) ^ 2 +
      (y - n.vehicleLocalPosition.y) ^ 2 + (z - n.vehicleLocalPosition.z) ^ 2 :=
  Real.sq_sqrt (by positivity)

theorem near_velocity (near : distanceAhead n x y z < 1 / 1000) :
    cappedVelocityToward p n x y z = ⟨0, 0, 0⟩ := if_pos near

theorem far_velocity (far : ¬ distanceAhead n x y z < 1 / 1000) :
    cappedVelocityToward p n x y z =
      ⟨(x - n.vehicleLocalPosition.x) * (p.maxVelocityMS / distanceAhead n x y z),
        (y - n.vehicleLocalPosition.y) * (p.maxVelocityMS / distanceAhead n x y z),
        (z - n.vehicleLocalPosition.z) * (p.maxVelocityMS / distanceAhead n x y z)⟩ :=
  if_neg far

noncomputable def speed (v : Vec3 ℝ) : ℝ := Real.sqrt (v.x ^ 2 + v.y ^ 2 + v.z ^ 2)

theorem far_speed (far : ¬ distanceAhead n x y z < 1 / 1000) :
    speed (cappedVelocityToward p n x y z) = |p.maxVelocityMS| := by
  have positive : distanceAhead n x y z ≠ 0 := by
    intro zero
    rw [zero] at far
    exact far (by norm_num)
  have square : (x - n.vehicleLocalPosition.x) ^ 2 + (y - n.vehicleLocalPosition.y) ^ 2 +
      (z - n.vehicleLocalPosition.z) ^ 2 = distanceAhead n x y z ^ 2 :=
    (distanceAhead_sq n x y z).symm
  rw [far_velocity p n x y z far, speed, ← Real.sqrt_sq_eq_abs]
  congr 1
  calc _ = ((x - n.vehicleLocalPosition.x) ^ 2 + (y - n.vehicleLocalPosition.y) ^ 2 +
        (z - n.vehicleLocalPosition.z) ^ 2) * (p.maxVelocityMS / distanceAhead n x y z) ^ 2 := by
        ring
    _ = p.maxVelocityMS ^ 2 := by
        rw [square, ← mul_pow, mul_div_cancel₀ _ positive]

end Velocity

structure SetpointLaw (p : Params ℝ) (n : Node ℝ) (msg : TrajectorySetpoint ℝ) : Prop where
  onRoute : (msg.position.x, msg.position.y) ∈ routePoints n.waypoints
  inFence : 0 ≤ p.geofenceMarginM →
    ((msg.position.x, msg.position.y) ∈ (geofenceBounds p n.waypoints).area ↔
      (msg.position.x, msg.position.y) ∈ hardLimitSquare p.geofenceHardLimitM)
  underCeiling : (geofenceBounds p n.waypoints).zMin + p.geofenceHeightMarginM ≤ msg.position.z
  capped : speed msg.velocity ≤ |p.maxVelocityMS|
  /-- Flown for the distance over the speed, the velocity ends at the setpoint. -/
  toward : ¬ distanceAhead n msg.position.x msg.position.y msg.position.z < 1 / 1000 →
    speed msg.velocity = |p.maxVelocityMS| ∧ (p.maxVelocityMS ≠ 0 →
      let t := distanceAhead n msg.position.x msg.position.y msg.position.z / p.maxVelocityMS
      n.vehicleLocalPosition.x + t * msg.velocity.x = msg.position.x ∧
        n.vehicleLocalPosition.y + t * msg.velocity.y = msg.position.y ∧
        n.vehicleLocalPosition.z + t * msg.velocity.z = msg.position.z)

section Law
variable {p : Params ℝ} {n : Node ℝ} {now : Int} {wp : Waypoint ℝ} {msg : TrajectorySetpoint ℝ}

theorem setpoint_capped (sent : .setpoint msg = setpointTo p now n wp.x wp.y wp.z wp.yaw) :
    speed msg.velocity ≤ |p.maxVelocityMS| := by
  obtain ⟨position, velocity, yaw, timestamp⟩ := msg
  simp only [setpointTo, Output.setpoint.injEq, TrajectorySetpoint.mk.injEq] at sent
  obtain ⟨_, rfl, _⟩ := sent
  by_cases near : distanceAhead n wp.x wp.y wp.z < 1 / 1000
  · rw [near_velocity p n _ _ _ near]
    simp [speed]
  · exact (far_speed p n _ _ _ near).le

theorem setpoint_toward (sent : .setpoint msg = setpointTo p now n wp.x wp.y wp.z wp.yaw)
    (far : ¬ distanceAhead n msg.position.x msg.position.y msg.position.z < 1 / 1000) :
    speed msg.velocity = |p.maxVelocityMS| ∧ (p.maxVelocityMS ≠ 0 →
      let t := distanceAhead n msg.position.x msg.position.y msg.position.z / p.maxVelocityMS
      n.vehicleLocalPosition.x + t * msg.velocity.x = msg.position.x ∧
        n.vehicleLocalPosition.y + t * msg.velocity.y = msg.position.y ∧
        n.vehicleLocalPosition.z + t * msg.velocity.z = msg.position.z) := by
  obtain ⟨position, velocity, yaw, timestamp⟩ := msg
  simp only [setpointTo, Output.setpoint.injEq, TrajectorySetpoint.mk.injEq] at sent
  obtain ⟨rfl, rfl, _⟩ := sent
  refine ⟨far_speed p n _ _ _ far, fun moving => ?_⟩
  have positive : distanceAhead n wp.x wp.y wp.z ≠ 0 := by
    intro zero
    dsimp only at far
    rw [zero] at far
    exact far (by norm_num)
  have arrives : ∀ here there : ℝ, here + distanceAhead n wp.x wp.y wp.z / p.maxVelocityMS *
      ((there - here) * (p.maxVelocityMS / distanceAhead n wp.x wp.y wp.z)) = there := by
    intro here there
    field_simp
    ring
  dsimp only at far ⊢
  rw [far_velocity p n _ _ _ far]
  exact ⟨arrives _ _, arrives _ _, arrives _ _⟩

end Law

/-- The vehicle is only ever sent to the origin or to a waypoint of the route it flies, so
    inside the fence of the moment wherever the hard limit lets it be, below the ceiling by
    the whole height margin, and at no more than `max_velocity_m_s`. -/
theorem every_setpoint_on_route {p : Params ℝ} {run : List (Event ℝ)} (legal : Run p run) :
    Always (fun past e => ∀ msg, .setpoint msg ∈ (flight p).emitted past e →
      SetpointLaw p ((flight p).after past) msg) run := by
  apply always_intro _ legal
  intro past e legal msg emitted
  obtain ⟨wp, target, sent⟩ := move_setpoint (after_move p past e) emitted
  obtain ⟨above, level⟩ := target_on_route legal.2 target
  have here : msg.position = ⟨wp.x, wp.y, wp.z⟩ := by
    obtain ⟨position, velocity, yaw, timestamp⟩ := msg
    simp only [setpointTo, Output.setpoint.injEq, TrajectorySetpoint.mk.injEq] at sent
    exact sent.1
  have spot : (msg.position.x, msg.position.y) ∈ routePoints ((flight p).after past).waypoints := by
    rw [here]
    exact above
  refine ⟨spot, fun nonneg => ?_, ?_, setpoint_capped sent, setpoint_toward sent⟩
  · rw [area_eq nonneg]
    exact and_iff_right (route_point_grown nonneg spot)
  · rw [here]
    have ceiling := ceiling_le p level
    linarith

/- A vehicle that is at takeoff height from the start. -/

section Climb
variable {K : Type} [Field K] [LinearOrder K] [FloorRing K] [FloatMath K] (p : Params K)
  (route : List (Waypoint K))

def readyNode : Node K :=
  { Node.initial with
    vehicleLocalPosition := ⟨0, 0, p.targetZ, true, true⟩
    vehicleStatus := ⟨navigationStateOffboard, armingStateArmed⟩
    waypoints := route }

def readied : List (Event K) :=
  [⟨0, .setWaypoints route⟩, ⟨0, .localPosition ⟨0, 0, p.targetZ, true, true⟩⟩,
    ⟨0, .vehicleStatus ⟨navigationStateOffboard, armingStateArmed⟩⟩]

def climbed : List (Event K) := List.replicate 11 ⟨0, .control⟩ ++ readied p route

variable {p route}

theorem tick_sends {now : Int} {n n' : Node K} {out : List (Output K)} (went : Tick p now n n' out)
    (flying : n.state = .waypoints) (passed : Passed p now n) {wp : Waypoint K}
    (current : n.waypoints[n.waypointIndex]? = some wp) : waypointSetpoint p now n wp ∈ out := by
  cases went with
  | cruise _ _ _ here | reach _ _ _ here | landRoute _ _ _ here | hoverRoute _ _ _ here =>
    cases here.symm.trans current
    simp
  | indexFault _ _ beyond =>
    rw [beyond] at current
    cases current
  | fenceAbort _ outside => exact absurd outside passed.inside
  | estimateAbort _ _ expired => exact absurd expired passed.waiting
  | stream state | confirmed state | rateFault state | retry state | climb state
  | startRoute state | startHover state | hold state | landHover state | fenceEmergency state
  | estimateEmergency state | disarmed state | fallback state | warn state | descend state
  | exit state => cases flying.symm.trans state

theorem after_control (k : Nat) :
    (flight p).after (List.replicate (k + 1) ⟨0, .control⟩ ++ readied p route) =
      (step p ((flight p).after (List.replicate k ⟨0, .control⟩ ++ readied p route))
        ⟨0, .control⟩).1 := rfl

theorem climb_legal (k : Nat) : Run p (List.replicate k ⟨0, .control⟩ ++ readied p route) := by
  induction k with
  | zero => exact ⟨Or.inl rfl, trivial, trivial, trivial⟩
  | succ k ih => exact ⟨trivial, ih⟩

theorem after_stream {k : Nat} (few : k < offboardHeartbeatsBeforeSwitch) :
    (flight p).after (List.replicate k ⟨0, .control⟩ ++ readied p route) =
      { readyNode p route with heartbeatCount := k } := by
  induction k with
  | zero => rfl
  | succ k ih =>
    rw [after_control, ih (Nat.lt_of_succ_lt few)]
    simp [step, readyNode, Node.initial, runCallback, controlLoop, publishHeartbeat, controlInit,
      publishSetpoint, Turn.emit, Nat.not_le.mpr few]

theorem after_takeoff : (flight p).after (List.replicate 10 ⟨0, .control⟩ ++ readied p route) =
    { readyNode p route with heartbeatCount := 10, state := .takeoff } := by
  refine (after_control 9).trans ?_
  rw [after_stream (by decide)]
  simp [step, readyNode, Node.initial, runCallback, controlLoop, publishHeartbeat, controlInit,
    publishSetpoint, Turn.emit, offboardHeartbeatsBeforeSwitch, offboardConfirmed, armedConfirmed]

variable [IsStrictOrderedRing K]

omit [FloorRing K] [FloatMath K] in
theorem ready_inside (margin : 0 ≤ p.geofenceMarginM) (limit : 0 ≤ p.geofenceHardLimitM)
    (height : 0 ≤ p.geofenceHeightMarginM) (route : List (Waypoint K)) :
    ¬ (geofenceBounds p route).Outside ⟨0, 0, p.targetZ, true, true⟩ := by
  refine not_outside_iff.mpr ⟨origin_inside margin limit route, ?_⟩
  exact (ceiling_le p List.mem_cons_self).trans (sub_le_self _ height)

theorem after_climb (margin : 0 ≤ p.geofenceMarginM) (limit : 0 ≤ p.geofenceHardLimitM)
    (height : 0 ≤ p.geofenceHeightMarginM) (queued : route ≠ []) :
    (flight p).after (climbed p route) =
      { readyNode p route with heartbeatCount := 10, state := .waypoints } := by
  have inside := ready_inside margin limit height route
  refine (after_control 10).trans ?_
  rw [after_takeoff]
  simp [step, readyNode, Node.initial, runCallback, controlLoop, publishHeartbeat, controlTakeoff,
    supervised, safetyAbort, checkGeofence, checkEstimateHealth, publishSetpoint, Turn.emit, inside,
    queued]

theorem climb_sends (margin : 0 ≤ p.geofenceMarginM) (limit : 0 ≤ p.geofenceHardLimitM)
    (height : 0 ≤ p.geofenceHeightMarginM) (wp : Waypoint K) (rest : List (Waypoint K)) :
    waypointSetpoint p 0 ((flight p).after (climbed p (wp :: rest))) wp ∈
      (flight p).emitted (climbed p (wp :: rest)) ⟨0, .control⟩ := by
  have climb := after_climb margin limit height (List.cons_ne_nil wp rest)
  have running : ((flight p).after (climbed p (wp :: rest))).process = .running := by
    rw [climb]
    rfl
  refine tick_sends (after_tick rfl running) (by rw [climb]) ?_ (by rw [climb]; rfl)
  rw [climb]
  exact ⟨ready_inside margin limit height (wp :: rest), fun expired => expired.1 ⟨rfl, rfl⟩⟩

end Climb

/-- The first tick of a route three metres north. -/
theorem every_setpoint_on_route_north :
    let route : List (Waypoint ℝ) := [⟨3, 0, realParams.targetZ, 0⟩]
    (∃ msg, .setpoint msg ∈
        (flight realParams).emitted (climbed realParams route) ⟨0, .control⟩ ∧
      msg.position = ⟨3, 0, realParams.targetZ⟩) ∧
      Always (fun past e => ∀ msg, .setpoint msg ∈ (flight realParams).emitted past e →
        SetpointLaw realParams ((flight realParams).after past) msg)
        (⟨0, .control⟩ :: climbed realParams route) := by
  intro route
  have margins : 0 ≤ realParams.geofenceMarginM ∧ 0 ≤ realParams.geofenceHardLimitM ∧
      0 ≤ realParams.geofenceHeightMarginM := by
    norm_num [realParams, simParams]
  refine ⟨⟨_, climb_sends margins.1 margins.2.1 margins.2.2 _ _, rfl⟩, ?_⟩
  exact @every_setpoint_on_route realParams _ (climb_legal 12)

end OffboardControl
