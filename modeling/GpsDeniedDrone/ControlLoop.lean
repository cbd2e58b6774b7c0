import GpsDeniedDrone.OffboardControl

/-!
`_control_loop`, one function for each flight state, and the node as a machine that
reads callbacks.
-/
namespace OffboardControl
open FrameTransforms Messages PastTime
variable {K : Type} [Field K] [LinearOrder K] [FloorRing K] [FloatMath K]

def offboardConfirmed (n : Node K) : Bool := n.vehicleStatus.navState == navigationStateOffboard

def armedConfirmed (n : Node K) : Bool := n.vehicleStatus.armingState == armingStateArmed

/-- The retry of INIT: ask again for whatever `vehicle_status` does not confirm yet. -/
def requestOffboardAndArm (now : Int) (t : Turn K) : Turn K :=
  let offboard := offboardConfirmed t.node
  let armed := armedConfirmed t.node
  let t := if offboard then t else engageOffboardMode now t
  let t := if armed then t else arm now t
  t.emit (.log (.waitingForOffboardArmed t.node.vehicleStatus.navState
    t.node.vehicleStatus.armingState))

def controlInit (p : Params K) (now : Int) (t : Turn K) : Turn K :=
  let t := publishSetpoint p now 0 0 p.targetZ 0 t
  let t := { t with node := { t.node with heartbeatCount := t.node.heartbeatCount + 1 } }
  if offboardHeartbeatsBeforeSwitch ≤ t.node.heartbeatCount then
    if offboardConfirmed t.node && armedConfirmed t.node then
      let t := t.emit (.log .climbing)
      { t with node := { t.node with state := .takeoff } }
    else if toInt p.controlRateHz = 0 then t.raise .zeroDivisionError
    else if (t.node.heartbeatCount : Int).fmod (toInt p.controlRateHz) = 0 then
      requestOffboardAndArm now t
    else t
  else t

/-- `int(self._hover_seconds * self._control_rate_hz)`. -/
def hoverTicks (p : Params K) : Int := toInt (p.hoverSeconds * p.controlRateHz)

/-- `if self._check_geofence(...) or self._check_estimate_health(...): return`, then
    the rest of the branch. -/
def supervised (p : Params K) (now : Int) (duringLand : Bool) (body : Turn K → Turn K)
    (t : Turn K) : Turn K :=
  let check := safetyAbort p now duringLand t
  if check.1 then check.2 else body check.2

def controlTakeoff (p : Params K) (now : Int) (t : Turn K) : Turn K :=
  supervised p now false (fun t =>
    let t := publishSetpoint p now 0 0 p.targetZ 0 t
    if t.node.vehicleLocalPosition.z ≤ p.targetZ + 1 / 5 then
      if t.node.waypoints ≠ [] then
        let t := t.emit (.log (.reachedTakeoffHeightFlying t.node.waypoints.length))
        { t with node := { t.node with state := .waypoints } }
      else
        let t := t.emit (.log (.reachedTakeoffHeightHovering p.hoverSeconds))
        { t with node := { t.node with hoverTicksRemaining := hoverTicks p, state := .hover } }
    else t) t

/-- The body WAYPOINTS and NAV_WAYPOINTS share; they differ in the line they log at a
    waypoint and in what they do at the last one. -/
def flyRoute (p : Params K) (now : Int) (reached : Nat → Nat → K → K → K → Log K)
    (finish : Waypoint K → Turn K → Turn K) (t : Turn K) : Turn K :=
  supervised p now false (fun t =>
    match t.node.waypoints[t.node.waypointIndex]? with
    | none => t.raise .indexError
    | some wp =>
      let t := publishSetpoint p now wp.x wp.y wp.z wp.yaw t
      if distanceTo t.node wp.x wp.y wp.z ≤ p.waypointToleranceM then
        let t := t.emit (.log (reached (t.node.waypointIndex + 1) t.node.waypoints.length
          wp.x wp.y wp.z))
        let t := { t with node := { t.node with waypointIndex := t.node.waypointIndex + 1 } }
        if t.node.waypoints.length ≤ t.node.waypointIndex then finish wp t else t
      else t) t

def landAfterRoute (now : Int) (_ : Waypoint K) (t : Turn K) : Turn K :=
  let t := land now (t.emit (.log .allWaypointsReached))
  { t with node := { t.node with state := .land } }

def hoverAfterRoute (p : Params K) (wp : Waypoint K) (t : Turn K) : Turn K :=
  let t := t.emit (.log .navGoalReached)
  { t with node := { t.node with
      hoverTargetX := wp.x
      hoverTargetY := wp.y
      hoverTicksRemaining := hoverTicks p
      state := .hover } }

def controlWaypoints (p : Params K) (now : Int) (t : Turn K) : Turn K :=
  flyRoute p now .waypointReached (landAfterRoute now) t

def controlNavWaypoints (p : Params K) (now : Int) (t : Turn K) : Turn K :=
  flyRoute p now .navWaypointReached (hoverAfterRoute p) t

def controlHover (p : Params K) (now : Int) (t : Turn K) : Turn K :=
  supervised p now false (fun t =>
    let t := publishSetpoint p now t.node.hoverTargetX t.node.hoverTargetY p.targetZ 0 t
    let t := { t with node := { t.node with
      hoverTicksRemaining := t.node.hoverTicksRemaining - 1 } }
    if t.node.hoverTicksRemaining ≤ 0 then
      let t := land now (t.emit (.log .hoverComplete))
      { t with node := { t.node with state := .land } }
    else t) t

def secondsSince (now : Int) : Option Int → K
  | none => 0
  | some start => seconds (now - start)

/-- The disarm of the low-throttle fallback; only the first attempt warns. -/
def fallbackDisarm (now : Int) (lowThrottleDwellS : K) (t : Turn K) : Turn K :=
  let t := if t.node.lastDisarmAttemptTime = none then
      t.emit (.log (.lowThrottleFallback lowThrottleDwellS)) else t
  let t := disarm now .postLandingFallback t
  { t with node := { t.node with lastDisarmAttemptTime := some now } }

def controlLand (p : Params K) (now : Int) (t : Turn K) : Turn K :=
  supervised p now true (fun t =>
    if t.node.vehicleStatus.armingState = armingStateDisarmed then
      let t := t.emit (.log .landedAndDisarmed)
      { t with node := { t.node with state := .done } }
    else
      let lowThrottleDwellS : K := secondsSince now t.node.lowThrottleSince
      let elapsedSinceLandS : K := secondsSince now t.node.landCommandedTime
      if t.node.vehicleStatus.navState = navigationStateAutoLand ∧
          p.landDisarmLowThrottleDwellS ≤ lowThrottleDwellS then
        if t.node.lastDisarmAttemptTime = none ∨
            (1 : K) ≤ secondsSince now t.node.lastDisarmAttemptTime then
          fallbackDisarm now lowThrottleDwellS t
        else t
      else if p.landDisarmMaxTimeoutS ≤ elapsedSinceLandS ∧
          t.node.loggedLandDisarmTimeoutWarning = false then
        let t := { t with node := { t.node with loggedLandDisarmTimeoutWarning := true } }
        t.emit (.log (.landDisarmTimeout elapsedSinceLandS))
      else t) t

def controlDone (t : Turn K) : Turn K :=
  { node := { t.node with process := .exited }, out := t.out ++ [.exit] }

def controlLoop (p : Params K) (now : Int) (t : Turn K) : Turn K :=
  let t := publishHeartbeat now t
  match t.node.state with
  | .init => controlInit p now t
  | .takeoff => controlTakeoff p now t
  | .waypoints => controlWaypoints p now t
  | .navWaypoints => controlNavWaypoints p now t
  | .hover => controlHover p now t
  | .land => controlLand p now t
  | .done => controlDone t

/-- What can run next: a subscription or timer callback, or a call of `set_waypoints`
    by the code that owns the node. -/
inductive Callback (K : Type) where
  | localPosition (msg : VehicleLocalPosition K)
  | vehicleStatus (msg : VehicleStatus)
  | landDetected (msg : VehicleLandDetected)
  | goalPose (msg : PoseStamped K)
  | navPath (msg : Path K)
  | setWaypoints (waypoints : List (Waypoint K))
  | control
  deriving DecidableEq, Repr

structure Event (K : Type) where
  now : Int
  callback : Callback K
  deriving DecidableEq, Repr

def runCallback (p : Params K) (now : Int) (c : Callback K) (t : Turn K) : Turn K :=
  match c with
  | .localPosition msg => onLocalPosition msg t
  | .vehicleStatus msg => onVehicleStatus msg t
  | .landDetected msg => onLandDetected now msg t
  | .goalPose msg => onGoalPose p msg t
  | .navPath msg => onNavPath p msg t
  | .setWaypoints waypoints => setWaypoints waypoints t
  | .control => controlLoop p now t

def step (p : Params K) (n : Node K) (e : Event K) : Node K × List (Output K) :=
  if n.process = .running then
    let t := runCallback p e.now e.callback ⟨n, []⟩
    (t.node, t.out)
  else (n, [])

def flight (p : Params K) : Machine (Node K) (Event K) (Output K) := ⟨.initial, step p⟩

end OffboardControl
