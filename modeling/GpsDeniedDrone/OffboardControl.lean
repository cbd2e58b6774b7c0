import Mathlib.Algebra.Order.Floor.Ring
import GpsDeniedDrone.Messages
import GpsDeniedDrone.PastTime

/-!
offboard_control_node.py: the arm / takeoff / fly / land state machine. Each method of
the source is a function on a `Turn`, the node together with what it has published
and logged in the callback that is running. A callback runs to its end before the
next one starts, and reads one clock value.

Coordinates and parameters are elements of an ordered field: comparisons are those of
ordered numbers and nothing is rounded.
-/
namespace OffboardControl
open FrameTransforms Messages

/-- The two functions of Python's float arithmetic that leave the field: `x ** 0.5` and
    `math.atan2`. Nothing is assumed of them. -/
class FloatMath (K : Type) where
  sqrt : K → K
  atan2 : K → K → K

def offboardHeartbeatsBeforeSwitch : Nat := 10

inductive FlightState where
  | init | takeoff | waypoints | hover | navWaypoints | land | done
  deriving DecidableEq, Repr

/-- The required parameters, in the order `__init__` reads them. -/
structure Params (K : Type) where
  takeoffHeightM : K
  hoverSeconds : K
  waypointToleranceM : K
  maxVelocityMS : K
  controlRateHz : K
  landDisarmLowThrottleDwellS : K
  landDisarmMaxTimeoutS : K
  geofenceMarginM : K
  geofenceHeightMarginM : K
  geofenceHardLimitM : K
  estimateInvalidAbortDwellS : K

structure Waypoint (K : Type) where
  x : K
  y : K
  z : K
  yaw : K
  deriving DecidableEq, Repr

/-- Exceptions a callback can end in. Nothing catches them: the process is gone. -/
inductive Fault where
  | zeroDivisionError | indexError
  deriving DecidableEq, Repr

inductive Process where
  | running | exited | crashed (fault : Fault)
  deriving DecidableEq, Repr

inductive DisarmReason where
  | postLandingFallback | geofenceBreachDuringLanding | estimateInvalidDuringLanding
  deriving DecidableEq, Repr

structure Bounds (K : Type) where
  xMin : K
  xMax : K
  yMin : K
  yMax : K
  zMin : K
  deriving DecidableEq, Repr

/-- The log lines, with the values each one prints. -/
inductive Log (K : Type) where
  | ignoringNavGoal (state : FlightState)
  | ignoringEmptyPlan
  | navGoalAccepted (count : Nat)
  | geofenceBreach (x y z : K) (bounds : Bounds K)
  | geofenceBreachDuringLanding (x y z : K) (bounds : Bounds K)
  | estimateInvalid (seconds : K) (xyValid vXyValid : Bool)
  | estimateInvalidDuringLanding (seconds : K) (xyValid vXyValid : Bool)
  | armSent
  | disarmSent (reason : DisarmReason)
  | switchingToOffboard
  | switchingToLand
  | climbing
  | waitingForOffboardArmed (navState armingState : Nat)
  | reachedTakeoffHeightFlying (count : Nat)
  | reachedTakeoffHeightHovering (seconds : K)
  | waypointReached (number count : Nat) (x y z : K)
  | allWaypointsReached
  | navWaypointReached (number count : Nat) (x y z : K)
  | navGoalReached
  | hoverComplete
  | landedAndDisarmed
  | lowThrottleFallback (seconds : K)
  | landDisarmTimeout (seconds : K)
  deriving DecidableEq, Repr

inductive Output (K : Type) where
  | heartbeat (msg : OffboardControlMode)
  | setpoint (msg : TrajectorySetpoint K)
  | command (msg : VehicleCommand K)
  | log (line : Log K)
  | raised (fault : Fault)
  | exit
  deriving DecidableEq, Repr

structure Node (K : Type) where
  process : Process
  vehicleLocalPosition : VehicleLocalPosition K
  vehicleStatus : VehicleStatus
  vehicleLandDetected : VehicleLandDetected
  state : FlightState
  heartbeatCount : Nat
  hoverTicksRemaining : Int
  lowThrottleSince : Option Int
  landCommandedTime : Option Int
  lastDisarmAttemptTime : Option Int
  loggedLandDisarmTimeoutWarning : Bool
  geofenceBreached : Bool
  geofenceLandEmergency : Bool
  estimateInvalidSince : Option Int
  estimateBreach : Bool
  estimateLandEmergency : Bool
  waypoints : List (Waypoint K)
  waypointIndex : Nat
  hoverTargetX : K
  hoverTargetY : K
  deriving DecidableEq, Repr

/-- `__init__` after the parameters are read. -/
def Node.initial {K : Type} [Zero K] : Node K where
  process := .running
  vehicleLocalPosition := .default
  vehicleStatus := .default
  vehicleLandDetected := .default
  state := .init
  heartbeatCount := 0
  hoverTicksRemaining := 0
  lowThrottleSince := none
  landCommandedTime := none
  lastDisarmAttemptTime := none
  loggedLandDisarmTimeoutWarning := false
  geofenceBreached := false
  geofenceLandEmergency := false
  estimateInvalidSince := none
  estimateBreach := false
  estimateLandEmergency := false
  waypoints := []
  waypointIndex := 0
  hoverTargetX := 0
  hoverTargetY := 0

structure Turn (K : Type) where
  node : Node K
  out : List (Output K)

def Turn.emit {K : Type} (o : Output K) (t : Turn K) : Turn K :=
  { t with out := t.out ++ [o] }

def Turn.raise {K : Type} (fault : Fault) (t : Turn K) : Turn K :=
  { node := { t.node with process := .crashed fault }, out := t.out ++ [.raised fault] }

variable {K : Type} [Field K] [LinearOrder K]

/-- `self._target_z`: NED, so climbing is negative. -/
def Params.targetZ (p : Params K) : K := -|p.takeoffHeightM|

/-- `Duration.nanoseconds / 1e9`. -/
def seconds (nanoseconds : Int) : K := nanoseconds / 10 ^ 9

/-- Python's `int` on a float: towards zero. -/
def toInt [FloorRing K] (x : K) : Int := if 0 ≤ x then ⌊x⌋ else ⌈x⌉

/- Subscribers. -/

def onLocalPosition (msg : VehicleLocalPosition K) (t : Turn K) : Turn K :=
  { t with node := { t.node with vehicleLocalPosition := msg } }

def onVehicleStatus (msg : VehicleStatus) (t : Turn K) : Turn K :=
  { t with node := { t.node with vehicleStatus := msg } }

def onLandDetected (now : Int) (msg : VehicleLandDetected) (t : Turn K) : Turn K :=
  let since :=
    if msg.hasLowThrottle then
      match t.node.lowThrottleSince with
      | none => some now
      | some start => some start
    else none
  { t with node := { t.node with vehicleLandDetected := msg, lowThrottleSince := since } }

/- Command helpers. -/

def publishHeartbeat (now : Int) (t : Turn K) : Turn K :=
  t.emit (.heartbeat ⟨true, false, false, false, false, stamp now⟩)

section Setpoint
variable [FloatMath K]

/-- `(dx ** 2 + dy ** 2 + dz ** 2) ** 0.5`. -/
def norm (dx dy dz : K) : K := FloatMath.sqrt (dx ^ 2 + dy ^ 2 + dz ^ 2)

def cappedVelocityToward (p : Params K) (n : Node K) (x y z : K) : Vec3 K :=
  let pos := n.vehicleLocalPosition
  let dx := x - pos.x
  let dy := y - pos.y
  let dz := z - pos.z
  let distance := norm dx dy dz
  if distance < 1 / 1000 then ⟨0, 0, 0⟩
  else
    let scale := p.maxVelocityMS / distance
    ⟨dx * scale, dy * scale, dz * scale⟩

def setpointTo (p : Params K) (now : Int) (n : Node K) (x y z yaw : K) : Output K :=
  .setpoint ⟨⟨x, y, z⟩, cappedVelocityToward p n x y z, yaw, stamp now⟩

def publishSetpoint (p : Params K) (now : Int) (x y z yaw : K) (t : Turn K) : Turn K :=
  t.emit (setpointTo p now t.node x y z yaw)

def distanceTo (n : Node K) (x y z : K) : K :=
  let pos := n.vehicleLocalPosition
  norm (pos.x - x) (pos.y - y) (pos.z - z)

end Setpoint

/- Every parameter but the first two stays at its default of 0.0 in all calls. -/
def vehicleCommand (now : Int) (command : Nat) (param1 param2 : K) : Output K :=
  .command ⟨command, param1, param2, 0, 0, 0, 0, 0, 1, 1, 1, 1, true, stamp now⟩

def publishVehicleCommand (now : Int) (command : Nat) (param1 param2 : K) (t : Turn K) :
    Turn K := t.emit (vehicleCommand now command param1 param2)

def arm (now : Int) (t : Turn K) : Turn K :=
  (publishVehicleCommand now vehicleCmdComponentArmDisarm 1 0 t).emit (.log .armSent)

/-- The `param2` PX4 documents as "force" for a disarm. -/
def forceMagicValue : K := 21196

/-- The `param2` of VEHICLE_CMD_DO_SET_MODE that asks for OFFBOARD. -/
def offboardMainMode : K := 6

def disarm (now : Int) (reason : DisarmReason) (t : Turn K) : Turn K :=
  (publishVehicleCommand now vehicleCmdComponentArmDisarm 0 forceMagicValue t).emit
    (.log (.disarmSent reason))

def engageOffboardMode (now : Int) (t : Turn K) : Turn K :=
  (publishVehicleCommand now vehicleCmdDoSetMode 1 offboardMainMode t).emit
    (.log .switchingToOffboard)

def land (now : Int) (t : Turn K) : Turn K :=
  let t := publishVehicleCommand now vehicleCmdNavLand 0 0 t
  { t with node := { t.node with landCommandedTime := some now } }.emit (.log .switchingToLand)

/- Waypoints and runtime goals. -/

def setWaypoints (waypoints : List (Waypoint K)) (t : Turn K) : Turn K :=
  { t with node := { t.node with waypoints := waypoints, waypointIndex := 0 } }

section Goals
variable [FloatMath K]

def poseToNedWaypoint (p : Params K) (position : Vec3 K) (prevN prevE : K) : Waypoint K :=
  let ned := enuToNed position
  ⟨ned.x, ned.y, p.targetZ, FloatMath.atan2 (ned.y - prevE) (ned.x - prevN)⟩

def acceptRuntimeWaypoints (waypoints : List (Waypoint K)) (t : Turn K) : Turn K :=
  if t.node.state ≠ .hover then t.emit (.log (.ignoringNavGoal t.node.state))
  else
    let t := (setWaypoints waypoints t).emit (.log (.navGoalAccepted waypoints.length))
    { t with node := { t.node with state := .navWaypoints } }

def onGoalPose (p : Params K) (msg : PoseStamped K) (t : Turn K) : Turn K :=
  let pos := t.node.vehicleLocalPosition
  acceptRuntimeWaypoints [poseToNedWaypoint p msg.pose.position pos.x pos.y] t

/-- The loop of `_on_nav_path`: each yaw faces from the previous point. -/
def navPathWaypoints (p : Params K) : List (PoseStamped K) → K → K → List (Waypoint K)
  | [], _, _ => []
  | pose :: poses, prevN, prevE =>
    let waypoint := poseToNedWaypoint p pose.pose.position prevN prevE
    waypoint :: navPathWaypoints p poses waypoint.x waypoint.y

def onNavPath (p : Params K) (msg : Path K) (t : Turn K) : Turn K :=
  if msg.poses = [] then t.emit (.log .ignoringEmptyPlan)
  else
    let pos := t.node.vehicleLocalPosition
    acceptRuntimeWaypoints (navPathWaypoints p msg.poses pos.x pos.y) t

end Goals

/- Geofence. -/

def geofenceBounds (p : Params K) (waypoints : List (Waypoint K)) : Bounds K :=
  let xs := 0 :: waypoints.map Waypoint.x
  let ys := 0 :: waypoints.map Waypoint.y
  let zs := p.targetZ :: waypoints.map Waypoint.z
  { xMin := max (xs.min (by simp [xs]) - p.geofenceMarginM) (-p.geofenceHardLimitM)
    xMax := min (xs.max (by simp [xs]) + p.geofenceMarginM) p.geofenceHardLimitM
    yMin := max (ys.min (by simp [ys]) - p.geofenceMarginM) (-p.geofenceHardLimitM)
    yMax := min (ys.max (by simp [ys]) + p.geofenceMarginM) p.geofenceHardLimitM
    zMin := zs.min (by simp [zs]) - p.geofenceHeightMarginM }

/-- The breach condition of `_check_geofence`. There is no floor. -/
def Bounds.Outside (b : Bounds K) (pos : VehicleLocalPosition K) : Prop :=
  pos.x < b.xMin ∨ pos.x > b.xMax ∨ pos.y < b.yMin ∨ pos.y > b.yMax ∨ pos.z < b.zMin

instance (b : Bounds K) (pos : VehicleLocalPosition K) : Decidable (b.Outside pos) :=
  inferInstanceAs (Decidable (_ ∨ _ ∨ _ ∨ _ ∨ _))

/-- The first component is the value returned. -/
def checkGeofence (p : Params K) (now : Int) (duringLand : Bool) (t : Turn K) :
    Bool × Turn K :=
  if (if duringLand then t.node.geofenceLandEmergency else t.node.geofenceBreached) then
    (true, t)
  else
    let bounds := geofenceBounds p t.node.waypoints
    let pos := t.node.vehicleLocalPosition
    if bounds.Outside pos then
      if duringLand then
        let t := { t with node := { t.node with geofenceLandEmergency := true } }
        let t := t.emit (.log (.geofenceBreachDuringLanding pos.x pos.y pos.z bounds))
        let t := disarm now .geofenceBreachDuringLanding t
        (true, { t with node := { t.node with state := .done } })
      else
        let t := { t with node := { t.node with geofenceBreached := true } }
        let t := t.emit (.log (.geofenceBreach pos.x pos.y pos.z bounds))
        let t := land now t
        (true, { t with node := { t.node with state := .land } })
    else (false, t)

/- Estimate health. -/

def checkEstimateHealth (p : Params K) (now : Int) (duringLand : Bool) (t : Turn K) :
    Bool × Turn K :=
  if (if duringLand then t.node.estimateLandEmergency else t.node.estimateBreach) then
    (true, t)
  else
    let pos := t.node.vehicleLocalPosition
    if pos.xyValid && pos.vXyValid then
      (false, { t with node := { t.node with estimateInvalidSince := none } })
    else
      let since := t.node.estimateInvalidSince.getD now
      let t := { t with node := { t.node with estimateInvalidSince := some since } }
      let invalidForS : K := seconds (now - since)
      if invalidForS < p.estimateInvalidAbortDwellS then (false, t)
      else if duringLand then
        let t := { t with node := { t.node with estimateLandEmergency := true } }
        let t := t.emit (.log (.estimateInvalidDuringLanding invalidForS pos.xyValid pos.vXyValid))
        let t := disarm now .estimateInvalidDuringLanding t
        (true, { t with node := { t.node with state := .done } })
      else
        let t := { t with node := { t.node with estimateBreach := true } }
        let t := t.emit (.log (.estimateInvalid invalidForS pos.xyValid pos.vXyValid))
        let t := land now t
        (true, { t with node := { t.node with state := .land } })

/-- `self._check_geofence(...) or self._check_estimate_health(...)`. -/
def safetyAbort (p : Params K) (now : Int) (duringLand : Bool) (t : Turn K) : Bool × Turn K :=
  let fence := checkGeofence p now duringLand t
  if fence.1 then fence else checkEstimateHealth p now duringLand fence.2

end OffboardControl
