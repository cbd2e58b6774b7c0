import GpsDeniedDrone.FrameTransforms

/-!
The ROS and PX4 messages the nodes read and publish, with the fields the nodes use.
A default-constructed message has every number zero and every flag false. Numeric
constants are those of the px4_msgs definitions. Times are integers, nanoseconds
inside the nodes and microseconds in message stamps.
-/
namespace Messages
open FrameTransforms

structure Pose (K : Type) where
  position : Vec3 K
  orientation : Quat K
  deriving DecidableEq, Repr

structure PoseStamped (K : Type) where
  pose : Pose K
  deriving DecidableEq, Repr

structure Path (K : Type) where
  poses : List (PoseStamped K)
  deriving DecidableEq, Repr

structure PoseWithCovariance (K : Type) where
  pose : Pose K
  /-- 6x6, row-major. -/
  covariance : Fin 36 → K

structure Twist (K : Type) where
  linear : Vec3 K
  angular : Vec3 K

structure TwistWithCovariance (K : Type) where
  twist : Twist K
  covariance : Fin 36 → K

structure Odometry (K : Type) where
  pose : PoseWithCovariance K
  twist : TwistWithCovariance K

def poseFrameFrd : Nat := 2
def velocityFrameFrd : Nat := 2

structure VehicleOdometry (K : Type) where
  timestamp : Int
  timestampSample : Int
  poseFrame : Nat
  position : Vec3 K
  q : Quat K
  velocityFrame : Nat
  velocity : Vec3 K
  angularVelocity : Vec3 K
  positionVariance : Vec3 K
  orientationVariance : Vec3 K
  velocityVariance : Vec3 K
  resetCounter : Nat
  quality : Int

structure VehicleLocalPosition (K : Type) where
  x : K
  y : K
  z : K
  xyValid : Bool
  vXyValid : Bool
  deriving DecidableEq, Repr

def VehicleLocalPosition.default {K : Type} [Zero K] : VehicleLocalPosition K :=
  ⟨0, 0, 0, false, false⟩

def navigationStateOffboard : Nat := 14
def navigationStateAutoLand : Nat := 18
def armingStateDisarmed : Nat := 1
def armingStateArmed : Nat := 2

structure VehicleStatus where
  navState : Nat
  armingState : Nat
  deriving DecidableEq, Repr

def VehicleStatus.default : VehicleStatus := ⟨0, 0⟩

structure VehicleLandDetected where
  hasLowThrottle : Bool
  deriving DecidableEq, Repr

def VehicleLandDetected.default : VehicleLandDetected := ⟨false⟩

structure OffboardControlMode where
  position : Bool
  velocity : Bool
  acceleration : Bool
  attitude : Bool
  bodyRate : Bool
  timestamp : Int
  deriving DecidableEq, Repr

structure TrajectorySetpoint (K : Type) where
  position : Vec3 K
  velocity : Vec3 K
  yaw : K
  timestamp : Int
  deriving DecidableEq, Repr

def vehicleCmdNavLand : Nat := 21
def vehicleCmdDoSetMode : Nat := 176
def vehicleCmdComponentArmDisarm : Nat := 400

structure VehicleCommand (K : Type) where
  command : Nat
  param1 : K
  param2 : K
  param3 : K
  param4 : K
  param5 : K
  param6 : K
  param7 : K
  targetSystem : Nat
  targetComponent : Nat
  sourceSystem : Nat
  sourceComponent : Nat
  fromExternal : Bool
  timestamp : Int
  deriving DecidableEq, Repr

/-- `int(nanoseconds / 1000)`, truncating as Python's `int` does. -/
def stamp (now : Int) : Int := now.tdiv 1000

end Messages
