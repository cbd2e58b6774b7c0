import GpsDeniedDrone.Geofence

/-!
mission_base.py and square_mission.py. A mission is the flight node with a queue that its
constructor fills from `build_waypoints`.
-/
namespace OffboardControl
open FrameTransforms Messages PastTime
variable {K : Type}

/-- `math.pi`. Nothing is assumed of it. -/
class FloatPi (K : Type) where
  pi : K

noncomputable instance : FloatPi ℝ := ⟨Real.pi⟩

instance : FloatPi ℚ := ⟨ratPi⟩

section MissionBase
variable [Field K] [LinearOrder K] [FloatPi K]

def radians (x : K) : K := x * (FloatPi.pi / 180)

def degrees (x : K) : K := x * (180 / FloatPi.pi)

def waypoint (northM eastM heightM yawDeg : K) : Waypoint K :=
  ⟨northM, eastM, -|heightM|, radians yawDeg⟩

def headingDeg [FloatMath K] (fromNe toNe : K × K) : K :=
  degrees (FloatMath.atan2 (toNe.2 - fromNe.2) (toNe.1 - fromNe.1))

end MissionBase

namespace SquareMission
variable [Field K]

def corners (half : K) : List (K × K) :=
  [(half, -half), (half, half), (-half, half), (-half, -half), (0, 0)]

variable [LinearOrder K] [FloatMath K] [FloatPi K]

/-- The loop of `build_waypoints`: each yaw faces from the previous corner. -/
def cornerWaypoints (height : K) : K × K → List (K × K) → List (Waypoint K)
  | _, [] => []
  | previous, corner :: rest =>
    waypoint corner.1 corner.2 height (headingDeg previous corner) ::
      cornerWaypoints height corner rest

def buildWaypoints (p : Params K) (sideLengthM : K) : List (Waypoint K) :=
  cornerWaypoints p.takeoffHeightM (0, 0) (corners (sideLengthM / (2 : ℕ)))

end SquareMission
end OffboardControl
