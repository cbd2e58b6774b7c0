import Mathlib.Analysis.SpecialFunctions.Complex.Arg
import Mathlib.Data.Rat.Floor
import GpsDeniedDrone.ControlLoop

/-!
Two readings of the node's arithmetic: exact reals, and rationals on which runs can be
evaluated. The rational square root is exact on squares of rationals and rounded down
at six decimals elsewhere; the rational bearing is the double `math.atan2` returns on
the axes and within 0.004 rad of it elsewhere.
-/
namespace OffboardControl
open FrameTransforms Messages PastTime

noncomputable instance : FloatMath ℝ := ⟨Real.sqrt, fun y x => Complex.arg ⟨x, y⟩⟩

/-- The integer square root, one binary digit at a time. -/
def isqrtDigits (n : Nat) : Nat → Nat → Nat
  | 0, root => root
  | bit + 1, root =>
    let next := root + 2 ^ bit
    isqrtDigits n bit (if next * next ≤ n then next else root)

def isqrt (n : Nat) : Nat := isqrtDigits n (n.log2 / 2 + 1) 0

def ratSqrt (q : ℚ) : ℚ := isqrt (q.num.toNat * q.den * 10 ^ 12) / (q.den * 10 ^ 6)

def ratPi : ℚ := 3141592653589793 / 10 ^ 15

def ratAtan (r : ℚ) : ℚ := r * (ratPi / 4 + 273 / 1000 * (1 - |r|))

def ratAtan2 (y x : ℚ) : ℚ :=
  if |y| ≤ |x| then
    if 0 ≤ x then ratAtan (y / x)
    else if 0 ≤ y then ratAtan (y / x) + ratPi
    else ratAtan (y / x) - ratPi
  else if 0 ≤ y then ratPi / 2 - ratAtan (x / y)
  else -(ratPi / 2) - ratAtan (x / y)

instance : FloatMath ℚ := ⟨ratSqrt, ratAtan2⟩

/-- The hover profile of sim_params.yaml. -/
def simParams : Params ℚ where
  takeoffHeightM := 2
  hoverSeconds := 5
  waypointToleranceM := 1 / 2
  maxVelocityMS := 1
  controlRateHz := 10
  landDisarmLowThrottleDwellS := 3
  landDisarmMaxTimeoutS := 60
  geofenceMarginM := 2
  geofenceHeightMarginM := 3 / 2
  geofenceHardLimitM := 15 / 4
  estimateInvalidAbortDwellS := 3 / 2

/- Pieces of runs, newest event first. Times are in tenths of a second. -/

def tenths (t : Int) : Int := t * 10 ^ 8

def tickAt (t : Int) : Event ℚ := ⟨tenths t, .control⟩

def sampleAt (t : Int) (x y z : ℚ) (valid : Bool) : Event ℚ :=
  ⟨tenths t, .localPosition ⟨x, y, z, valid, valid⟩⟩

def statusAt (t : Int) (navState armingState : Nat) : Event ℚ :=
  ⟨tenths t, .vehicleStatus ⟨navState, armingState⟩⟩

def lowThrottleAt (t : Int) (low : Bool) : Event ℚ := ⟨tenths t, .landDetected ⟨low⟩⟩

def planAt (t : Int) (norths : List ℚ) : Event ℚ :=
  ⟨tenths t, .navPath ⟨norths.map fun north => ⟨⟨⟨0, north, 0⟩, ⟨1, 0, 0, 0⟩⟩⟩⟩⟩

def ticksUpTo : Nat → List (Event ℚ)
  | 0 => []
  | k + 1 => tickAt (k + 1) :: ticksUpTo k

/-- On the ground with a valid estimate, OFFBOARD and armed, for the ten ticks of INIT. -/
def started : List (Event ℚ) := ticksUpTo 10 ++ [sampleAt 0 0 0 0 true, statusAt 0 14 2]

/-- One waypoint right above the origin, reached at once: in AUTO_LAND and still armed. -/
def descending : List (Event ℚ) :=
  statusAt 13 18 2 :: tickAt 12 :: tickAt 11 :: sampleAt 11 0 0 (-2) true ::
    ⟨tenths 10, .setWaypoints [⟨0, 0, -2, 0⟩]⟩ :: started

def hovering : List (Event ℚ) := tickAt 11 :: sampleAt 11 0 0 (-2) true :: started

end OffboardControl
