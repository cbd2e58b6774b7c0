import GpsDeniedDrone.ControlLoop

/-!
What one callback can do. `Tick` lists the ways a control tick can go, each with its
guards, the node it leaves and everything it emits; `Move` adds the other callbacks.
The functions of the model are unfolded here, and elsewhere only to compare two runs.
-/
namespace OffboardControl
open FrameTransforms Messages PastTime

def FlightState.Flying (s : FlightState) : Prop :=
  s = .takeoff ∨ s = .waypoints ∨ s = .navWaypoints ∨ s = .hover

def FlightState.OnRoute (s : FlightState) : Prop := s = .waypoints ∨ s = .navWaypoints

instance (s : FlightState) : Decidable s.Flying := inferInstanceAs (Decidable (_ ∨ _ ∨ _ ∨ _))
instance (s : FlightState) : Decidable s.OnRoute := inferInstanceAs (Decidable (_ ∨ _))

def Healthy {K : Type} (n : Node K) : Prop :=
  n.vehicleLocalPosition.xyValid = true ∧ n.vehicleLocalPosition.vXyValid = true

instance {K : Type} (n : Node K) : Decidable (Healthy n) := inferInstanceAs (Decidable (_ ∧ _))

def Node.checked {K : Type} (n : Node K) (now : Int) : Node K :=
  { n with estimateInvalidSince :=
      if Healthy n then none else some (n.estimateInvalidSince.getD now) }

section Checks
variable {K : Type} [Field K] [LinearOrder K]

def OutsideFence (p : Params K) (n : Node K) : Prop :=
  (geofenceBounds p n.waypoints).Outside n.vehicleLocalPosition

instance (p : Params K) (n : Node K) : Decidable (OutsideFence p n) :=
  inferInstanceAs (Decidable (Bounds.Outside _ _))

def EstimateExpired (p : Params K) (now : Int) (n : Node K) : Prop :=
  ¬ Healthy n ∧
    p.estimateInvalidAbortDwellS ≤ seconds (now - n.estimateInvalidSince.getD now)

instance (p : Params K) (now : Int) (n : Node K) : Decidable (EstimateExpired p now n) :=
  inferInstanceAs (Decidable (_ ∧ _))

structure Passed (p : Params K) (now : Int) (n : Node K) : Prop where
  inside : ¬ OutsideFence p n
  waiting : ¬ EstimateExpired p now n

def heartbeatNow (now : Int) : Output K := .heartbeat ⟨true, false, false, false, false, stamp now⟩

def navLand (now : Int) : Output K := vehicleCommand now vehicleCmdNavLand 0 0

def forcedDisarm (now : Int) : Output K :=
  vehicleCommand now vehicleCmdComponentArmDisarm 0 forceMagicValue

def armCommand (now : Int) : Output K := vehicleCommand now vehicleCmdComponentArmDisarm 1 0

def offboardModeCommand (now : Int) : Output K :=
  vehicleCommand now vehicleCmdDoSetMode 1 offboardMainMode

def fenceLog (p : Params K) (n : Node K) : Log K :=
  .geofenceBreach n.vehicleLocalPosition.x n.vehicleLocalPosition.y n.vehicleLocalPosition.z
    (geofenceBounds p n.waypoints)

def fenceEmergencyLog (p : Params K) (n : Node K) : Log K :=
  .geofenceBreachDuringLanding n.vehicleLocalPosition.x n.vehicleLocalPosition.y
    n.vehicleLocalPosition.z (geofenceBounds p n.waypoints)

def invalidForS (now : Int) (n : Node K) : K := seconds (now - n.estimateInvalidSince.getD now)

def estimateLog (now : Int) (n : Node K) : Log K :=
  .estimateInvalid (invalidForS now n) n.vehicleLocalPosition.xyValid
    n.vehicleLocalPosition.vXyValid

def estimateEmergencyLog (now : Int) (n : Node K) : Log K :=
  .estimateInvalidDuringLanding (invalidForS now n) n.vehicleLocalPosition.xyValid
    n.vehicleLocalPosition.vXyValid

def Node.landing (n : Node K) (now : Int) : Node K :=
  { n with landCommandedTime := some now, state := .land }

def fenceResponse (p : Params K) (now : Int) (duringLand : Bool) (n : Node K)
    (out : List (Output K)) : Turn K :=
  if duringLand then
    ⟨{ n with geofenceLandEmergency := true, state := .done },
      out ++ [.log (fenceEmergencyLog p n), forcedDisarm now,
        .log (.disarmSent .geofenceBreachDuringLanding)]⟩
  else
    ⟨{ n with geofenceBreached := true }.landing now,
      out ++ [.log (fenceLog p n), navLand now, .log .switchingToLand]⟩

def estimateResponse (now : Int) (duringLand : Bool) (n : Node K) (out : List (Output K)) :
    Turn K :=
  if duringLand then
    ⟨{ n.checked now with estimateLandEmergency := true, state := .done },
      out ++ [.log (estimateEmergencyLog now n), forcedDisarm now,
        .log (.disarmSent .estimateInvalidDuringLanding)]⟩
  else
    ⟨{ n.checked now with estimateBreach := true }.landing now,
      out ++ [.log (estimateLog now n), navLand now, .log .switchingToLand]⟩

def FenceClear (duringLand : Bool) (n : Node K) : Prop :=
  (if duringLand then n.geofenceLandEmergency else n.geofenceBreached) = false

def EstimateClear (duringLand : Bool) (n : Node K) : Prop :=
  (if duringLand then n.estimateLandEmergency else n.estimateBreach) = false

theorem checkGeofence_eq (p : Params K) (now : Int) (duringLand : Bool) (n : Node K)
    (out : List (Output K)) (clear : FenceClear duringLand n) :
    checkGeofence p now duringLand ⟨n, out⟩ =
      if OutsideFence p n then (true, fenceResponse p now duringLand n out)
      else (false, ⟨n, out⟩) := by
  unfold checkGeofence
  rw [if_neg (Bool.eq_false_iff.mp clear)]
  by_cases outside : OutsideFence p n
  · have breach : (geofenceBounds p n.waypoints).Outside n.vehicleLocalPosition := outside
    cases duringLand <;>
      simp [breach, outside, fenceResponse, land, disarm, publishVehicleCommand, Turn.emit,
        Node.landing, fenceLog, fenceEmergencyLog, navLand, forcedDisarm]
  · have inside : ¬ (geofenceBounds p n.waypoints).Outside n.vehicleLocalPosition := outside
    simp [inside, outside]

theorem checkEstimateHealth_eq (p : Params K) (now : Int) (duringLand : Bool) (n : Node K)
    (out : List (Output K)) (clear : EstimateClear duringLand n) :
    checkEstimateHealth p now duringLand ⟨n, out⟩ =
      if EstimateExpired p now n then (true, estimateResponse now duringLand n out)
      else (false, ⟨n.checked now, out⟩) := by
  unfold checkEstimateHealth
  rw [if_neg (Bool.eq_false_iff.mp clear)]
  by_cases healthy : Healthy n
  · simp [healthy, healthy.1, healthy.2, EstimateExpired, Node.checked]
  · have unhealthy : ¬ (n.vehicleLocalPosition.xyValid = true ∧
        n.vehicleLocalPosition.vXyValid = true) := healthy
    by_cases long : p.estimateInvalidAbortDwellS ≤
        (seconds (now - n.estimateInvalidSince.getD now) : K)
    · cases duringLand <;>
        simp [unhealthy, healthy, long, not_lt.mpr long, EstimateExpired, estimateResponse,
          Node.checked, Node.landing, land, disarm, publishVehicleCommand, Turn.emit, estimateLog,
          estimateEmergencyLog, invalidForS, navLand, forcedDisarm]
    · simp [unhealthy, healthy, long, not_le.mp long, EstimateExpired, Node.checked]

theorem safetyAbort_eq (p : Params K) (now : Int) (duringLand : Bool) (n : Node K)
    (out : List (Output K)) (fence : FenceClear duringLand n)
    (estimate : EstimateClear duringLand n) :
    safetyAbort p now duringLand ⟨n, out⟩ =
      if OutsideFence p n then (true, fenceResponse p now duringLand n out)
      else if EstimateExpired p now n then (true, estimateResponse now duringLand n out)
      else (false, ⟨n.checked now, out⟩) := by
  unfold safetyAbort
  rw [checkGeofence_eq p now duringLand n out fence]
  by_cases outside : OutsideFence p n
  · simp [outside]
  · simp [outside, checkEstimateHealth_eq p now duringLand n out estimate]

end Checks

variable {K : Type} [Field K] [LinearOrder K] [FloorRing K] [FloatMath K]

def takeoffSetpoint (p : Params K) (now : Int) (n : Node K) : Output K :=
  setpointTo p now n 0 0 p.targetZ 0

def waypointSetpoint (p : Params K) (now : Int) (n : Node K) (wp : Waypoint K) : Output K :=
  setpointTo p now n wp.x wp.y wp.z wp.yaw

def hoverSetpoint (p : Params K) (now : Int) (n : Node K) : Output K :=
  setpointTo p now n n.hoverTargetX n.hoverTargetY p.targetZ 0

def reachedLog (s : FlightState) (number count : Nat) (wp : Waypoint K) : Log K :=
  if s = .waypoints then .waypointReached number count wp.x wp.y wp.z
  else .navWaypointReached number count wp.x wp.y wp.z

def Within (p : Params K) (n : Node K) (wp : Waypoint K) : Prop :=
  distanceTo n wp.x wp.y wp.z ≤ p.waypointToleranceM

instance (p : Params K) (n : Node K) (wp : Waypoint K) : Decidable (Within p n wp) :=
  inferInstanceAs (Decidable (_ ≤ _))

/-- What an INIT retry emits: a command for each thing not yet confirmed. -/
def retryOutputs (now : Int) (n : Node K) : List (Output K) :=
  (if offboardConfirmed n then [] else [offboardModeCommand now, .log .switchingToOffboard]) ++
  (if armedConfirmed n then [] else [armCommand now, .log .armSent]) ++
  [.log (.waitingForOffboardArmed n.vehicleStatus.navState n.vehicleStatus.armingState)]

def LowThrottleHeld (p : Params K) (now : Int) (n : Node K) : Prop :=
  n.vehicleStatus.navState = navigationStateAutoLand ∧
    p.landDisarmLowThrottleDwellS ≤ secondsSince now n.lowThrottleSince

def AttemptDue (K : Type) [Field K] [LinearOrder K] (now : Int) (n : Node K) : Prop :=
  n.lastDisarmAttemptTime = none ∨ (1 : K) ≤ secondsSince now n.lastDisarmAttemptTime

def fallbackOutputs (now : Int) (n : Node K) : List (Output K) :=
  (if n.lastDisarmAttemptTime = none then
    [.log (.lowThrottleFallback (secondsSince now n.lowThrottleSince))] else []) ++
  [forcedDisarm now, .log (.disarmSent .postLandingFallback)]

/-- The ways a control tick can go, from a node whose latches are clear. -/
inductive Tick (p : Params K) (now : Int) (n : Node K) : Node K → List (Output K) → Prop where
  | stream (state : n.state = .init)
      (quiet : n.heartbeatCount + 1 < offboardHeartbeatsBeforeSwitch ∨
        (offboardConfirmed n && armedConfirmed n) = false ∧ toInt p.controlRateHz ≠ 0 ∧
          ((n.heartbeatCount + 1 : Nat) : Int).fmod (toInt p.controlRateHz) ≠ 0) :
      Tick p now n { n with heartbeatCount := n.heartbeatCount + 1 }
        [heartbeatNow now, takeoffSetpoint p now n]
  | confirmed (state : n.state = .init)
      (enough : offboardHeartbeatsBeforeSwitch ≤ n.heartbeatCount + 1)
      (both : (offboardConfirmed n && armedConfirmed n) = true) :
      Tick p now n { n with heartbeatCount := n.heartbeatCount + 1, state := .takeoff }
        [heartbeatNow now, takeoffSetpoint p now n, .log .climbing]
  | rateFault (state : n.state = .init)
      (enough : offboardHeartbeatsBeforeSwitch ≤ n.heartbeatCount + 1)
      (unconfirmed : (offboardConfirmed n && armedConfirmed n) = false)
      (zero : toInt p.controlRateHz = 0) :
      Tick p now n { n with
          heartbeatCount := n.heartbeatCount + 1
          process := .crashed .zeroDivisionError }
        [heartbeatNow now, takeoffSetpoint p now n, .raised .zeroDivisionError]
  | retry (state : n.state = .init)
      (enough : offboardHeartbeatsBeforeSwitch ≤ n.heartbeatCount + 1)
      (unconfirmed : (offboardConfirmed n && armedConfirmed n) = false)
      (nonzero : toInt p.controlRateHz ≠ 0)
      (due : ((n.heartbeatCount + 1 : Nat) : Int).fmod (toInt p.controlRateHz) = 0) :
      Tick p now n { n with heartbeatCount := n.heartbeatCount + 1 }
        (heartbeatNow now :: takeoffSetpoint p now n :: retryOutputs now n)
  | fenceAbort (flying : n.state.Flying) (outside : OutsideFence p n) :
      Tick p now n ({ n with geofenceBreached := true }.landing now)
        [heartbeatNow now, .log (fenceLog p n), navLand now, .log .switchingToLand]
  | estimateAbort (flying : n.state.Flying) (inside : ¬ OutsideFence p n)
      (expired : EstimateExpired p now n) :
      Tick p now n ({ n.checked now with estimateBreach := true }.landing now)
        [heartbeatNow now, .log (estimateLog now n), navLand now, .log .switchingToLand]
  | climb (state : n.state = .takeoff) (passed : Passed p now n)
      (low : ¬ n.vehicleLocalPosition.z ≤ p.targetZ + 1 / 5) :
      Tick p now n (n.checked now) [heartbeatNow now, takeoffSetpoint p now n]
  | startRoute (state : n.state = .takeoff) (passed : Passed p now n)
      (high : n.vehicleLocalPosition.z ≤ p.targetZ + 1 / 5) (queued : n.waypoints ≠ []) :
      Tick p now n { n.checked now with state := .waypoints }
        [heartbeatNow now, takeoffSetpoint p now n,
          .log (.reachedTakeoffHeightFlying n.waypoints.length)]
  | startHover (state : n.state = .takeoff) (passed : Passed p now n)
      (high : n.vehicleLocalPosition.z ≤ p.targetZ + 1 / 5) (empty : n.waypoints = []) :
      Tick p now n { n.checked now with hoverTicksRemaining := hoverTicks p, state := .hover }
        [heartbeatNow now, takeoffSetpoint p now n,
          .log (.reachedTakeoffHeightHovering p.hoverSeconds)]
  | indexFault (route : n.state.OnRoute) (passed : Passed p now n)
      (beyond : n.waypoints[n.waypointIndex]? = none) :
      Tick p now n { n.checked now with process := .crashed .indexError }
        [heartbeatNow now, .raised .indexError]
  | cruise (route : n.state.OnRoute) (passed : Passed p now n) (wp : Waypoint K)
      (current : n.waypoints[n.waypointIndex]? = some wp) (far : ¬ Within p n wp) :
      Tick p now n (n.checked now) [heartbeatNow now, waypointSetpoint p now n wp]
  | reach (route : n.state.OnRoute) (passed : Passed p now n) (wp : Waypoint K)
      (current : n.waypoints[n.waypointIndex]? = some wp) (near : Within p n wp)
      (more : n.waypointIndex + 1 < n.waypoints.length) :
      Tick p now n { n.checked now with waypointIndex := n.waypointIndex + 1 }
        [heartbeatNow now, waypointSetpoint p now n wp,
          .log (reachedLog n.state (n.waypointIndex + 1) n.waypoints.length wp)]
  | landRoute (state : n.state = .waypoints) (passed : Passed p now n) (wp : Waypoint K)
      (current : n.waypoints[n.waypointIndex]? = some wp) (near : Within p n wp)
      (last : n.waypoints.length ≤ n.waypointIndex + 1) :
      Tick p now n ({ n.checked now with waypointIndex := n.waypointIndex + 1 }.landing now)
        [heartbeatNow now, waypointSetpoint p now n wp,
          .log (reachedLog n.state (n.waypointIndex + 1) n.waypoints.length wp),
          .log .allWaypointsReached, navLand now, .log .switchingToLand]
  | hoverRoute (state : n.state = .navWaypoints) (passed : Passed p now n) (wp : Waypoint K)
      (current : n.waypoints[n.waypointIndex]? = some wp) (near : Within p n wp)
      (last : n.waypoints.length ≤ n.waypointIndex + 1) :
      Tick p now n { n.checked now with
          waypointIndex := n.waypointIndex + 1
          hoverTargetX := wp.x
          hoverTargetY := wp.y
          hoverTicksRemaining := hoverTicks p
          state := .hover }
        [heartbeatNow now, waypointSetpoint p now n wp,
          .log (reachedLog n.state (n.waypointIndex + 1) n.waypoints.length wp),
          .log .navGoalReached]
  | hold (state : n.state = .hover) (passed : Passed p now n)
      (more : ¬ n.hoverTicksRemaining - 1 ≤ 0) :
      Tick p now n { n.checked now with hoverTicksRemaining := n.hoverTicksRemaining - 1 }
        [heartbeatNow now, hoverSetpoint p now n]
  | landHover (state : n.state = .hover) (passed : Passed p now n)
      (last : n.hoverTicksRemaining - 1 ≤ 0) :
      Tick p now n
        ({ n.checked now with hoverTicksRemaining := n.hoverTicksRemaining - 1 }.landing now)
        [heartbeatNow now, hoverSetpoint p now n, .log .hoverComplete, navLand now,
          .log .switchingToLand]
  | fenceEmergency (state : n.state = .land) (outside : OutsideFence p n) :
      Tick p now n { n with geofenceLandEmergency := true, state := .done }
        [heartbeatNow now, .log (fenceEmergencyLog p n), forcedDisarm now,
          .log (.disarmSent .geofenceBreachDuringLanding)]
  | estimateEmergency (state : n.state = .land) (inside : ¬ OutsideFence p n)
      (expired : EstimateExpired p now n) :
      Tick p now n { n.checked now with estimateLandEmergency := true, state := .done }
        [heartbeatNow now, .log (estimateEmergencyLog now n), forcedDisarm now,
          .log (.disarmSent .estimateInvalidDuringLanding)]
  | disarmed (state : n.state = .land) (passed : Passed p now n)
      (confirmed : n.vehicleStatus.armingState = armingStateDisarmed) :
      Tick p now n { n.checked now with state := .done }
        [heartbeatNow now, .log .landedAndDisarmed]
  | fallback (state : n.state = .land) (passed : Passed p now n)
      (unconfirmed : n.vehicleStatus.armingState ≠ armingStateDisarmed)
      (held : LowThrottleHeld p now n) (due : AttemptDue K now n) :
      Tick p now n { n.checked now with lastDisarmAttemptTime := some now }
        (heartbeatNow now :: fallbackOutputs now n)
  | warn (state : n.state = .land) (passed : Passed p now n)
      (unconfirmed : n.vehicleStatus.armingState ≠ armingStateDisarmed)
      (unheld : ¬ LowThrottleHeld p now n)
      (late : p.landDisarmMaxTimeoutS ≤ secondsSince now n.landCommandedTime)
      (first : n.loggedLandDisarmTimeoutWarning = false) :
      Tick p now n { n.checked now with loggedLandDisarmTimeoutWarning := true }
        [heartbeatNow now, .log (.landDisarmTimeout (secondsSince now n.landCommandedTime))]
  | descend (state : n.state = .land) (passed : Passed p now n)
      (unconfirmed : n.vehicleStatus.armingState ≠ armingStateDisarmed)
      (nothing_due : LowThrottleHeld p now n → ¬ AttemptDue K now n) :
      Tick p now n (n.checked now) [heartbeatNow now]
  | exit (state : n.state = .done) :
      Tick p now n { n with process := .exited } [heartbeatNow now, .exit]

/-- No abort latch is set in a state whose checks read it. -/
structure LatchesClear (n : Node K) : Prop where
  flight : n.state ≠ .land → n.state ≠ .done →
    n.geofenceBreached = false ∧ n.estimateBreach = false
  landing : n.state ≠ .done →
    n.geofenceLandEmergency = false ∧ n.estimateLandEmergency = false

theorem requestOffboardAndArm_eq {K : Type} [Field K] (now : Int) (n : Node K)
    (out : List (Output K)) :
    requestOffboardAndArm now ⟨n, out⟩ = ⟨n, out ++ retryOutputs now n⟩ := by
  cases offboard : offboardConfirmed n <;> cases armed : armedConfirmed n <;>
    simp [requestOffboardAndArm, retryOutputs, offboard, armed, engageOffboardMode, arm,
      publishVehicleCommand, Turn.emit, offboardModeCommand, armCommand]

theorem controlInit_tick (p : Params K) (now : Int) (n : Node K) (state : n.state = .init) :
    Tick p now n (controlInit p now ⟨n, [heartbeatNow now]⟩).node
      (controlInit p now ⟨n, [heartbeatNow now]⟩).out := by
  unfold controlInit
  dsimp only
  split
  · rename_i enough
    split
    · rename_i both
      exact Tick.confirmed state enough both
    · rename_i missing
      have unconfirmed := Bool.eq_false_iff.mpr missing
      split
      · rename_i zero
        exact Tick.rateFault state enough unconfirmed zero
      · rename_i nonzero
        split
        · rename_i due
          rw [requestOffboardAndArm_eq]
          exact Tick.retry state enough unconfirmed nonzero due
        · rename_i idle
          exact Tick.stream state (Or.inr ⟨unconfirmed, nonzero, idle⟩)
  · rename_i few
    exact Tick.stream state (Or.inl (Nat.lt_of_not_le few))

theorem flying_tick {p : Params K} {now : Int} {n : Node K} (body : Turn K → Turn K)
    (flying : n.state.Flying) (latches : LatchesClear n)
    (proceed : Passed p now n →
      Tick p now n (body ⟨n.checked now, [heartbeatNow now]⟩).node
        (body ⟨n.checked now, [heartbeatNow now]⟩).out) :
    Tick p now n (supervised p now false body ⟨n, [heartbeatNow now]⟩).node
      (supervised p now false body ⟨n, [heartbeatNow now]⟩).out := by
  have aloft : n.state ≠ .land := by
    intro state
    simp [state, FlightState.Flying] at flying
  have underway : n.state ≠ .done := by
    intro state
    simp [state, FlightState.Flying] at flying
  have clear := latches.flight aloft underway
  unfold supervised
  rw [safetyAbort_eq p now false n _ clear.1 clear.2]
  by_cases outside : OutsideFence p n
  · rw [if_pos outside]
    exact Tick.fenceAbort flying outside
  · rw [if_neg outside]
    by_cases expired : EstimateExpired p now n
    · rw [if_pos expired]
      exact Tick.estimateAbort flying outside expired
    · rw [if_neg expired]
      exact proceed ⟨outside, expired⟩

theorem controlTakeoff_tick {p : Params K} {now : Int} {n : Node K} (state : n.state = .takeoff)
    (latches : LatchesClear n) :
    Tick p now n (controlTakeoff p now ⟨n, [heartbeatNow now]⟩).node
      (controlTakeoff p now ⟨n, [heartbeatNow now]⟩).out := by
  unfold controlTakeoff
  apply flying_tick _ (Or.inl state) latches
  intro passed
  dsimp only
  split
  · rename_i high
    split
    · rename_i queued
      exact Tick.startRoute state passed high queued
    · rename_i empty
      exact Tick.startHover state passed high (not_not.mp empty)
  · rename_i low
    exact Tick.climb state passed low

theorem flyRoute_tick {p : Params K} {now : Int} {n : Node K}
    {reached : Nat → Nat → K → K → K → Log K} {finish : Waypoint K → Turn K → Turn K}
    (route : n.state.OnRoute) (latches : LatchesClear n)
    (line : ∀ number count wp, reached number count wp.x wp.y wp.z =
      reachedLog n.state number count wp)
    (finished : Passed p now n → ∀ wp, n.waypoints[n.waypointIndex]? = some wp →
      Within p n wp → n.waypoints.length ≤ n.waypointIndex + 1 →
      Tick p now n
        (finish wp ⟨{ n.checked now with waypointIndex := n.waypointIndex + 1 },
          [heartbeatNow now, waypointSetpoint p now n wp,
            .log (reachedLog n.state (n.waypointIndex + 1) n.waypoints.length wp)]⟩).node
        (finish wp ⟨{ n.checked now with waypointIndex := n.waypointIndex + 1 },
          [heartbeatNow now, waypointSetpoint p now n wp,
            .log (reachedLog n.state (n.waypointIndex + 1) n.waypoints.length wp)]⟩).out) :
    Tick p now n (flyRoute p now reached finish ⟨n, [heartbeatNow now]⟩).node
      (flyRoute p now reached finish ⟨n, [heartbeatNow now]⟩).out := by
  unfold flyRoute
  apply flying_tick _ (Or.inr (route.imp_right Or.inl)) latches
  intro passed
  dsimp only
  split
  · rename_i beyond
    exact Tick.indexFault route passed beyond
  · rename_i wp current
    split
    · rename_i near
      rw [line]
      split
      · rename_i last
        exact finished passed wp current near last
      · rename_i more
        exact Tick.reach route passed wp current near (Nat.lt_of_not_le more)
    · rename_i far
      exact Tick.cruise route passed wp current far

theorem controlHover_tick {p : Params K} {now : Int} {n : Node K} (state : n.state = .hover)
    (latches : LatchesClear n) :
    Tick p now n (controlHover p now ⟨n, [heartbeatNow now]⟩).node
      (controlHover p now ⟨n, [heartbeatNow now]⟩).out := by
  unfold controlHover
  apply flying_tick _ (Or.inr (Or.inr (Or.inr state))) latches
  intro passed
  dsimp only
  split
  · rename_i last
    exact Tick.landHover state passed last
  · rename_i more
    exact Tick.hold state passed more

theorem fallbackDisarm_eq {K : Type} [Field K] (now : Int) (n : Node K) (out : List (Output K)) :
    fallbackDisarm now (secondsSince now n.lowThrottleSince) ⟨n, out⟩ =
      ⟨{ n with lastDisarmAttemptTime := some now }, out ++ fallbackOutputs now n⟩ := by
  by_cases first : n.lastDisarmAttemptTime = none <;>
    simp [fallbackDisarm, fallbackOutputs, first, disarm, publishVehicleCommand, Turn.emit,
      forcedDisarm]

theorem controlLand_tick {p : Params K} {now : Int} {n : Node K} (state : n.state = .land)
    (latches : LatchesClear n) :
    Tick p now n (controlLand p now ⟨n, [heartbeatNow now]⟩).node
      (controlLand p now ⟨n, [heartbeatNow now]⟩).out := by
  have clear := latches.landing (by simp [state])
  unfold controlLand supervised
  rw [safetyAbort_eq p now true n _ clear.1 clear.2]
  by_cases outside : OutsideFence p n
  · rw [if_pos outside]
    exact Tick.fenceEmergency state outside
  rw [if_neg outside]
  by_cases expired : EstimateExpired p now n
  · rw [if_pos expired]
    exact Tick.estimateEmergency state outside expired
  rw [if_neg expired]
  have passed : Passed p now n := ⟨outside, expired⟩
  dsimp only
  split
  · contradiction
  split
  · rename_i confirmed
    exact Tick.disarmed state passed confirmed
  rename_i unconfirmed
  split
  · rename_i held
    split
    · rename_i due
      have emitted := fallbackDisarm_eq now (n.checked now) [heartbeatNow now]
      rw [emitted]
      exact Tick.fallback state passed unconfirmed held due
    · rename_i early
      exact Tick.descend state passed unconfirmed fun _ => early
  · rename_i unheld
    split
    · rename_i late
      exact Tick.warn state passed unconfirmed unheld late.1 late.2
    · exact Tick.descend state passed unconfirmed fun held => absurd held unheld

theorem controlLoop_tick {p : Params K} {now : Int} {n : Node K} (latches : LatchesClear n) :
    Tick p now n (controlLoop p now ⟨n, []⟩).node (controlLoop p now ⟨n, []⟩).out := by
  have beat : publishHeartbeat now ⟨n, []⟩ = ⟨n, [heartbeatNow now]⟩ := rfl
  unfold controlLoop
  rw [beat]
  dsimp only
  split
  · rename_i state
    exact controlInit_tick p now n state
  · rename_i state
    exact controlTakeoff_tick state latches
  · rename_i state
    apply flyRoute_tick (Or.inl state) latches (fun _ _ _ => by simp [reachedLog, state])
    intro passed wp current near last
    exact Tick.landRoute state passed wp current near last
  · rename_i state
    apply flyRoute_tick (Or.inr state) latches (fun _ _ _ => by simp [reachedLog, state])
    intro passed wp current near last
    exact Tick.hoverRoute state passed wp current near last
  · rename_i state
    exact controlHover_tick state latches
  · rename_i state
    exact controlLand_tick state latches
  · rename_i state
    exact Tick.exit state

/-- Through points given as east, north and up, at the cruise height, each faced from the
    one before. -/
def routeThrough (p : Params K) : List (PoseStamped K) → K → K → List (Waypoint K)
  | [], _, _ => []
  | ⟨⟨⟨east, north, _⟩, _⟩⟩ :: poses, prevN, prevE =>
    ⟨north, east, p.targetZ, FloatMath.atan2 (east - prevE) (north - prevN)⟩ ::
      routeThrough p poses north east

def Callback.asked {K : Type} : Callback K → List (PoseStamped K)
  | .goalPose msg => [msg]
  | .navPath msg => msg.poses
  | _ => []

/-- The route a goal or plan message asks for, from the stored position on. -/
def goalRoute (p : Params K) (n : Node K) (c : Callback K) : List (Waypoint K) :=
  routeThrough p c.asked n.vehicleLocalPosition.x n.vehicleLocalPosition.y

omit [FloorRing K] in
theorem navPathWaypoints_eq (p : Params K) (poses : List (PoseStamped K)) (n e : K) :
    navPathWaypoints p poses n e = routeThrough p poses n e := by
  induction poses generalizing n e with
  | nil => rfl
  | cons pose poses ih => exact congrArg (List.cons _) (ih _ _)

def Callback.IsGoal {K : Type} : Callback K → Prop
  | .goalPose _ => True
  | .navPath _ => True
  | _ => False

instance {K : Type} : (c : Callback K) → Decidable c.IsGoal
  | .goalPose _ | .navPath _ => isTrue trivial
  | .localPosition _ | .vehicleStatus _ | .landDetected _ | .setWaypoints _ | .control =>
    isFalse id

def Node.flying {K : Type} (n : Node K) (route : List (Waypoint K)) : Node K :=
  { n with waypoints := route, waypointIndex := 0, state := .navWaypoints }

/-- What any callback can do, from a node whose latches are clear. -/
inductive Move (p : Params K) (n : Node K) : Event K → Node K → List (Output K) → Prop where
  | stopped (e : Event K) (gone : n.process ≠ .running) : Move p n e n []
  | position (now : Int) (msg : VehicleLocalPosition K) (running : n.process = .running) :
      Move p n ⟨now, .localPosition msg⟩ { n with vehicleLocalPosition := msg } []
  | status (now : Int) (msg : VehicleStatus) (running : n.process = .running) :
      Move p n ⟨now, .vehicleStatus msg⟩ { n with vehicleStatus := msg } []
  | landDetected (now : Int) (msg : VehicleLandDetected) (running : n.process = .running) :
      Move p n ⟨now, .landDetected msg⟩ { n with
        vehicleLandDetected := msg
        lowThrottleSince :=
          if msg.hasLowThrottle then some (n.lowThrottleSince.getD now) else none } []
  | refused (e : Event K) (goal : e.callback.IsGoal) (running : n.process = .running)
      (state : n.state ≠ .hover) : Move p n e n [.log (.ignoringNavGoal n.state)]
  | emptyPlan (e : Event K) (goal : e.callback.IsGoal) (running : n.process = .running)
      (empty : goalRoute p n e.callback = []) : Move p n e n [.log .ignoringEmptyPlan]
  | accepted (e : Event K) (goal : e.callback.IsGoal) (running : n.process = .running)
      (state : n.state = .hover) (nonempty : goalRoute p n e.callback ≠ []) :
      Move p n e (n.flying (goalRoute p n e.callback))
        [.log (.navGoalAccepted (goalRoute p n e.callback).length)]
  | queued (now : Int) (waypoints : List (Waypoint K)) (running : n.process = .running) :
      Move p n ⟨now, .setWaypoints waypoints⟩
        { n with waypoints := waypoints, waypointIndex := 0 } []
  | tick (now : Int) {n' : Node K} {out : List (Output K)} (running : n.process = .running)
      (went : Tick p now n n' out) : Move p n ⟨now, .control⟩ n' out

theorem acceptRuntimeWaypoints_move {p : Params K} {n : Node K} {e : Event K}
    (goal : e.callback.IsGoal) (running : n.process = .running)
    (nonempty : goalRoute p n e.callback ≠ []) :
    Move p n e (acceptRuntimeWaypoints (goalRoute p n e.callback) ⟨n, []⟩).node
      (acceptRuntimeWaypoints (goalRoute p n e.callback) ⟨n, []⟩).out := by
  unfold acceptRuntimeWaypoints
  split
  · rename_i state
    exact Move.refused e goal running state
  · rename_i state
    exact Move.accepted e goal running (not_not.mp state) nonempty

omit [FloorRing K] in
theorem routeThrough_eq_nil {p : Params K} {poses : List (PoseStamped K)} {n e : K} :
    routeThrough p poses n e = [] ↔ poses = [] := by
  cases poses <;> simp [routeThrough]

theorem onLandDetected_eq {K : Type} (now : Int) (msg : VehicleLandDetected) (n : Node K)
    (out : List (Output K)) :
    onLandDetected now msg ⟨n, out⟩ =
      ⟨{ n with
          vehicleLandDetected := msg
          lowThrottleSince :=
            if msg.hasLowThrottle then some (n.lowThrottleSince.getD now) else none }, out⟩ := by
  cases since : n.lowThrottleSince <;> simp [onLandDetected, since]

theorem step_move {p : Params K} {n : Node K} (e : Event K) (latches : LatchesClear n) :
    Move p n e (step p n e).1 (step p n e).2 := by
  unfold step
  split
  · rename_i running
    obtain ⟨now, callback⟩ := e
    cases callback with
    | localPosition msg => exact Move.position now msg running
    | vehicleStatus msg => exact Move.status now msg running
    | landDetected msg =>
      have received := onLandDetected_eq now msg n []
      simp only [runCallback, received]
      exact Move.landDetected now msg running
    | goalPose msg =>
      exact acceptRuntimeWaypoints_move (e := ⟨now, .goalPose msg⟩) trivial running
        (List.cons_ne_nil _ _)
    | navPath msg =>
      by_cases empty : msg.poses = []
      · have ignored := Move.emptyPlan (p := p) (n := n) ⟨now, .navPath msg⟩ trivial running
          (routeThrough_eq_nil.mpr empty)
        simpa [runCallback, onNavPath, empty, Turn.emit] using ignored
      · have accepted := acceptRuntimeWaypoints_move (p := p) (e := ⟨now, .navPath msg⟩) trivial
          running (mt routeThrough_eq_nil.mp empty)
        simpa [runCallback, onNavPath, empty, navPathWaypoints_eq, goalRoute, Callback.asked]
          using accepted
    | setWaypoints waypoints => exact Move.queued now waypoints running
    | control => exact Move.tick now running (controlLoop_tick latches)
  · rename_i gone
    exact Move.stopped e gone

end OffboardControl
