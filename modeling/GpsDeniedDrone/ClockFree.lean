import GpsDeniedDrone.Supervision
import GpsDeniedDrone.TwoRuns

/-!
The flight and the clock. A node with its four remembered times erased, read with the
clock stopped at zero, does what the node does until it lands, if the estimate is valid;
so the readings of the clock have no say in the progress of a flight.
-/
namespace OffboardControl
open FrameTransforms Messages PastTime TwoRuns
variable {K : Type}

def untimed (t : Option Int) : Option Int := t.map fun _ => 0

def Node.timeless (n : Node K) : Node K :=
  { n with
    lowThrottleSince := untimed n.lowThrottleSince
    landCommandedTime := untimed n.landCommandedTime
    lastDisarmAttemptTime := untimed n.lastDisarmAttemptTime
    estimateInvalidSince := untimed n.estimateInvalidSince }

def Output.timeless : Output K → Output K
  | .heartbeat msg => .heartbeat { msg with timestamp := 0 }
  | .setpoint msg => .setpoint { msg with timestamp := 0 }
  | .command msg => .command { msg with timestamp := 0 }
  | .log line => .log line
  | .raised fault => .raised fault
  | .exit => .exit

def Turn.timeless (t : Turn K) : Turn K := ⟨t.node.timeless, t.out.map Output.timeless⟩

theorem timeless_ite {c c' : Prop} [Decidable c] [Decidable c'] {a b a' b' : Turn K}
    (same : c ↔ c') (yes : a.timeless = a') (no : b.timeless = b') :
    (if c then a else b).timeless = if c' then a' else b' := by
  by_cases holds : c
  · rw [if_pos holds, if_pos (same.mp holds), yes]
  · rw [if_neg holds, if_neg (mt same.mpr holds), no]

theorem acceptRuntimeWaypoints_timeless (n : Node K) (route : List (Waypoint K)) :
    (acceptRuntimeWaypoints route ⟨n, []⟩).timeless =
      acceptRuntimeWaypoints route ⟨n.timeless, []⟩ := by
  unfold acceptRuntimeWaypoints
  apply timeless_ite Iff.rfl <;> rfl

theorem untimed_restart (since : Option Int) (now : Int) :
    untimed (some (since.getD now)) = some ((untimed since).getD 0) := by
  cases since <;> rfl

section Checks
variable [Field K] [LinearOrder K]

theorem supervised_timeless {p : Params K} {now : Int} {n : Node K}
    {body body' : Turn K → Turn K} (flying : n.state.Flying) (latches : LatchesClear n)
    (healthy : Healthy n)
    (same : ∀ m : Node K,
      (body ⟨m, [heartbeatNow now]⟩).timeless = body' ⟨m.timeless, [heartbeatNow 0]⟩) :
    (supervised p now false body ⟨n, [heartbeatNow now]⟩).timeless =
      supervised p 0 false body' ⟨n.timeless, [heartbeatNow 0]⟩ := by
  have ne := flying_ne flying
  have clear := latches.flight ne.2.1 ne.2.2
  have healthy' : Healthy n.timeless := healthy
  have waiting : ¬ EstimateExpired p now n := fun expired => expired.1 healthy
  have waiting' : ¬ EstimateExpired p 0 n.timeless := fun expired => expired.1 healthy'
  have checked : (n.checked now).timeless = n.timeless.checked 0 := by
    simp only [Node.checked, if_pos healthy, if_pos healthy']
    rfl
  unfold supervised
  rw [safetyAbort_eq p now false n _ clear.1 clear.2,
    safetyAbort_eq p 0 false n.timeless _ clear.1 clear.2]
  by_cases outside : OutsideFence p n
  · have outside' : OutsideFence p n.timeless := outside
    rw [if_pos outside, if_pos outside']
    rfl
  · have inside' : ¬ OutsideFence p n.timeless := outside
    rw [if_neg outside, if_neg inside', if_neg waiting, if_neg waiting', ← checked]
    exact same _

end Checks

theorem retryOutputs_timeless [Field K] (now : Int) (n : Node K) :
    (retryOutputs now n).map Output.timeless = retryOutputs 0 n.timeless := by
  cases offboard : offboardConfirmed n <;> cases armed : armedConfirmed n
  all_goals
    have offboard' : offboardConfirmed n.timeless = _ := offboard
    have armed' : armedConfirmed n.timeless = _ := armed
    simp only [retryOutputs, offboard, armed, offboard', armed']
    rfl

variable [Field K] [LinearOrder K] [FloorRing K] [FloatMath K]

theorem controlInit_timeless (p : Params K) (now : Int) (n : Node K) :
    (controlInit p now ⟨n, [heartbeatNow now]⟩).timeless =
      controlInit p 0 ⟨n.timeless, [heartbeatNow 0]⟩ := by
  unfold controlInit
  apply timeless_ite Iff.rfl
  · apply timeless_ite Iff.rfl
    · rfl
    · apply timeless_ite Iff.rfl
      · rfl
      · apply timeless_ite Iff.rfl
        · have asked := retryOutputs_timeless now
            { n with heartbeatCount := n.heartbeatCount + 1 }
          simp only [publishSetpoint, Turn.emit, requestOffboardAndArm_eq, Turn.timeless,
            List.map_append, asked]
          rfl
        · rfl
  · rfl

theorem controlTakeoff_timeless {p : Params K} {now : Int} {n : Node K}
    (state : n.state = .takeoff) (latches : LatchesClear n) (healthy : Healthy n) :
    (controlTakeoff p now ⟨n, [heartbeatNow now]⟩).timeless =
      controlTakeoff p 0 ⟨n.timeless, [heartbeatNow 0]⟩ := by
  unfold controlTakeoff
  apply supervised_timeless (Or.inl state) latches healthy
  intro m
  apply timeless_ite Iff.rfl
  · apply timeless_ite Iff.rfl <;> rfl
  · rfl

omit [FloorRing K] in
theorem flyRoute_timeless {p : Params K} {now : Int} {n : Node K}
    {reached : Nat → Nat → K → K → K → Log K} {finish finish' : Waypoint K → Turn K → Turn K}
    (route : n.state.OnRoute) (latches : LatchesClear n) (healthy : Healthy n)
    (same : ∀ wp (m : Node K) (a : Output K) (line : Log K),
      (finish wp ⟨m, [heartbeatNow now, a, .log line]⟩).timeless =
        finish' wp ⟨m.timeless, [heartbeatNow 0, a.timeless, .log line]⟩) :
    (flyRoute p now reached finish ⟨n, [heartbeatNow now]⟩).timeless =
      flyRoute p 0 reached finish' ⟨n.timeless, [heartbeatNow 0]⟩ := by
  unfold flyRoute
  apply supervised_timeless (onRoute_flying route) latches healthy
  intro m
  have queue : m.timeless.waypoints[m.timeless.waypointIndex]? =
      m.waypoints[m.waypointIndex]? := rfl
  cases current : m.waypoints[m.waypointIndex]? with
  | none =>
    simp only [queue, current]
    rfl
  | some wp =>
    simp only [queue, current]
    apply timeless_ite Iff.rfl
    · apply timeless_ite Iff.rfl
      · exact same wp _ _ _
      · rfl
    · rfl

omit [FloorRing K] in
theorem controlHover_timeless {p : Params K} {now : Int} {n : Node K} (state : n.state = .hover)
    (latches : LatchesClear n) (healthy : Healthy n) :
    (controlHover p now ⟨n, [heartbeatNow now]⟩).timeless =
      controlHover p 0 ⟨n.timeless, [heartbeatNow 0]⟩ := by
  unfold controlHover
  apply supervised_timeless (Or.inr (Or.inr (Or.inr state))) latches healthy
  intro m
  apply timeless_ite Iff.rfl <;> rfl

theorem controlLoop_timeless {p : Params K} {now : Int} {n : Node K} (latches : LatchesClear n)
    (aloft : ¬ n.state.Landed) (healthy : n.state.Flying → Healthy n) :
    (controlLoop p now ⟨n, []⟩).timeless = controlLoop p 0 ⟨n.timeless, []⟩ := by
  have beat (now : Int) (n : Node K) : publishHeartbeat now ⟨n, []⟩ = ⟨n, [heartbeatNow now]⟩ := rfl
  have same : n.timeless.state = n.state := rfl
  unfold controlLoop
  simp only [beat, same]
  cases state : n.state with
  | init => exact controlInit_timeless p now n
  | takeoff =>
    exact controlTakeoff_timeless state latches (healthy (by simp [state, FlightState.Flying]))
  | waypoints =>
    have flying : n.state.Flying := by simp [state, FlightState.Flying]
    exact flyRoute_timeless (Or.inl state) latches (healthy flying) fun _ _ _ _ => rfl
  | navWaypoints =>
    have flying : n.state.Flying := by simp [state, FlightState.Flying]
    exact flyRoute_timeless (Or.inr state) latches (healthy flying) fun _ _ _ _ => rfl
  | hover =>
    exact controlHover_timeless state latches (healthy (by simp [state, FlightState.Flying]))
  | land => exact absurd (Or.inl state) aloft
  | done => exact absurd (Or.inr state) aloft

theorem runCallback_timeless {p : Params K} {now : Int} {c : Callback K} {n : Node K}
    (latches : LatchesClear n) (aloft : ¬ n.state.Landed)
    (healthy : c = .control → n.state.Flying → Healthy n) :
    (runCallback p now c ⟨n, []⟩).timeless = runCallback p 0 c ⟨n.timeless, []⟩ := by
  cases c with
  | landDetected msg =>
    simp only [runCallback, onLandDetected_eq]
    cases low : msg.hasLowThrottle
    · rfl
    · simp [Turn.timeless, Node.timeless, untimed_restart]
  | goalPose msg => exact acceptRuntimeWaypoints_timeless n _
  | navPath msg =>
    unfold runCallback onNavPath
    apply timeless_ite Iff.rfl
    · rfl
    · exact acceptRuntimeWaypoints_timeless n _
  | control => exact controlLoop_timeless latches aloft (healthy rfl)
  | localPosition | vehicleStatus | setWaypoints => rfl

def ValidInFlight (p : Params K) : Moment (Event K) := fun past e =>
  FlyingTick p past e → Healthy ((flight p).after past)

instance (p : Params K) (past : List (Event K)) (e : Event K) :
    Decidable (ValidInFlight p past e) := inferInstanceAs (Decidable (_ → _))

def timelessStep (p : Params K) (n : Node K) (c : Callback K) : Node K × List (Output K) :=
  step p n ⟨0, c⟩

theorem step_timeless {p : Params K} {past : List (Event K)} {e : Event K}
    (valid : ValidInFlight p past e) :
    Follows (flight p) (fun n => n.state.Landed) Node.timeless Event.callback Output.timeless
      (timelessStep p) past e := by
  intro aloft
  have latches := after_latches p past
  show (((step p ((flight p).after past) e).1).timeless,
    (step p ((flight p).after past) e).2.map Output.timeless) = _
  unfold timelessStep step
  by_cases running : ((flight p).after past).process = .running
  · have running' : ((flight p).after past).timeless.process = .running := running
    rw [if_pos running, if_pos running']
    have turn : (runCallback p e.now e.callback ⟨(flight p).after past, []⟩).timeless =
        runCallback p 0 e.callback ⟨((flight p).after past).timeless, []⟩ :=
      runCallback_timeless latches aloft fun control flying => valid ⟨control, running, flying⟩
    rw [← turn]
    rfl
  · have gone' : ¬ ((flight p).after past).timeless.process = .running := running
    rw [if_neg running, if_neg gone']
    rfl

/-- The flight up to and including the tick that enters LAND: at each callback the node
    and the outputs, without their times. -/
def progress (p : Params K) (run : List (Event K)) : List (Node K × List (Output K)) :=
  viewed (flight p) (fun n => n.state.Landed) Node.timeless Output.timeless run

theorem progress_ignores_clock (p : Params K) {run run' : List (Event K)}
    (same : run.map Event.callback = run'.map Event.callback)
    (valid : Always (ValidInFlight p) run) (valid' : Always (ValidInFlight p) run') :
    progress p run = progress p run' := by
  have landed_seen (n n' : Node K) (alike : n.timeless = n'.timeless) :
      n.state.Landed ↔ n'.state.Landed := by
    have state : n.timeless.state = n'.timeless.state := by rw [alike]
    have state' : n.state = n'.state := state
    rw [state']
  have stays (past : List (Event K)) (e : Event K) (landed : (stateAfter p past).Landed) :
      (stateAfter p (e :: past)).Landed := (grammar_landed (step_grammar p past e) landed).1
  have follows {run : List (Event K)} (valid : Always (ValidInFlight p) run) :=
    always_intro (fun past e valid => step_timeless (p := p) valid.1) valid
  exact (viewed_eq landed_seen stays same (follows valid) (follows valid')).1

def hurried (run : List (Event ℚ)) : List (Event ℚ) :=
  run.map fun e => { e with now := 50 * e.now }

theorem progress_ignores_clock_descending :
    progress simParams (hurried descending) = progress simParams descending :=
  progress_ignores_clock simParams (by decide +kernel) (by decide +kernel) (by decide +kernel)

end OffboardControl
