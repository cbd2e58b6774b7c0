import GpsDeniedDrone.DwellTimers
import GpsDeniedDrone.Routes

/-!
Supervised flight: what the geofence and the estimate watchdog make of every tick
taken in a flying state.
-/
namespace OffboardControl
open FrameTransforms Messages PastTime Streak
variable {K : Type}

theorem aborted_landed {n : Node K} (latches : LatchesClear n) (aborted : Aborted n) :
    n.state.Landed := by
  by_contra airborne
  obtain ⟨land, done⟩ := not_or.mp airborne
  have clear := latches.flight land done
  simp [Aborted, clear] at aborted

variable [Field K] [LinearOrder K] [FloorRing K] [FloatMath K]

def FlyingTick (p : Params K) : Moment (Event K) := fun past e =>
  e.callback = .control ∧ ((flight p).after past).process = .running ∧
    (stateAfter p past).Flying

instance (p : Params K) (past : List (Event K)) (e : Event K) :
    Decidable (FlyingTick p past e) := inferInstanceAs (Decidable (_ ∧ _ ∧ _))

def Finishes (p : Params K) (n : Node K) : Prop :=
  (n.state = .waypoints ∧ n.waypoints.length ≤ n.waypointIndex + 1 ∧
      ∃ wp, n.waypoints[n.waypointIndex]? = some wp ∧ Within p n wp) ∨
    (n.state = .hover ∧ n.hoverTicksRemaining ≤ 1)

/-- What a flying tick comes to: a check stops it, or the work of its state is done. -/
inductive Supervised (p : Params K) (now : Int) (n n' : Node K) (out : List (Output K)) :
    Prop where
  | stopped (cause : OutsideFence p n ∨ EstimateExpired p now n)
      (breach : n'.geofenceBreached = true ↔ OutsideFence p n)
      (word : signals out = [.heartbeat, .navLand]) (land : n'.state = .land)
      (index : n'.waypointIndex = n.waypointIndex)
      (ticks : n'.hoverTicksRemaining = n.hoverTicksRemaining)
  | kept (passed : Passed p now n) (inside : n'.geofenceBreached = false)
      (healthy : n'.estimateBreach = false)
      (setpoint : (n.state.OnRoute → n.waypointIndex < n.waypoints.length) →
        (signals out).count .setpoint = 1)
      (landed : n'.state.Landed ↔ Finishes p n)

theorem tick_supervised {p : Params K} {now : Int} {n n' : Node K} {out : List (Output K)}
    (went : Tick p now n n' out) (flying : n.state.Flying) (latches : LatchesClear n) :
    Supervised p now n n' out := by
  have ne := flying_ne flying
  have airborne : ¬ n.state.Landed := not_or.mpr ne.2
  obtain ⟨fence, estimate⟩ := latches.flight ne.2.1 ne.2.2
  have goes_on (passed : Passed p now n) (same_fence : n'.geofenceBreached = n.geofenceBreached)
      (same_estimate : n'.estimateBreach = n.estimateBreach)
      (sent : (signals out).count .setpoint = 1) (aloft : ¬ n'.state.Landed)
      (unfinished : ¬ Finishes p n) : Supervised p now n n' out :=
    Supervised.kept passed (same_fence.trans fence) (same_estimate.trans estimate)
      (fun _ => sent) (iff_of_false aloft unfinished)
  cases went with
  | fenceAbort _ outside =>
    exact Supervised.stopped (Or.inl outside) (iff_of_true rfl outside) (by simp) rfl rfl rfl
  | estimateAbort _ inside expired =>
    have unlatched : ¬ n.geofenceBreached = true := by simp [fence]
    exact Supervised.stopped (Or.inr expired) (iff_of_false unlatched inside) (by simp) rfl rfl rfl
  | climb state passed =>
    exact goes_on passed rfl rfl (by simp) airborne (by simp [Finishes, state])
  | startRoute state passed | startHover state passed | hoverRoute state passed =>
    exact goes_on passed rfl rfl (by simp) (by simp [FlightState.Landed])
      (by simp [Finishes, state])
  | indexFault route passed beyond =>
    have unfinished : ¬ Finishes p n := by
      rcases route with state | state <;> simp [Finishes, state, beyond]
    have short : n.waypoints.length ≤ n.waypointIndex := List.getElem?_eq_none_iff.mp beyond
    exact Supervised.kept passed fence estimate
      (fun inRange => absurd (inRange route) (Nat.not_lt.mpr short))
      (iff_of_false airborne unfinished)
  | cruise route passed wp current far =>
    apply goes_on passed rfl rfl (by simp) airborne
    rcases route with state | state <;> simp [Finishes, state, current, far]
  | reach route passed wp current near more =>
    apply goes_on passed rfl rfl (by simp) airborne
    rcases route with state | state <;> simp [Finishes, state, more]
  | hold state passed more =>
    apply goes_on passed rfl rfl (by simp) airborne
    simp only [Finishes, state, reduceCtorEq, false_and, true_and, false_or]
    omega
  | landRoute state passed wp current near last =>
    exact Supervised.kept passed fence estimate (fun _ => by simp)
      (iff_of_true (Or.inl rfl) (Or.inl ⟨state, last, wp, current, near⟩))
  | landHover state passed last =>
    exact Supervised.kept passed fence estimate (fun _ => by simp)
      (iff_of_true (Or.inl rfl) (Or.inr ⟨state, by omega⟩))
  | stream state | confirmed state | rateFault state | retry state => exact absurd state ne.1
  | fenceEmergency state | estimateEmergency state | disarmed state | fallback state
  | warn state | descend state => exact absurd state ne.2.1
  | exit state => exact absurd state ne.2.2

theorem flyingTick_supervised {p : Params K} {past : List (Event K)} {e : Event K}
    (flying : FlyingTick p past e) :
    Supervised p e.now ((flight p).after past) ((flight p).after (e :: past))
      ((flight p).emitted past e) :=
  tick_supervised (after_tick flying.1 flying.2.1) flying.2.2 (after_latches p past)

theorem not_landed_before {p : Params K} {past : List (Event K)} {e : Event K}
    (airborne : ¬ (stateAfter p (e :: past)).Landed) : ¬ (stateAfter p past).Landed :=
  fun landed => airborne (grammar_landed (step_grammar p past e) landed).1

/-- While airborne the check has run at the flying ticks and nowhere else: a tick that
    finds the vehicle outside the fence does not leave it airborne. -/
theorem evaluated_iff_flying {p : Params K} {past : List (Event K)} {e : Event K}
    (airborne : ¬ (stateAfter p (e :: past)).Landed) :
    Evaluated p past e ↔ FlyingTick p past e := by
  constructor
  · intro evaluated
    obtain ⟨control, running, flying | landing, _⟩ := evaluated
    · exact ⟨control, running, flying⟩
    · exact absurd (Or.inl landing) (not_landed_before airborne)
  · intro flying
    cases flyingTick_supervised flying with
    | stopped _ _ _ land => exact absurd (Or.inl land) airborne
    | kept passed => exact ⟨flying.1, flying.2.1, Or.inl flying.2.2, passed.inside⟩

theorem airborne_timer {p : Params K} {run : List (Event K)}
    (airborne : ¬ (stateAfter p run).Landed) :
    ((flight p).after run).estimateInvalidSince =
      streak Event.now (findingOf (FlyingTick p) (Invalid p)) run := by
  rw [estimate_timer_is_streak]
  apply streak_congr
  induction run with
  | nil => trivial
  | cons e past ih =>
    apply And.intro _ (ih (not_landed_before airborne))
    simp only [estimateFinding, findingOf, evaluated_iff_flying airborne]

theorem expired_iff_flying {p : Params K} {past : List (Event K)} {e : Event K}
    (flying : FlyingTick p past e) :
    EstimateExpired p e.now ((flight p).after past) ↔
      InvalidForDwell p (FlyingTick p) e.now (e :: past) :=
  expired_iff_invalidForDwell (FlyingTick p)
    (airborne_timer (not_or.mpr (flying_ne flying.2.2).2)) flying

/-- A stop is due: outside the fence computed at the tick, or invalid for the dwell. -/
def StopDue (p : Params K) (past : List (Event K)) (e : Event K) : Prop :=
  OutsideFence p ((flight p).after past) ∨
    (Invalid p past e ∧ InvalidForDwell p (FlyingTick p) e.now (e :: past))

theorem stopDue_iff {p : Params K} {past : List (Event K)} {e : Event K}
    (flying : FlyingTick p past e) :
    StopDue p past e ↔ OutsideFence p ((flight p).after past) ∨
      EstimateExpired p e.now ((flight p).after past) := by
  apply or_congr_right
  rw [← expired_iff_flying flying]
  exact and_iff_right_of_imp And.left

structure SupervisionLaw (p : Params K) (past : List (Event K)) (e : Event K) : Prop where
  kept : FlyingTick p past e → ¬ StopDue p past e →
    (sentAt p past e).count .setpoint = 1 ∧ ¬ Aborted ((flight p).after (e :: past))
  stopped : FlyingTick p past e → StopDue p past e →
    .setpoint ∉ sentAt p past e ∧ (sentAt p past e).count .navLand = 1 ∧
      ((flight p).after (e :: past)).waypointIndex = ((flight p).after past).waypointIndex ∧
      ((flight p).after (e :: past)).hoverTicksRemaining =
        ((flight p).after past).hoverTicksRemaining ∧
      stateAfter p (e :: past) = .land
  latched : Aborted ((flight p).after (e :: past)) → (stateAfter p (e :: past)).Landed

theorem supervised_flight (p : Params K) {run : List (Event K)} (legal : Run p run) :
    Always (SupervisionLaw p) run := by
  apply always_intro _ legal
  intro past e legal
  constructor
  · intro flying clear
    rw [stopDue_iff flying, not_or] at clear
    cases flyingTick_supervised flying with
    | stopped cause => exact absurd cause (not_or.mpr clear)
    | kept _ inside healthy setpoint =>
      exact ⟨setpoint (index_in_range p legal.2), by simp [Aborted, inside, healthy]⟩
  · intro flying stop
    rw [stopDue_iff flying] at stop
    cases flyingTick_supervised flying with
    | stopped _ _ word land index ticks =>
      have sent : sentAt p past e = [.heartbeat, .navLand] := word
      exact ⟨by simp [sent], by simp [sent], index, ticks, land⟩
    | kept passed => exact absurd stop (not_or.mpr ⟨passed.inside, passed.waiting⟩)
  · exact aborted_landed (after_latches p (e :: past))

theorem supervised_flight_hovering :
    stateAfter simParams hovering = .hover ∧ Always (SupervisionLaw simParams) hovering :=
  ⟨by decide +kernel, supervised_flight simParams (by decide +kernel)⟩

end OffboardControl
