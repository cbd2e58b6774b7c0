import GpsDeniedDrone.Geofence
import GpsDeniedDrone.Landing

/-!
The descent: what the node still watches and sends once it is in LAND, however it got
there.
-/
namespace OffboardControl
open FrameTransforms Messages PastTime Streak
variable {K : Type}

def Event.sample (e : Event K) : Option (VehicleLocalPosition K) :=
  match e.callback with
  | .localPosition msg => some msg
  | _ => none

variable [Field K] [LinearOrder K] [FloorRing K] [FloatMath K]

/- What is kept from one callback to the next. -/

theorem move_position {p : Params K} {n n' : Node K} {e : Event K} {out : List (Output K)}
    (moved : Move p n e n' out) (running : n.process = .running) :
    n'.vehicleLocalPosition = e.sample.getD n.vehicleLocalPosition := by
  cases moved with
  | stopped _ gone => exact absurd running gone
  | tick now _ went => exact (tick_keeps_messages went).1
  | refused _ goal | emptyPlan _ goal | accepted _ goal =>
    obtain ⟨now, callback⟩ := e
    cases callback <;> first | rfl | exact goal.elim
  | _ => rfl

theorem stored_sample {p : Params K} {later past : List (Event K)}
    (running : ((flight p).after (later ++ past)).process = .running) :
    ((flight p).after (later ++ past)).vehicleLocalPosition =
      (later.findSome? Event.sample).getD ((flight p).after past).vehicleLocalPosition := by
  induction later with
  | nil => rfl
  | cons e later ih =>
    have before := running_before running
    have step := move_position (after_move p (later ++ past) e) before
    rw [List.cons_append, step, ih before, List.findSome?_cons]
    cases e.sample <;> rfl

theorem move_keeps_queue {p : Params K} {n n' : Node K} {e : Event K} {out : List (Output K)}
    (moved : Move p n e n' out) (allowed : QueueAllowed n.state e.callback)
    (landed : n.state.Landed) : n'.waypoints = n.waypoints := by
  cases moved with
  | accepted _ _ _ state => simp [state, FlightState.Landed] at landed
  | queued => rcases allowed with state | state <;> simp [state, FlightState.Landed] at landed
  | tick now _ went => exact (tick_runtime went).1
  | _ => rfl

theorem landed_queue {p : Params K} {later past : List (Event K)} (legal : Run p (later ++ past))
    (landed : (stateAfter p past).Landed) :
    (stateAfter p (later ++ past)).Landed ∧
      ((flight p).after (later ++ past)).waypoints = ((flight p).after past).waypoints := by
  induction later with
  | nil => exact ⟨landed, rfl⟩
  | cons e later ih =>
    obtain ⟨still, same⟩ := ih legal.2
    have moved := after_move p (later ++ past) e
    exact ⟨(grammar_landed (step_grammar p (later ++ past) e) still).1,
      (move_keeps_queue moved legal.1 still).trans same⟩

/- The emergency cut after a geofence abort. -/

def FenceAbort (p : Params K) : Moment (Event K) := fun past e =>
  (stateAfter p past).Flying ∧ stateAfter p (e :: past) = .land ∧
    ((flight p).after (e :: past)).geofenceBreached = true

instance (p : Params K) (past : List (Event K)) (e : Event K) :
    Decidable (FenceAbort p past e) := inferInstanceAs (Decidable (_ ∧ _ ∧ _))

def FenceCut (p : Params K) : Moment (Event K) := fun past e =>
  .forcedDisarm ∈ sentAt p past e ∧
    .log (.disarmSent .geofenceBreachDuringLanding) ∈ (flight p).emitted past e

instance (p : Params K) (past : List (Event K)) (e : Event K) :
    Decidable (FenceCut p past e) := inferInstanceAs (Decidable (_ ∧ _))

/-- The event brings a sample outside the fence in force after `past`. -/
def SampleOutside (p : Params K) (past : List (Event K)) (e : Event K) : Prop :=
  ∃ msg ∈ e.sample, (geofenceBounds p ((flight p).after past).waypoints).Outside msg

theorem fence_abort_tick {p : Params K} {past : List (Event K)} {e : Event K}
    (abort : FenceAbort p past e) :
    FlyingTick p past e ∧ OutsideFence p ((flight p).after past) := by
  obtain ⟨flying, land, breached⟩ := abort
  have aloft := (flying_ne flying).2.1
  have sent := (grammar_land_iff (step_grammar p past e)).mp ⟨aloft, land⟩
  have tick := move_sends (after_move p past e) sent
  have flying_tick : FlyingTick p past e := ⟨tick.1, tick.2, flying⟩
  exact ⟨flying_tick, (breach_iff flying_tick).mp breached⟩

theorem tick_running {p : Params K} {now : Int} {n n' : Node K} {out : List (Output K)}
    (went : Tick p now n n' out) (changed : n'.state ≠ n.state) : n'.process = n.process := by
  cases went with
  | rateFault | indexFault | exit => exact absurd rfl changed
  | _ => rfl

theorem tick_outside {p : Params K} {now : Int} {n n' : Node K} {out : List (Output K)}
    (went : Tick p now n n' out) : OutsideFence p n' ↔ OutsideFence p n := by
  unfold OutsideFence
  rw [(tick_keeps_messages went).1, (tick_runtime went).1]

theorem land_tick_cases {p : Params K} {now : Int} {n n' : Node K} {out : List (Output K)}
    (went : Tick p now n n' out) (landing : n.state = .land) :
    (OutsideFence p n ∧ n'.state = .done ∧ out = [heartbeatNow now, .log (fenceEmergencyLog p n),
        forcedDisarm now, .log (.disarmSent .geofenceBreachDuringLanding)]) ∨
      (¬ OutsideFence p n ∧ EstimateExpired p now n ∧ n'.state = .done ∧
        out = [heartbeatNow now, .log (estimateEmergencyLog now n), forcedDisarm now,
          .log (.disarmSent .estimateInvalidDuringLanding)]) ∨ Passed p now n := by
  cases went with
  | fenceEmergency _ outside => exact Or.inl ⟨outside, rfl, rfl⟩
  | estimateEmergency _ inside expired => exact Or.inr (Or.inl ⟨inside, expired, rfl, rfl⟩)
  | disarmed _ passed | fallback _ passed | warn _ passed | descend _ passed =>
    exact Or.inr (Or.inr passed)
  | fenceAbort flying | estimateAbort flying => exact absurd landing (flying_ne flying).2.1
  | indexFault route | cruise route | reach route =>
    exact absurd landing (flying_ne (onRoute_flying route)).2.1
  | _ state => cases landing.symm.trans state

theorem tick_fence_cut {p : Params K} {now : Int} {n n' : Node K} {out : List (Output K)}
    (went : Tick p now n n' out)
    (said : .log (.disarmSent .geofenceBreachDuringLanding) ∈ out) :
    n.state = .land ∧ OutsideFence p n := by
  cases went with
  | fenceEmergency state outside => exact ⟨state, outside⟩
  | retry =>
    cases offboard : offboardConfirmed n <;> cases armed : armedConfirmed n <;>
      simp [retryOutputs, heartbeatNow, takeoffSetpoint, setpointTo, offboardModeCommand,
        armCommand, vehicleCommand, offboard, armed] at said
  | fallback =>
    by_cases first : n.lastDisarmAttemptTime = none <;>
      simp [fallbackOutputs, heartbeatNow, forcedDisarm, vehicleCommand, first] at said
  | _ =>
    simp [heartbeatNow, takeoffSetpoint, waypointSetpoint, hoverSetpoint, setpointTo, navLand,
      forcedDisarm, vehicleCommand, fenceLog, estimateLog, estimateEmergencyLog, reachedLog,
      apply_ite] at said

theorem fence_cut_cause {p : Params K} {past : List (Event K)} {e : Event K}
    (cut : FenceCut p past e) :
    e.callback = .control ∧ ((flight p).after past).process = .running ∧
      OutsideFence p ((flight p).after past) := by
  have tick := move_sends (after_move p past e) cut.1
  have went := after_tick tick.1 tick.2
  exact ⟨tick.1, tick.2, (tick_fence_cut went cut.2).2⟩

theorem move_outside {p : Params K} {n n' : Node K} {e : Event K} {out : List (Output K)}
    (moved : Move p n e n' out) (allowed : QueueAllowed n.state e.callback)
    (running : n.process = .running) (landing : n.state = .land) (outside : OutsideFence p n)
    (no_sample : e.sample = none) :
    (.forcedDisarm ∈ signals out ∧ .log (.disarmSent .geofenceBreachDuringLanding) ∈ out) ∨
      (e.callback ≠ .control ∧ n'.process = .running ∧ n'.state = .land ∧ OutsideFence p n') := by
  cases moved with
  | stopped _ gone => exact absurd running gone
  | position => cases no_sample
  | accepted _ _ _ state => cases landing.symm.trans state
  | queued => rcases allowed with state | state <;> cases landing.symm.trans state
  | refused _ goal | emptyPlan _ goal =>
    refine Or.inr ⟨?_, running, landing, outside⟩
    intro control
    rw [control] at goal
    exact goal
  | tick now _ went =>
    rcases land_tick_cases went landing with ⟨_, _, cut⟩ | ⟨inside, _⟩ | passed
    · exact Or.inl ⟨by simp [cut], by simp [cut]⟩
    · exact absurd outside inside
    · exact absurd outside passed.inside
  | _ => exact Or.inr ⟨by simp, running, landing, outside⟩

/-- No cut has come without new evidence and no sample has come at all, so no control tick
    has either: the node still stands where the abort left it. -/
theorem outside_until_tick {p : Params K} {mid past : List (Event K)}
    (legal : Run p (mid ++ past)) (running : ((flight p).after past).process = .running)
    (landing : stateAfter p past = .land) (outside : OutsideFence p ((flight p).after past))
    (evidence : Always (fun mid e => FenceCut p (mid ++ past) e →
      ∃ a ∈ mid, SampleOutside p past a) mid)
    (no_sample : ∀ a ∈ mid, a.sample = none) :
    ((flight p).after (mid ++ past)).process = .running ∧
      stateAfter p (mid ++ past) = .land ∧ OutsideFence p ((flight p).after (mid ++ past)) := by
  induction mid with
  | nil => exact ⟨running, landing, outside⟩
  | cons e mid ih =>
    have earlier : ∀ a ∈ mid, a.sample = none := fun a mem =>
      no_sample a (List.mem_cons_of_mem e mem)
    obtain ⟨alive, land, out⟩ := ih legal.2 evidence.2 earlier
    rcases move_outside (after_move p (mid ++ past) e) legal.1 alive land out
        (no_sample e List.mem_cons_self) with cut | ⟨_, stays⟩
    · obtain ⟨a, mem, msg, found, _⟩ := evidence.1 cut
      simp [earlier a mem] at found
    · exact stays

theorem unsampled_tick_cuts {p : Params K} {mid past : List (Event K)} {t : Event K}
    (legal : Run p (t :: (mid ++ past))) (running : ((flight p).after past).process = .running)
    (landing : stateAfter p past = .land) (outside : OutsideFence p ((flight p).after past))
    (evidence : Always (fun mid e => FenceCut p (mid ++ past) e →
      ∃ a ∈ mid, SampleOutside p past a) mid)
    (no_sample : ∀ a ∈ mid, a.sample = none) (control : t.callback = .control) :
    FenceCut p (mid ++ past) t := by
  obtain ⟨alive, land, out⟩ :=
    outside_until_tick legal.2 running landing outside evidence no_sample
  have quiet : t.sample = none := by simp [Event.sample, control]
  rcases move_outside (after_move p (mid ++ past) t) legal.1 alive land out quiet with
    cut | ⟨other, _⟩
  · exact cut
  · exact absurd control other

theorem cut_evidence {p : Params K} {mid past : List (Event K)} {e : Event K}
    (legal : Run p (mid ++ past)) (landing : stateAfter p past = .land)
    (cut : FenceCut p (mid ++ past) e) (sampled : ∃ a ∈ mid, a.sample.isSome = true) :
    ∃ a ∈ mid, SampleOutside p past a := by
  obtain ⟨_, running, outside⟩ := fence_cut_cause cut
  obtain ⟨_, queue⟩ := landed_queue legal (Or.inl landing)
  have stored := stored_sample running
  cases found : mid.findSome? Event.sample with
  | none =>
    obtain ⟨a, mem, some_a⟩ := sampled
    simp [List.findSome?_eq_none_iff.mp found a mem] at some_a
  | some msg =>
    obtain ⟨a, mem, eq⟩ := List.exists_of_findSome?_eq_some found
    rw [found, Option.getD_some] at stored
    rw [OutsideFence, queue, stored] at outside
    exact ⟨a, mem, msg, eq, outside⟩

theorem cut_needs_evidence_iff {p : Params K} {later past : List (Event K)} {e : Event K}
    (legal : Run p (later ++ e :: past)) (abort : FenceAbort p past e) :
    Always (fun mid t => FenceCut p (mid ++ e :: past) t →
        ∃ a ∈ mid, SampleOutside p (e :: past) a) later ↔
      Always (fun mid t => t.callback = .control →
        ∃ a ∈ mid, a.sample.isSome = true) later := by
  obtain ⟨flying, outside⟩ := fence_abort_tick abort
  have went := after_tick flying.1 flying.2.1
  have landing : stateAfter p (e :: past) = .land := abort.2.1
  have changed : stateAfter p (e :: past) ≠ stateAfter p past := fun same =>
    (flying_ne flying.2.2).2.1 (same.symm.trans landing)
  have running := (tick_running went changed).trans flying.2.1
  have still := (tick_outside went).mpr outside
  induction later with
  | nil => exact Iff.rfl
  | cons t mid ih =>
    constructor
    · intro evidence
      refine ⟨?_, (ih legal.2).mp evidence.2⟩
      intro control
      by_contra never
      have no_sample : ∀ a ∈ mid, a.sample = none := by
        intro a mem
        by_contra some_a
        exact never ⟨a, mem, Option.isSome_iff_ne_none.mpr some_a⟩
      have cut := unsampled_tick_cuts legal running landing still evidence.2 no_sample control
      obtain ⟨a, mem, msg, found, _⟩ := evidence.1 cut
      simp [no_sample a mem] at found
    · intro sampled
      refine ⟨?_, (ih legal.2).mpr sampled.2⟩
      intro cut
      exact cut_evidence legal.2 landing cut (sampled.1 (fence_cut_cause cut).1)

def carriedOff : List (Event ℚ) := sampleAt 12 10 0 (-2) true :: hovering

theorem cut_needs_evidence_iff_sampled :
    Always (fun mid t => FenceCut simParams (mid ++ tickAt 12 :: carriedOff) t →
        ∃ a ∈ mid, SampleOutside simParams (tickAt 12 :: carriedOff) a)
      [tickAt 13, sampleAt 13 10 0 (-2) true] ↔
    Always (fun mid t => t.callback = .control → ∃ a ∈ mid, a.sample.isSome = true)
      [tickAt 13, sampleAt 13 10 0 (-2) true] :=
  cut_needs_evidence_iff (by decide +kernel) (by decide +kernel)

theorem same_sample_cuts : ¬ ∀ (p : Params ℚ) (later past : List (Event ℚ)) (e : Event ℚ),
    Always (ClockMonotone Event.now) (later ++ e :: past) → Run p (later ++ e :: past) →
      FenceAbort p past e →
        Always (fun mid t => FenceCut p (mid ++ e :: past) t →
          ∃ a ∈ mid, SampleOutside p (e :: past) a) later := by
  intro all
  have evidence := all simParams [tickAt 13] carriedOff (tickAt 12) (by decide +kernel)
    (by decide +kernel) (by decide +kernel)
  obtain ⟨a, mem, _⟩ := evidence.1 (by decide +kernel)
  cases mem

/- Supervision of the descent. -/

def LandTick (p : Params K) : Moment (Event K) := fun past e =>
  e.callback = .control ∧ ((flight p).after past).process = .running ∧ stateAfter p past = .land

instance (p : Params K) (past : List (Event K)) (e : Event K) : Decidable (LandTick p past e) :=
  inferInstanceAs (Decidable (_ ∧ _ ∧ _))

def Cuts (p : Params K) : Moment (Event K) := fun past e =>
  (sentAt p past e).count .forcedDisarm = 1 ∧ stateAfter p (e :: past) = .done

theorem tick_cuts {p : Params K} {now : Int} {n n' : Node K} {out : List (Output K)}
    (went : Tick p now n n' out) (landing : n.state = .land)
    (cause : OutsideFence p n ∨ EstimateExpired p now n) :
    (signals out).count .forcedDisarm = 1 ∧ n'.state = .done := by
  rcases land_tick_cases went landing with ⟨_, ended, cut⟩ | ⟨_, _, ended, cut⟩ | passed
  · exact ⟨by simp [cut], ended⟩
  · exact ⟨by simp [cut], ended⟩
  · rcases cause with outside | expired
    · exact absurd outside passed.inside
    · exact absurd expired passed.waiting

structure DescentLaw (p : Params K) (past : List (Event K)) (e : Event K) : Prop where
  clear : stateAfter p (e :: past) = .land →
    ((flight p).after (e :: past)).geofenceLandEmergency = false ∧
      ((flight p).after (e :: past)).estimateLandEmergency = false
  outside : LandTick p past e → OutsideFence p ((flight p).after past) → Cuts p past e
  invalid : LandTick p past e → ¬ OutsideFence p ((flight p).after past) →
    Invalid p past e → InvalidForDwell p (Evaluated p) e.now (e :: past) → Cuts p past e

theorem descent_law (p : Params K) (past : List (Event K)) (e : Event K) :
    DescentLaw p past e := by
  have cuts (tick : LandTick p past e) (cause : OutsideFence p ((flight p).after past) ∨
      EstimateExpired p e.now ((flight p).after past)) : Cuts p past e :=
    tick_cuts (after_tick tick.1 tick.2.1) tick.2.2 cause
  constructor
  · intro landing
    have underway : stateAfter p (e :: past) ≠ .done := by simp [landing]
    exact (after_latches p (e :: past)).landing underway
  · intro tick outside
    exact cuts tick (Or.inl outside)
  · intro tick inside _ dwell
    have evaluated : Evaluated p past e := ⟨tick.1, tick.2.1, Or.inr tick.2.2, inside⟩
    exact cuts tick (Or.inr ((expired_iff_invalidForDwell (Evaluated p)
      (estimate_timer_is_streak p past) evaluated).mpr dwell))

/-- Every landing, however it was entered: the law holds all along, and the fence is the
    one the tick that entered it read. -/
structure SupervisedDescent (p : Params K) (run : List (Event K)) : Prop where
  law : Always (DescentLaw p) run
  fence : ∀ later past e, run = later ++ e :: past → stateAfter p past ≠ .land →
    stateAfter p (e :: past) = .land → stateAfter p run = .land →
      geofenceBounds p ((flight p).after run).waypoints =
        geofenceBounds p ((flight p).after past).waypoints

theorem landing_always_supervised (p : Params K) {run : List (Event K)} (legal : Run p run) :
    SupervisedDescent p run where
  law := always_of_forall (descent_law p) run
  fence later past e split before entered _ := by
    subst split
    have sent := (grammar_land_iff (step_grammar p past e)).mp ⟨before, entered⟩
    have tick := move_sends (after_move p past e) sent
    have went := after_tick tick.1 tick.2
    rw [(landed_queue legal (Or.inl entered)).2, (tick_runtime went).1]

/-- A landing cut by the tick after a sample ten metres north. -/
theorem landing_always_supervised_descending :
    let run := tickAt 15 :: sampleAt 14 10 0 (-2) true :: descending
    (stateAfter simParams descending = .land ∧ stateAfter simParams run = .done) ∧
      SupervisedDescent simParams run :=
  ⟨by decide +kernel, landing_always_supervised simParams (by decide +kernel)⟩

/- NAV_LAND. -/

def LandingOverASecond (p : Params K) (now : Int) : List (Event K) → Prop :=
  Since (fun past e => (stateAfter p past ≠ .land ∧ stateAfter p (e :: past) = .land) ∧
      (1 : K) < seconds (now - e.now))
    (fun past e => stateAfter p (e :: past) = .land)

instance (p : Params K) (now : Int) : DecidablePred (LandingOverASecond p now) :=
  inferInstanceAs (DecidablePred (Since _ _))

/-- A control tick more than a second into LAND at which the latest status still reports
    ARMED and OFFBOARD and nothing is wrong with the position. -/
structure LandUnconfirmed (p : Params K) (past : List (Event K)) (e : Event K) : Prop where
  tick : LandTick p past e
  long : LandingOverASecond p e.now past
  armed : (latestStatus past).armingState = armingStateArmed
  offboard : (latestStatus past).navState = navigationStateOffboard
  inside : ¬ OutsideFence p ((flight p).after past)
  valid : Healthy ((flight p).after past)

def NavLandWithinASecond (p : Params K) (now : Int) : List (Event K) → Prop :=
  Since (fun past e => .navLand ∈ sentAt p past e ∧ seconds (now - e.now) ≤ (1 : K))
    (fun _ _ => True)

instance (p : Params K) (now : Int) : DecidablePred (NavLandWithinASecond p now) :=
  inferInstanceAs (DecidablePred (Since _ _))

theorem navLand_sent {p : Params K} {now : Int} {run : List (Event K)}
    (recent : NavLandWithinASecond p now run) : .navLand ∈ sentUpTo p run := by
  induction run with
  | nil => exact recent.elim
  | cons e past ih =>
    rw [sentUpTo_cons, List.mem_append]
    rcases recent with ⟨sent, _⟩ | ⟨_, before⟩
    · exact Or.inr sent
    · exact Or.inl (ih before)

theorem landing_of_long {p : Params K} {now : Int} {run : List (Event K)}
    (long : LandingOverASecond p now run) : stateAfter p run = .land := by
  cases run with
  | nil => exact long.elim
  | cons e past =>
    rcases long with ⟨entered, _⟩ | ⟨landing, _⟩
    · exact entered.2
    · exact landing

theorem navLand_not_repeated {p : Params K} {now : Int} {run : List (Event K)}
    (long : LandingOverASecond p now run) : ¬ NavLandWithinASecond p now run := by
  intro recent
  induction run with
  | nil => exact long.elim
  | cons e past ih =>
    have land_iff := grammar_land_iff (step_grammar p past e)
    rcases long with ⟨entered, long⟩ | ⟨landing, long⟩
    · rcases recent with ⟨_, recent⟩ | ⟨_, before⟩
      · exact absurd long (not_lt.mpr recent)
      · have sent := List.count_pos_iff.mpr (navLand_sent before)
        have counted := count_navLand p (e :: past)
        have again := List.count_pos_iff.mpr (land_iff.mp entered)
        rw [sentUpTo_cons, List.count_append, entered.2] at counted
        simp only [FlightState.Landed, true_or, if_true] at counted
        omega
    · rcases recent with ⟨sent, _⟩ | ⟨_, before⟩
      · exact absurd (landing_of_long long) (land_iff.mpr sent).1
      · exact ih long before

theorem landing_never_repeated {p : Params K} {past : List (Event K)} {e : Event K}
    (unconfirmed : LandUnconfirmed p past e) : ¬ NavLandWithinASecond p e.now (e :: past) := by
  intro recent
  have landing := landing_of_long unconfirmed.long
  rcases recent with ⟨sent, _⟩ | ⟨_, before⟩
  · exact absurd landing ((grammar_land_iff (step_grammar p past e)).mpr sent).1
  · exact navLand_not_repeated unconfirmed.long before

def notLanding : List (Event ℚ) :=
  statusAt 22 14 2 :: tickAt 22 :: statusAt 17 14 2 :: tickAt 17 :: tickAt 12 :: tickAt 11 ::
    sampleAt 11 0 0 (-2) true :: ⟨tenths 10, .setWaypoints [⟨0, 0, -2, 0⟩]⟩ :: started

theorem notLanding_unconfirmed : LandUnconfirmed simParams notLanding (tickAt 23) where
  tick := by decide +kernel
  long := by decide +kernel
  armed := by decide +kernel
  offboard := by decide +kernel
  inside := by decide +kernel
  valid := by decide +kernel

theorem landing_never_repeated_notLanding :
    ¬ NavLandWithinASecond simParams (tickAt 23).now (tickAt 23 :: notLanding) :=
  landing_never_repeated notLanding_unconfirmed

theorem navLand_forgotten : ¬ ∀ (p : Params ℚ) (past : List (Event ℚ)) (e : Event ℚ),
    Always (ClockMonotone Event.now) (e :: past) → Run p past → LandUnconfirmed p past e →
      NavLandWithinASecond p e.now (e :: past) := by
  intro all
  have recent := all simParams notLanding (tickAt 23) (by decide +kernel) (by decide +kernel)
    notLanding_unconfirmed
  exact absurd recent (by decide +kernel)

end OffboardControl
