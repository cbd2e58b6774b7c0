import GpsDeniedDrone.Landing
import GpsDeniedDrone.Spacing

/-!
What a flight that goes wrong says and asks, counted over the whole run. Six lines of the
log are alarms, each with a latch of its own; the forced disarms are the fallback's, which
keep their distance in time, and at most one of an emergency.
-/
namespace OffboardControl
open FrameTransforms Messages PastTime Streak Cadence Spacing

inductive Alarm where
  | fence | fenceLanding | estimate | estimateLanding | lowThrottle | landTimeout
  deriving DecidableEq, Repr

section Alarms
variable {K : Type}

def Log.alarm : Log K → Option Alarm
  | .geofenceBreach .. => some .fence
  | .geofenceBreachDuringLanding .. => some .fenceLanding
  | .estimateInvalid .. => some .estimate
  | .estimateInvalidDuringLanding .. => some .estimateLanding
  | .lowThrottleFallback _ => some .lowThrottle
  | .landDisarmTimeout _ => some .landTimeout
  | _ => none

def Output.alarm : Output K → Option Alarm
  | .log line => line.alarm
  | _ => none

def alarms (out : List (Output K)) : List Alarm := out.filterMap Output.alarm

@[simp] theorem alarms_nil : alarms ([] : List (Output K)) = [] := rfl

@[simp] theorem alarms_cons (o : Output K) (out : List (Output K)) :
    alarms (o :: out) = o.alarm.toList ++ alarms out := by
  cases found : o.alarm <;> simp [alarms, found]

@[simp] theorem alarms_append (a b : List (Output K)) :
    alarms (a ++ b) = alarms a ++ alarms b := List.filterMap_append

def Node.latched (n : Node K) : Alarm → Bool
  | .fence => n.geofenceBreached
  | .fenceLanding => n.geofenceLandEmergency
  | .estimate => n.estimateBreach
  | .estimateLanding => n.estimateLandEmergency
  | .lowThrottle => n.lastDisarmAttemptTime.isSome
  | .landTimeout => n.loggedLandDisarmTimeoutWarning

@[simp] theorem alarm_log (line : Log K) : (Output.log line).alarm = line.alarm := rfl

@[simp] theorem alarm_raised (fault : Fault) : (Output.raised fault : Output K).alarm = none := rfl

@[simp] theorem alarm_exit : (Output.exit : Output K).alarm = none := rfl

@[simp] theorem alarm_heartbeatNow (now : Int) : (heartbeatNow now : Output K).alarm = none := rfl

variable [Field K]

@[simp] theorem alarm_navLand (now : Int) : (navLand now : Output K).alarm = none := rfl

@[simp] theorem alarm_forcedDisarm (now : Int) : (forcedDisarm now : Output K).alarm = none := rfl

@[simp] theorem alarm_armCommand (now : Int) : (armCommand now : Output K).alarm = none := rfl

@[simp] theorem alarm_offboardModeCommand (now : Int) :
    (offboardModeCommand now : Output K).alarm = none := rfl

theorem alarms_retryOutputs (now : Int) (n : Node K) : alarms (retryOutputs now n) = [] := by
  cases offboard : offboardConfirmed n <;> cases armed : armedConfirmed n <;>
    simp [retryOutputs, offboard, armed, Log.alarm]

theorem alarms_fallbackOutputs (now : Int) (n : Node K) :
    alarms (fallbackOutputs now n) =
      if n.lastDisarmAttemptTime = none then [.lowThrottle] else [] := by
  by_cases first : n.lastDisarmAttemptTime = none <;>
    simp [fallbackOutputs, first, Log.alarm]

variable [LinearOrder K] [FloatMath K]

@[simp] theorem alarm_takeoffSetpoint (p : Params K) (now : Int) (n : Node K) :
    (takeoffSetpoint p now n).alarm = none := rfl

@[simp] theorem alarm_waypointSetpoint (p : Params K) (now : Int) (n : Node K)
    (wp : Waypoint K) : (waypointSetpoint p now n wp).alarm = none := rfl

@[simp] theorem alarm_hoverSetpoint (p : Params K) (now : Int) (n : Node K) :
    (hoverSetpoint p now n).alarm = none := rfl

end Alarms

variable {K : Type} [Field K] [LinearOrder K] [FloorRing K] [FloatMath K]

section Step
variable {p : Params K} {now : Int} {n n' : Node K} {e : Event K} {out : List (Output K)}

theorem tick_alarms (went : Tick p now n n' out) (latches : LatchesClear n) (a : Alarm) :
    (alarms out).count a + (n.latched a).toNat = (n'.latched a).toNat := by
  cases went with
  | fenceAbort flying | estimateAbort flying =>
    have clear := latches.flight (flying_ne flying).2.1 (flying_ne flying).2.2
    cases a <;> simp [Node.latched, Node.landing, Node.checked, fenceLog, estimateLog, Log.alarm,
      clear]
  | fenceEmergency state | estimateEmergency state =>
    have clear := latches.landing (by simp [state])
    cases a <;> simp [Node.latched, Node.checked, fenceEmergencyLog, estimateEmergencyLog,
      Log.alarm, clear]
  | fallback =>
    cases attempt : n.lastDisarmAttemptTime <;> cases a <;>
      simp [Node.latched, Node.checked, alarms_fallbackOutputs, attempt]
  | warn _ _ _ _ _ first =>
    cases a <;> simp [Node.latched, Node.checked, Log.alarm, first]
  | retry => cases a <;> simp [alarms_retryOutputs, Node.latched]
  | reach | landRoute | hoverRoute =>
    unfold reachedLog
    split <;> cases a <;> simp [Node.latched, Node.landing, Node.checked, Log.alarm]
  | _ => cases a <;> simp [Node.latched, Node.landing, Node.checked, Log.alarm]

theorem move_alarms (moved : Move p n e n' out) (latches : LatchesClear n) (a : Alarm) :
    (alarms out).count a + (n.latched a).toNat = (n'.latched a).toNat := by
  cases moved with
  | tick _ _ went => exact tick_alarms went latches a
  | _ => cases a <;> simp [Node.latched, Node.flying, Log.alarm]

/-- Aborts are either the fence's or the estimate's, and so are emergencies; both end the
    flight. -/
structure Exclusive (n : Node K) : Prop where
  abort : n.geofenceBreached = false ∨ n.estimateBreach = false
  emergency : n.geofenceLandEmergency = false ∨ n.estimateLandEmergency = false
  landed : ∀ a, n.latched a = true → n.state.Landed

theorem tick_exclusive (went : Tick p now n n' out) (latches : LatchesClear n)
    (exclusive : Exclusive n) : Exclusive n' := by
  obtain ⟨abort, emergency, landed⟩ := exclusive
  cases went with
  | fenceAbort flying | estimateAbort flying =>
    have clear := latches.flight (flying_ne flying).2.1 (flying_ne flying).2.2
    exact ⟨by simp [clear, Node.landing, Node.checked], emergency, fun _ _ => Or.inl rfl⟩
  | fenceEmergency state | estimateEmergency state =>
    have clear := latches.landing (by simp [state])
    exact ⟨abort, by simp [clear, Node.checked], fun _ _ => Or.inr rfl⟩
  | landRoute | landHover => exact ⟨abort, emergency, fun _ _ => Or.inl rfl⟩
  | disarmed => exact ⟨abort, emergency, fun _ _ => Or.inr rfl⟩
  | fallback state | warn state => exact ⟨abort, emergency, fun _ _ => Or.inl state⟩
  | confirmed state | startRoute state | startHover state | hoverRoute state =>
    refine ⟨abort, emergency, fun a set => ?_⟩
    have before : n.state.Landed := landed a (by cases a <;> exact set)
    rw [state] at before
    exact absurd before (by decide)
  | _ => exact ⟨abort, emergency, fun a set => landed a (by cases a <;> exact set)⟩

theorem move_exclusive (moved : Move p n e n' out) (latches : LatchesClear n)
    (exclusive : Exclusive n) : Exclusive n' := by
  cases moved with
  | tick _ _ went => exact tick_exclusive went latches exclusive
  | accepted _ _ _ state =>
    refine ⟨exclusive.abort, exclusive.emergency, fun a set => ?_⟩
    have before := exclusive.landed a (by cases a <;> exact set)
    rw [state] at before
    exact absurd before (by decide)
  | _ =>
    exact ⟨exclusive.abort, exclusive.emergency, fun a set =>
      exclusive.landed a (by cases a <;> exact set)⟩

theorem tick_forced_disarms (went : Tick p now n n' out) :
    (signals out).count .forcedDisarm =
      (if .forcedDisarm ∈ signals out ∧ n'.state = .land then 1 else 0) +
        ((alarms out).count .fenceLanding + (alarms out).count .estimateLanding) := by
  cases went with
  | retry =>
    have never : .forcedDisarm ∉ signals (retryOutputs now n) :=
      not_asked (retry_only_asks now n) (by decide) (by decide)
    simp [List.count_eq_zero.mpr never, never, alarms_retryOutputs]
  | fallback state =>
    by_cases first : n.lastDisarmAttemptTime = none <;>
      simp [Node.checked, alarms_fallbackOutputs, state, first]
  | fenceEmergency | estimateEmergency =>
    simp [Log.alarm, fenceEmergencyLog, estimateEmergencyLog]
  | reach | landRoute | hoverRoute =>
    unfold reachedLog
    split <;> simp [Log.alarm]
  | _ => simp [Log.alarm, fenceLog, estimateLog]

theorem move_forced_disarms (moved : Move p n e n' out) :
    (signals out).count .forcedDisarm =
      (if .forcedDisarm ∈ signals out ∧ n'.state = .land then 1 else 0) +
        ((alarms out).count .fenceLanding + (alarms out).count .estimateLanding) := by
  cases moved with
  | tick _ _ went => exact tick_forced_disarms went
  | _ => simp [Log.alarm]

end Step

section Run
variable (p : Params K)

def raisedUpTo (run : List (Event K)) : List Alarm := alarms ((flight p).trace run)

theorem raisedUpTo_cons (past : List (Event K)) (e : Event K) :
    raisedUpTo p (e :: past) = raisedUpTo p past ++ alarms ((flight p).emitted past e) :=
  alarms_append _ _

theorem count_raised (run : List (Event K)) (a : Alarm) :
    (raisedUpTo p run).count a = (((flight p).after run).latched a).toNat := by
  apply (flight p).invariant (fun run n => (raisedUpTo p run).count a = (n.latched a).toNat)
  · cases a <;> rfl
  · intro past e before
    have raised := move_alarms (after_move p past e) (after_latches p past) a
    rw [raisedUpTo_cons, List.count_append, before]
    omega

theorem after_exclusive (run : List (Event K)) : Exclusive ((flight p).after run) := by
  apply (flight p).invariant (fun _ n => Exclusive n)
  · exact ⟨Or.inl rfl, Or.inl rfl, fun a set => by cases a <;> cases set⟩
  · intro past e before
    exact move_exclusive (after_move p past e) (after_latches p past) before

theorem count_forced_disarm (run : List (Event K)) :
    (sentUpTo p run).count .forcedDisarm = tally (FallbackDisarm p) run +
      ((raisedUpTo p run).count .fenceLanding + (raisedUpTo p run).count .estimateLanding) := by
  induction run with
  | nil => rfl
  | cons e past ih =>
    have now : (sentAt p past e).count .forcedDisarm = (if FallbackDisarm p past e then 1 else 0) +
        ((alarms ((flight p).emitted past e)).count .fenceLanding +
          (alarms ((flight p).emitted past e)).count .estimateLanding) :=
      move_forced_disarms (after_move p past e)
    rw [sentUpTo_cons, raisedUpTo_cons, List.count_append, List.count_append, List.count_append,
      tally, ih, now]
    omega

theorem one_emergency (run : List (Event K)) :
    (raisedUpTo p run).count .fenceLanding + (raisedUpTo p run).count .estimateLanding ≤ 1 := by
  rw [count_raised, count_raised]
  rcases (after_exclusive p run).emergency with clear | clear <;>
    simp [Node.latched, clear, Bool.toNat_le]

structure AlarmLaw (run : List (Event K)) : Prop where
  once : ∀ a, (raisedUpTo p run).count a = (((flight p).after run).latched a).toNat
  oneAbort : (raisedUpTo p run).count .fence + (raisedUpTo p run).count .estimate ≤ 1
  oneEmergency :
    (raisedUpTo p run).count .fenceLanding + (raisedUpTo p run).count .estimateLanding ≤ 1
  landed : raisedUpTo p run ≠ [] → (stateAfter p run).Landed

/-- No alarm repeats: in a whole flight each is raised at most once and its latch says
    whether it has been; there is at most one abort and at most one emergency, and after
    any alarm the flight is over. -/
theorem every_alarm_once (run : List (Event K)) : AlarmLaw p run where
  once := count_raised p run
  oneAbort := by
    rw [count_raised, count_raised]
    rcases (after_exclusive p run).abort with clear | clear <;>
      simp [Node.latched, clear, Bool.toNat_le]
  oneEmergency := one_emergency p run
  landed := by
    intro some_raised
    obtain ⟨a, mem⟩ := List.exists_mem_of_ne_nil _ some_raised
    have counted := List.count_pos_iff.mpr mem
    rw [count_raised, Nat.pos_iff_ne_zero, Ne, Bool.toNat_eq_zero, Bool.not_eq_false] at counted
    exact (after_exclusive p run).landed a counted

end Run

section Rate
variable [IsStrictOrderedRing K]

omit [FloorRing K] [FloatMath K] in
theorem second_le {now t : Int} (second : (1 : K) ≤ seconds (now - t)) : t + 10 ^ 9 ≤ now := by
  by_contra early
  have short : (seconds (now - t) : K) < seconds (10 ^ 9) := seconds_strictMono (by omega)
  have whole : (seconds (10 ^ 9) : K) = 1 := by
    have nonzero : (10 : K) ^ 9 ≠ 0 := by positivity
    rw [seconds, Int.cast_pow, Int.cast_ofNat, div_self nonzero]
  exact absurd second (not_le.mpr (whole ▸ short))

theorem fallback_spaced (p : Params K) (run : List (Event K)) :
    Always (Spaced Event.now (FallbackDisarm p) (10 ^ 9)) run := by
  apply always_of_forall
  intro past e disarm t last
  have moved := after_move p past e
  have tick := move_sends moved disarm.1
  have stays : ((flight p).after (e :: past)).state = .land := disarm.2
  rcases tick_forced_disarm_after (move_tick moved tick.1 tick.2) disarm.1 with
    ⟨ended, _⟩ | ⟨_, _, due⟩
  · exact absurd (ended.symm.trans stays) (by decide)
  · have attempt := due.2.2
    rw [AttemptDue, attempt_is_latest, Option.mem_def.mp last] at attempt
    simp only [reduceCtorEq, false_or, secondsSince] at attempt
    exact second_le attempt

/-- However long the vehicle stays armed after touchdown, it is not flooded with commands:
    in any stretch of a flight the forced disarms are at most two more than the seconds
    between two of its events. -/
theorem forced_disarms_are_paced (p : Params K) (newer older : List (Event K)) :
    (sentUpTo p (newer ++ older)).count .forcedDisarm ≤
        (sentUpTo p older).count .forcedDisarm + 1 ∨
      ∃ a ∈ newer, ∃ b ∈ newer, ((sentUpTo p (newer ++ older)).count .forcedDisarm : K) ≤
        (sentUpTo p older).count .forcedDisarm + 2 + seconds (b.now - a.now) := by
  have emergencies := one_emergency p (newer ++ older)
  rw [count_forced_disarm p (newer ++ older), count_forced_disarm p older]
  by_cases more : tally (FallbackDisarm p) older < tally (FallbackDisarm p) (newer ++ older)
  · obtain ⟨a, first, b, last, _, span⟩ := stretch_bounded (fallback_spaced p _) more
    refine Or.inr ⟨a, first, b, last, ?_⟩
    have paced : ((tally (FallbackDisarm p) (newer ++ older) : K) -
        tally (FallbackDisarm p) older - 1) * 10 ^ 9 ≤ (b.now - a.now : Int) := by
      have whole : ((tally (FallbackDisarm p) (newer ++ older) : Int) -
          tally (FallbackDisarm p) older - 1) * 10 ^ 9 ≤ b.now - a.now := by linarith
      exact_mod_cast whole
    have long := (le_div_iff₀ (by positivity : (0 : K) < 10 ^ 9)).mpr paced
    have few : ((raisedUpTo p (newer ++ older)).count .fenceLanding +
        (raisedUpTo p (newer ++ older)).count .estimateLanding : K) ≤ 1 := by
      exact_mod_cast emergencies
    have some_before : (0 : K) ≤ (raisedUpTo p older).count .fenceLanding +
        (raisedUpTo p older).count .estimateLanding := by positivity
    push_cast
    unfold seconds
    linarith
  · omega

/-- Low throttle from second 14 on: disarmed every second while the vehicle stays armed. -/
def stillArmed : List (Event ℚ) := tickAt 65 :: tickAt 60 :: tickAt 55 :: tickAt 45 :: sampledTwice

theorem forced_disarms_are_paced_stillArmed :
    (sentUpTo simParams stillArmed).count .forcedDisarm = 3 ∧
      ((sentUpTo simParams stillArmed).count .forcedDisarm ≤
          (sentUpTo simParams []).count .forcedDisarm + 1 ∨
        ∃ a ∈ stillArmed, ∃ b ∈ stillArmed,
          ((sentUpTo simParams stillArmed).count .forcedDisarm : ℚ) ≤
            (sentUpTo simParams []).count .forcedDisarm + 2 + seconds (b.now - a.now)) :=
  ⟨by decide +kernel, by simpa using forced_disarms_are_paced simParams stillArmed []⟩

end Rate
end OffboardControl
