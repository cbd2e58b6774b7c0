import GpsDeniedDrone.FlightRuns

/-!
The flight as seen from outside. A signal is what a published message asks of PX4; the
grammar says which signals a callback may send in which flight state and where it may
leave the node. The grammar knows no positions, clocks or parameters; the node refines
it, and the order of commands in a flight is read off it.
-/
namespace OffboardControl
open FrameTransforms Messages PastTime

inductive Signal where
  | heartbeat | setpoint | offboardMode | arm | forcedDisarm | navLand | other
  deriving DecidableEq, Repr

section Signals
variable {K : Type} [Field K] [LinearOrder K]

def commandSignal (msg : VehicleCommand K) : Signal :=
  if msg.command = vehicleCmdNavLand then .navLand
  else if msg.command = vehicleCmdDoSetMode ∧ msg.param1 = 1 ∧ msg.param2 = offboardMainMode then
    .offboardMode
  else if msg.command = vehicleCmdComponentArmDisarm ∧ msg.param1 = 1 then .arm
  else if msg.command = vehicleCmdComponentArmDisarm ∧ msg.param1 = 0 ∧
      msg.param2 = forceMagicValue then .forcedDisarm
  else .other

/-- Log lines, exceptions and the exit publish nothing. -/
def Output.signal : Output K → Option Signal
  | .heartbeat _ => some .heartbeat
  | .setpoint _ => some .setpoint
  | .command msg => some (commandSignal msg)
  | .log _ => none
  | .raised _ => none
  | .exit => none

def signals (out : List (Output K)) : List Signal := out.filterMap Output.signal

@[simp] theorem signals_nil : signals ([] : List (Output K)) = [] := rfl

@[simp] theorem signals_cons (o : Output K) (out : List (Output K)) :
    signals (o :: out) = o.signal.toList ++ signals out := by
  cases sent : o.signal <;> simp [signals, sent]

@[simp] theorem signals_append (a b : List (Output K)) :
    signals (a ++ b) = signals a ++ signals b := List.filterMap_append

@[simp] theorem signal_heartbeatNow (now : Int) :
    (heartbeatNow now : Output K).signal = some .heartbeat := rfl

@[simp] theorem signal_log (line : Log K) : (Output.log line).signal = none := rfl

@[simp] theorem signal_raised (fault : Fault) :
    (Output.raised fault : Output K).signal = none := rfl

@[simp] theorem signal_exit : (Output.exit : Output K).signal = none := rfl

@[simp] theorem signal_navLand (now : Int) : (navLand now : Output K).signal = some .navLand := by
  simp [navLand, vehicleCommand, Output.signal, commandSignal]

@[simp] theorem signal_forcedDisarm (now : Int) :
    (forcedDisarm now : Output K).signal = some .forcedDisarm := by
  simp [forcedDisarm, vehicleCommand, Output.signal, commandSignal, vehicleCmdNavLand,
    vehicleCmdDoSetMode, vehicleCmdComponentArmDisarm]

@[simp] theorem signal_armCommand (now : Int) : (armCommand now : Output K).signal = some .arm := by
  simp [armCommand, vehicleCommand, Output.signal, commandSignal, vehicleCmdNavLand,
    vehicleCmdDoSetMode, vehicleCmdComponentArmDisarm]

@[simp] theorem signal_offboardModeCommand (now : Int) :
    (offboardModeCommand now : Output K).signal = some .offboardMode := by
  simp [offboardModeCommand, vehicleCommand, Output.signal, commandSignal, vehicleCmdNavLand,
    vehicleCmdDoSetMode]

@[simp] theorem signals_fallbackOutputs (now : Int) (n : Node K) :
    signals (fallbackOutputs now n) = [.forcedDisarm] := by
  by_cases first : n.lastDisarmAttemptTime = none <;> simp [fallbackOutputs, first]

theorem signals_retryOutputs (now : Int) (n : Node K) :
    signals (retryOutputs now n) =
      (if offboardConfirmed n then [] else [.offboardMode]) ++
        (if armedConfirmed n then [] else [.arm]) := by
  cases offboard : offboardConfirmed n <;> cases armed : armedConfirmed n <;>
    simp [retryOutputs, offboard, armed]

def SetpointAt (out : List (Output K)) (x y z yaw : K) : Prop :=
  ∃ msg, .setpoint msg ∈ out ∧ msg.position = ⟨x, y, z⟩ ∧ msg.yaw = yaw

theorem retry_only_asks (now : Int) (n : Node K) :
    ∀ a ∈ signals (retryOutputs now n), a = .offboardMode ∨ a = .arm := by
  intro a mem
  rw [signals_retryOutputs] at mem
  rcases List.mem_append.mp mem with mem | mem <;> split at mem <;> simp_all

variable [FloatMath K]

theorem setpointAt_of_mem {p : Params K} {now : Int} {n : Node K} {x y z yaw : K}
    {out : List (Output K)} (sent : setpointTo p now n x y z yaw ∈ out) :
    SetpointAt out x y z yaw := ⟨_, sent, rfl, rfl⟩

@[simp] theorem signal_takeoffSetpoint (p : Params K) (now : Int) (n : Node K) :
    (takeoffSetpoint p now n).signal = some .setpoint := rfl

@[simp] theorem signal_waypointSetpoint (p : Params K) (now : Int) (n : Node K)
    (wp : Waypoint K) : (waypointSetpoint p now n wp).signal = some .setpoint := rfl

@[simp] theorem signal_hoverSetpoint (p : Params K) (now : Int) (n : Node K) :
    (hoverSetpoint p now n).signal = some .setpoint := rfl

end Signals

/-- `Grammar s word s'`: in state `s` a callback may send `word` and leave the node in
    `s'`. -/
inductive Grammar : FlightState → List Signal → FlightState → Prop where
  | silent (s : FlightState) : Grammar s [] s
  | goal : Grammar .hover [] .navWaypoints
  | request (asks : List Signal) (only : ∀ a ∈ asks, a = .offboardMode ∨ a = .arm) :
      Grammar .init (.heartbeat :: .setpoint :: asks) .init
  | climb : Grammar .init [.heartbeat, .setpoint] .takeoff
  | fly (s : FlightState) (flying : s.Flying) : Grammar s [.heartbeat, .setpoint] s
  | fault (s : FlightState) (route : s.OnRoute) : Grammar s [.heartbeat] s
  | startRoute : Grammar .takeoff [.heartbeat, .setpoint] .waypoints
  | startHover : Grammar .takeoff [.heartbeat, .setpoint] .hover
  | arrive : Grammar .navWaypoints [.heartbeat, .setpoint] .hover
  | finish (s : FlightState) (flying : s.Flying) :
      Grammar s [.heartbeat, .setpoint, .navLand] .land
  | abort (s : FlightState) (flying : s.Flying) : Grammar s [.heartbeat, .navLand] .land
  | descend : Grammar .land [.heartbeat] .land
  | fallback : Grammar .land [.heartbeat, .forcedDisarm] .land
  | emergency : Grammar .land [.heartbeat, .forcedDisarm] .done
  | confirmed : Grammar .land [.heartbeat] .done
  | exit : Grammar .done [.heartbeat] .done

variable {K : Type} [Field K] [LinearOrder K] [FloorRing K] [FloatMath K]

theorem tick_grammar {p : Params K} {now : Int} {n n' : Node K} {out : List (Output K)}
    (went : Tick p now n n' out) : Grammar n.state (signals out) n'.state := by
  cases went with
  | stream state => simpa [state] using Grammar.request [] (by simp)
  | confirmed state => simpa [state] using Grammar.climb
  | rateFault state => simpa [state] using Grammar.request [] (by simp)
  | retry state =>
    simpa [state] using Grammar.request _ (retry_only_asks now n)
  | fenceAbort flying => simpa [Node.landing] using Grammar.abort _ flying
  | estimateAbort flying => simpa [Node.landing] using Grammar.abort _ flying
  | climb state => simpa [Node.checked, state] using Grammar.fly .takeoff (by decide)
  | startRoute state => simpa [state] using Grammar.startRoute
  | startHover state => simpa [state] using Grammar.startHover
  | indexFault route => simpa [Node.checked] using Grammar.fault _ route
  | cruise route => simpa [Node.checked] using Grammar.fly _ (onRoute_flying route)
  | reach route => simpa [Node.checked] using Grammar.fly _ (onRoute_flying route)
  | landRoute state =>
    simpa [Node.landing, state] using Grammar.finish .waypoints (by decide)
  | hoverRoute state => simpa [state] using Grammar.arrive
  | hold state => simpa [Node.checked, state] using Grammar.fly .hover (by decide)
  | landHover state => simpa [Node.landing, state] using Grammar.finish .hover (by decide)
  | fenceEmergency state => simpa [state] using Grammar.emergency
  | estimateEmergency state => simpa [state] using Grammar.emergency
  | disarmed state => simpa [state] using Grammar.confirmed
  | fallback state => simpa [Node.checked, state] using Grammar.fallback
  | warn state => simpa [Node.checked, state] using Grammar.descend
  | descend state => simpa [Node.checked, state] using Grammar.descend
  | exit state => simpa [state] using Grammar.exit

/-- The node refines the grammar. -/
theorem move_grammar {p : Params K} {n n' : Node K} {e : Event K} {out : List (Output K)}
    (moved : Move p n e n' out) : Grammar n.state (signals out) n'.state := by
  cases moved with
  | tick now running went => exact tick_grammar went
  | accepted _ goal running state nonempty =>
    simpa [Node.flying, state] using Grammar.goal
  | refused | emptyPlan => simpa using Grammar.silent n.state
  | _ => exact Grammar.silent n.state

/- What the grammar alone says about the order of a flight. -/

def FlightState.rank : FlightState → Nat
  | .init => 0
  | .takeoff => 1
  | .waypoints => 2
  | .hover => 3
  | .navWaypoints => 3
  | .land => 4
  | .done => 5

def FlightState.Landed (s : FlightState) : Prop := s = .land ∨ s = .done

instance (s : FlightState) : Decidable s.Landed := inferInstanceAs (Decidable (_ ∨ _))

section Grammar
variable {s s' : FlightState} {word : List Signal}

theorem not_asked {asks : List Signal} (only : ∀ a ∈ asks, a = .offboardMode ∨ a = .arm)
    {a : Signal} (mode : a ≠ .offboardMode) (arm : a ≠ .arm) : a ∉ asks := by
  intro mem
  rcases only a mem with same | same
  · exact mode same
  · exact arm same

theorem flying_rank (flying : s.Flying) : s.rank < 4 := by
  rcases flying with rfl | rfl | rfl | rfl <;> decide

theorem grammar_rank (g : Grammar s word s') : s.rank ≤ s'.rank := by
  cases g with
  | finish _ flying | abort _ flying => exact Nat.le_of_lt (flying_rank flying)
  | silent | fly | fault => exact Nat.le_refl _
  | _ => decide

theorem grammar_requests (g : Grammar s word s') (asked : .offboardMode ∈ word ∨ .arm ∈ word) :
    s = .init := by
  cases g with
  | request => rfl
  | _ => simp at asked

theorem grammar_land_iff (g : Grammar s word s') : s ≠ .land ∧ s' = .land ↔ .navLand ∈ word := by
  cases g with
  | request asks only =>
    have never : .navLand ∉ asks := not_asked only (by decide) (by decide)
    simp [never]
  | finish _ flying | abort _ flying => simp [(flying_ne flying).2.1]
  | fly _ flying => simp [(flying_ne flying).2.1]
  | fault _ route => simp [(flying_ne (onRoute_flying route)).2.1]
  | silent => simp
  | _ => simp

theorem grammar_landed (g : Grammar s word s') (landed : s.Landed) :
    s'.Landed ∧ .navLand ∉ word ∧ .setpoint ∉ word := by
  cases g with
  | silent => exact ⟨landed, by simp, by simp⟩
  | fly _ flying | finish _ flying | abort _ flying =>
    exact absurd landed (not_or.mpr (flying_ne flying).2)
  | fault _ route => exact absurd landed (not_or.mpr (flying_ne (onRoute_flying route)).2)
  | _ => simp_all [FlightState.Landed]

theorem grammar_forced_disarm (g : Grammar s word s') (cut : .forcedDisarm ∈ word) :
    s = .land := by
  cases g with
  | request asks only =>
    have never : .forcedDisarm ∉ asks := not_asked only (by decide) (by decide)
    simp [never] at cut
  | _ => simp_all

theorem grammar_count_navLand (g : Grammar s word s') :
    word.count .navLand + (if s.Landed then 1 else 0) = if s'.Landed then 1 else 0 := by
  cases g with
  | request asks only =>
    have never : .navLand ∉ asks := not_asked only (by decide) (by decide)
    simp [List.count_eq_zero_of_not_mem never, FlightState.Landed]
  | finish _ flying | abort _ flying =>
    have airborne := not_or.mpr (flying_ne flying).2
    simp [FlightState.Landed, airborne]
  | _ => simp [FlightState.Landed]

theorem grammar_setpoint_before_land (g : Grammar s word s') :
    word.Pairwise fun a b => a = .navLand → b ≠ .setpoint := by
  cases g with
  | request asks only =>
    have never : ∀ a ∈ asks, a ≠ .navLand := fun a mem => by
      rcases only a mem with rfl | rfl <;> decide
    simp only [List.pairwise_cons]
    have silent : asks.Pairwise fun a b => a = .navLand → b ≠ .setpoint := by
      apply List.pairwise_of_forall_mem_list
      intro a mem b _ land
      exact absurd land (never a mem)
    exact ⟨by simp, by simp, silent⟩
  | _ => simp

end Grammar

section Runs
variable (p : Params K)

def sentUpTo (run : List (Event K)) : List Signal := signals ((flight p).trace run)

def sentAt (past : List (Event K)) (e : Event K) : List Signal :=
  signals ((flight p).emitted past e)

def stateAfter (run : List (Event K)) : FlightState := ((flight p).after run).state

theorem step_grammar (past : List (Event K)) (e : Event K) :
    Grammar (stateAfter p past) (sentAt p past e) (stateAfter p (e :: past)) :=
  move_grammar (after_move p past e)

theorem sentUpTo_cons (past : List (Event K)) (e : Event K) :
    sentUpTo p (e :: past) = sentUpTo p past ++ sentAt p past e := signals_append _ _

theorem rank_grows (later past : List (Event K)) :
    (stateAfter p past).rank ≤ (stateAfter p (later ++ past)).rank :=
  (flight p).rank_mono (fun n => n.state.rank)
    (fun past e => grammar_rank (step_grammar p past e)) later past

theorem count_navLand (run : List (Event K)) :
    (sentUpTo p run).count .navLand = if (stateAfter p run).Landed then 1 else 0 := by
  apply (flight p).invariant
    (fun run n => (sentUpTo p run).count .navLand = if n.state.Landed then 1 else 0)
  · rfl
  · intro past e before
    have counted := grammar_count_navLand (step_grammar p past e)
    rw [sentUpTo_cons, List.count_append, before]
    unfold stateAfter at counted
    omega

theorem no_setpoint_after_navLand (run : List (Event K)) :
    (sentUpTo p run).Pairwise fun a b => a = .navLand → b ≠ .setpoint := by
  have ordered : ((flight p).trace run).Pairwise fun a b =>
      a.signal = some .navLand → ¬ b.signal = some .setpoint := by
    apply (flight p).trace_ordered (fun n => n.state.Landed)
    · intro past e
      have word := grammar_setpoint_before_land (step_grammar p past e)
      apply (List.pairwise_filterMap.mp word).imp
      intro a b apart land setpoint
      exact apart _ land _ setpoint rfl rfl
    · intro past e first
      obtain ⟨o, mem, land⟩ := first
      have sent : .navLand ∈ sentAt p past e := List.mem_filterMap.mpr ⟨o, mem, land⟩
      exact Or.inl ((grammar_land_iff (step_grammar p past e)).mpr sent).2
    · intro past e landed
      exact (grammar_landed (step_grammar p past e) landed).1
    · intro past e landed o mem setpoint
      have sent : .setpoint ∈ sentAt p past e := List.mem_filterMap.mpr ⟨o, mem, setpoint⟩
      exact (grammar_landed (step_grammar p past e) landed).2.2 sent
  apply List.pairwise_filterMap.mpr
  apply ordered.imp
  intro a b apart x sent_x y sent_y land setpoint
  exact apart (land ▸ sent_x) (setpoint ▸ sent_y)

end Runs

/- Entering TAKEOFF. -/

theorem move_init_counts {p : Params K} {n n' : Node K} {e : Event K} {out : List (Output K)}
    (moved : Move p n e n' out) (state : n'.state = .init) :
    n.state = .init ∧
      n'.heartbeatCount = n.heartbeatCount + (signals out).count .heartbeat ∧
      n'.heartbeatCount = n.heartbeatCount + (signals out).count .setpoint := by
  cases moved with
  | tick now running went =>
    cases went with
    | stream before | rateFault before => simp [before]
    | retry before =>
      have asks := retry_only_asks now n
      have beats : (signals (retryOutputs now n)).count .heartbeat = 0 :=
        List.count_eq_zero_of_not_mem (not_asked asks (by decide) (by decide))
      have points : (signals (retryOutputs now n)).count .setpoint = 0 :=
        List.count_eq_zero_of_not_mem (not_asked asks (by decide) (by decide))
      simp [before, beats, points]
    | indexFault route | cruise route | reach route =>
      exact absurd state (flying_ne (onRoute_flying route)).1
    | climb before | hold before | fallback before | warn before | descend before
    | exit before => exact absurd (before.symm.trans state) (by decide)
    | _ => cases state
  | accepted => cases state
  | _ => exact ⟨state, by simp, by simp⟩

theorem init_counts (p : Params K) {run : List (Event K)} (state : stateAfter p run = .init) :
    ((flight p).after run).heartbeatCount = (sentUpTo p run).count .heartbeat ∧
      ((flight p).after run).heartbeatCount = (sentUpTo p run).count .setpoint := by
  revert state
  apply (flight p).invariant (fun run n => n.state = .init →
    n.heartbeatCount = (sentUpTo p run).count .heartbeat ∧
      n.heartbeatCount = (sentUpTo p run).count .setpoint)
  · intro _
    exact ⟨rfl, rfl⟩
  · intro past e ih state
    obtain ⟨before, beats, points⟩ := move_init_counts (after_move p past e) state
    obtain ⟨earlier_beats, earlier_points⟩ := ih before
    rw [sentUpTo_cons, List.count_append, List.count_append]
    constructor
    · rw [beats, earlier_beats]
      rfl
    · rw [points, earlier_points]
      rfl

theorem move_takeoff {p : Params K} {n n' : Node K} {e : Event K} {out : List (Output K)}
    (moved : Move p n e n' out) (before : n.state ≠ .takeoff) (entered : n'.state = .takeoff) :
    n.process = .running ∧ e.callback = .control ∧ n.state = .init ∧
      signals out = [.heartbeat, .setpoint] ∧
      offboardHeartbeatsBeforeSwitch ≤ n.heartbeatCount + 1 ∧
      offboardConfirmed n = true ∧ armedConfirmed n = true := by
  cases moved with
  | tick now running went =>
    cases went with
    | confirmed state enough both =>
      exact ⟨running, rfl, state, by simp, enough, (Bool.and_eq_true_iff.mp both).1,
        (Bool.and_eq_true_iff.mp both).2⟩
    | stream | rateFault | retry | climb | indexFault | cruise | reach | hold | fallback | warn
    | descend | exit => exact absurd entered before
    | _ => cases entered
  | accepted => cases entered
  | _ => exact absurd entered before

theorem takeoff_entry (p : Params K) {past : List (Event K)} {e : Event K}
    (before : stateAfter p past ≠ .takeoff) (entered : stateAfter p (e :: past) = .takeoff) :
    e.callback = .control ∧ 10 ≤ (sentUpTo p (e :: past)).count .heartbeat ∧
      10 ≤ (sentUpTo p (e :: past)).count .setpoint ∧
      (latestStatus past).navState = navigationStateOffboard ∧
      (latestStatus past).armingState = armingStateArmed := by
  obtain ⟨running, control, state, word, enough, offboard, armed⟩ :=
    move_takeoff (after_move p past e) before entered
  obtain ⟨beats, points⟩ := init_counts p state
  have sent : sentAt p past e = [.heartbeat, .setpoint] := word
  rw [← status_is_latest running, sentUpTo_cons, sent, List.count_append, List.count_append,
    ← beats, ← points]
  exact ⟨control, enough, enough, by simpa [offboardConfirmed] using offboard,
    by simpa [armedConfirmed] using armed⟩

theorem move_goal {p : Params K} {n n' : Node K} {e : Event K} {out : List (Output K)}
    (moved : Move p n e n' out) (goal : e.callback.IsGoal) :
    n'.state = n.state ∨ (n.state = .hover ∧ n'.state = .navWaypoints) := by
  cases moved with
  | accepted _ goal running state nonempty => exact Or.inr ⟨state, rfl⟩
  | stopped | refused | emptyPlan => exact Or.inl rfl
  | _ => exact goal.elim

theorem move_sends {p : Params K} {n n' : Node K} {e : Event K} {out : List (Output K)}
    (moved : Move p n e n' out) {a : Signal} (sent : a ∈ signals out) :
    e.callback = .control ∧ n.process = .running := by
  cases moved with
  | tick _ running => exact ⟨rfl, running⟩
  | accepted | refused | emptyPlan => simp at sent
  | _ => cases sent

theorem rank_unique {s t : FlightState} (once : s = .init ∨ s = .takeoff ∨ s = .waypoints)
    (same : t.rank = s.rank) : t = s := by
  rcases once with rfl | rfl | rfl <;> cases t <;> first | rfl | cases same

theorem rank_done {s : FlightState} (high : FlightState.done.rank ≤ s.rank) : s = .done := by
  cases s <;> first | rfl | exact absurd high (by decide)

theorem never_reentered (p : Params K) {later between past : List (Event K)} {s : FlightState}
    (once : s = .init ∨ s = .takeoff ∨ s = .waypoints) (was : stateAfter p past = s)
    (left : stateAfter p (between ++ past) ≠ s) :
    stateAfter p (later ++ (between ++ past)) ≠ s := by
  intro back
  have up := rank_grows p between past
  have further := rank_grows p later (between ++ past)
  rw [was] at up
  rw [back] at further
  exact left (rank_unique once (Nat.le_antisymm further up))

structure CallbackLaw (p : Params K) (past : List (Event K)) (e : Event K) : Prop where
  requests : .offboardMode ∈ sentAt p past e ∨ .arm ∈ sentAt p past e →
    stateAfter p past = .init
  takeoff : stateAfter p past ≠ .takeoff → stateAfter p (e :: past) = .takeoff →
    e.callback = .control ∧ 10 ≤ (sentUpTo p (e :: past)).count .heartbeat ∧
      10 ≤ (sentUpTo p (e :: past)).count .setpoint ∧
      (latestStatus past).navState = navigationStateOffboard ∧
      (latestStatus past).armingState = armingStateArmed
  land : stateAfter p past ≠ .land ∧ stateAfter p (e :: past) = .land ↔
    .navLand ∈ sentAt p past e
  landTick : .navLand ∈ sentAt p past e → e.callback = .control
  landLeft : stateAfter p past = .land →
    stateAfter p (e :: past) = .land ∨ stateAfter p (e :: past) = .done
  doneKept : stateAfter p past = .done → stateAfter p (e :: past) = .done
  disarm : .forcedDisarm ∈ sentAt p past e → .navLand ∈ sentUpTo p past
  goals : e.callback.IsGoal → stateAfter p (e :: past) = stateAfter p past ∨
    (stateAfter p past = .hover ∧ stateAfter p (e :: past) = .navWaypoints)

structure FlightLaw (p : Params K) (run : List (Event K)) : Prop where
  callbacks : Always (CallbackLaw p) run
  once : ∀ s, s = .init ∨ s = .takeoff ∨ s = .waypoints →
    ∀ later between past, run = later ++ (between ++ past) → stateAfter p past = s →
      stateAfter p (between ++ past) ≠ s → stateAfter p run ≠ s
  oneLanding : (sentUpTo p run).count .navLand ≤ 1
  silence : (sentUpTo p run).Pairwise fun a b => a = .navLand → b ≠ .setpoint

theorem callback_law (p : Params K) (past : List (Event K)) (e : Event K) :
    CallbackLaw p past e where
  requests := grammar_requests (step_grammar p past e)
  takeoff := takeoff_entry p
  land := grammar_land_iff (step_grammar p past e)
  landTick sent := (move_sends (after_move p past e) sent).1
  landLeft landing := (grammar_landed (step_grammar p past e) (Or.inl landing)).1
  doneKept ended := by
    have up := grammar_rank (step_grammar p past e)
    rw [ended] at up
    exact rank_done up
  disarm cut := by
    have landing := grammar_forced_disarm (step_grammar p past e) cut
    have counted := count_navLand p past
    rw [landing] at counted
    exact List.count_pos_iff.mp (by rw [counted]; decide)
  goals := move_goal (after_move p past e)

theorem command_and_state_grammar (p : Params K) (run : List (Event K)) : FlightLaw p run where
  callbacks := always_of_forall (callback_law p) run
  once := by
    intro s once later between past split was left
    subst split
    exact never_reentered p once was left
  oneLanding := by
    rw [count_navLand]
    split <;> decide
  silence := no_setpoint_after_navLand p run

end OffboardControl
