import GpsDeniedDrone.Cadence
import GpsDeniedDrone.FlightGrammar
import GpsDeniedDrone.Readings

/-!
INIT: the stream of heartbeats and setpoints, and the requests that are repeated until
`vehicle_status` confirms both. The retry's modulus is of a counter that counts ticks.
-/
namespace OffboardControl
open FrameTransforms Messages PastTime Cadence

section Rate
variable {K : Type} [Field K] [LinearOrder K] [FloorRing K]

/-- `int(self._control_rate_hz)`, where it is positive. -/
def retryPeriod (p : Params K) : Nat := (toInt p.controlRateHz).toNat

variable {p : Params K} (rate : 1 ≤ p.controlRateHz)
include rate

theorem toInt_rate : toInt p.controlRateHz = ⌊p.controlRateHz⌋ :=
  if_pos (zero_le_one.trans rate)

theorem retryPeriod_eq : (retryPeriod p : Int) = toInt p.controlRateHz := by
  rw [retryPeriod, Int.toNat_of_nonneg]
  rw [toInt_rate rate]
  exact Int.floor_nonneg.mpr (zero_le_one.trans rate)

theorem retryPeriod_pos : 0 < retryPeriod p := by
  have one : (1 : Int) ≤ ⌊p.controlRateHz⌋ := Int.le_floor.mpr (by simpa using rate)
  have whole := retryPeriod_eq rate
  rw [toInt_rate rate] at whole
  omega

theorem rate_ne_zero : toInt p.controlRateHz ≠ 0 := by
  have positive := retryPeriod_pos rate
  rw [← retryPeriod_eq rate]
  omega

theorem fmod_rate (k : Nat) :
    (k : Int).fmod (toInt p.controlRateHz) = 0 ↔ retryPeriod p ∣ k := by
  rw [← retryPeriod_eq rate, ← Int.dvd_iff_fmod_eq_zero, Int.natCast_dvd_natCast]

variable [IsStrictOrderedRing K] in
theorem retryPeriod_le_second : (retryPeriod p : K) * (1 / p.controlRateHz) ≤ 1 := by
  have positive : 0 < p.controlRateHz := zero_lt_one.trans_le rate
  have whole : ((retryPeriod p : Int) : K) ≤ p.controlRateHz := by
    rw [retryPeriod_eq rate, toInt_rate rate]
    exact Int.floor_le _
  rw [mul_one_div, div_le_one positive]
  exact_mod_cast whole

end Rate

section Messages
variable {K : Type}

def IsTick (e : Event K) : Prop := e.callback = .control

instance (e : Event K) : Decidable (IsTick e) :=
  match e with
  | ⟨_, .control⟩ => isTrue rfl
  | ⟨_, .localPosition _⟩ | ⟨_, .vehicleStatus _⟩ | ⟨_, .landDetected _⟩ | ⟨_, .goalPose _⟩
  | ⟨_, .navPath _⟩ | ⟨_, .setWaypoints _⟩ => isFalse nofun

def ticks (run : List (Event K)) : Nat := number IsTick run

def Confirmed (past : List (Event K)) : Prop :=
  (latestStatus past).navState = navigationStateOffboard ∧
    (latestStatus past).armingState = armingStateArmed

instance (past : List (Event K)) : Decidable (Confirmed past) :=
  inferInstanceAs (Decidable (_ ∧ _))

def asks (past : List (Event K)) : List Signal :=
  (if (latestStatus past).navState = navigationStateOffboard then [] else [.offboardMode]) ++
    (if (latestStatus past).armingState = armingStateArmed then [] else [.arm])

theorem asks_only (past : List (Event K)) :
    .heartbeat ∉ asks past ∧ .setpoint ∉ asks past := by
  unfold asks
  split_ifs <;> simp

theorem asks_some {past : List (Event K)} (missing : ¬ Confirmed past) :
    .offboardMode ∈ asks past ∨ .arm ∈ asks past := by
  unfold asks
  rcases not_and_or.mp missing with mode | arm
  · simp [mode]
  · simp [arm]

end Messages

variable {K : Type} [Field K] [LinearOrder K] [FloorRing K] [FloatMath K]

def Retry (p : Params K) : Moment (Event K) := fun past e =>
  .offboardMode ∈ sentAt p past e ∨ .arm ∈ sentAt p past e

instance (p : Params K) (past : List (Event K)) (e : Event K) : Decidable (Retry p past e) :=
  inferInstanceAs (Decidable (_ ∨ _))

section Tick
variable {p : Params K} {now : Int} {n n' : Node K} {out : List (Output K)}

theorem tick_init (went : Tick p now n n' out) (state : n.state = .init)
    (rate : toInt p.controlRateHz ≠ 0) :
    takeoffSetpoint p now n ∈ out ∧ n'.heartbeatCount = n.heartbeatCount + 1 ∧
      n'.process = n.process ∧
      (if offboardHeartbeatsBeforeSwitch ≤ n.heartbeatCount + 1 ∧
          (offboardConfirmed n && armedConfirmed n) = true then
        n'.state = .takeoff ∧ signals out = [.heartbeat, .setpoint]
      else n'.state = .init ∧ signals out = [.heartbeat, .setpoint] ++
        if offboardHeartbeatsBeforeSwitch ≤ n.heartbeatCount + 1 ∧
            ((n.heartbeatCount + 1 : Nat) : Int).fmod (toInt p.controlRateHz) = 0 then
          signals (retryOutputs now n)
        else []) := by
  cases went with
  | stream _ quiet =>
    refine ⟨by simp, rfl, rfl, ?_⟩
    rcases quiet with few | ⟨missing, _, idle⟩
    · have early : ¬ offboardHeartbeatsBeforeSwitch ≤ n.heartbeatCount + 1 := Nat.not_le.mpr few
      simp [early, state]
    · have both : (offboardConfirmed n && armedConfirmed n) ≠ true := Bool.eq_false_iff.mp missing
      rw [if_neg fun enter => both enter.2, if_neg fun due => idle due.2]
      simp [state]
  | confirmed _ enough both =>
    exact ⟨by simp, rfl, rfl, by simp [enough, both]⟩
  | rateFault _ _ _ zero => exact absurd zero rate
  | retry _ enough missing _ due =>
    have both : (offboardConfirmed n && armedConfirmed n) ≠ true := Bool.eq_false_iff.mp missing
    refine ⟨by simp, rfl, rfl, ?_⟩
    rw [if_neg fun enter => both enter.2, if_pos ⟨enough, due⟩]
    simp [state]
  | fenceAbort flying | estimateAbort flying =>
    exact absurd state (flying_ne flying).1
  | indexFault route | cruise route | reach route =>
    exact absurd state (flying_ne (onRoute_flying route)).1
  | _ before => exact absurd (state.symm.trans before) (by decide)

theorem move_process {e : Event K} (moved : Move p n e n' out) (other : ¬ IsTick e) :
    n'.process = n.process := by
  cases moved with
  | tick => exact absurd rfl other
  | _ => rfl

theorem init_kept {e : Event K} (moved : Move p n e n' out) (other : ¬ IsTick e)
    (state : n.state = .init) : n'.state = .init := by
  cases moved with
  | tick => exact absurd rfl other
  | accepted _ _ _ hovering => exact absurd (state.symm.trans hovering) (by decide)
  | _ => exact state

theorem move_counts_ticks {e : Event K} (moved : Move p n e n' out)
    (running : n.process = .running) (state : n'.state = .init) :
    n'.heartbeatCount = n.heartbeatCount + if IsTick e then 1 else 0 := by
  have before := (move_init_counts moved state).1
  by_cases tick : IsTick e
  · rw [if_pos tick]
    cases move_tick moved tick running with
    | stream | rateFault | retry => rfl
    | confirmed => cases state
    | fenceAbort flying | estimateAbort flying => exact absurd before (flying_ne flying).1
    | indexFault route | cruise route | reach route =>
      exact absurd before (flying_ne (onRoute_flying route)).1
    | _ other => exact absurd (before.symm.trans other) (by decide)
  · rw [if_neg tick, Nat.add_zero]
    cases moved with
    | tick => exact absurd rfl tick
    | _ => rfl

end Tick

section Init
variable {p : Params K} {past run : List (Event K)} {e : Event K}

theorem init_before (state : stateAfter p (e :: past) = .init) : stateAfter p past = .init :=
  (move_init_counts (after_move p past e) state).1

theorem init_ticks (running : ((flight p).after run).process = .running)
    (state : stateAfter p run = .init) : ((flight p).after run).heartbeatCount = ticks run := by
  induction run with
  | nil => rfl
  | cons e past ih =>
    have before := running_before running
    rw [move_counts_ticks (after_move p past e) before state, ih before (init_before state)]
    rfl

theorem init_running (rate : toInt p.controlRateHz ≠ 0) (state : stateAfter p run = .init) :
    ((flight p).after run).process = .running := by
  induction run with
  | nil => rfl
  | cons e past ih =>
    have before := init_before state
    have moved := after_move p past e
    by_cases tick : IsTick e
    · obtain ⟨_, _, kept, _⟩ := tick_init (move_tick moved tick (ih before)) before rate
      exact kept.trans (ih before)
    · exact (move_process moved tick).trans (ih before)

end Init

/-- The law of one tick read in INIT after `past`: it is the tick of that number. -/
structure InitTick (p : Params K) (past : List (Event K)) (e : Event K) : Prop where
  heartbeat : (sentAt p past e).count .heartbeat = 1
  setpoint : (sentAt p past e).count .setpoint = 1
  takeoffTarget : SetpointAt ((flight p).emitted past e) 0 0 p.targetZ 0
  quiet : ticks past + 1 < offboardHeartbeatsBeforeSwitch →
    sentAt p past e = [.heartbeat, .setpoint]
  idle : ¬ retryPeriod p ∣ ticks past + 1 → sentAt p past e = [.heartbeat, .setpoint]
  retry : offboardHeartbeatsBeforeSwitch ≤ ticks past + 1 → ¬ Confirmed past →
    retryPeriod p ∣ ticks past + 1 →
    sentAt p past e = [.heartbeat, .setpoint] ++ asks past
  entered : stateAfter p (e :: past) = .takeoff ↔
    offboardHeartbeatsBeforeSwitch ≤ ticks past + 1 ∧ Confirmed past
  stayed : stateAfter p (e :: past) ≠ .takeoff → stateAfter p (e :: past) = .init
  silent : stateAfter p (e :: past) = .takeoff → sentAt p past e = [.heartbeat, .setpoint]

theorem confirmed_iff {p : Params K} {past : List (Event K)}
    (running : ((flight p).after past).process = .running) :
    (offboardConfirmed ((flight p).after past) && armedConfirmed ((flight p).after past)) = true ↔
      Confirmed past := by
  simp [offboardConfirmed, armedConfirmed, status_is_latest running, Confirmed]

theorem signals_retry_latest {p : Params K} {past : List (Event K)} (now : Int)
    (running : ((flight p).after past).process = .running) :
    signals (retryOutputs now ((flight p).after past)) = asks past := by
  simp [signals_retryOutputs, offboardConfirmed, armedConfirmed, status_is_latest running, asks]

section Law
variable {p : Params K} (rate : 1 ≤ p.controlRateHz)
include rate

theorem init_tick_cases {past : List (Event K)} {e : Event K}
    (state : stateAfter p past = .init) (tick : IsTick e) :
    takeoffSetpoint p e.now ((flight p).after past) ∈ (flight p).emitted past e ∧
      if offboardHeartbeatsBeforeSwitch ≤ ticks past + 1 ∧ Confirmed past then
        stateAfter p (e :: past) = .takeoff ∧ sentAt p past e = [.heartbeat, .setpoint]
      else stateAfter p (e :: past) = .init ∧ sentAt p past e = [.heartbeat, .setpoint] ++
        if offboardHeartbeatsBeforeSwitch ≤ ticks past + 1 ∧ retryPeriod p ∣ ticks past + 1 then
          asks past else [] := by
  have nonzero := rate_ne_zero rate
  have running := init_running nonzero state
  have counted := init_ticks running state
  have went := after_tick tick running
  obtain ⟨target, _, _, outcome⟩ := tick_init went state nonzero
  refine ⟨target, ?_⟩
  simp only [counted, confirmed_iff running, fmod_rate rate,
    signals_retry_latest e.now running] at outcome
  exact outcome

theorem init_tick {past : List (Event K)} {e : Event K} (state : stateAfter p past = .init)
    (tick : IsTick e) : InitTick p past e := by
  obtain ⟨target, outcome⟩ := init_tick_cases rate state tick
  have only := asks_only past
  by_cases enter : offboardHeartbeatsBeforeSwitch ≤ ticks past + 1 ∧ Confirmed past
  · rw [if_pos enter] at outcome
    obtain ⟨entered, sent⟩ := outcome
    exact {
      heartbeat := by simp [sent]
      setpoint := by simp [sent]
      takeoffTarget := setpointAt_of_mem target
      quiet := fun _ => sent
      idle := fun _ => sent
      retry := fun _ missing => absurd enter.2 missing
      entered := by simp [entered, enter]
      stayed := fun not_entered => absurd entered not_entered
      silent := fun _ => sent }
  · rw [if_neg enter] at outcome
    obtain ⟨stayed, sent⟩ := outcome
    have not_entered : stateAfter p (e :: past) ≠ .takeoff := by simp [stayed]
    exact {
      heartbeat := by
        rw [sent]
        split <;> simp [List.count_eq_zero_of_not_mem only.1]
      setpoint := by
        rw [sent]
        split <;> simp [List.count_eq_zero_of_not_mem only.2]
      takeoffTarget := setpointAt_of_mem target
      quiet := fun few => by
        rw [sent, if_neg fun due => absurd due.1 (Nat.not_le.mpr few), List.append_nil]
      idle := fun between => by
        rw [sent, if_neg fun due => between due.2, List.append_nil]
      retry := fun enough _ due => by rw [sent, if_pos ⟨enough, due⟩]
      entered := ⟨fun entered => absurd entered not_entered, fun both => absurd both enter⟩
      stayed := fun _ => stayed
      silent := fun entered => absurd entered not_entered }

theorem not_confirmed_in_init {past : List (Event K)} {e : Event K} (tick : IsTick e)
    (state : stateAfter p (e :: past) = .init)
    (enough : offboardHeartbeatsBeforeSwitch ≤ ticks past + 1) : ¬ Confirmed past := by
  intro both
  have law := init_tick rate (init_before state) tick
  rw [law.entered.mpr ⟨enough, both⟩] at state
  cases state

/-- In INIT the retries fall on the multiples of the period from the tenth tick on. -/
theorem retry_iff {past : List (Event K)} {e : Event K} (state : stateAfter p (e :: past) = .init) :
    Retry p past e ↔ IsTick e ∧ offboardHeartbeatsBeforeSwitch ≤ ticks past + 1 ∧
      retryPeriod p ∣ ticks past + 1 := by
  have before := init_before state
  constructor
  · intro retry
    have tick : IsTick e := by
      rcases retry with sent | sent <;> exact (move_sends (after_move p past e) sent).1
    have law := init_tick rate before tick
    have plain : sentAt p past e ≠ [.heartbeat, .setpoint] := by
      intro sent
      simp [Retry, sent] at retry
    exact ⟨tick, Nat.le_of_not_lt fun few => plain (law.quiet few),
      not_not.mp fun between => plain (law.idle between)⟩
  · rintro ⟨tick, enough, due⟩
    have missing := not_confirmed_in_init rate tick state enough
    have sent := (init_tick rate before tick).retry enough missing due
    rw [Retry, sent]
    exact (asks_some missing).imp (List.mem_append_right _) (List.mem_append_right _)

theorem retry_beats {run : List (Event K)} (state : stateAfter p run = .init) :
    Always (Beats IsTick (Retry p) offboardHeartbeatsBeforeSwitch (retryPeriod p)) run := by
  induction run with
  | nil => trivial
  | cons e past ih => exact ⟨retry_iff rate state, ih (init_before state)⟩

theorem retry_stays {past : List (Event K)} {e : Event K} (retry : Retry p past e) :
    stateAfter p (e :: past) = .init := by
  have before := grammar_requests (step_grammar p past e) retry
  have tick : IsTick e := by
    rcases retry with sent | sent <;> exact (move_sends (after_move p past e) sent).1
  have law := init_tick rate before tick
  apply law.stayed
  intro entered
  simp [Retry, law.silent entered] at retry

end Law

structure CommandAndConfirm (p : Params K) : Prop where
  each : ∀ past e, stateAfter p past = .init → IsTick e → InitTick p past e
  window : ∀ newer older, stateAfter p (newer ++ older) = .init →
    offboardHeartbeatsBeforeSwitch ≤ ticks older + 1 → ticks newer = retryPeriod p →
    tally (Retry p) (newer ++ older) = tally (Retry p) older + 1
  firstRetry : ∀ run, stateAfter p run = .init →
    offboardHeartbeatsBeforeSwitch + retryPeriod p ≤ ticks run + 1 →
    ∃ newer e older, run = newer ++ e :: older ∧ Retry p older e ∧
      ticks older + 1 < offboardHeartbeatsBeforeSwitch + retryPeriod p
  apart : ∀ older a mid b, Retry p older a → Retry p (mid ++ a :: older) b →
    tally (Retry p) (mid ++ a :: older) = tally (Retry p) (a :: older) →
    ticks (b :: mid) = retryPeriod p
  second : (retryPeriod p : K) * (1 / p.controlRateHz) ≤ 1

theorem init_is_command_and_confirm [IsStrictOrderedRing K] (p : Params K)
    (rate : 1 ≤ p.controlRateHz) : CommandAndConfirm p where
  each past e state tick := init_tick rate state tick
  window newer older state started whole :=
    one_in_window (by decide) (retryPeriod_pos rate) (retry_beats rate state) started whole
  firstRetry run state reached := by
    obtain ⟨newer, e, older, split, retry, early⟩ := first_hit (by decide) (retryPeriod_pos rate)
      (retry_beats rate state) (by
        change offboardHeartbeatsBeforeSwitch - 1 + retryPeriod p ≤ ticks run
        have positive : 0 < offboardHeartbeatsBeforeSwitch := by decide
        omega)
    refine ⟨newer, e, older, split, retry, ?_⟩
    change ticks older + 1 ≤ offboardHeartbeatsBeforeSwitch - 1 + retryPeriod p at early
    have positive : 0 < offboardHeartbeatsBeforeSwitch := by decide
    omega
  apart older a mid b earlier later none_between :=
    hits_apart (by decide) (retryPeriod_pos rate) (retry_beats rate (retry_stays rate later))
      earlier later none_between
  second := retryPeriod_le_second rate

/- Ten hertz and nothing confirmed: of the ten ticks after the tenth one is a retry. -/
theorem init_is_command_and_confirm_silent :
    tally (Retry simParams) (ticksUpTo 20) = tally (Retry simParams) (ticksUpTo 10) + 1 :=
  (init_is_command_and_confirm simParams (by decide +kernel)).window
    ((ticksUpTo 20).take 10) (ticksUpTo 10) (by decide +kernel) (by decide +kernel)
    (by decide +kernel)

end OffboardControl
