import GpsDeniedDrone.Handshake
import GpsDeniedDrone.Routes

/-!
What could crash the process: a modulus by the truncated rate, a division by a distance,
an index into the queue. Nothing checks the parameters; a rate below 1 Hz truncates to a
zero that INIT divides by unless the first retry never comes.
-/
namespace OffboardControl
open FrameTransforms Messages PastTime Cadence
variable {K : Type} [Field K] [LinearOrder K] [FloorRing K] [FloatMath K]

/-- What `_capped_velocity_toward` divides by, where it does divide. -/
def velocityDivisor (n : Node K) (x y z : K) : Option K :=
  let pos := n.vehicleLocalPosition
  let distance := norm (x - pos.x) (y - pos.y) (z - pos.z)
  if distance < 1 / (1000 : Nat) then none else some distance

def Faultless (p : Params K) : Moment (Event K) := fun past e =>
  (∀ fault, .raised fault ∉ (flight p).emitted past e) ∧
    ∀ x y z, velocityDivisor ((flight p).after past) x y z ≠ some 0

def FaultFree (p : Params K) (run : List (Event K)) : Prop := Always (Faultless p) run

def ConfirmedAtTenth : Moment (Event K) := fun past e =>
  IsTick e → ticks past + 1 = offboardHeartbeatsBeforeSwitch → Confirmed past

omit [FloorRing K] in
theorem velocityDivisor_ne_zero [IsStrictOrderedRing K] (n : Node K) (x y z : K) :
    velocityDivisor n x y z ≠ some 0 := by
  intro zero
  simp only [velocityDivisor] at zero
  split at zero
  · cases zero
  · rename_i far
    rw [Option.some.inj zero] at far
    exact far (by positivity)

theorem retryOutputs_raise {K : Type} [Field K] (now : Int) (n : Node K) (fault : Fault) :
    .raised fault ∉ retryOutputs now n := by
  intro raised
  simp only [retryOutputs] at raised
  split_ifs at raised <;> simp [offboardModeCommand, armCommand, vehicleCommand] at raised

theorem fallbackOutputs_raise {K : Type} [Field K] (now : Int) (n : Node K) (fault : Fault) :
    .raised fault ∉ fallbackOutputs now n := by
  intro raised
  simp only [fallbackOutputs] at raised
  split_ifs at raised <;> simp [forcedDisarm, vehicleCommand] at raised

section Tick
variable {p : Params K} {now : Int} {n n' : Node K} {out : List (Output K)}

theorem tick_init_zero (went : Tick p now n n' out) (state : n.state = .init)
    (zero : toInt p.controlRateHz = 0) :
    n.heartbeatCount + 1 < offboardHeartbeatsBeforeSwitch ∧ n'.state = .init ∧
        n'.process = n.process ∨
      offboardHeartbeatsBeforeSwitch ≤ n.heartbeatCount + 1 ∧
        (offboardConfirmed n && armedConfirmed n) = true ∧ n'.state = .takeoff ∨
      offboardHeartbeatsBeforeSwitch ≤ n.heartbeatCount + 1 ∧
        (offboardConfirmed n && armedConfirmed n) = false ∧
        n'.process = .crashed .zeroDivisionError ∧ .raised .zeroDivisionError ∈ out := by
  cases went with
  | stream _ quiet =>
    rcases quiet with few | ⟨_, nonzero, _⟩
    · exact Or.inl ⟨few, state, rfl⟩
    · exact absurd zero nonzero
  | confirmed _ enough both => exact Or.inr (Or.inl ⟨enough, both, rfl⟩)
  | rateFault _ enough missing => exact Or.inr (Or.inr ⟨enough, missing, rfl, by simp⟩)
  | retry _ _ _ nonzero => exact absurd zero nonzero
  | fenceAbort flying | estimateAbort flying => exact absurd state (flying_ne flying).1
  | indexFault route | cruise route | reach route =>
    exact absurd state (flying_ne (onRoute_flying route)).1
  | _ other => exact absurd (state.symm.trans other) (by decide)

/-- The two places an exception can come from. -/
theorem move_raises {e : Event K} {fault : Fault} (moved : Move p n e n' out)
    (raised : .raised fault ∈ out) :
    n.process = .running ∧ IsTick e ∧
      ((n.state = .init ∧ toInt p.controlRateHz = 0 ∧
          offboardHeartbeatsBeforeSwitch ≤ n.heartbeatCount + 1 ∧
          (offboardConfirmed n && armedConfirmed n) = false) ∨
        n.state.OnRoute ∧ n.waypoints[n.waypointIndex]? = none) := by
  cases moved with
  | tick now running went =>
    refine ⟨running, rfl, ?_⟩
    cases went with
    | rateFault state enough missing zero => exact Or.inl ⟨state, zero, enough, missing⟩
    | indexFault route _ beyond => exact Or.inr ⟨route, beyond⟩
    | retry =>
      have never := retryOutputs_raise now n fault
      simp [never, heartbeatNow, takeoffSetpoint, setpointTo] at raised
    | fallback =>
      have never := fallbackOutputs_raise now n fault
      simp [never, heartbeatNow] at raised
    | _ =>
      simp [heartbeatNow, takeoffSetpoint, waypointSetpoint, hoverSetpoint, setpointTo, navLand,
        forcedDisarm, vehicleCommand] at raised
  | accepted | refused | emptyPlan => simp at raised
  | _ => cases raised

end Tick

theorem toInt_eq_zero {K : Type} [Field K] [LinearOrder K] [FloorRing K] [IsStrictOrderedRing K]
    (x : K) : toInt x = 0 ↔ |x| < 1 := by
  unfold toInt
  split
  · rename_i nonneg
    rw [abs_of_nonneg nonneg, Int.floor_eq_zero_iff]
    simp [nonneg]
  · rename_i negative
    have below := not_le.mp negative
    rw [abs_of_neg below, Int.ceil_eq_iff]
    constructor
    · rintro ⟨above, _⟩
      norm_num at above
      linarith
    · intro small
      norm_num
      constructor <;> linarith

section Runs
variable {p : Params K} {past run : List (Event K)} {e : Event K}

section Zero
variable (zero : toInt p.controlRateHz = 0)
include zero

theorem before_tenth (few : ticks run < offboardHeartbeatsBeforeSwitch) :
    stateAfter p run = .init ∧ ((flight p).after run).process = .running := by
  induction run with
  | nil => exact ⟨rfl, rfl⟩
  | cons e past ih =>
    by_cases tick : IsTick e
    · have number : ticks (e :: past) = ticks past + 1 := number_kind tick
      rw [number] at few
      obtain ⟨state, running⟩ := ih (by omega)
      have went := after_tick tick running
      have counted := init_ticks running state
      rcases tick_init_zero went state zero with ⟨_, kept, same⟩ | ⟨enough, _⟩ | ⟨enough, _⟩
      · exact ⟨kept, same.trans running⟩
      · omega
      · omega
    · have number : ticks (e :: past) = ticks past := number_other tick
      rw [number] at few
      obtain ⟨state, running⟩ := ih few
      exact ⟨init_kept (after_move p past e) tick state,
        (move_process (after_move p past e) tick).trans running⟩

theorem confirmed_of_faultless (calm : Faultless p past e) : ConfirmedAtTenth past e := by
  intro tick tenth
  have earlier : ticks past < offboardHeartbeatsBeforeSwitch := by omega
  obtain ⟨state, running⟩ := before_tenth zero earlier
  have went := after_tick tick running
  have counted := init_ticks running state
  rcases tick_init_zero went state zero with ⟨few, _⟩ | ⟨_, both, _⟩ | ⟨_, _, _, raised⟩
  · omega
  · exact (confirmed_iff running).mp both
  · exact absurd raised (calm.1 _)

theorem init_before_tenth (tenth : Always ConfirmedAtTenth run)
    (state : stateAfter p run = .init) (running : ((flight p).after run).process = .running) :
    ticks run < offboardHeartbeatsBeforeSwitch := by
  induction run with
  | nil => exact Nat.succ_pos _
  | cons e past ih =>
    have before := init_before state
    have was_running := running_before running
    have earlier := ih tenth.2 before was_running
    by_cases tick : IsTick e
    · have number : ticks (e :: past) = ticks past + 1 := number_kind tick
      have counted := init_ticks was_running before
      have went := after_tick tick was_running
      rcases tick_init_zero went before zero with ⟨few, _⟩ | ⟨_, _, entered⟩ | ⟨_, _, crashed, _⟩
      · omega
      · exact absurd (state.symm.trans entered) (by decide)
      · rw [crashed] at running
        cases running
    · have number : ticks (e :: past) = ticks past := number_other tick
      rwa [number]

end Zero

variable [IsStrictOrderedRing K]

theorem faultless_of {e : Event K} (legal : Run p past)
    (divides : toInt p.controlRateHz ≠ 0 ∨ Always ConfirmedAtTenth (e :: past)) :
    Faultless p past e := by
  refine ⟨fun fault raised => ?_, velocityDivisor_ne_zero _⟩
  obtain ⟨running, tick, at_init | ⟨route, beyond⟩⟩ := move_raises (after_move p past e) raised
  · obtain ⟨state, zero, enough, missing⟩ := at_init
    rcases divides with nonzero | tenth
    · exact nonzero zero
    · have few := init_before_tenth zero tenth.2 state running
      have counted := init_ticks running state
      have both := tenth.1 tick (by omega)
      rw [(confirmed_iff running).mpr both] at missing
      cases missing
  · have inside := index_in_range p legal route
    rw [List.getElem?_eq_none_iff] at beyond
    omega

theorem fault_free_iff_divides {run : List (Event K)} (legal : Run p run) :
    FaultFree p run ↔ 1 ≤ |p.controlRateHz| ∨ Always ConfirmedAtTenth run := by
  have nonzero : 1 ≤ |p.controlRateHz| ↔ toInt p.controlRateHz ≠ 0 := by
    rw [ne_eq, toInt_eq_zero, not_lt]
  rw [nonzero]
  constructor
  · intro free
    by_cases zero : toInt p.controlRateHz = 0
    · exact Or.inr (always_intro (fun past e calm => confirmed_of_faultless zero calm.1) free)
    · exact Or.inl zero
  · intro divides
    induction run with
    | nil => trivial
    | cons e past ih =>
      exact ⟨faultless_of legal.2 divides, ih legal.2 (divides.imp_right And.right)⟩

end Runs

def halfRate : Params ℚ := { simParams with controlRateHz := 1 / 2 }

/- Ten ticks and no status. -/
theorem half_rate_divides_by_zero :
    ¬ ∀ (p : Params ℚ) (run : List (Event ℚ)), 0 < p.controlRateHz → Run p run →
      FaultFree p run := by
  intro never
  have free := never halfRate (ticksUpTo 10) (by decide +kernel) (by decide +kernel)
  exact free.1.1 .zeroDivisionError (by decide +kernel)

theorem fault_free_at_ten_hertz : FaultFree simParams (ticksUpTo 10) :=
  (fault_free_iff_divides (p := simParams) (by decide +kernel)).mpr (Or.inl (by decide +kernel))

end OffboardControl
