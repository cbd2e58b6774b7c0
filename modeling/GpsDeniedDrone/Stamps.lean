import Mathlib.Data.Rat.Floor
import GpsDeniedDrone.FloatCodes
import GpsDeniedDrone.Landing

/-!
The timestamps of the messages. `int(nanoseconds / 1000)` divides in float64, so the
quotient is rounded before it is truncated; `stamp` truncates the exact quotient. The two
are compared, and the order of the timestamps of a flight is read off the float one.
-/
namespace Messages
open FloatCodes

/-- One unit of a float64 is 2 to the power of minus this. -/
@[irreducible] def unitExponent : Nat := 1074

def oneUnits : Nat := 2 ^ unitExponent

theorem oneUnits_split {shift : Nat} (within : shift ≤ unitExponent) :
    oneUnits = 2 ^ shift * 2 ^ (unitExponent - shift) := by
  rw [← pow_add, Nat.add_sub_cancel' within, oneUnits]

theorem oneUnits_pos : 0 < oneUnits := Nat.two_pow_pos unitExponent

/-- The float64 nearest to `nanoseconds / 1000`, in units. -/
def microseconds (nanoseconds : Nat) : Nat :=
  units 52 (roundCode 52 ((nanoseconds : ℚ) / 1000 * oneUnits))

/-- `int(nanoseconds / 1000)` as Python computes it, for a clock that is not negative. -/
def floatStamp (nanoseconds : Nat) : Nat := microseconds nanoseconds / oneUnits

theorem floatStamp_mono {a b : Nat} (le : a ≤ b) : floatStamp a ≤ floatStamp b := by
  apply Nat.div_le_div_right
  apply (units_strictMono 52).monotone
  have scale : (0 : ℚ) ≤ oneUnits := Nat.cast_nonneg _
  apply roundCode_mono 52
  · exact mul_nonneg (by positivity) scale
  · have le' : (a : ℚ) ≤ b := Nat.cast_le.mpr le
    exact mul_le_mul_of_nonneg_right (by linarith) scale

theorem microseconds_between {nanoseconds a b shift : Nat} (within : shift ≤ unitExponent)
    (short : a < 2 ^ 53) (short' : b < 2 ^ 53) (low : a * 1000 ≤ nanoseconds * 2 ^ shift)
    (high : nanoseconds * 2 ^ shift ≤ b * 1000) :
    a * 2 ^ (unitExponent - shift) ≤ microseconds nanoseconds ∧
      microseconds nanoseconds ≤ b * 2 ^ (unitExponent - shift) := by
  have scale : (0 : ℚ) < 2 ^ (unitExponent - shift) := by positivity
  have low' : (a : ℚ) * 1000 ≤ nanoseconds * 2 ^ shift := by exact_mod_cast low
  have high' : (nanoseconds : ℚ) * 2 ^ shift ≤ b * 1000 := by exact_mod_cast high
  have above : (units 52 (floorCode 52 (a * 2 ^ (unitExponent - shift))) : ℚ) ≤
      (nanoseconds : ℚ) / 1000 * oneUnits := by
    rw [units_floorCode_short _ short, oneUnits_split within]
    push_cast
    nlinarith
  have below : (nanoseconds : ℚ) / 1000 * oneUnits ≤
      units 52 (floorCode 52 (b * 2 ^ (unitExponent - shift))) := by
    rw [units_floorCode_short _ short', oneUnits_split within]
    push_cast
    nlinarith
  have between := roundCode_between 52 above below
  rwa [units_floorCode_short _ short, units_floorCode_short _ short'] at between

/-- Until the year 2255 the float division is at most one microsecond ahead. -/
theorem floatStamp_near {nanoseconds : Nat} (range : nanoseconds < 1000 * (2 ^ 53 - 1)) :
    floatStamp nanoseconds = nanoseconds / 1000 ∨
      floatStamp nanoseconds = nanoseconds / 1000 + 1 := by
  have floor : nanoseconds / 1000 * 1000 ≤ nanoseconds * 2 ^ 0 := by omega
  have ceiling : nanoseconds * 2 ^ 0 ≤ (nanoseconds / 1000 + 1) * 1000 := by omega
  obtain ⟨low, high⟩ := microseconds_between (Nat.zero_le unitExponent) (by omega) (by omega)
    floor ceiling
  have least : nanoseconds / 1000 ≤ floatStamp nanoseconds :=
    (Nat.le_div_iff_mul_le oneUnits_pos).mpr low
  have most : floatStamp nanoseconds ≤ nanoseconds / 1000 + 1 :=
    Nat.div_le_of_le_mul (high.trans (Nat.le_of_eq (Nat.mul_comm _ _)))
  omega

/-- For the first hundred days of a clock it is exact. -/
theorem floatStamp_exact {nanoseconds : Nat} (range : nanoseconds < 1000 * 2 ^ 43) :
    floatStamp nanoseconds = nanoseconds / 1000 := by
  have within : 10 ≤ unitExponent := by
    rw [unitExponent]
    decide
  have floor : 1024 * (nanoseconds / 1000) * 1000 ≤ nanoseconds * 2 ^ 10 := by omega
  have remainder : nanoseconds < nanoseconds / 1000 * 1000 + 1000 := by omega
  have ceiling : nanoseconds * 2 ^ 10 ≤ (1024 * (nanoseconds / 1000) + 1023) * 1000 := by
    linarith
  obtain ⟨low, high⟩ := microseconds_between within (by omega) (by omega) floor ceiling
  have split := oneUnits_split within
  have scale : 0 < 2 ^ (unitExponent - 10) := Nat.two_pow_pos _
  generalize 2 ^ (unitExponent - 10) = rest at low high split scale
  apply Nat.div_eq_of_lt_le
  · calc nanoseconds / 1000 * oneUnits
        = 1024 * (nanoseconds / 1000) * rest := by rw [split]; ring
      _ ≤ microseconds nanoseconds := low
  · calc microseconds nanoseconds
        ≤ (1024 * (nanoseconds / 1000) + 1023) * rest := high
      _ < (1024 * (nanoseconds / 1000) + 1024) * rest :=
        Nat.mul_lt_mul_of_pos_right (by omega) scale
      _ = (nanoseconds / 1000 + 1) * oneUnits := by rw [split]; ring

/-- A microsecond ahead, as it is on a clock that counts from 1970. -/
example : floatStamp 1700000000000000999 = 1700000000000000999 / 1000 + 1 := by decide +kernel

end Messages

namespace OffboardControl
open Messages PastTime Streak
variable {K : Type}

def Output.timestamp : Output K → Option Int
  | .heartbeat msg => some msg.timestamp
  | .setpoint msg => some msg.timestamp
  | .command msg => some msg.timestamp
  | _ => none

/-- Every message among the outputs is stamped with the time it is sent. -/
def Stamped (now : Int) (out : List (Output K)) : Prop :=
  ∀ o ∈ out, ∀ t ∈ o.timestamp, t = stamp now

section Step
variable {now : Int} {o : Output K} {out : List (Output K)}

@[simp] theorem stamped_nil : Stamped now ([] : List (Output K)) := by simp [Stamped]

@[simp] theorem stamped_cons :
    Stamped now (o :: out) ↔ (∀ t ∈ o.timestamp, t = stamp now) ∧ Stamped now out := by
  simp [Stamped]

section Responses
variable [Field K]

theorem stamped_retry (now : Int) (n : Node K) : Stamped now (retryOutputs now n) := by
  cases offboard : offboardConfirmed n <;> cases armed : armedConfirmed n <;>
    simp [retryOutputs, offboard, armed, Output.timestamp, offboardModeCommand, armCommand,
      vehicleCommand]

theorem stamped_fallback (now : Int) (n : Node K) : Stamped now (fallbackOutputs now n) := by
  by_cases first : n.lastDisarmAttemptTime = none <;>
    simp [fallbackOutputs, first, Output.timestamp, forcedDisarm, vehicleCommand]

end Responses

variable [Field K] [LinearOrder K] [FloorRing K] [FloatMath K] {p : Params K} {n n' : Node K}
  {e : Event K}

theorem tick_stamped (went : Tick p now n n' out) : Stamped now out := by
  cases went with
  | retry => simp [stamped_retry, Output.timestamp, heartbeatNow, takeoffSetpoint, setpointTo]
  | fallback => simp [stamped_fallback, Output.timestamp, heartbeatNow]
  | _ =>
    simp [Output.timestamp, heartbeatNow, takeoffSetpoint, waypointSetpoint, hoverSetpoint,
      setpointTo, navLand, forcedDisarm, vehicleCommand]

theorem move_stamped (moved : Move p n e n' out) : Stamped e.now out := by
  cases moved with
  | tick _ _ went => exact tick_stamped went
  | _ => simp [Output.timestamp]

end Step

variable [Field K] [LinearOrder K] [FloorRing K] [FloatMath K]

def sendTimes (p : Params K) : List (Event K) → List Int
  | [] => []
  | e :: past => sendTimes p past ++
      (((flight p).emitted past e).filterMap Output.timestamp).map fun _ => e.now

variable {p : Params K} {run : List (Event K)}

theorem sendTimes_of_events {t : Int} (mem : t ∈ sendTimes p run) : ∃ e ∈ run, e.now = t := by
  induction run with
  | nil => cases mem
  | cons e past ih =>
    rcases List.mem_append.mp mem with old | new
    · obtain ⟨b, earlier, same⟩ := ih old
      exact ⟨b, List.mem_cons_of_mem e earlier, same⟩
    · obtain ⟨_, _, same⟩ := List.mem_map.mp new
      exact ⟨e, List.mem_cons_self, same⟩

theorem sendTimes_ordered (clock : Always (ClockMonotone Event.now) run) :
    (sendTimes p run).Pairwise (· ≤ ·) := by
  induction run with
  | nil => exact List.Pairwise.nil
  | cons e past ih =>
    refine List.pairwise_append.mpr ⟨ih clock.2, ?_, fun a old b new => ?_⟩
    · exact List.pairwise_map.mpr (List.pairwise_of_forall fun _ _ => le_refl e.now)
    · obtain ⟨_, _, rfl⟩ := List.mem_map.mp new
      obtain ⟨earlier, mem, rfl⟩ := sendTimes_of_events old
      exact clock.1 earlier mem

theorem timestamps_sent (p : Params K) (run : List (Event K)) :
    ((flight p).trace run).filterMap Output.timestamp = (sendTimes p run).map stamp := by
  induction run with
  | nil => rfl
  | cons e past ih =>
    have stamped := move_stamped (after_move p past e)
    have now : ((flight p).emitted past e).filterMap Output.timestamp =
        (((flight p).emitted past e).filterMap Output.timestamp).map fun _ => stamp e.now := by
      refine List.ext_getElem (by simp) fun i here _ => ?_
      rw [List.getElem_map]
      obtain ⟨o, mem, found⟩ := List.mem_filterMap.mp (List.getElem_mem here)
      exact stamped o mem _ found
    change (((flight p).trace past) ++ _).filterMap Output.timestamp = _
    rw [List.filterMap_append, ih, sendTimes, List.map_append, List.map_map]
    exact congrArg (_ ++ ·) now

/-- The timestamps of a flight go by its clock: the model's are those of the code to within
    the microsecond that the float division may be ahead, they are the same on a clock that
    starts with the system, and those of the code never go back. -/
theorem timestamps_follow_the_clock (p : Params K) {run : List (Event K)}
    (clock : Always (ClockMonotone Event.now) run) :
    ((flight p).trace run).filterMap Output.timestamp = (sendTimes p run).map stamp ∧
      ((sendTimes p run).map fun t => floatStamp t.toNat).Pairwise (· ≤ ·) ∧
      ∀ t ∈ sendTimes p run, 0 ≤ t → t < 1000 * (2 ^ 53 - 1) →
        ((floatStamp t.toNat : Int) = stamp t ∨ (floatStamp t.toNat : Int) = stamp t + 1) ∧
          (t < 1000 * 2 ^ 43 → (floatStamp t.toNat : Int) = stamp t) := by
  refine ⟨timestamps_sent p run, ?_, ?_⟩
  · exact List.pairwise_map.mpr ((sendTimes_ordered clock).imp fun le =>
      floatStamp_mono (Int.toNat_le_toNat le))
  · intro t _ nonneg small
    have exact_stamp : stamp t = (t.toNat / 1000 : Nat) := by
      rw [stamp, Int.tdiv_eq_ediv_of_nonneg nonneg]
      omega
    rw [exact_stamp]
    constructor
    · rcases @floatStamp_near t.toNat (by omega) with same | ahead
      · exact Or.inl (by rw [same])
      · exact Or.inr (by rw [ahead]; rfl)
    · intro early
      rw [@floatStamp_exact t.toNat (by omega)]

theorem timestamps_follow_the_clock_descending :
    (sendTimes simParams descending).length = 25 ∧
      ((sendTimes simParams descending).map fun t => floatStamp t.toNat).Pairwise (· ≤ ·) :=
  ⟨by decide +kernel,
    (timestamps_follow_the_clock simParams (by decide +kernel)).2.1⟩

end OffboardControl
