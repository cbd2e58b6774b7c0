import GpsDeniedDrone.Descent
import GpsDeniedDrone.Handshake
import GpsDeniedDrone.Rounding
import GpsDeniedDrone.Stamps

/-!
What float arithmetic does to the supervision of a flight. The sides of the fence are
rounded once and then only compared, the seconds of the timers are rounded twice. The
timers still run out on the tick they should; the fence raises no false alarm, and misses
only a vehicle that stands on a side that was rounded outwards.
-/
namespace OffboardControl
open FrameTransforms Messages PastTime Rounding

/- The fence, in any format. -/

section Fence
variable {K : Type} [Field K] [LinearOrder K]

def grownBounds (p : Params K) (waypoints : List (Waypoint K)) : Bounds K :=
  let xs := waypoints.map Waypoint.x
  let ys := waypoints.map Waypoint.y
  let zs := waypoints.map Waypoint.z
  { xMin := xs.foldl min 0 - p.geofenceMarginM
    xMax := xs.foldl max 0 + p.geofenceMarginM
    yMin := ys.foldl min 0 - p.geofenceMarginM
    yMax := ys.foldl max 0 + p.geofenceMarginM
    zMin := zs.foldl min p.targetZ - p.geofenceHeightMarginM }

def Bounds.map (round : K → K) (b : Bounds K) : Bounds K :=
  ⟨round b.xMin, round b.xMax, round b.yMin, round b.yMax, round b.zMin⟩

def Bounds.clamp (limit : K) (b : Bounds K) : Bounds K :=
  ⟨max b.xMin (-limit), min b.xMax limit, max b.yMin (-limit), min b.yMax limit, b.zMin⟩

theorem geofenceBounds_eq (p : Params K) (waypoints : List (Waypoint K)) :
    geofenceBounds p waypoints = (grownBounds p waypoints).clamp p.geofenceHardLimitM := rfl

variable (r : Format K)

/-- `_geofence_bounds` as it is computed. -/
def roundedBounds (p : Params K) (waypoints : List (Waypoint K)) : Bounds K :=
  ((grownBounds p waypoints).map r.round).clamp p.geofenceHardLimitM

/-- On a side of the fence as it was rounded, and beyond the side as it is. -/
def OnEdge (b : Bounds K) (pos : VehicleLocalPosition K) : Prop :=
  pos.x < b.xMin ∧ pos.x = r.round b.xMin ∨ b.xMax < pos.x ∧ pos.x = r.round b.xMax ∨
    pos.y < b.yMin ∧ pos.y = r.round b.yMin ∨ b.yMax < pos.y ∧ pos.y = r.round b.yMax ∨
    pos.z < b.zMin ∧ pos.z = r.round b.zMin

def PositionIn (pos : VehicleLocalPosition K) : Prop := r.Has pos.x ∧ r.Has pos.y ∧ r.Has pos.z

instance (pos : VehicleLocalPosition K) : Decidable (PositionIn r pos) :=
  inferInstanceAs (Decidable (_ ∧ _ ∧ _))

variable {r}

theorem low_side_iff {c e limit : K} (has : r.Has c) :
    c < max e limit ↔ c < max (r.round e) limit ∨ c < e ∧ c = r.round e := by
  rw [lt_max_iff, lt_max_iff, below_iff has]
  tauto

theorem high_side_iff {c e limit : K} (has : r.Has c) :
    c > min e limit ↔ c > min (r.round e) limit ∨ e < c ∧ c = r.round e := by
  rw [gt_iff_lt, gt_iff_lt, min_lt_iff, min_lt_iff, above_iff has]
  tauto

theorem outside_iff {limit : K} {b : Bounds K} {pos : VehicleLocalPosition K}
    (has : PositionIn r pos) :
    (b.clamp limit).Outside pos ↔ ((b.map r.round).clamp limit).Outside pos ∨ OnEdge r b pos := by
  obtain ⟨x, y, z⟩ := has
  simp only [Bounds.Outside, Bounds.clamp, Bounds.map, OnEdge]
  refine (or_congr (low_side_iff x) (or_congr (high_side_iff x) (or_congr (low_side_iff y)
    (or_congr (high_side_iff y) (below_iff z))))).trans ?_
  exact Iff.of_eq (by ac_rfl)

end Fence

/- The timers, in float64. -/

def float64 : Format ℚ := binary 52 unitExponent

/-- `Duration.nanoseconds / 1e9`: the integer becomes a float before it is divided. -/
def roundedSeconds (nanoseconds : Int) : ℚ :=
  float64.round (float64.round nanoseconds / 10 ^ 9)

def roundedSecondsSince (now : Int) : Option Int → ℚ
  | none => 0
  | some start => roundedSeconds (now - start)

def HalfSeconds (t : ℚ) : Prop := ∃ halves : Nat, halves < 2 ^ 23 ∧ t = halves / 2 ^ 1

theorem has_places {places m : Nat} (short : m < 2 ^ 53) (few : places ≤ 64) :
    float64.Has (m / 2 ^ places) := by
  apply has_short short
  rw [unitExponent]
  omega

theorem has_nat {m : Nat} (short : m < 2 ^ 53) : float64.Has m := by
  have has := has_places (m := m) short (Nat.zero_le 64)
  rwa [pow_zero, div_one] at has

theorem has_int {m : Int} (short : m.natAbs < 2 ^ 53) : float64.Has m := by
  rcases Int.natAbs_eq m with same | same
  · rw [same, Int.cast_natCast]
    exact has_nat short
  · rw [same, Int.cast_neg, Int.cast_natCast]
    exact has_neg (has_nat short)

section Timer
variable {c : ℚ}

theorem has_half (half : HalfSeconds c) : float64.Has c := by
  obtain ⟨halves, few, rfl⟩ := half
  exact has_places (few.trans (by norm_num)) (by decide)

theorem half_bounds (half : HalfSeconds c) : 0 ≤ c ∧ c < 2 ^ 22 := by
  obtain ⟨halves, few, rfl⟩ := half
  have short : (halves : ℚ) < 2 ^ 23 := by exact_mod_cast few
  constructor
  · positivity
  · linarith

theorem has_below_half (half : HalfSeconds c) : float64.Has (c - 1 / 2 ^ 31) := by
  obtain ⟨halves, few, rfl⟩ := half
  rcases Nat.eq_zero_or_pos halves with rfl | some_half
  · have tiny : float64.Has ((1 : Nat) / 2 ^ 31) := has_places (by norm_num) (by decide)
    have below := has_neg tiny
    simpa using below
  · have bits : halves * 2 ^ 30 - 1 < 2 ^ 53 := by omega
    have has : float64.Has ((halves * 2 ^ 30 - 1 : Nat) / 2 ^ 31) := has_places bits (by decide)
    have enough : 1 ≤ halves * 2 ^ 30 := by omega
    have same : ((halves * 2 ^ 30 - 1 : Nat) : ℚ) / 2 ^ 31 = halves / 2 ^ 1 - 1 / 2 ^ 31 := by
      rw [Nat.cast_sub enough]
      push_cast
      ring
    rwa [same] at has

/-- A nanosecond is more than a float: nothing short of the threshold is rounded onto it. -/
theorem whole_nanoseconds_iff (half : HalfSeconds c) (nanoseconds : Int) :
    c ≤ float64.round (nanoseconds / 10 ^ 9) ↔ c ≤ nanoseconds / 10 ^ 9 := by
  apply reached_iff (has_half half) (has_below_half half) (by linarith)
  intro short
  obtain ⟨halves, _, rfl⟩ := half
  rw [div_lt_div_iff₀ (by positivity) (by positivity)] at short
  have whole : nanoseconds * 2 ^ 1 < halves * 10 ^ 9 := by exact_mod_cast short
  have before : (nanoseconds : ℚ) * 2 + 1 ≤ halves * 10 ^ 9 := by
    have step : nanoseconds * 2 + 1 ≤ halves * 10 ^ 9 := by omega
    exact_mod_cast step
  rw [div_le_iff₀ (by positivity)]
  linarith

theorem roundedSeconds_iff (half : HalfSeconds c) (nanoseconds : Int) :
    c ≤ roundedSeconds nanoseconds ↔ c ≤ seconds nanoseconds := by
  obtain ⟨nonneg, short⟩ := half_bounds half
  have limit : float64.Has (2 ^ 52 : ℕ) := has_nat (by norm_num)
  unfold roundedSeconds seconds
  by_cases few : nanoseconds.natAbs < 2 ^ 53
  · rw [show float64.round nanoseconds = nanoseconds from has_int few]
    exact whole_nanoseconds_iff half nanoseconds
  rcases le_total 0 nanoseconds with late | early
  · -- longer than any threshold, exactly and rounded
    have long : ((2 ^ 52 : ℕ) : ℚ) ≤ nanoseconds := by
      have whole : (2 ^ 52 : Int) ≤ nanoseconds := by omega
      exact_mod_cast whole
    have rounded := le_round limit long
    have reached {x : ℚ} (large : ((2 ^ 52 : ℕ) : ℚ) ≤ x) : c ≤ x / 10 ^ 9 := by
      rw [le_div_iff₀ (by positivity)]
      push_cast at large
      linarith
    exact iff_of_true (le_round (has_half half) (reached rounded)) (reached long)
  · -- the clock was set back
    have back : (nanoseconds : ℚ) ≤ -(2 ^ 52 : ℕ) := by
      have whole : nanoseconds ≤ -(2 ^ 52 : Int) := by omega
      exact_mod_cast whole
    have rounded := round_le (has_neg limit) back
    have negative {x : ℚ} (small : x ≤ -(2 ^ 52 : ℕ)) : x / 10 ^ 9 ≤ ((-1 : Int) : ℚ) := by
      rw [div_le_iff₀ (by positivity)]
      push_cast at small ⊢
      linarith
    have whole : float64.Has ((-1 : Int) : ℚ) := has_int (by decide)
    have computed := round_le whole (negative rounded)
    have exactly := negative back
    push_cast at computed exactly
    exact iff_of_false (by linarith) (by linarith)

theorem roundedSecondsSince_iff (half : HalfSeconds c) (now : Int) (since : Option Int) :
    c ≤ roundedSecondsSince now since ↔ c ≤ secondsSince now since := by
  cases since with
  | none => exact Iff.rfl
  | some start => exact roundedSeconds_iff half (now - start)

end Timer

/- The decisions of a tick. -/

section Decisions
variable (p : Params ℚ) (now : Int) (n : Node ℚ)

def RoundedOutside : Prop := (roundedBounds float64 p n.waypoints).Outside n.vehicleLocalPosition

def RoundedExpired : Prop :=
  ¬ Healthy n ∧
    p.estimateInvalidAbortDwellS ≤ roundedSeconds (now - n.estimateInvalidSince.getD now)

def RoundedHeld : Prop :=
  n.vehicleStatus.navState = navigationStateAutoLand ∧
    p.landDisarmLowThrottleDwellS ≤ roundedSecondsSince now n.lowThrottleSince

def RoundedDue : Prop :=
  n.lastDisarmAttemptTime = none ∨ 1 ≤ roundedSecondsSince now n.lastDisarmAttemptTime

structure DecisionLaw : Prop where
  fence : OutsideFence p n ↔
    RoundedOutside p n ∨ OnEdge float64 (grownBounds p n.waypoints) n.vehicleLocalPosition
  estimate : RoundedExpired p now n ↔ EstimateExpired p now n
  lowThrottle : RoundedHeld p now n ↔ LowThrottleHeld p now n
  attempt : RoundedDue now n ↔ AttemptDue ℚ now n
  timeout : p.landDisarmMaxTimeoutS ≤ roundedSecondsSince now n.landCommandedTime ↔
    p.landDisarmMaxTimeoutS ≤ secondsSince now n.landCommandedTime

/-- The thresholds of the timers, as both parameter files have them. -/
structure HalfSecondTimers : Prop where
  estimate : HalfSeconds p.estimateInvalidAbortDwellS
  lowThrottle : HalfSeconds p.landDisarmLowThrottleDwellS
  timeout : HalfSeconds p.landDisarmMaxTimeoutS

variable {p n}

theorem decision_law (timers : HalfSecondTimers p)
    (has : PositionIn float64 n.vehicleLocalPosition) : DecisionLaw p now n where
  fence := by
    unfold OutsideFence RoundedOutside roundedBounds
    rw [geofenceBounds_eq]
    exact outside_iff has
  estimate := and_congr_right fun _ => roundedSeconds_iff timers.estimate _
  lowThrottle := and_congr_right fun _ => roundedSecondsSince_iff timers.lowThrottle now _
  attempt := or_congr_right (roundedSecondsSince_iff ⟨2, by norm_num, by norm_num⟩ now _)
  timeout := roundedSecondsSince_iff timers.timeout now _

end Decisions

def SampleIn (e : Event ℚ) : Prop := ∀ pos ∈ e.sample, PositionIn float64 pos

instance (e : Event ℚ) : Decidable (SampleIn e) :=
  inferInstanceAs (Decidable (∀ pos ∈ e.sample, _))

theorem move_stores {p : Params ℚ} {n n' : Node ℚ} {e : Event ℚ} {out : List (Output ℚ)}
    (moved : Move p n e n' out) :
    n'.vehicleLocalPosition = n.vehicleLocalPosition ∨ n'.vehicleLocalPosition ∈ e.sample := by
  cases moved with
  | position now msg => exact Or.inr rfl
  | tick now _ went => exact Or.inl (tick_keeps_messages went).1
  | _ => exact Or.inl rfl

theorem stored_in (p : Params ℚ) {run : List (Event ℚ)} (samples : ∀ e ∈ run, SampleIn e) :
    PositionIn float64 ((flight p).after run).vehicleLocalPosition := by
  induction run with
  | nil => exact ⟨has_zero, has_zero, has_zero⟩
  | cons e past ih =>
    rcases move_stores (after_move p past e) with kept | fresh
    · rw [kept]
      exact ih fun b mem => samples b (List.mem_cons_of_mem e mem)
    · exact samples e List.mem_cons_self _ fresh

/-- Float arithmetic does not weaken the supervision: at every tick of every run the timers
    decide as in exact arithmetic, the fence never breaks where it is whole, and it misses
    a breach only on a rounded side. -/
theorem float_supervision {p : Params ℚ} (timers : HalfSecondTimers p) {run : List (Event ℚ)}
    (samples : ∀ e ∈ run, SampleIn e) :
    Always (fun past e => IsTick e → DecisionLaw p e.now ((flight p).after past)) run := by
  induction run with
  | nil => trivial
  | cons e past ih =>
    have earlier := fun b mem => samples b (List.mem_cons_of_mem e mem)
    exact ⟨fun _ => decision_law e.now timers (stored_in p earlier), ih earlier⟩

theorem float_supervision_descending :
    HalfSecondTimers simParams ∧
      Always (fun past e => IsTick e → DecisionLaw simParams e.now ((flight simParams).after past))
        descending := by
  have timers : HalfSecondTimers simParams :=
    ⟨⟨3, by norm_num, by norm_num [simParams]⟩, ⟨6, by norm_num, by norm_num [simParams]⟩,
      ⟨120, by norm_num, by norm_num [simParams]⟩⟩
  exact ⟨timers, float_supervision timers (by decide +kernel)⟩

end OffboardControl
