import Mathlib.Algebra.Order.Field.Basic
import GpsDeniedDrone.FlightGrammar

/-!
The two dwell timers, `_estimate_invalid_since` and `_low_throttle_since`, as streaks
over the whole history, and arithmetic on the seconds they are compared in.
-/
namespace OffboardControl
open FrameTransforms Messages PastTime Streak

section Seconds
variable {K : Type} [Field K]

@[simp] theorem seconds_zero : (seconds 0 : K) = 0 := by simp [seconds]

theorem seconds_between (now mid old : Int) :
    (seconds (now - old) : K) = seconds (now - mid) + seconds (mid - old) := by
  simp only [seconds, ← add_div, ← Int.cast_add]
  congr 2
  omega

variable [LinearOrder K] [IsStrictOrderedRing K]

theorem seconds_mono {a b : Int} (le : a ≤ b) : (seconds a : K) ≤ seconds b :=
  div_le_div_of_nonneg_right (Int.cast_le.mpr le) (by positivity)

theorem seconds_strictMono {a b : Int} (lt : a < b) : (seconds a : K) < seconds b :=
  div_lt_div_of_pos_right (Int.cast_lt.mpr lt) (by positivity)

theorem nonneg_of_seconds {a : Int} (nonneg : (0 : K) ≤ seconds a) : 0 ≤ a := by
  by_contra negative
  have below : (seconds a : K) < 0 :=
    div_neg_of_neg_of_pos (Int.cast_lt_zero.mpr (not_le.mp negative)) (by positivity)
  exact absurd nonneg (not_le.mpr below)

theorem seconds_since_anti (now : Int) {a b : Int} (le : a ≤ b) :
    (seconds (now - b) : K) ≤ seconds (now - a) := seconds_mono (by omega)

end Seconds

variable {K : Type} [Field K] [LinearOrder K] [FloorRing K] [FloatMath K]

/-- The estimate check runs: a control tick, airborne or landing, and the fence check
    before it has passed. -/
def Evaluates (p : Params K) (n : Node K) (e : Event K) : Prop :=
  e.callback = .control ∧ n.process = .running ∧ (n.state.Flying ∨ n.state = .land) ∧
    ¬ OutsideFence p n

instance (p : Params K) (n : Node K) (e : Event K) : Decidable (Evaluates p n e) :=
  inferInstanceAs (Decidable (_ ∧ _ ∧ _ ∧ _))

theorem tick_estimate {p : Params K} {now : Int} {n n' : Node K} {out : List (Output K)}
    (went : Tick p now n n' out) (running : n.process = .running) :
    n'.estimateInvalidSince =
      if Evaluates p n ⟨now, .control⟩ then
        if Healthy n then none else some (n.estimateInvalidSince.getD now)
      else n.estimateInvalidSince := by
  have evaluated : (n.state.Flying ∨ n.state = .land) → ¬ OutsideFence p n →
      Evaluates p n ⟨now, .control⟩ := fun state inside => ⟨rfl, running, state, inside⟩
  cases went with
  | stream state | confirmed state | rateFault state | retry state | exit state =>
    exact (if_neg (by simp [Evaluates, state, FlightState.Flying])).symm
  | fenceAbort _ outside | fenceEmergency _ outside =>
    exact (if_neg fun evaluated => evaluated.2.2.2 outside).symm
  | estimateAbort flying inside =>
    rw [if_pos (evaluated (Or.inl flying) inside)]
    rfl
  | estimateEmergency state inside =>
    rw [if_pos (evaluated (Or.inr state) inside)]
    rfl
  | indexFault route passed | cruise route passed | reach route passed =>
    rw [if_pos (evaluated (Or.inl (onRoute_flying route)) passed.inside)]
    rfl
  | climb state passed | startRoute state passed | startHover state passed
  | landRoute state passed | hoverRoute state passed | hold state passed
  | landHover state passed =>
    rw [if_pos (evaluated (Or.inl (by simp [FlightState.Flying, state])) passed.inside)]
    rfl
  | disarmed state passed | fallback state passed | warn state passed | descend state passed =>
    rw [if_pos (evaluated (Or.inr state) passed.inside)]
    rfl

theorem move_estimate {p : Params K} {n n' : Node K} {e : Event K} {out : List (Output K)}
    (moved : Move p n e n' out) :
    n'.estimateInvalidSince =
      if Evaluates p n e then
        if Healthy n then none else some (n.estimateInvalidSince.getD e.now)
      else n.estimateInvalidSince := by
  have skipped : ¬ Evaluates p n e → n'.estimateInvalidSince = n.estimateInvalidSince →
      n'.estimateInvalidSince =
        if Evaluates p n e then
          if Healthy n then none else some (n.estimateInvalidSince.getD e.now)
        else n.estimateInvalidSince := fun skip same => by rw [if_neg skip, same]
  cases moved with
  | tick now running went => exact tick_estimate went running
  | stopped _ gone => exact skipped (fun ev => gone ev.2.1) rfl
  | refused _ goal | emptyPlan _ goal | accepted _ goal =>
    exact skipped (fun ev => by rw [ev.1] at goal; exact goal) rfl
  | _ => exact skipped (fun ev => by cases ev.1) rfl

theorem move_low {p : Params K} {n n' : Node K} {e : Event K} {out : List (Output K)}
    (moved : Move p n e n' out) (running : n.process = .running) :
    n'.lowThrottleSince =
      match e.callback with
      | .landDetected msg =>
        if msg.hasLowThrottle then some (n.lowThrottleSince.getD e.now) else none
      | _ => n.lowThrottleSince := by
  cases moved with
  | stopped _ gone => exact absurd running gone
  | tick now _ went => exact (tick_keeps_messages went).2.2
  | refused _ goal | emptyPlan _ goal | accepted _ goal =>
    obtain ⟨now, callback⟩ := e
    cases callback <;> first | rfl | exact goal.elim
  | _ => rfl

def Invalid (p : Params K) : Moment (Event K) := fun past _ => ¬ Healthy ((flight p).after past)

def Evaluated (p : Params K) : Moment (Event K) := fun past e =>
  Evaluates p ((flight p).after past) e

instance (p : Params K) (past : List (Event K)) (e : Event K) : Decidable (Invalid p past e) :=
  inferInstanceAs (Decidable (¬ _))

instance (p : Params K) (past : List (Event K)) (e : Event K) : Decidable (Evaluated p past e) :=
  inferInstanceAs (Decidable (Evaluates _ _ _))

def estimateFinding (p : Params K) : Finding (Event K) := findingOf (Evaluated p) (Invalid p)

def landSample {K : Type} (e : Event K) : Option Bool :=
  match e.callback with
  | .landDetected msg => some msg.hasLowThrottle
  | _ => none

def lowFinding {K : Type} : Finding (Event K) := fun _ e => landSample e

theorem estimate_timer_is_streak (p : Params K) (run : List (Event K)) :
    ((flight p).after run).estimateInvalidSince = streak Event.now (estimateFinding p) run := by
  apply (flight p).invariant
    (fun run n => n.estimateInvalidSince = streak Event.now (estimateFinding p) run)
  · rfl
  · intro past e before
    rw [move_estimate (after_move p past e), before]
    by_cases evaluated : Evaluates p ((flight p).after past) e
    · by_cases healthy : Healthy ((flight p).after past) <;>
        simp [streak, estimateFinding, findingOf, Evaluated, Invalid, evaluated, healthy]
    · simp [streak, estimateFinding, findingOf, Evaluated, evaluated]

/-- The unbroken run of moments that `look` and find an invalid stored sample, up to the
    last one of `run`, began at least the dwell before `now`. -/
def InvalidForDwell (p : Params K) (look : Moment (Event K)) (now : Int) :
    List (Event K) → Prop :=
  Began look (Invalid p) Event.now fun start =>
    p.estimateInvalidAbortDwellS ≤ seconds (now - start)

theorem expired_iff_invalidForDwell {p : Params K} (look : Moment (Event K))
    [∀ past e, Decidable (look past e)] {past : List (Event K)} {e : Event K}
    (timer : ((flight p).after past).estimateInvalidSince =
      streak Event.now (findingOf look (Invalid p)) past) (looked : look past e) :
    EstimateExpired p e.now ((flight p).after past) ↔
      InvalidForDwell p look e.now (e :: past) := by
  rw [InvalidForDwell, ← streak_iff_began, EstimateExpired, timer]
  by_cases invalid : Invalid p past e
  · have unhealthy : ¬ Healthy ((flight p).after past) := invalid
    simp [streak, findingOf, looked, invalid, unhealthy]
  · have healthy : Healthy ((flight p).after past) := not_not.mp invalid
    simp [streak, findingOf, looked, invalid, healthy]

theorem low_timer_is_streak {p : Params K} {run : List (Event K)}
    (running : ((flight p).after run).process = .running) :
    ((flight p).after run).lowThrottleSince = streak Event.now lowFinding run := by
  revert running
  apply (flight p).invariant (fun run n => n.process = .running →
    n.lowThrottleSince = streak Event.now lowFinding run)
  · intro _
    rfl
  · intro past e ih running
    have before := running_before running
    rw [move_low (after_move p past e) before, ih before]
    obtain ⟨now, callback⟩ := e
    cases callback with
    | landDetected msg =>
      cases low : msg.hasLowThrottle <;> simp [streak, lowFinding, landSample, low]
    | _ => rfl

end OffboardControl
