import GpsDeniedDrone.Descent
import GpsDeniedDrone.Watchdog

/-!
Blips of validity. Samples come faster than control ticks and the estimate check looks
only at the one that is stored when it runs; this module says exactly when a stop for an
invalid estimate means that no valid sample came for the whole dwell.
-/
namespace OffboardControl
open FrameTransforms Messages PastTime Streak
variable {K : Type}

def EstimateLatched (n n' : Node K) : Prop :=
  (n.estimateBreach = false ∧ n'.estimateBreach = true) ∨
    (n.estimateLandEmergency = false ∧ n'.estimateLandEmergency = true)

instance (n n' : Node K) : Decidable (EstimateLatched n n') :=
  inferInstanceAs (Decidable (_ ∨ _))

variable [Field K] [LinearOrder K] [FloorRing K] [FloatMath K]

def EstimateStop (p : Params K) : Moment (Event K) := fun past e =>
  EstimateLatched ((flight p).after past) ((flight p).after (e :: past))

instance (p : Params K) (past : List (Event K)) (e : Event K) :
    Decidable (EstimateStop p past e) := inferInstanceAs (Decidable (EstimateLatched _ _))

theorem tick_estimate_stop {p : Params K} {now : Int} {n n' : Node K} {out : List (Output K)}
    (went : Tick p now n n' out) (stop : EstimateLatched n n') :
    (n.state.Flying ∨ n.state = .land) ∧ ¬ OutsideFence p n ∧ EstimateExpired p now n := by
  cases went with
  | estimateAbort flying inside expired => exact ⟨Or.inl flying, inside, expired⟩
  | estimateEmergency state inside expired => exact ⟨Or.inr state, inside, expired⟩
  | _ => simp [EstimateLatched, Node.checked, Node.landing] at stop

theorem move_estimate_stop {p : Params K} {n n' : Node K} {e : Event K} {out : List (Output K)}
    (moved : Move p n e n' out) (stop : EstimateLatched n n') :
    Evaluates p n e ∧ EstimateExpired p e.now n := by
  cases moved with
  | tick now running went =>
    obtain ⟨state, inside, expired⟩ := tick_estimate_stop went stop
    exact ⟨⟨rfl, running, state, inside⟩, expired⟩
  | _ => simp [EstimateLatched, Node.flying] at stop

theorem stop_dwell {p : Params K} {past : List (Event K)} {e : Event K}
    (stop : EstimateStop p past e) : InvalidForDwell p (Evaluated p) e.now (e :: past) := by
  obtain ⟨evaluated, expired⟩ := move_estimate_stop (after_move p past e) stop
  exact (expired_iff_invalidForDwell (Evaluated p) (estimate_timer_is_streak p past)
    evaluated).mp expired

def WithinDwell (p : Params K) (now : Int) (a : Event K) : Prop :=
  a.now ≤ now ∧ seconds (now - a.now) ≤ p.estimateInvalidAbortDwellS

instance (p : Params K) (now : Int) (a : Event K) : Decidable (WithinDwell p now a) :=
  inferInstanceAs (Decidable (_ ∧ _))

/-- The sample `a`, received after `older` and before `newer`, was still stored at a later
    evaluation, and from there to `e` the clock read less than the dwell before `e`. -/
def LookedAt (p : Params K) (e : Event K) (newer : List (Event K)) (a : Event K)
    (older : List (Event K)) : Prop :=
  ∃ later u between, newer = later ++ u :: between ∧ (∀ b ∈ between, b.sample = none) ∧
    Evaluated p (between ++ a :: older) u ∧
    ∀ b ∈ e :: later, seconds (e.now - b.now) < p.estimateInvalidAbortDwellS

omit [Field K] [LinearOrder K] [FloorRing K] [FloatMath K] in
theorem valid_sample {a : Event K} (valid : ValidSample a) :
    ∃ msg, a.sample = some msg ∧ msg.xyValid = true ∧ msg.vXyValid = true := by
  obtain ⟨now, callback⟩ := a
  cases callback with
  | localPosition msg => exact ⟨msg, rfl, valid⟩
  | _ => exact valid.elim

theorem looked_at_valid {p : Params K} {between older : List (Event K)} {a u : Event K}
    (valid : ValidSample a) (last : ∀ b ∈ between, b.sample = none)
    (evaluated : Evaluated p (between ++ a :: older) u) :
    ¬ Invalid p (between ++ a :: older) u := by
  obtain ⟨msg, sample, flags⟩ := valid_sample valid
  have regroup : between ++ a :: older = (between ++ [a]) ++ older := by simp
  have latest : (between ++ [a]).findSome? Event.sample = some msg := by
    rw [List.findSome?_append, List.findSome?_eq_none_iff.mpr last]
    simp [sample]
  have running := evaluated.2.1
  rw [regroup] at running
  have stored := stored_sample running
  rw [latest, Option.getD_some] at stored
  intro invalid
  apply invalid
  rw [Healthy, regroup, stored]
  exact flags

theorem old_of_looked {p : Params K} {past : List (Event K)} {e : Event K}
    (stop : EstimateStop p past e)
    (looked : ∀ newer a older, past = newer ++ a :: older → ValidSample a →
      WithinDwell p e.now a → LookedAt p e newer a older)
    {a : Event K} (mem : a ∈ past) (valid : ValidSample a) : ¬ WithinDwell p e.now a := by
  intro recent
  obtain ⟨newer, older, split⟩ := List.append_of_mem mem
  obtain ⟨later, u, between, split_u, last, evaluated, young⟩ :=
    looked newer a older split valid recent
  have run : e :: past = (e :: later) ++ u :: (between ++ a :: older) := by
    simp [split, split_u]
  have healthy := looked_at_valid valid last evaluated
  have dwell := stop_dwell stop
  rw [run] at dwell
  -- the evaluation broke the run of invalid findings, so the present one began after it
  obtain ⟨b, mem_b, _, _, _, old⟩ := since_restarted dwell
    (fun held => healthy (held evaluated)) (fun began => healthy began.1.2)
  exact absurd old (not_le.mpr (young b mem_b))

theorem none_valid_iff_looked {p : Params K} {past : List (Event K)} {e : Event K}
    (stop : EstimateStop p past e) :
    (∀ a ∈ past, ValidSample a → ¬ WithinDwell p e.now a) ↔
      ∀ newer a older, past = newer ++ a :: older → ValidSample a → WithinDwell p e.now a →
        LookedAt p e newer a older := by
  constructor
  · intro none_valid newer a older split valid recent
    have mem : a ∈ past := by simp [split]
    exact absurd recent (none_valid a mem valid)
  · intro looked a mem valid
    exact old_of_looked stop looked mem valid

/- Runs sampled no faster than they are checked. -/

def ClockStrict : Moment (Event K) := fun past e => ∀ prev ∈ past, prev.now < e.now

instance (past : List (Event K)) (e : Event K) : Decidable (ClockStrict past e) :=
  inferInstanceAs (Decidable (∀ prev ∈ past, prev.now < e.now))

/-- A sample that replaces a valid one comes after the check has looked at that one. -/
def ValidSeen (p : Params K) : Moment (Event K) := fun past s =>
  s.sample.isSome = true → ∀ between a older, past = between ++ a :: older →
    (∀ b ∈ between, b.sample = none) → ValidSample a →
      ∃ later u rest, between = later ++ u :: rest ∧ Evaluated p (rest ++ a :: older) u

omit [Field K] [LinearOrder K] [FloorRing K] [FloatMath K] in
theorem clock_after {newer older : List (Event K)} {a : Event K}
    (clock : Always ClockStrict (newer ++ a :: older)) : ∀ b ∈ newer, a.now < b.now := by
  induction newer with
  | nil => simp
  | cons e newer ih =>
    intro b mem
    rcases List.mem_cons.mp mem with rfl | earlier
    · exact clock.1 a (by simp)
    · exact ih clock.2 b earlier

variable [IsStrictOrderedRing K]

theorem looked_of_seen {p : Params K} {newer older : List (Event K)} {e a : Event K}
    (stop : EstimateStop p (newer ++ a :: older) e)
    (clock : Always ClockStrict (e :: (newer ++ a :: older)))
    (seen : Always (ValidSeen p) (newer ++ a :: older)) (valid : ValidSample a)
    (recent : WithinDwell p e.now a) : LookedAt p e newer a older := by
  have young : ∀ b ∈ e :: newer,
      seconds (e.now - b.now) < p.estimateInvalidAbortDwellS := by
    intro b mem
    have all : Always ClockStrict ((e :: newer) ++ a :: older) := clock
    have since : a.now < b.now := clock_after all b mem
    exact lt_of_lt_of_le (seconds_strictMono (by omega)) recent.2
  by_cases replaced : ∃ s ∈ newer, s.sample.isSome = true
  · obtain ⟨more, s, between, split, sample, first⟩ := first_of_kind replaced
    have quiet : ∀ b ∈ between, b.sample = none := by
      intro b mem
      simpa using first b mem
    subst split
    rw [List.append_assoc] at seen
    obtain ⟨later, u, rest, split, evaluated⟩ :=
      (always_suffix seen).1 sample between a older rfl quiet valid
    subst split
    refine ⟨more ++ s :: later, u, rest, by simp, ?_, evaluated, ?_⟩
    · intro b mem
      exact quiet b (by simp [mem])
    · have latest : (e :: (more ++ s :: later)) <+: (e :: (more ++ s :: (later ++ u :: rest))) :=
        ⟨u :: rest, by simp⟩
      exact fun b mem => young b (latest.subset mem)
  · -- the stop itself would have looked at it
    obtain ⟨evaluated, invalid, _⟩ := move_estimate_stop (after_move p _ e) stop
    have quiet : ∀ b ∈ newer, b.sample = none := by simpa using replaced
    exact absurd invalid (looked_at_valid valid quiet evaluated)

theorem sampled_stops_without_blips {p : Params K} {run : List (Event K)}
    (clock : Always ClockStrict run) (seen : Always (ValidSeen p) run) :
    Always (fun past e => EstimateStop p past e →
      ∀ a ∈ past, ValidSample a → ¬ WithinDwell p e.now a) run := by
  induction run with
  | nil => trivial
  | cons e past ih =>
    refine ⟨?_, ih clock.2 seen.2⟩
    intro stop a mem valid
    apply old_of_looked stop _ mem valid
    intro newer b older split valid recent
    subst split
    exact looked_of_seen stop clock seen.2 valid recent

def ticksFrom (t : Int) : Nat → List (Event ℚ)
  | 0 => []
  | k + 1 => tickAt (t + k) :: ticksFrom t k

/-- A hover on an invalid estimate, with `blip` received just after the ninth tick. -/
def blinded (blip : List (Event ℚ)) : List (Event ℚ) :=
  ticksFrom 21 6 ++ blip ++ ticksFrom 12 9 ++ sampleAt 11 0 0 (-2) false :: hovering

def lostInTakeoff : List (Event ℚ) :=
  ticksFrom 15 15 ++ sampleAt 14 0 0 0 false :: (ticksFrom 3 11 ++ [sampleAt 2 0 0 0 true,
    statusAt 1 14 2])

theorem latest_sample_unique {newer older between rest : List (Event ℚ)} {x a : Event ℚ}
    (split : newer ++ x :: older = between ++ a :: rest) (quiet : ∀ b ∈ newer, b.sample = none)
    (quiet' : ∀ b ∈ between, b.sample = none) (sampled : x.sample ≠ none)
    (sampled' : a.sample ≠ none) : between = newer ∧ a = x ∧ rest = older := by
  induction newer generalizing between with
  | nil =>
    cases between with
    | nil =>
      cases split
      exact ⟨rfl, rfl, rfl⟩
    | cons b between =>
      cases split
      exact absurd (quiet' x List.mem_cons_self) sampled
  | cons n newer ih =>
    cases between with
    | nil =>
      cases split
      exact absurd (quiet a List.mem_cons_self) sampled'
    | cons b between =>
      obtain ⟨rfl, tail⟩ := List.cons.inj split
      obtain ⟨rfl, rfl, rfl⟩ := ih tail (fun b mem => quiet b (List.mem_cons_of_mem _ mem))
        fun b mem => quiet' b (List.mem_cons_of_mem _ mem)
      exact ⟨rfl, rfl, rfl⟩

theorem lostInTakeoff_seen : Always (ValidSeen simParams) (tickAt 30 :: lostInTakeoff) := by
  have tick_seen (t : Int) (past : List (Event ℚ)) : ValidSeen simParams past (tickAt t) := nofun
  have ticks_seen (t : Int) (k : Nat) (past : List (Event ℚ))
      (seen : Always (ValidSeen simParams) past) :
      Always (ValidSeen simParams) (ticksFrom t k ++ past) := by
    induction k with
    | zero => exact seen
    | succ k ih => exact ⟨tick_seen _ _, ih⟩
  refine ⟨tick_seen _ _, ticks_seen _ _ _ ⟨?_, ticks_seen _ _ _ ⟨?_, nofun, trivial⟩⟩⟩
  · intro _ between a older split quiet valid
    obtain ⟨msg, sample, _⟩ := valid_sample valid
    obtain ⟨rfl, rfl, rfl⟩ := latest_sample_unique split (by decide) quiet nofun (by simp [sample])
    exact ⟨[], tickAt 13, ticksFrom 3 10, rfl, by decide +kernel⟩
  · intro _ between a older split _ valid
    have mem : a ∈ [statusAt 1 14 2] := by simp [split]
    rw [List.mem_singleton.mp mem] at valid
    exact valid.elim

end OffboardControl
