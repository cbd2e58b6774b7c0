import GpsDeniedDrone.Supervision

/-!
Silence. The estimate check reads the sample that is stored and never asks how old it
is; this module says exactly when a flight that has been without a valid sample for
longer than the dwell is stopped.
-/
namespace OffboardControl
open FrameTransforms Messages PastTime Streak
variable {K : Type} [Field K] [LinearOrder K] [FloorRing K] [FloatMath K]

def ValidSample {K : Type} (e : Event K) : Prop :=
  match e.callback with
  | .localPosition msg => msg.xyValid = true ∧ msg.vXyValid = true
  | _ => False

instance {K : Type} (e : Event K) : Decidable (ValidSample e) :=
  match e with
  | ⟨_, .localPosition _⟩ => inferInstanceAs (Decidable (_ ∧ _))
  | ⟨_, .vehicleStatus _⟩ | ⟨_, .landDetected _⟩ | ⟨_, .goalPose _⟩ | ⟨_, .navPath _⟩
  | ⟨_, .setWaypoints _⟩ | ⟨_, .control⟩ => isFalse id

def controlPeriodS (p : Params K) : K := 1 / p.controlRateHz

def ControlTick : Moment (Event K) := fun _ e => e.callback = .control

instance (past : List (Event K)) (e : Event K) : Decidable (ControlTick past e) :=
  inferInstanceAs (Decidable (_ = _))

def Paced (p : Params K) : Moment (Event K) := fun past e => e.callback = .control →
  ∀ t ∈ latest Event.now ControlTick past, seconds (e.now - t) ≤ controlPeriodS p

instance (p : Params K) (past : List (Event K)) (e : Event K) : Decidable (Paced p past e) :=
  inferInstanceAs (Decidable (_ → ∀ t ∈ latest _ _ _, _))

/-- For longer than the dwell and one period before `now` the node has been flying and no
    valid sample has been received. -/
def Blind (p : Params K) (now : Int) : List (Event K) → Prop :=
  Since (fun past e => (stateAfter p (e :: past)).Flying ∧
      p.estimateInvalidAbortDwellS + controlPeriodS p < seconds (now - e.now))
    (fun _ e => ¬ ValidSample e)

instance (p : Params K) (now : Int) : DecidablePred (Blind p now) :=
  inferInstanceAs (DecidablePred (Since _ _))

/-- The latest control tick at least the dwell before `now` found an invalid sample
    stored. -/
def StaleInvalid (p : Params K) (now : Int) : List (Event K) → Prop :=
  Since (fun past e => (e.callback = .control ∧ Invalid p past e) ∧
      p.estimateInvalidAbortDwellS ≤ seconds (now - e.now))
    (fun _ e => e.callback = .control → seconds (now - e.now) < p.estimateInvalidAbortDwellS)

/-- Some flying tick at least the dwell before `now` found an invalid sample stored, and
    so did every later one. -/
def InvalidSince (p : Params K) (now : Int) : List (Event K) → Prop :=
  Since (fun past e => (FlyingTick p past e ∧ Invalid p past e) ∧
      p.estimateInvalidAbortDwellS ≤ seconds (now - e.now))
    (fun past e => FlyingTick p past e → Invalid p past e)

/- The state along the span. -/

theorem grammar_flying {s s' : FlightState} {word : List Signal} (g : Grammar s word s')
    (flying : s.Flying) (airborne : ¬ s'.Landed) : s'.Flying := by
  cases g with
  | silent | fly | fault => exact flying
  | goal | startRoute | startHover | arrive => decide
  | finish | abort => exact absurd (Or.inl rfl) airborne
  | request | climb => exact absurd rfl (flying_ne flying).1
  | _ => simp [FlightState.Flying] at flying

theorem flying_since {p : Params K} {anchor hold : Moment (Event K)} {run : List (Event K)}
    (begun : ∀ past e, anchor past e →
      (stateAfter p past).Flying ∨ (stateAfter p (e :: past)).Flying)
    (since : Since anchor hold run) (airborne : ¬ (stateAfter p run).Landed) :
    (stateAfter p run).Flying := by
  induction run with
  | nil => exact since.elim
  | cons e past ih =>
    rcases since with now | ⟨_, before⟩
    · rcases begun past e now with flying | flying
      · exact grammar_flying (step_grammar p past e) flying airborne
      · exact flying
    · have flying := ih before (not_landed_before airborne)
      exact grammar_flying (step_grammar p past e) flying airborne

theorem move_invalid {p : Params K} {n n' : Node K} {e : Event K} {out : List (Output K)}
    (moved : Move p n e n' out) (none_valid : ¬ ValidSample e) (invalid : ¬ Healthy n) :
    ¬ Healthy n' := by
  cases moved with
  | position => exact none_valid
  | tick now _ went =>
    unfold Healthy
    rw [(tick_keeps_messages went).1]
    exact invalid
  | _ => exact invalid

theorem invalid_persists {p : Params K} {now : Int} {run : List (Event K)}
    (since : Since (fun past e => (FlyingTick p past e ∧ Invalid p past e) ∧
        p.estimateInvalidAbortDwellS ≤ seconds (now - e.now))
      (fun _ e => ¬ ValidSample e) run) :
    ¬ Healthy ((flight p).after run) ∧ InvalidSince p now run := by
  induction run with
  | nil => exact since.elim
  | cons e past ih =>
    rcases since with here | ⟨none_valid, before⟩
    · have no_sample : ¬ ValidSample e := by simp [ValidSample, here.1.1.1]
      exact ⟨move_invalid (after_move p past e) no_sample here.1.2, Or.inl here⟩
    · obtain ⟨invalid, streak⟩ := ih before
      exact ⟨move_invalid (after_move p past e) none_valid invalid,
        Or.inr ⟨fun _ => invalid, streak⟩⟩

/-- Within the span of a blind flight whose ticks keep their pace, the latest tick that is
    at least the dwell old is a flying tick after which no valid sample came. -/
theorem stale_in_span [IsStrictOrderedRing K] {p : Params K} {now : Int} {run : List (Event K)}
    (clock : Always (ClockMonotone Event.now) run) (paced : Always (Paced p) run)
    (blind : Blind p now run) (stale : StaleInvalid p now run)
    (running : ((flight p).after run).process = .running)
    (airborne : ¬ (stateAfter p run).Landed)
    (recent : ∀ t ∈ latest Event.now ControlTick run,
      seconds (now - t) < p.estimateInvalidAbortDwellS + controlPeriodS p) :
    Since (fun past e => (FlyingTick p past e ∧ Invalid p past e) ∧
        p.estimateInvalidAbortDwellS ≤ seconds (now - e.now))
      (fun _ e => ¬ ValidSample e) run := by
  induction run with
  | nil => exact blind.elim
  | cons e past ih =>
    have ticked : ∃ t, latest Event.now ControlTick (e :: past) = some t :=
      latest_of_since (fun _ _ tick => tick.1.1) stale
    obtain ⟨t, last⟩ := ticked
    rcases blind with ⟨_, old⟩ | ⟨none_valid, blind⟩
    · obtain ⟨a, mem, eq⟩ := latest_is_event_time last
      have le : t ≤ e.now := by
        rcases List.mem_cons.mp mem with rfl | mem
        · exact le_of_eq eq.symm
        · exact eq ▸ clock.1 a mem
      exact absurd (recent t last) (not_lt.mpr (old.le.trans (seconds_since_anti now le)))
    · have airborne' := not_landed_before airborne
      have running' := running_before running
      rcases stale with ⟨⟨control, invalid⟩, old⟩ | ⟨young, stale⟩
      · have flying := flying_since (fun _ _ begun => Or.inr begun.1) blind airborne'
        exact Or.inl ⟨⟨⟨control, running', flying⟩, invalid⟩, old⟩
      · apply Or.inr
        apply And.intro none_valid
        apply ih clock.2 paced.2 blind stale running' airborne'
        intro u latest_u
        by_cases control : e.callback = .control
        · rw [seconds_between now e.now u]
          exact add_lt_add_of_lt_of_le (young control) (paced.1 control u latest_u)
        · have same : latest Event.now ControlTick (e :: past) =
              latest Event.now ControlTick past := if_neg control
          exact recent u (same ▸ latest_u)

/-- Conversely a run of invalid findings a dwell long shows at the latest tick that old. -/
theorem stale_of_invalidSince {p : Params K} {now : Int} {past : List (Event K)} {e : Event K}
    (running : ((flight p).after past).process = .running)
    (airborne : ¬ (stateAfter p past).Landed) (invalid : InvalidSince p now (e :: past)) :
    StaleInvalid p now (e :: past) := by
  induction past generalizing e with
  | nil =>
    rcases invalid with ⟨⟨flying, bad⟩, old⟩ | ⟨_, before⟩
    · exact Or.inl ⟨⟨flying.1, bad⟩, old⟩
    · exact before.elim
  | cons b older ih =>
    rcases invalid with ⟨⟨flying, bad⟩, old⟩ | ⟨held, before⟩
    · exact Or.inl ⟨⟨flying.1, bad⟩, old⟩
    · have stale := ih (running_before running) (not_landed_before airborne) before
      have flying := flying_since (fun _ _ begun => Or.inl begun.1.1.2.2) before airborne
      by_cases due : e.callback = .control ∧
          p.estimateInvalidAbortDwellS ≤ seconds (now - e.now)
      · exact Or.inl ⟨⟨due.1, held ⟨due.1, running, flying⟩⟩, due.2⟩
      · exact Or.inr ⟨fun control => lt_of_not_ge fun old => due ⟨control, old⟩, stale⟩

theorem expired_iff_stale [IsStrictOrderedRing K] {p : Params K} {past : List (Event K)}
    {e : Event K} (clock : Always (ClockMonotone Event.now) (e :: past))
    (flying : FlyingTick p past e) (paced : Always (Paced p) (e :: past))
    (blind : Blind p e.now past) :
    EstimateExpired p e.now ((flight p).after past) ↔ StaleInvalid p e.now (e :: past) := by
  have airborne : ¬ (stateAfter p past).Landed := not_or.mpr (flying_ne flying.2.2).2
  have began : InvalidForDwell p (FlyingTick p) e.now (e :: past) ↔
      InvalidSince p e.now (e :: past) :=
    began_iff_since (FlyingTick p) (Invalid p) clock
      (fun start => p.estimateInvalidAbortDwellS ≤ (seconds (e.now - start) : K))
      (fun a b le old => old.trans (seconds_since_anti e.now le))
  rw [expired_iff_flying flying, began]
  constructor
  · exact stale_of_invalidSince flying.2.1 airborne
  · intro stale
    rcases stale with ⟨⟨_, bad⟩, old⟩ | ⟨young, stale⟩
    · exact Or.inl ⟨⟨flying, bad⟩, old⟩
    · have positive : 0 < p.estimateInvalidAbortDwellS := by simpa using young flying.1
      have span := stale_in_span clock.2 paced.2 blind stale flying.2.1 airborne
        fun t last => (paced.1 flying.1 t last).trans_lt (lt_add_of_pos_left _ positive)
      obtain ⟨invalid, streak⟩ := invalid_persists span
      exact Or.inr ⟨fun _ => invalid, streak⟩

theorem blind_flight_stopped_iff [IsStrictOrderedRing K] {p : Params K} {past : List (Event K)}
    {e : Event K} (clock : Always (ClockMonotone Event.now) (e :: past))
    (flying : FlyingTick p past e) (paced : Always (Paced p) (e :: past))
    (blind : Blind p e.now past) :
    (stateAfter p (e :: past)).Landed ↔
      OutsideFence p ((flight p).after past) ∨ StaleInvalid p e.now (e :: past) ∨
        Finishes p ((flight p).after past) := by
  rw [← expired_iff_stale clock flying paced blind]
  cases flyingTick_supervised flying with
  | stopped cause _ _ land =>
    exact iff_of_true (Or.inl land) (cause.imp_right Or.inl)
  | kept passed _ _ _ landed =>
    rw [stateAfter, landed, or_iff_right passed.inside, or_iff_right passed.waiting]

/-- Armed and in OFFBOARD on the ground with one sample received, then nothing but control
    ticks. -/
def silentTicks (k : Nat) (valid : Bool) : List (Event ℚ) :=
  ticksUpTo k ++ [sampleAt 0 0 0 0 valid, statusAt 0 14 2]

theorem blind_flight_stopped_iff_invalid :
    (stateAfter simParams
        (⟨2650000000, .control⟩ :: ⟨2590000000, .control⟩ :: silentTicks 25 false)).Landed ↔
      OutsideFence simParams
          ((flight simParams).after (⟨2590000000, .control⟩ :: silentTicks 25 false)) ∨
        StaleInvalid simParams 2650000000
          (⟨2650000000, .control⟩ :: ⟨2590000000, .control⟩ :: silentTicks 25 false) ∨
        Finishes simParams
          ((flight simParams).after (⟨2590000000, .control⟩ :: silentTicks 25 false)) :=
  blind_flight_stopped_iff (by decide +kernel) (by decide +kernel) (by decide +kernel)
    (by decide +kernel)

/-- The stream stops on a valid sample: 1.7 s into the flight it is still climbing. -/
theorem silence_not_stopped : ¬ ∀ (p : Params ℚ) (past : List (Event ℚ)) (e : Event ℚ),
    Always (ClockMonotone Event.now) (e :: past) → FlyingTick p past e →
      Always (Paced p) (e :: past) → Blind p e.now past → (stateAfter p (e :: past)).Landed := by
  intro all
  have landed := all simParams (silentTicks 26 true) (tickAt 27) (by decide +kernel)
    (by decide +kernel)
    (by decide +kernel) (by decide +kernel)
  exact absurd landed (by decide +kernel)

end OffboardControl
