import GpsDeniedDrone.DwellTimers
import GpsDeniedDrone.Readings

/-!
Landing: when the forced disarm is sent, on what evidence, and how the flight ends.
-/
namespace OffboardControl
open FrameTransforms Messages PastTime Streak
variable {K : Type} [Field K] [LinearOrder K] [FloorRing K] [FloatMath K]

def FallbackDue (p : Params K) (now : Int) (n : Node K) : Prop :=
  n.vehicleStatus.armingState ≠ armingStateDisarmed ∧ LowThrottleHeld p now n ∧
    AttemptDue K now n

theorem tick_forced_disarm_after {p : Params K} {now : Int} {n n' : Node K}
    {out : List (Output K)} (went : Tick p now n n' out) (cut : .forcedDisarm ∈ signals out) :
    n'.state = .done ∧ (OutsideFence p n ∨ EstimateExpired p now n ∧ ¬ OutsideFence p n) ∨
      n'.state = .land ∧ ¬ OutsideFence p n ∧ FallbackDue p now n := by
  have state := grammar_forced_disarm (tick_grammar went) cut
  cases went with
  | fenceEmergency _ outside => exact Or.inl ⟨rfl, Or.inl outside⟩
  | estimateEmergency _ inside expired => exact Or.inl ⟨rfl, Or.inr ⟨expired, inside⟩⟩
  | fallback _ passed unconfirmed held due =>
    exact Or.inr ⟨state, passed.inside, unconfirmed, held, due⟩
  | retry before => cases before.symm.trans state
  | _ => simp at cut

theorem tick_forced_disarm_iff {p : Params K} {now : Int} {n n' : Node K}
    {out : List (Output K)} (went : Tick p now n n' out) :
    .forcedDisarm ∈ signals out ↔ n.state = .land ∧
      (OutsideFence p n ∨ EstimateExpired p now n ∨ FallbackDue p now n) := by
  constructor
  · intro cut
    apply And.intro (grammar_forced_disarm (tick_grammar went) cut)
    rcases tick_forced_disarm_after went cut with
      ⟨_, outside | ⟨expired, _⟩⟩ | ⟨_, _, due⟩
    · exact Or.inl outside
    · exact Or.inr (Or.inl expired)
    · exact Or.inr (Or.inr due)
  · intro due
    obtain ⟨state, cause⟩ := due
    cases went with
    | fenceEmergency | estimateEmergency | fallback => simp
    | disarmed _ passed confirmed =>
      rcases cause with outside | expired | due
      · exact absurd outside passed.inside
      · exact absurd expired passed.waiting
      · exact absurd confirmed due.1
    | warn _ passed _ unheld =>
      rcases cause with outside | expired | due
      · exact absurd outside passed.inside
      · exact absurd expired passed.waiting
      · exact absurd due.2.1 unheld
    | descend _ passed _ nothing_due =>
      rcases cause with outside | expired | due
      · exact absurd outside passed.inside
      · exact absurd expired passed.waiting
      · exact absurd due.2.2 (nothing_due due.2.1)
    | fenceAbort flying | estimateAbort flying => exact absurd state (flying_ne flying).2.1
    | indexFault route | cruise route | reach route =>
      exact absurd state (flying_ne (onRoute_flying route)).2.1
    | stream before | confirmed before | rateFault before | retry before | climb before
    | startRoute before | startHover before | landRoute before | hoverRoute before
    | hold before | landHover before | exit before => cases before.symm.trans state

theorem step_forced_disarm_iff {p : Params K} {n : Node K} {e : Event K}
    (latches : LatchesClear n) :
    .forcedDisarm ∈ signals (step p n e).2 ↔ (e.callback = .control ∧ n.process = .running) ∧
      n.state = .land ∧
        (OutsideFence p n ∨ EstimateExpired p e.now n ∨ FallbackDue p e.now n) := by
  have moved := step_move (p := p) e latches
  constructor
  · intro cut
    have tick := move_sends moved cut
    exact ⟨tick, (tick_forced_disarm_iff (move_tick moved tick.1 tick.2)).mp cut⟩
  · intro due
    obtain ⟨tick, cause⟩ := due
    exact (tick_forced_disarm_iff (move_tick moved tick.1 tick.2)).mpr cause

def FallbackDisarm (p : Params K) : Moment (Event K) := fun past e =>
  .forcedDisarm ∈ sentAt p past e ∧ stateAfter p (e :: past) = .land

instance (p : Params K) (past : List (Event K)) (e : Event K) :
    Decidable (FallbackDisarm p past e) := inferInstanceAs (Decidable (_ ∧ _))

theorem tick_attempt {p : Params K} {now : Int} {n n' : Node K} {out : List (Output K)}
    (went : Tick p now n n' out) :
    n'.lastDisarmAttemptTime =
      if .forcedDisarm ∈ signals out ∧ n'.state = .land then some now
      else n.lastDisarmAttemptTime := by
  cases went with
  | fallback state => simp [Node.checked, state]
  | retry state =>
    simp [state]
  | fenceEmergency | estimateEmergency => simp [Node.checked]
  | _ => simp [Node.checked, Node.landing]

theorem move_attempt {p : Params K} {n n' : Node K} {e : Event K} {out : List (Output K)}
    (moved : Move p n e n' out) :
    n'.lastDisarmAttemptTime =
      if .forcedDisarm ∈ signals out ∧ n'.state = .land then some e.now
      else n.lastDisarmAttemptTime := by
  cases moved with
  | tick now _ went => exact tick_attempt went
  | _ => simp [Node.flying]

theorem attempt_is_latest (p : Params K) (run : List (Event K)) :
    ((flight p).after run).lastDisarmAttemptTime =
      latest Event.now (FallbackDisarm p) run := by
  apply (flight p).invariant
    (fun run n => n.lastDisarmAttemptTime = latest Event.now (FallbackDisarm p) run)
  · rfl
  · intro past e before
    rw [move_attempt (after_move p past e), before]
    rfl

/-- A low-throttle sample at least the dwell before `now`, and none without since. -/
def LowThrottleFor (p : Params K) (now : Int) : List (Event K) → Prop :=
  Since (fun _ e => landSample e = some true ∧
      p.landDisarmLowThrottleDwellS ≤ seconds (now - e.now))
    (fun _ e => landSample e ≠ some false)

/-- The fallback's dwell test, for a positive dwell, as a statement about the samples. -/
theorem held_iff_lowThrottleFor [IsStrictOrderedRing K] {p : Params K} {run : List (Event K)}
    (clock : Always (ClockMonotone Event.now) run)
    (running : ((flight p).after run).process = .running)
    (positive : 0 < p.landDisarmLowThrottleDwellS) (now : Int) :
    p.landDisarmLowThrottleDwellS ≤ secondsSince now ((flight p).after run).lowThrottleSince ↔
      LowThrottleFor p now run := by
  have history : (∃ start, streak Event.now lowFinding run = some start ∧
      p.landDisarmLowThrottleDwellS ≤ seconds (now - start)) ↔ LowThrottleFor p now run :=
    streak_iff_since clock
      (fun start => p.landDisarmLowThrottleDwellS ≤ (seconds (now - start) : K))
      (fun a b le old => old.trans (seconds_since_anti now le))
  rw [low_timer_is_streak running]
  apply Iff.trans _ history
  cases streak Event.now lowFinding run with
  | none => simp [secondsSince, positive]
  | some start => simp [secondsSince]

def Emergency (p : Params K) (past : List (Event K)) (e : Event K) : Prop :=
  OutsideFence p ((flight p).after past) ∨
    (Invalid p past e ∧ InvalidForDwell p (Evaluated p) e.now (e :: past))

theorem emergency_of_cause {p : Params K} {past : List (Event K)} {e : Event K}
    (tick : e.callback = .control ∧ ((flight p).after past).process = .running)
    (landing : stateAfter p past = .land)
    (cause : OutsideFence p ((flight p).after past) ∨
      EstimateExpired p e.now ((flight p).after past) ∧
        ¬ OutsideFence p ((flight p).after past)) : Emergency p past e := by
  rcases cause with outside | ⟨expired, inside⟩
  · exact Or.inl outside
  · have evaluated : Evaluated p past e := ⟨tick.1, tick.2, Or.inr landing, inside⟩
    exact Or.inr ⟨expired.1, (expired_iff_invalidForDwell (Evaluated p)
      (estimate_timer_is_streak p past) evaluated).mp expired⟩

inductive Authorised (p : Params K) (past : List (Event K)) (e : Event K) : Prop where
  | emergency (cause : Emergency p past e) (ended : stateAfter p (e :: past) = .done)
  | fallback (autoLand : (latestStatus past).navState = navigationStateAutoLand)
      (unconfirmed : (latestStatus past).armingState ≠ armingStateDisarmed)
      (inside : ¬ OutsideFence p ((flight p).after past))
      (low : LowThrottleFor p e.now past)
      (spaced : ∀ t ∈ latest Event.now (FallbackDisarm p) past, (1 : K) ≤ seconds (e.now - t))

/-- The law of forced disarms at one callback. The second part says that the time of the
    NAV_LAND has no say in them. -/
structure DisarmLaw (p : Params K) (past : List (Event K)) (e : Event K) : Prop where
  authorised : .forcedDisarm ∈ sentAt p past e →
    e.callback = .control ∧ stateAfter p past = .land ∧ Authorised p past e
  elapsed : ∀ t, .forcedDisarm ∈ sentAt p past e ↔ .forcedDisarm ∈
    signals (step p { (flight p).after past with landCommandedTime := t } e).2

theorem forced_disarm_authorised [IsStrictOrderedRing K] {p : Params K} {past : List (Event K)}
    {e : Event K} (clock : Always (ClockMonotone Event.now) (e :: past))
    (positive : 0 < p.landDisarmLowThrottleDwellS) (cut : .forcedDisarm ∈ sentAt p past e) :
    e.callback = .control ∧ stateAfter p past = .land ∧ Authorised p past e := by
  have moved := after_move p past e
  have tick := move_sends moved cut
  have went := move_tick moved tick.1 tick.2
  have landing := grammar_forced_disarm (step_grammar p past e) cut
  apply And.intro tick.1
  apply And.intro landing
  rcases tick_forced_disarm_after went cut with
    ⟨ended, cause⟩ | ⟨_, inside, unconfirmed, held, due⟩
  · exact Authorised.emergency (emergency_of_cause tick landing cause) ended
  · rw [status_is_latest tick.2] at unconfirmed
    have low := (held_iff_lowThrottleFor clock.2 tick.2 positive e.now).mp held.2
    have autoLand := held.1
    rw [status_is_latest tick.2] at autoLand
    apply Authorised.fallback autoLand unconfirmed inside low
    intro t last
    rw [AttemptDue, attempt_is_latest, Option.mem_def.mp last] at due
    simpa [secondsSince] using due

theorem disarm_ignores_elapsed (p : Params K) (past : List (Event K)) (e : Event K)
    (t : Option Int) : .forcedDisarm ∈ sentAt p past e ↔ .forcedDisarm ∈
      signals (step p { (flight p).after past with landCommandedTime := t } e).2 := by
  have latches := after_latches p past
  have latches' : LatchesClear { (flight p).after past with landCommandedTime := t } :=
    ⟨latches.flight, latches.landing⟩
  rw [step_forced_disarm_iff latches']
  exact step_forced_disarm_iff latches

theorem forced_disarms_lawful [IsStrictOrderedRing K] (p : Params K) {run : List (Event K)}
    (clock : Always (ClockMonotone Event.now) run)
    (positive : 0 < p.landDisarmLowThrottleDwellS) : Always (DisarmLaw p) run := by
  apply always_intro _ clock
  intro past e clock
  exact ⟨forced_disarm_authorised clock positive, disarm_ignores_elapsed p past e⟩

def sampledTwice : List (Event ℚ) := lowThrottleAt 44 true :: lowThrottleAt 14 true :: descending

theorem forced_disarms_lawful_sampledTwice :
    .forcedDisarm ∈ sentAt simParams sampledTwice (tickAt 45) ∧
      Always (DisarmLaw simParams) (tickAt 45 :: sampledTwice) :=
  ⟨by decide +kernel, forced_disarms_lawful simParams (by decide +kernel) (by decide +kernel)⟩

/- The evidence of the fallback. -/

/-- Low-throttle samples at least the dwell apart, and no other kind of sample from the
    first of them on. -/
def EvidenceSpans (p : Params K) (past : List (Event K)) : Prop :=
  ∃ e₂ ∈ past, landSample e₂ = some true ∧
    Since (fun _ e₁ => landSample e₁ = some true ∧ e₁.now ≤ e₂.now ∧
        p.landDisarmLowThrottleDwellS ≤ seconds (e₂.now - e₁.now))
      (fun _ e => landSample e ≠ some false) past

instance (p : Params K) (past : List (Event K)) : Decidable (EvidenceSpans p past) :=
  inferInstanceAs (Decidable (∃ e₂ ∈ past, _ ∧ Since _ _ past))

/-- The latest land-detected sample came at least the dwell after the time the node
    remembers as the start of low throttle. -/
def SampledForDwell (p : Params K) (past : List (Event K)) : Prop :=
  ∃ start last, ((flight p).after past).lowThrottleSince = some start ∧
    latest Event.now (fun _ e => (landSample e).isSome = true) past = some last ∧
      p.landDisarmLowThrottleDwellS ≤ seconds (last - start)

theorem fallback_evidence_iff [IsStrictOrderedRing K] {p : Params K} {past : List (Event K)}
    {e : Event K} (clock : Always (ClockMonotone Event.now) (e :: past))
    (nonneg : 0 ≤ p.landDisarmLowThrottleDwellS) (disarm : FallbackDisarm p past e) :
    EvidenceSpans p past ↔ SampledForDwell p past := by
  have running := (move_sends (after_move p past e) disarm.1).2
  have history : ∀ now, (∃ start, streak Event.now lowFinding past = some start ∧
      start ≤ now ∧ p.landDisarmLowThrottleDwellS ≤ seconds (now - start)) ↔
        Since (fun _ e₁ => landSample e₁ = some true ∧ e₁.now ≤ now ∧
            p.landDisarmLowThrottleDwellS ≤ seconds (now - e₁.now))
          (fun _ e => landSample e ≠ some false) past := fun now =>
    streak_iff_since clock.2
      (fun start => start ≤ now ∧ p.landDisarmLowThrottleDwellS ≤ (seconds (now - start) : K))
      (fun a b le old => ⟨le.trans old.1, old.2.trans (seconds_since_anti now le)⟩)
  unfold EvidenceSpans SampledForDwell
  rw [low_timer_is_streak running]
  constructor
  · intro spans
    obtain ⟨e₂, mem, low, since⟩ := spans
    obtain ⟨start, alive, _, span⟩ := (history e₂.now).mpr since
    have sampled : (landSample e₂).isSome = true := by rw [low]; rfl
    obtain ⟨last, latest_last, le⟩ := latest_ge clock.2 mem sampled
    exact ⟨start, last, alive, latest_last, span.trans (seconds_mono (by omega))⟩
  · intro sampled
    obtain ⟨start, last, alive, latest_last, span⟩ := sampled
    obtain ⟨e₂, mem, low, same⟩ := streak_latest alive
    have late : e₂.now = last := Option.some.inj (same.symm.trans latest_last)
    have order : start ≤ e₂.now := by
      have ahead := nonneg_of_seconds (nonneg.trans span)
      omega
    exact ⟨e₂, mem, low, (history e₂.now).mp ⟨start, alive, order, late ▸ span⟩⟩

theorem fallback_evidence_iff_sampledTwice :
    EvidenceSpans simParams sampledTwice ∧
      (EvidenceSpans simParams sampledTwice ↔ SampledForDwell simParams sampledTwice) :=
  ⟨by decide +kernel, fallback_evidence_iff (show Always _ (tickAt 45 :: sampledTwice) by
    decide +kernel) (by decide +kernel) (by decide +kernel)⟩

/-- One low sample and then three seconds of silence are enough for the fallback. -/
theorem disarmed_on_one_sample : ¬ ∀ (p : Params ℚ) (past : List (Event ℚ)) (e : Event ℚ),
    Always (ClockMonotone Event.now) (e :: past) → 0 ≤ p.landDisarmLowThrottleDwellS →
      FallbackDisarm p past e → EvidenceSpans p past := by
  intro all
  have spans := all simParams (lowThrottleAt 14 true :: descending) (tickAt 44) (by decide +kernel)
    (by decide +kernel) (by decide +kernel)
  exact absurd spans (by decide +kernel)

/- The end of the flight. -/

theorem tick_done {p : Params K} {now : Int} {n n' : Node K} {out : List (Output K)}
    (went : Tick p now n n' out) (flown : n.state ≠ .done) (ended : n'.state = .done) :
    n.state = .land ∧
      (n.vehicleStatus.armingState = armingStateDisarmed ∧ signals out = [.heartbeat] ∨
        .forcedDisarm ∈ signals out) := by
  cases went with
  | fenceEmergency state => exact ⟨state, Or.inr (by simp)⟩
  | estimateEmergency state => exact ⟨state, Or.inr (by simp)⟩
  | disarmed state _ confirmed => exact ⟨state, Or.inl ⟨confirmed, by simp⟩⟩
  | stream | rateFault | retry | climb | indexFault | cruise | reach | hold | fallback | warn
  | descend => exact absurd ended flown
  | exit state => exact absurd state flown
  | _ => cases ended

theorem move_done {p : Params K} {n n' : Node K} {e : Event K} {out : List (Output K)}
    (moved : Move p n e n' out) (flown : n.state ≠ .done) (ended : n'.state = .done) :
    e.callback = .control ∧ n.process = .running := by
  cases moved with
  | tick _ running => exact ⟨rfl, running⟩
  | accepted => cases ended
  | _ => exact absurd ended flown

theorem move_exited {p : Params K} {n n' : Node K} {e : Event K} {out : List (Output K)}
    (moved : Move p n e n' out) (alive : n.process ≠ .exited) (gone : n'.process = .exited) :
    e.callback = .control ∧ n.state = .done := by
  cases moved with
  | tick now running went =>
    cases went with
    | exit state => exact ⟨rfl, state⟩
    | rateFault | indexFault => cases gone
    | _ => exact absurd gone alive
  | _ => exact absurd gone alive

structure EndLaw (p : Params K) (past : List (Event K)) (e : Event K) : Prop where
  ended : stateAfter p past ≠ .done → stateAfter p (e :: past) = .done →
    e.callback = .control ∧ stateAfter p past = .land ∧
      ((latestStatus past).armingState = armingStateDisarmed ∧ sentAt p past e = [.heartbeat] ∨
        Emergency p past e ∧ .forcedDisarm ∈ sentAt p past e)
  exit : ((flight p).after past).process ≠ .exited →
    ((flight p).after (e :: past)).process = .exited →
      e.callback = .control ∧ stateAfter p past = .done

theorem done_entered {p : Params K} {past : List (Event K)} {e : Event K}
    (flown : stateAfter p past ≠ .done) (ended : stateAfter p (e :: past) = .done) :
    e.callback = .control ∧ stateAfter p past = .land ∧
      ((latestStatus past).armingState = armingStateDisarmed ∧ sentAt p past e = [.heartbeat] ∨
        Emergency p past e ∧ .forcedDisarm ∈ sentAt p past e) := by
  have tick := move_done (after_move p past e) flown ended
  have went := after_tick tick.1 tick.2
  obtain ⟨state, ⟨confirmed, silent⟩ | cut⟩ := tick_done went flown ended
  · rw [status_is_latest tick.2] at confirmed
    exact ⟨tick.1, state, Or.inl ⟨confirmed, silent⟩⟩
  · rcases tick_forced_disarm_after went cut with ⟨_, cause⟩ | ⟨stays, _⟩
    · exact ⟨tick.1, state, Or.inr ⟨emergency_of_cause tick state cause, cut⟩⟩
    · exact absurd (ended.symm.trans stays) (by decide)

theorem flight_ends_disarmed_or_in_emergency (p : Params K) (run : List (Event K)) :
    Always (EndLaw p) run := by
  apply always_of_forall
  intro past e
  exact ⟨done_entered, move_exited (after_move p past e)⟩

example : stateAfter simParams (tickAt 15 :: statusAt 14 18 1 :: descending) = .done := by
  decide +kernel

/-- Outside the fence during landing the node goes to DONE on an armed vehicle. -/
theorem done_while_armed : ¬ ∀ (p : Params ℚ) (past : List (Event ℚ)) (e : Event ℚ),
    Always (ClockMonotone Event.now) (e :: past) → stateAfter p past ≠ .done →
      stateAfter p (e :: past) = .done →
        (latestStatus past).armingState = armingStateDisarmed := by
  intro all
  have confirmed := all simParams (sampleAt 14 10 0 (-2) true :: descending) (tickAt 15)
    (by decide +kernel) (by decide +kernel) (by decide +kernel)
  exact absurd confirmed (by decide +kernel)

end OffboardControl
