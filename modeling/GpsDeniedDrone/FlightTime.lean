import GpsDeniedDrone.HoverStation
import GpsDeniedDrone.Progress

/-!
How long a flight can last. Aloft the node travels or hovers. The travel is bounded by the
waypoints it was given, and each stay in HOVER by the full dwell; a stay begins with the
end of takeoff or of a route, so there is one more of them than routes flown.
-/
namespace OffboardControl
open PastTime Cadence
variable {K : Type} [Field K] [LinearOrder K] [FloorRing K] [FloatMath K]

section Moments
variable (p : Params K)

def HoverTick : Moment (Event K) := fun past e => IsTick e ∧ stateAfter p past = .hover

instance (past : List (Event K)) (e : Event K) : Decidable (HoverTick p past e) :=
  inferInstanceAs (Decidable (_ ∧ _))

def EntersHover : Moment (Event K) := fun past e =>
  stateAfter p past ≠ .hover ∧ stateAfter p (e :: past) = .hover

instance (past : List (Event K)) (e : Event K) : Decidable (EntersHover p past e) :=
  inferInstanceAs (Decidable (_ ∧ _))

def dwellLeft (run : List (Event K)) : Nat :=
  if stateAfter p run = .hover then fullDwell p - ticksHovered p run else 0

end Moments

section Runs
variable {p : Params K} {run past : List (Event K)} {e : Event K}

theorem dwellLeft_le (run : List (Event K)) : dwellLeft p run ≤ fullDwell p := by
  unfold dwellLeft
  split <;> omega

theorem dwellLeft_elsewhere (gone : stateAfter p run ≠ .hover) : dwellLeft p run = 0 := if_neg gone

theorem dwell_spent (legal : Run p (e :: past)) (hover : HoverTick p past e) :
    1 + dwellLeft p (e :: past) ≤ dwellLeft p past := by
  obtain ⟨tick, before⟩ := hover
  have more := (on_station legal.2).bounded before
  have counted := ticksHovered_tick before tick
  rw [dwellLeft, dwellLeft, if_pos before]
  split
  · rename_i after
    have still := (on_station legal).bounded after
    omega
  · omega

theorem dwell_kept (hover : ¬ HoverTick p past e) (entered : ¬ EntersHover p past e) :
    dwellLeft p (e :: past) ≤ dwellLeft p past := by
  by_cases after : stateAfter p (e :: past) = .hover
  · have before : stateAfter p past = .hover := by
      by_contra elsewhere
      exact entered ⟨elsewhere, after⟩
    have other : ¬ IsTick e := fun tick => hover ⟨tick, before⟩
    rw [dwellLeft, dwellLeft, if_pos before, if_pos after, ticksHovered_other before other]
  · rw [dwellLeft_elsewhere after]
    exact Nat.zero_le _

/-- Every stay brings the full dwell, and every tick of HOVER takes one from it. -/
theorem hover_ticks_le (legal : Run p run) :
    tally (HoverTick p) run + dwellLeft p run ≤ fullDwell p * tally (EntersHover p) run := by
  induction run with
  | nil => exact Nat.le_refl 0
  | cons e past ih =>
    have earlier := ih legal.2
    by_cases hover : HoverTick p past e
    · have stays : ¬ EntersHover p past e := fun entered => entered.1 hover.2
      have spent := dwell_spent legal hover
      rw [tally_hit hover, tally_miss stays]
      omega
    · rw [tally_miss hover]
      by_cases entered : EntersHover p past e
      · have fresh := dwellLeft_le (p := p) (e :: past)
        rw [tally_hit entered, Nat.mul_succ]
        omega
      · have kept := dwell_kept hover entered
        rw [tally_miss entered]
        omega

theorem leaves_of_goal (goal : ReachesGoal p past e) : Leaves p past e := by
  refine ⟨Or.inr goal, flying_latches (after_latches p (e :: past)) ?_⟩
  rw [show ((flight p).after (e :: past)).state = .hover from goal.2]
  decide

theorem stays_le_routes (legal : Run p run) :
    tally (EntersHover p) run ≤
      (completedRoutes p run).length + min 1 (stateAfter p run).stage := by
  induction run with
  | nil => exact Nat.zero_le _
  | cons e past ih =>
    have earlier := ih legal.2
    have later := stage_mono (step_grammar p past e)
    rw [completedRoutes, List.length_append]
    by_cases entered : EntersHover p past e
    · rw [tally_hit entered]
      rcases (entry_arms legal entered.1 entered.2).1 with takeoff | goal
      · rw [takeoff] at earlier
        rw [entered.2]
        simp only [FlightState.stage] at earlier ⊢
        omega
      · rw [if_pos (leaves_of_goal goal), List.length_singleton]
        omega
    · rw [tally_miss entered]
      omega

theorem flying_ticks_le (run : List (Event K)) :
    tally (FlyingTick p) run ≤ tally (TravelTick p) run + tally (HoverTick p) run := by
  apply tally_or_le
  intro past e flying
  obtain ⟨tick, running, state⟩ := flying
  rcases state with takeoff | waypoints | navWaypoints | hover
  · exact Or.inl ⟨running, tick, Or.inl takeoff⟩
  · exact Or.inl ⟨running, tick, Or.inr (Or.inl waypoints)⟩
  · exact Or.inl ⟨running, tick, Or.inr (Or.inr navWaypoints)⟩
  · exact Or.inr ⟨tick, hover⟩

end Runs

/-- Every flight comes down: with a vehicle that responds within `limit` ticks, the ticks
    from the end of INIT to LAND are bounded by the waypoints of the routes it was given
    and the number of the routes it flew. -/
theorem flight_time_is_bounded (p : Params K) {limit : Nat} (positive : 0 < limit)
    {run : List (Event K)} (legal : Run p run) (responsive : Always (Responsive p limit) run) :
    tally (FlyingTick p) run <
      limit * (((startedRoutes p run).map List.length).sum + (stateAfter p run).stage + 1) +
        fullDwell p * ((completedRoutes p run).length + 1) := by
  have travel := travel_is_bounded p positive legal responsive
  have hover := hover_ticks_le legal
  have stays : tally (EntersHover p) run ≤ (completedRoutes p run).length + 1 :=
    (stays_le_routes legal).trans (Nat.add_le_add_left (Nat.min_le_left _ _) _)
  have dwells := Nat.mul_le_mul_left (fullDwell p) stays
  have aloft := flying_ticks_le (p := p) run
  omega

theorem flight_time_is_bounded_second_goal :
    tally (FlyingTick shortDwell) secondGoal = 9 ∧
      tally (FlyingTick shortDwell) secondGoal <
        2 * (((startedRoutes shortDwell secondGoal).map List.length).sum +
          (stateAfter shortDwell secondGoal).stage + 1) +
          fullDwell shortDwell * ((completedRoutes shortDwell secondGoal).length + 1) := by
  have legal : Run shortDwell secondGoal := by decide +kernel
  have responsive : Always (Responsive shortDwell 2) secondGoal := by decide +kernel
  exact ⟨by decide +kernel, flight_time_is_bounded shortDwell (by decide) legal responsive⟩

end OffboardControl
