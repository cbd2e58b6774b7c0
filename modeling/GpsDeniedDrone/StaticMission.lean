import GpsDeniedDrone.Missions
import GpsDeniedDrone.TwoRuns

/-!
A mission with a static queue. It never hovers, so no goal or plan is ever accepted, and
a goal that is not accepted leaves nothing behind but a log line.
-/
namespace OffboardControl
open FrameTransforms Messages PastTime TwoRuns
variable {K : Type}

/-- A mission node: `set_waypoints` comes first, and what it queues is never empty. -/
def StaticMission (run : List (Event K)) : Prop :=
  Always (fun past e => staticQueue (e :: past) ≠ []) run

instance [DecidableEq K] (run : List (Event K)) : Decidable (StaticMission run) :=
  inferInstanceAs (Decidable (Always _ run))

def GoalEvent (e : Event K) : Prop := e.callback.IsGoal

instance (e : Event K) : Decidable (GoalEvent e) := inferInstanceAs (Decidable e.callback.IsGoal)

variable [Field K] [LinearOrder K] [FloorRing K] [FloatMath K]

theorem move_static {p : Params K} {n n' : Node K} {e : Event K} {out : List (Output K)}
    (moved : Move p n e n' out) (ground : ¬ n.state.Runtime)
    (filled : n.process = .running → (∀ route, e.callback ≠ .setWaypoints route) →
      n.waypoints ≠ [])
    (kept : n.process ≠ .running → n.waypoints ≠ [])
    (nonempty : ∀ route, e.callback = .setWaypoints route → route ≠ []) :
    ¬ n'.state.Runtime ∧ n'.waypoints ≠ [] := by
  cases moved with
  | stopped _ gone => exact ⟨ground, kept gone⟩
  | queued now route => exact ⟨ground, nonempty route rfl⟩
  | accepted _ _ _ state => exact absurd (Or.inl state) ground
  | refused _ goal running | emptyPlan _ goal running =>
    refine ⟨ground, filled running ?_⟩
    intro route queued
    rw [queued] at goal
    exact goal
  | tick now running went =>
    obtain ⟨same, before⟩ := tick_runtime went
    have queued := filled running (fun _ => by simp)
    refine ⟨?_, same ▸ queued⟩
    intro runtime
    rcases before runtime with earlier | empty
    · exact ground earlier
    · exact queued empty
  | position _ _ running | status _ _ running | landDetected _ _ running =>
    exact ⟨ground, filled running (fun _ => by simp)⟩

/-- HOVER and NAV_WAYPOINTS are out of reach of a mission, and its queue is never empty. -/
theorem static_mission_ground (p : Params K) {run : List (Event K)} (mission : StaticMission run) :
    ¬ (stateAfter p run).Runtime ∧ (run ≠ [] → ((flight p).after run).waypoints ≠ []) := by
  apply (flight p).legal_invariant
    (fun run n => ¬ n.state.Runtime ∧ (run ≠ [] → n.waypoints ≠ [])) _ _ mission
  · exact ⟨by simp [flight, Node.initial, FlightState.Runtime], fun some_run => absurd rfl some_run⟩
  · intro past e mission before
    obtain ⟨ground, filled⟩ := before
    have queued : staticQueue (e :: past) ≠ [] := mission.1
    obtain ⟨still, nonempty⟩ := move_static (after_move p past e) ground
      (fun _ other => filled fun first => by
        -- with nothing before it the event would have to be the call of `set_waypoints`
        subst first
        obtain ⟨now, callback⟩ := e
        cases callback <;> simp_all [staticQueue])
      (fun gone => filled fun first => by
        subst first
        exact gone rfl)
      (fun route set empty => by simp [staticQueue, set, empty] at queued)
    exact ⟨still, fun _ => nonempty⟩

theorem move_goal_ignored {p : Params K} {n n' : Node K} {e : Event K} {out : List (Output K)}
    (moved : Move p n e n' out) (goal : GoalEvent e) (ground : ¬ n.state.Runtime) : n' = n := by
  cases moved with
  | stopped | refused | emptyPlan => rfl
  | accepted _ _ _ state => exact absurd (Or.inl state) ground
  | _ => exact goal.elim

omit [Field K] [LinearOrder K] [FloorRing K] [FloatMath K] in
theorem static_mission_of_init {flown : List (Event K)} {start : Int} {route : List (Waypoint K)}
    (nonempty : route ≠ [])
    (no_calls : ∀ e ∈ flown, ∀ other, e.callback ≠ .setWaypoints other) :
    StaticMission (flown ++ [⟨start, .setWaypoints route⟩]) ∧
      staticQueue (flown ++ [⟨start, .setWaypoints route⟩]) = route := by
  induction flown with
  | nil => exact ⟨⟨nonempty, trivial⟩, rfl⟩
  | cons e flown ih =>
    obtain ⟨mission, queue⟩ := ih fun a mem => no_calls a (List.mem_cons_of_mem e mem)
    have same : staticQueue (e :: (flown ++ [⟨start, .setWaypoints route⟩])) = route := by
      obtain ⟨now, callback⟩ := e
      have other := no_calls ⟨now, callback⟩ List.mem_cons_self
      cases callback with
      | setWaypoints route => exact absurd rfl (other route)
      | _ => exact queue
    rw [List.cons_append]
    exact ⟨⟨fun empty => nonempty (same.symm.trans empty), mission⟩, same⟩

omit [FloorRing K] in
theorem square_mission_static [FloatPi K] (p : Params K) (sideLengthM : K) (start : Int)
    {flown : List (Event K)}
    (no_calls : ∀ e ∈ flown, ∀ other, e.callback ≠ .setWaypoints other) :
    StaticMission (flown ++
      [⟨start, .setWaypoints (SquareMission.buildWaypoints p sideLengthM)⟩]) :=
  (static_mission_of_init (List.cons_ne_nil _ _) no_calls).1

/-- Two flights of missions that differ in goals and plans alone are the same flight. -/
theorem static_mission_ignores_goals (p : Params K) {run run' : List (Event K)}
    (mission : StaticMission run) (mission' : StaticMission run')
    (same : loud GoalEvent run = loud GoalEvent run') :
    shown (flight p) GoalEvent run = shown (flight p) GoalEvent run' ∧
      (flight p).after run = (flight p).after run' := by
  have still {run : List (Event K)} (mission : StaticMission run) : Always (fun past e =>
      GoalEvent e → (flight p).after (e :: past) = (flight p).after past) run := by
    apply always_intro _ mission
    intro past e mission goal
    exact move_goal_ignored (after_move p past e) goal (static_mission_ground p mission.2).1
  obtain ⟨after, seen⟩ := shown_loud (still mission)
  obtain ⟨after', seen'⟩ := shown_loud (still mission')
  rw [← seen, ← seen', ← after, ← after', same]
  exact ⟨rfl, rfl⟩

def missionLanding : List (Event ℚ) :=
  tickAt 12 :: tickAt 11 :: sampleAt 11 0 0 (-2) true ::
    (started ++ [⟨tenths 0, .setWaypoints [⟨0, 0, -2, 0⟩]⟩])

def missionLandingWithGoals : List (Event ℚ) :=
  planAt 12 [3] :: tickAt 12 :: planAt 11 [3] :: tickAt 11 :: sampleAt 11 0 0 (-2) true ::
    planAt 10 [] :: (started ++ [⟨tenths 0, .setWaypoints [⟨0, 0, -2, 0⟩]⟩])

theorem static_mission_ignores_goals_landing :
    shown (flight simParams) GoalEvent missionLandingWithGoals =
        shown (flight simParams) GoalEvent missionLanding ∧
      (flight simParams).after missionLandingWithGoals =
        (flight simParams).after missionLanding :=
  static_mission_ignores_goals simParams (by decide +kernel) (by decide +kernel)
    (by decide +kernel)

end OffboardControl
