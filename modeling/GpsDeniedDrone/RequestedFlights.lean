import Mathlib.Data.List.ProdSigma
import GpsDeniedDrone.Navigation
import GpsDeniedDrone.RouteLedger

/-!
The flight node inside the navigation stack. What it flies on request comes from the
goals posted, each taken up at most once as it is and at most once as its plan, and never
two at a time.
-/
namespace Navigation
open FrameTransforms Messages PastTime Components OffboardControl GoalRelay
variable {K : Type} [Field K] [LinearOrder K] [FloorRing K] [FloatMath K]

def flightReads (s : System K) : Action K → Option (Event K)
  | .flightGoal now i => (takeAt s.goalsToFlight i).map fun took => ⟨now, .goalPose took.1.body⟩
  | .flightPlan now i => (takeAt s.plans i).map fun took => ⟨now, .navPath took.1.body⟩
  | .flight now callback => some ⟨now, callback.val⟩
  | _ => none

omit [Field K] [LinearOrder K] [FloorRing K] [FloatMath K] in
theorem relay_node (s : System K) (tag : Nat) (line : GoalRelay.Output K) :
    (s.relay tag line).1.node = s.node := by
  cases line <;> rfl

theorem step_node (p : Params K) (s : System K) (a : Action K) :
    (step p s a).1.node =
      match flightReads s a with
      | none => s.node
      | some e => (OffboardControl.step p s.node e).1 := by
  cases a with
  | post msg | flight now callback => rfl
  | flightGoal now i =>
    cases took : takeAt s.goalsToFlight i <;> simp only [step, flightReads, took] <;> rfl
  | flightPlan now i =>
    cases took : takeAt s.plans i <;> simp only [step, flightReads, took] <;> rfl
  | loseGoal i => cases took : takeAt s.goalsToFlight i <;> simp [step, flightReads, took]
  | loseRelayGoal i => cases took : takeAt s.goalsToRelay i <;> simp [step, flightReads, took]
  | losePlan i => cases took : takeAt s.plans i <;> simp [step, flightReads, took]
  | relayGoal i ready =>
    cases took : takeAt s.goalsToRelay i <;> simp [step, flightReads, took, relay_node]
  | answer i accepted =>
    cases took : takeAt s.requests i <;> cases accepted <;> simp [step, flightReads, took]
  | relayResponse i =>
    cases took : takeAt s.responses i <;> simp [step, flightReads, took, relay_node]
  | finish i result published =>
    cases took : takeAt s.executing i <;> cases published <;> simp [step, flightReads, took]
  | relayResult i j =>
    unfold step flightReads
    dsimp only
    split
    · split
      · exact relay_node _ _ _
      · rfl
    · rfl

/-- The flight node runs in the stack as it runs alone. -/
def flightPart (p : Params K) : Component (navigation p) (OffboardControl.flight p) where
  view := System.node
  reads := flightReads
  started := rfl
  skips s a none_read := by rw [navigation, step_node, none_read]
  steps s a e read := by
    rw [navigation, step_node, read]
    rfl

/-- The route a node takes up by going from HOVER to NAV_WAYPOINTS. -/
def runtimeRoute (before after : Node K) : Option (List (Waypoint K)) :=
  if before.state = .hover ∧ after.state = .navWaypoints then some after.waypoints else none

theorem move_takes_route {p : Params K} {n n' : Node K} {e : Event K}
    {out : List (OffboardControl.Output K)} (moved : Move p n e n' out)
    {route : List (Waypoint K)} (took : runtimeRoute n n' = some route) :
    e.callback.IsGoal ∧ route = goalRoute p n e.callback := by
  have both : n.state = .hover ∧ n'.state = .navWaypoints := by
    by_contra neither
    rw [runtimeRoute, if_neg neither] at took
    cases took
  rw [runtimeRoute, if_pos both, Option.some.injEq] at took
  obtain ⟨before, after⟩ := both
  cases moved with
  | accepted _ goal running state nonempty => exact ⟨goal, took.symm⟩
  | tick now running went =>
    cases went <;> simp_all [Node.landing, Node.checked]
  | _ =>
    exfalso
    exact absurd (before.symm.trans after) (by simp)

/-- What a goal taken up came from: a posting, direct or through its plan. -/
abbrev Cause := Route × Nat

def Note.cause : Note K → Option Cause
  | .heard kind tag => some (kind, tag)
  | _ => none

section Acceptances
variable (p : Params K)

def acceptedAt (past : List (Action K)) (a : Action K) : List (Cause × List (Waypoint K)) :=
  match runtimeRoute ((navigation p).after past).node ((navigation p).after (a :: past)).node with
  | some route => (((navigation p).emitted past a).filterMap Note.cause).map (·, route)
  | none => []

def acceptances : List (Action K) → List (Cause × List (Waypoint K))
  | [] => []
  | a :: past => acceptances past ++ acceptedAt p past a

def runtimeRoutes : List (Action K) → List (List (Waypoint K))
  | [] => []
  | a :: past => runtimeRoutes past ++ (runtimeRoute ((navigation p).after past).node
      ((navigation p).after (a :: past)).node).toList

/-- The cause accounts for the route: it is the pose posted under the cause's number, from
    where the vehicle is, or the path computed and published for that pose. -/
def Accounts (past : List (Action K)) (route : List (Waypoint K)) : Cause → Prop
  | (.direct, tag) => ∃ msg, (posts past)[tag]? = some msg ∧
      let goal := msg.pose.position
      let here := ((navigation p).after past).node.vehicleLocalPosition
      route = [⟨goal.y, goal.x, p.targetZ, FloatMath.atan2 (goal.x - here.y) (goal.y - here.x)⟩]
  | (.planned, tag) => ∃ path, PlannedFor p past tag path ∧
      let here := ((navigation p).after past).node.vehicleLocalPosition
      route = routeThrough p path.poses here.x here.y

variable {p}

theorem node_latches (run : List (Action K)) : LatchesClear ((navigation p).after run).node := by
  have alone := (flightPart p).view_after run
  change ((navigation p).after run).node = _ at alone
  rw [alone]
  exact after_latches p _

theorem taken_from_message {past : List (Action K)} {a : Action K} {route : List (Waypoint K)}
    (took : runtimeRoute ((navigation p).after past).node
      ((navigation p).after (a :: past)).node = some route) :
    ∃ cause, ((navigation p).emitted past a).filterMap Note.cause = [cause] ∧
      Accounts p past route cause := by
  have latches := node_latches (p := p) past
  have kept := messages_faithful p past
  have went := step_transfer p ((navigation p).after past) a
  change runtimeRoute _ (step p ((navigation p).after past) a).1.node = _ at took
  change ∃ cause, (step p ((navigation p).after past) a).2.filterMap Note.cause = [cause] ∧ _
  generalize step p ((navigation p).after past) a = done at went took
  obtain ⟨s', notes⟩ := done
  have unmoved : ∀ n : Node K, runtimeRoute n n ≠ some route := by
    intro n same
    unfold runtimeRoute at same
    split at same
    · rename_i both
      exact absurd (both.1.symm.trans both.2) (by simp)
    · cases same
  cases went with
  | hearGoal now i m rest taken =>
    obtain ⟨_, value⟩ := move_takes_route (step_move ⟨now, .goalPose m.body⟩ latches) took
    exact ⟨(.direct, m.tag), rfl, m.body, kept.toFlight m (takeAt_mem taken), value⟩
  | hearPlan now i m rest taken =>
    obtain ⟨_, value⟩ := move_takes_route (step_move ⟨now, .navPath m.body⟩ latches) took
    exact ⟨(.planned, m.tag), rfl, m.body, kept.plans m (takeAt_mem taken), value⟩
  | flight now callback =>
    obtain ⟨goal, _⟩ := move_takes_route (step_move ⟨now, callback.val⟩ latches) took
    exact absurd goal callback.property
  | _ => exact absurd took (unmoved _)

end Acceptances

def Route.track : Route → Track
  | .direct => .direct
  | .planned => .plan

omit [Field K] [LinearOrder K] [FloorRing K] [FloatMath K] in
theorem spent_heard (kind : Route) (tag : Nat) :
    spent kind.track (.heard kind tag : Note K) = {tag} := by
  cases kind <;> rfl

omit [Field K] [LinearOrder K] [FloorRing K] [FloatMath K] in
theorem count_heard_le (notes : List (Note K)) (kind : Route) (tag : Nat) :
    (notes.filterMap Note.cause).count (kind, tag) ≤
      (total (spent kind.track) notes).count tag := by
  induction notes with
  | nil => simp
  | cons note notes ih =>
    rw [total_cons, Multiset.count_add]
    cases note with
    | heard other other_tag =>
      have first : (Note.heard other other_tag :: notes).filterMap Note.cause =
          (other, other_tag) :: notes.filterMap Note.cause := rfl
      rw [first, List.count_cons]
      by_cases same : (other, other_tag) = (kind, tag)
      · cases same
        rw [spent_heard, Multiset.count_singleton_self]
        simp
        omega
      · rw [if_neg (by simpa using same)]
        omega
    | _ =>
      rw [List.filterMap_cons_none rfl]
      omega

section Acceptances
variable (p : Params K)

theorem acceptances_heard (run : List (Action K)) :
    ((acceptances p run).map Prod.fst).Sublist
      (((navigation p).trace run).filterMap Note.cause) := by
  induction run with
  | nil => exact List.Sublist.refl _
  | cons a past ih =>
    rw [acceptances, List.map_append, Machine.trace, List.filterMap_append]
    apply ih.append
    unfold acceptedAt
    split
    · rw [List.map_map, Function.comp_def, List.map_id']
    · exact List.nil_sublist _

theorem causes_nodup (run : List (Action K)) : ((acceptances p run).map Prod.fst).Nodup := by
  apply List.nodup_iff_count_le_one.mpr
  intro cause
  calc ((acceptances p run).map Prod.fst).count cause
      ≤ (((navigation p).trace run).filterMap Note.cause).count cause :=
        (acceptances_heard p run).count_le cause
    _ ≤ (total (spent cause.1.track) ((navigation p).trace run)).count cause.2 :=
        count_heard_le _ cause.1 cause.2
    _ ≤ 1 := count_spent_le p run cause.1.track cause.2

theorem cause_posted {run : List (Action K)} {cause : Cause}
    (mem : cause ∈ (acceptances p run).map Prod.fst) : cause.2 < (posts run).length := by
  have heard := (acceptances_heard p run).subset mem
  have left := (List.count_pos_iff.mpr heard).trans_le (count_heard_le _ cause.1 cause.2)
  have within : cause.2 ∈ Multiset.range (posts run).length := by
    rw [← posted_counts p, ← postings_conserved p run cause.1.track]
    exact Multiset.mem_add.mpr (Or.inr (Multiset.count_pos.mp left))
  exact Multiset.mem_range.mp within

theorem routes_accepted (run : List (Action K)) :
    runtimeRoutes p run = (acceptances p run).map Prod.snd := by
  induction run with
  | nil => rfl
  | cons a past ih =>
    rw [runtimeRoutes, acceptances, List.map_append, ih]
    congr 1
    unfold acceptedAt
    cases took : runtimeRoute ((navigation p).after past).node
        ((navigation p).after (a :: past)).node with
    | none => rfl
    | some route =>
      obtain ⟨cause, heard, _⟩ := taken_from_message took
      simp [heard]

theorem acceptances_accounted {past : List (Action K)} {a : Action K} {cause : Cause}
    {route : List (Waypoint K)} (mem : (cause, route) ∈ acceptedAt p past a) :
    Accounts p past route cause := by
  unfold acceptedAt at mem
  split at mem
  · rename_i taken took
    obtain ⟨one, heard, account⟩ := taken_from_message took
    rw [heard, List.map_singleton, List.mem_singleton, Prod.mk.injEq] at mem
    obtain ⟨rfl, rfl⟩ := mem
    exact account
  · cases mem

structure CauseLaw (run : List (Action K)) : Prop where
  every : runtimeRoutes p run = (acceptances p run).map Prod.snd
  once : ((acceptances p run).map Prod.fst).Nodup
  accounted : Always (fun past a => ∀ cause route, (cause, route) ∈ acceptedAt p past a →
    Accounts p past route cause) run
  bounded : (runtimeRoutes p run).length ≤ 2 * (posts run).length

/-- No route out of nothing: in every interleaving, with messages lost, late and out of
    order, each route the flight node takes up after takeoff is that of a goal the operator
    posted or of a plan computed for one, and no goal and no plan is taken up twice. -/
theorem every_route_has_its_cause (run : List (Action K)) : CauseLaw p run where
  every := routes_accepted p run
  once := causes_nodup p run
  accounted := always_of_forall (fun past a cause route mem => acceptances_accounted p mem) run
  bounded := by
    have within : (acceptances p run).map Prod.fst ⊆
        [Route.direct, Route.planned] ×ˢ List.range (posts run).length := by
      intro cause mem
      have posted := cause_posted p mem
      rw [List.mem_product, List.mem_range]
      exact ⟨by cases cause.1 <;> simp, posted⟩
    have few := (List.subperm_of_subset (causes_nodup p run) within).length_le
    rw [routes_accepted, List.length_map]
    simpa [two_mul] using few

end Acceptances

section OneAtATime
variable {p : Params K}

theorem runtimeRoute_started {past : List (Event K)} {e : Event K} {route : List (Waypoint K)}
    (took : runtimeRoute ((OffboardControl.flight p).after past)
      ((OffboardControl.flight p).after (e :: past)) = some route) :
    startedRoute p past e = some route := by
  have value := (move_takes_route (after_move p past e) took).2
  unfold runtimeRoute at took
  split at took
  · rename_i both
    have before : stateAfter p past = .hover := both.1
    have after : stateAfter p (e :: past) = .navWaypoints := both.2
    rw [value]
    simp [startedRoute, before, after]
  · cases took

theorem runtime_routes_started (run : List (Action K)) :
    (runtimeRoutes p run).Sublist (startedRoutes p ((flightPart p).history run)) := by
  induction run with
  | nil => exact List.Sublist.refl _
  | cons a past ih =>
    have before := (flightPart p).view_after past
    have after := (flightPart p).view_after (a :: past)
    change ((navigation p).after past).node = _ at before
    change ((navigation p).after (a :: past)).node = _ at after
    rw [runtimeRoutes, before, after]
    cases read : flightReads ((navigation p).after past) a with
    | none =>
      rw [Component.history_skip (c := flightPart p) read]
      unfold runtimeRoute
      rw [if_neg fun both => absurd (both.1.symm.trans both.2) (by simp)]
      simpa using ih
    | some e =>
      rw [Component.history_read (c := flightPart p) read, startedRoutes]
      cases took : runtimeRoute ((OffboardControl.flight p).after ((flightPart p).history past))
          ((OffboardControl.flight p).after (e :: (flightPart p).history past)) with
      | none => simpa using ih.trans (List.sublist_append_left _ _)
      | some route =>
        rw [runtimeRoute_started took]
        exact ih.append (List.Sublist.refl _)

/-- A goal that comes by both ways is not flown twice at once: whatever the messages'
    order, a route is taken up only when every route before it has been flown to its end. -/
theorem goals_flown_one_at_a_time (p : Params K) {run : List (Action K)}
    (queued : Always ((flightPart p).lift (QueuedInTime p)) run) :
    ∃ unfinished : List (List (Waypoint K)), unfinished.length ≤ 1 ∧
      (runtimeRoutes p run).Sublist
        (completedRoutes p ((flightPart p).history run) ++ unfinished) := by
  have legal : Run p ((flightPart p).history run) :=
    ((flightPart p).always_history (QueuedInTime p) run).mpr queued
  have started := runtime_routes_started (p := p) run
  cases ledger p legal with
  | closed off begun =>
    rw [begun] at started
    exact ⟨[], by simp, by rwa [List.append_nil]⟩
  | underway route begun =>
    rw [begun] at started
    exact ⟨[acceptedRoute p ((flightPart p).history run)], by simp, started⟩
  | cut landed latched it begun =>
    rw [begun] at started
    exact ⟨[it.route], by simp, started⟩

end OneAtATime

def ownAction (e : Event ℚ) : Option (Action ℚ) :=
  if other : ¬ e.callback.IsGoal then some (.flight e.now ⟨e.callback, other⟩) else none

/-- A goal three metres north, read by the flight node and by the relay: the plan computed
    for it arrives while the direct route is being flown. -/
def bothWays : List (Action ℚ) :=
  [.flightPlan (tenths 13) 0, .flightGoal (tenths 12) 0,
    .finish 0 ⟨4, ⟨[⟨⟨⟨0, 3, 0⟩, ⟨1, 0, 0, 0⟩⟩⟩]⟩⟩ true, .answer 0 true, .relayGoal 0 true,
    .post ⟨⟨⟨0, 3, 0⟩, ⟨1, 0, 0, 0⟩⟩⟩] ++ hovering.filterMap ownAction

theorem goals_flown_one_at_a_time_both_ways :
    runtimeRoutes simParams bothWays = [[⟨3, 0, -2, 0⟩]] ∧
      ∃ unfinished : List (List (Waypoint ℚ)), unfinished.length ≤ 1 ∧
        (runtimeRoutes simParams bothWays).Sublist
          (completedRoutes simParams ((flightPart simParams).history bothWays) ++ unfinished) :=
  ⟨by decide +kernel, goals_flown_one_at_a_time simParams
    (((flightPart simParams).always_history (QueuedInTime simParams) bothWays).mp
      (show Run simParams ((flightPart simParams).history bothWays) by decide +kernel))⟩

end Navigation