import Mathlib.Data.Multiset.MapFold
import Mathlib.Tactic.Abel
import GpsDeniedDrone.Components
import GpsDeniedDrone.GoalRelay
import GpsDeniedDrone.ControlStep

/-!
The navigation stack around the flight node: an operator who posts goals, the relay, the
planner's action server and the two topics the flight node takes routes from. Topics and
the action protocol are mailboxes, read in any order; a topic may lose messages. A message
travels under the number of the posting it comes from, which no node reads. The planner is
not this repository's: it accepts or rejects, computes any path, and publishes it or not.
-/
namespace Navigation
open FrameTransforms Messages PastTime Components OffboardControl GoalRelay

structure Tagged (Body : Type) where
  tag : Nat
  body : Body
  deriving DecidableEq, Repr

structure System (K : Type) where
  posted : Nat
  goalsToFlight : List (Tagged (PoseStamped K))
  goalsToRelay : List (Tagged (PoseStamped K))
  requests : List (Tagged (Goal K))
  responses : List (Tagged Bool)
  executing : List (Tagged (Goal K))
  asked : List (Tagged Unit)
  results : List (Tagged (Result K))
  plans : List (Tagged (Path K))
  node : Node K

/-- What may happen next; a number is a place in the mailbox concerned. -/
inductive Action (K : Type) where
  | post (msg : PoseStamped K)
  | loseGoal (i : Nat)
  | loseRelayGoal (i : Nat)
  | losePlan (i : Nat)
  | relayGoal (i : Nat) (serverReady : Bool)
  | answer (i : Nat) (accepted : Bool)
  | relayResponse (i : Nat)
  | finish (i : Nat) (result : Result K) (published : Bool)
  | relayResult (i j : Nat)
  | flightGoal (now : Int) (i : Nat)
  | flightPlan (now : Int) (i : Nat)
  | flight (now : Int) (callback : { c : Callback K // ¬ c.IsGoal })

inductive Route where
  | direct | planned
  deriving DecidableEq, Repr

/-- What an action does to the message it takes. -/
inductive Note (K : Type) where
  | relay (tag : Nat) (line : GoalRelay.Output K)
  | relayGoalLost (tag : Nat)
  | declined (tag : Nat)
  | computed (tag : Nat) (goal : Goal K) (result : Result K) (published : Bool)
  | lost (kind : Route) (tag : Nat)
  | heard (kind : Route) (tag : Nat)

/- Where a posted goal can be. -/

section Books
variable {K : Type}

def tags {Body : Type} (box : List (Tagged Body)) : Multiset Nat := (box.map Tagged.tag : List Nat)

@[simp] theorem tags_nil {Body : Type} : tags ([] : List (Tagged Body)) = 0 := rfl

@[simp] theorem tags_cons {Body : Type} (m : Tagged Body) (box : List (Tagged Body)) :
    tags (m :: box) = {m.tag} + tags box := rfl

theorem tags_take {Body : Type} {box rest : List (Tagged Body)} {i : Nat} {m : Tagged Body}
    (took : takeAt box i = some (m, rest)) : tags box = {m.tag} + tags rest := by
  rw [← tags_cons]
  exact Multiset.coe_eq_coe.mpr ((takeAt_perm took).map Tagged.tag)

/-- The ways a posting is followed: as the relay's client sees it, towards a plan, and
    straight to the flight node. -/
inductive Track where
  | client | plan | direct

def held (s : System K) : Track → Multiset Nat
  | .client => tags s.goalsToRelay + tags s.requests + tags s.responses + tags s.asked
  | .plan => tags s.goalsToRelay + tags s.requests + tags s.executing + tags s.plans
  | .direct => tags s.goalsToFlight

def spent : Track → Note K → Multiset Nat
  | .client, .relay tag .serverNotAvailable => {tag}
  | .client, .relay tag .goalRejected => {tag}
  | .client, .relay tag (.finished _ _) => {tag}
  | .client, .relayGoalLost tag => {tag}
  | .plan, .relay tag .serverNotAvailable => {tag}
  | .plan, .relayGoalLost tag => {tag}
  | .plan, .declined tag => {tag}
  | .plan, .computed tag _ _ false => {tag}
  | .plan, .lost .planned tag => {tag}
  | .plan, .heard .planned tag => {tag}
  | .direct, .lost .direct tag => {tag}
  | .direct, .heard .direct tag => {tag}
  | _, _ => 0

def brought (s : System K) : Action K → Multiset Nat
  | .post _ => {s.posted}
  | _ => 0

theorem brought_other {s : System K} {a : Action K} (other : ∀ msg, a ≠ .post msg) :
    brought s a = 0 := by
  cases a with
  | post msg => exact absurd rfl (other msg)
  | _ => rfl

def posts : List (Action K) → List (PoseStamped K)
  | [] => []
  | .post msg :: past => posts past ++ [msg]
  | _ :: past => posts past

theorem posts_other {a : Action K} {past : List (Action K)} (other : ∀ msg, a ≠ .post msg) :
    posts (a :: past) = posts past := by
  cases a with
  | post msg => exact absurd rfl (other msg)
  | _ => rfl

theorem posts_kept {past : List (Action K)} {tag : Nat} {msg : PoseStamped K} (a : Action K)
    (posted : (posts past)[tag]? = some msg) : (posts (a :: past))[tag]? = some msg := by
  cases a with
  | post other =>
    rw [posts, List.getElem?_append_left (List.getElem?_eq_some_iff.mp posted).1]
    exact posted
  | _ => exact posted

end Books

variable {K : Type} [Field K] [LinearOrder K] [FloorRing K] [FloatMath K]

def System.initial : System K := ⟨0, [], [], [], [], [], [], [], [], .initial⟩

/-- A line of the relay, with the call it makes on the action client. -/
def System.relay (s : System K) (tag : Nat) (line : GoalRelay.Output K) :
    System K × List (Note K) :=
  match line with
  | .sendGoalAsync goal => ({ s with requests := ⟨tag, goal⟩ :: s.requests }, [.relay tag line])
  | .getResultAsync => ({ s with asked := ⟨tag, ()⟩ :: s.asked }, [.relay tag line])
  | _ => (s, [.relay tag line])

def System.fly (p : Params K) (s : System K) (e : Event K) : System K :=
  { s with node := (OffboardControl.step p s.node e).1 }

def step (p : Params K) (s : System K) : Action K → System K × List (Note K)
  | .post msg =>
    ({ s with
        posted := s.posted + 1
        goalsToFlight := ⟨s.posted, msg⟩ :: s.goalsToFlight
        goalsToRelay := ⟨s.posted, msg⟩ :: s.goalsToRelay }, [])
  | .loseGoal i =>
    match takeAt s.goalsToFlight i with
    | none => (s, [])
    | some (m, rest) => ({ s with goalsToFlight := rest }, [.lost .direct m.tag])
  | .loseRelayGoal i =>
    match takeAt s.goalsToRelay i with
    | none => (s, [])
    | some (m, rest) => ({ s with goalsToRelay := rest }, [.relayGoalLost m.tag])
  | .losePlan i =>
    match takeAt s.plans i with
    | none => (s, [])
    | some (m, rest) => ({ s with plans := rest }, [.lost .planned m.tag])
  | .relayGoal i serverReady =>
    match takeAt s.goalsToRelay i with
    | none => (s, [])
    | some (m, rest) => { s with goalsToRelay := rest }.relay m.tag (onGoalPose serverReady m.body)
  | .answer i accepted =>
    match takeAt s.requests i with
    | none => (s, [])
    | some (m, rest) =>
      let s := { s with requests := rest, responses := ⟨m.tag, accepted⟩ :: s.responses }
      if accepted then ({ s with executing := m :: s.executing }, []) else (s, [.declined m.tag])
  | .relayResponse i =>
    match takeAt s.responses i with
    | none => (s, [])
    | some (m, rest) => { s with responses := rest }.relay m.tag (onGoalResponse m.body)
  | .finish i result published =>
    match takeAt s.executing i with
    | none => (s, [])
    | some (m, rest) =>
      let s := { s with executing := rest, results := ⟨m.tag, result⟩ :: s.results }
      (if published then { s with plans := ⟨m.tag, result.path⟩ :: s.plans } else s,
        [.computed m.tag m.body result published])
  | .relayResult i j =>
    match takeAt s.asked i, takeAt s.results j with
    | some (m, rest), some (r, others) =>
      if m.tag = r.tag then
        { s with asked := rest, results := others }.relay m.tag (onResult r.body)
      else (s, [])
    | _, _ => (s, [])
  | .flightGoal now i =>
    match takeAt s.goalsToFlight i with
    | none => (s, [])
    | some (m, rest) =>
      ({ s with goalsToFlight := rest }.fly p ⟨now, .goalPose m.body⟩, [.heard .direct m.tag])
  | .flightPlan now i =>
    match takeAt s.plans i with
    | none => (s, [])
    | some (m, rest) =>
      ({ s with plans := rest }.fly p ⟨now, .navPath m.body⟩, [.heard .planned m.tag])
  | .flight now callback => (s.fly p ⟨now, callback.val⟩, [])

def navigation (p : Params K) : Machine (System K) (Action K) (Note K) := ⟨.initial, step p⟩

inductive Transfer (p : Params K) (s : System K) : Action K → System K → List (Note K) → Prop where
  | idle (a : Action K) (other : ∀ msg, a ≠ .post msg) : Transfer p s a s []
  | post (msg : PoseStamped K) :
      Transfer p s (.post msg)
        { s with
          posted := s.posted + 1
          goalsToFlight := ⟨s.posted, msg⟩ :: s.goalsToFlight
          goalsToRelay := ⟨s.posted, msg⟩ :: s.goalsToRelay } []
  | loseGoal (i : Nat) (m : Tagged (PoseStamped K)) (rest : List (Tagged (PoseStamped K)))
      (took : takeAt s.goalsToFlight i = some (m, rest)) :
      Transfer p s (.loseGoal i) { s with goalsToFlight := rest } [.lost .direct m.tag]
  | loseRelayGoal (i : Nat) (m : Tagged (PoseStamped K)) (rest : List (Tagged (PoseStamped K)))
      (took : takeAt s.goalsToRelay i = some (m, rest)) :
      Transfer p s (.loseRelayGoal i) { s with goalsToRelay := rest } [.relayGoalLost m.tag]
  | losePlan (i : Nat) (m : Tagged (Path K)) (rest : List (Tagged (Path K)))
      (took : takeAt s.plans i = some (m, rest)) :
      Transfer p s (.losePlan i) { s with plans := rest } [.lost .planned m.tag]
  | request (i : Nat) (m : Tagged (PoseStamped K)) (rest : List (Tagged (PoseStamped K)))
      (took : takeAt s.goalsToRelay i = some (m, rest)) :
      Transfer p s (.relayGoal i true)
        { s with
          goalsToRelay := rest
          requests := ⟨m.tag, requestFor m.body⟩ :: s.requests }
        [.relay m.tag (.sendGoalAsync (requestFor m.body))]
  | unavailable (i : Nat) (m : Tagged (PoseStamped K)) (rest : List (Tagged (PoseStamped K)))
      (took : takeAt s.goalsToRelay i = some (m, rest)) :
      Transfer p s (.relayGoal i false) { s with goalsToRelay := rest }
        [.relay m.tag .serverNotAvailable]
  | accept (i : Nat) (m : Tagged (Goal K)) (rest : List (Tagged (Goal K)))
      (took : takeAt s.requests i = some (m, rest)) :
      Transfer p s (.answer i true)
        { s with
          requests := rest
          responses := ⟨m.tag, true⟩ :: s.responses
          executing := m :: s.executing } []
  | decline (i : Nat) (m : Tagged (Goal K)) (rest : List (Tagged (Goal K)))
      (took : takeAt s.requests i = some (m, rest)) :
      Transfer p s (.answer i false)
        { s with requests := rest, responses := ⟨m.tag, false⟩ :: s.responses } [.declined m.tag]
  | ask (i : Nat) (m : Tagged Bool) (rest : List (Tagged Bool))
      (took : takeAt s.responses i = some (m, rest)) (accepted : m.body = true) :
      Transfer p s (.relayResponse i)
        { s with responses := rest, asked := ⟨m.tag, ()⟩ :: s.asked }
        [.relay m.tag .getResultAsync]
  | rejected (i : Nat) (m : Tagged Bool) (rest : List (Tagged Bool))
      (took : takeAt s.responses i = some (m, rest)) (declined : m.body = false) :
      Transfer p s (.relayResponse i) { s with responses := rest } [.relay m.tag .goalRejected]
  | publish (i : Nat) (m : Tagged (Goal K)) (rest : List (Tagged (Goal K))) (result : Result K)
      (took : takeAt s.executing i = some (m, rest)) :
      Transfer p s (.finish i result true)
        { s with
          executing := rest
          results := ⟨m.tag, result⟩ :: s.results
          plans := ⟨m.tag, result.path⟩ :: s.plans }
        [.computed m.tag m.body result true]
  | withhold (i : Nat) (m : Tagged (Goal K)) (rest : List (Tagged (Goal K))) (result : Result K)
      (took : takeAt s.executing i = some (m, rest)) :
      Transfer p s (.finish i result false)
        { s with executing := rest, results := ⟨m.tag, result⟩ :: s.results }
        [.computed m.tag m.body result false]
  | report (i j : Nat) (m : Tagged Unit) (rest : List (Tagged Unit)) (r : Tagged (Result K))
      (others : List (Tagged (Result K))) (took : takeAt s.asked i = some (m, rest))
      (found : takeAt s.results j = some (r, others)) (same : m.tag = r.tag) :
      Transfer p s (.relayResult i j) { s with asked := rest, results := others }
        [.relay m.tag (onResult r.body)]
  | hearGoal (now : Int) (i : Nat) (m : Tagged (PoseStamped K))
      (rest : List (Tagged (PoseStamped K))) (took : takeAt s.goalsToFlight i = some (m, rest)) :
      Transfer p s (.flightGoal now i)
        ({ s with goalsToFlight := rest }.fly p ⟨now, .goalPose m.body⟩) [.heard .direct m.tag]
  | hearPlan (now : Int) (i : Nat) (m : Tagged (Path K)) (rest : List (Tagged (Path K)))
      (took : takeAt s.plans i = some (m, rest)) :
      Transfer p s (.flightPlan now i) ({ s with plans := rest }.fly p ⟨now, .navPath m.body⟩)
        [.heard .planned m.tag]
  | flight (now : Int) (callback : { c : Callback K // ¬ c.IsGoal }) :
      Transfer p s (.flight now callback) (s.fly p ⟨now, callback.val⟩) []

theorem step_transfer (p : Params K) (s : System K) (a : Action K) :
    Transfer p s a (step p s a).1 (step p s a).2 := by
  cases a with
  | post msg => exact Transfer.post msg
  | flight now callback => exact Transfer.flight now callback
  | relayGoal i serverReady =>
    unfold step
    dsimp only
    split
    · exact Transfer.idle _ (by simp)
    · rename_i m rest took
      cases serverReady with
      | true => exact Transfer.request i m rest took
      | false => exact Transfer.unavailable i m rest took
  | answer i accepted =>
    unfold step
    dsimp only
    split
    · exact Transfer.idle _ (by simp)
    · rename_i m rest took
      cases accepted with
      | true => exact Transfer.accept i m rest took
      | false => exact Transfer.decline i m rest took
  | relayResponse i =>
    unfold step
    dsimp only
    split
    · exact Transfer.idle _ (by simp)
    · rename_i m rest took
      cases accepted : m.body with
      | true => exact Transfer.ask i m rest took accepted
      | false => exact Transfer.rejected i m rest took accepted
  | finish i result published =>
    unfold step
    dsimp only
    split
    · exact Transfer.idle _ (by simp)
    · rename_i m rest took
      cases published with
      | true => exact Transfer.publish i m rest result took
      | false => exact Transfer.withhold i m rest result took
  | relayResult i j =>
    unfold step
    dsimp only
    split
    · rename_i m rest r others took found
      split
      · rename_i same
        exact Transfer.report i j m rest r others took found same
      · exact Transfer.idle _ (by simp)
    · exact Transfer.idle _ (by simp)
  | loseGoal i =>
    unfold step
    dsimp only
    split
    · exact Transfer.idle _ (by simp)
    · rename_i m rest took
      exact Transfer.loseGoal i m rest took
  | loseRelayGoal i =>
    unfold step
    dsimp only
    split
    · exact Transfer.idle _ (by simp)
    · rename_i m rest took
      exact Transfer.loseRelayGoal i m rest took
  | losePlan i =>
    unfold step
    dsimp only
    split
    · exact Transfer.idle _ (by simp)
    · rename_i m rest took
      exact Transfer.losePlan i m rest took
  | flightGoal now i =>
    unfold step
    dsimp only
    split
    · exact Transfer.idle _ (by simp)
    · rename_i m rest took
      exact Transfer.hearGoal now i m rest took
  | flightPlan now i =>
    unfold step
    dsimp only
    split
    · exact Transfer.idle _ (by simp)
    · rename_i m rest took
      exact Transfer.hearPlan now i m rest took

theorem transfer_conserves {p : Params K} {s s' : System K} {a : Action K} {notes : List (Note K)}
    (went : Transfer p s a s' notes) (track : Track) :
    held s' track + total (spent track) notes = held s track + brought s a := by
  cases went with
  | idle _ other =>
    rw [brought_other other]
    rfl
  | post msg =>
    cases track with
    | direct => simp [held, brought, add_comm]
    | client | plan =>
      simp only [held, brought, tags_cons, total_nil]
      abel
  | flight => cases track <;> rfl
  | loseGoal i m rest took | loseRelayGoal i m rest took | losePlan i m rest took
  | request i m rest took | unavailable i m rest took | accept i m rest took
  | decline i m rest took | ask i m rest took | rejected i m rest took
  | publish i m rest result took | withhold i m rest result took
  | report i j m rest r others took | hearGoal now i m rest took | hearPlan now i m rest took =>
    have moved := tags_take took
    cases track <;>
      simp only [held, System.fly, spent, brought, onResult, moved, tags_cons, total_cons,
        total_nil, add_zero] <;>
      abel

theorem income_is_range (p : Params K) (run : List (Action K)) :
    income (navigation p) brought run = Multiset.range ((navigation p).after run).posted := by
  induction run with
  | nil => rfl
  | cons a past ih =>
    have went := step_transfer p ((navigation p).after past) a
    rw [income, ih]
    change _ = Multiset.range (step p ((navigation p).after past) a).1.posted
    generalize step p ((navigation p).after past) a = result at went
    obtain ⟨s', notes⟩ := result
    cases went with
    | post msg => rw [brought, Multiset.range_succ, ← Multiset.singleton_add, add_comm]
    | idle _ other => rw [brought_other other, add_zero]
    | _ => exact add_zero _

/-- A posting is at exactly one place of each track, or has left it by exactly one note. -/
theorem postings_conserved (p : Params K) (run : List (Action K)) (track : Track) :
    held ((navigation p).after run) track + total (spent track) ((navigation p).trace run) =
      Multiset.range ((navigation p).after run).posted := by
  have balance := conserved (navigation p) (held · track) (spent track) brought
    (fun s a => transfer_conserves (step_transfer p s a) track) run
  rw [balance, income_is_range]
  cases track <;> exact zero_add _

theorem posted_counts (p : Params K) (run : List (Action K)) :
    ((navigation p).after run).posted = (posts run).length := by
  induction run with
  | nil => rfl
  | cons a past ih =>
    have went := step_transfer p ((navigation p).after past) a
    change (step p ((navigation p).after past) a).1.posted = _
    generalize step p ((navigation p).after past) a = result at went
    obtain ⟨s', notes⟩ := result
    cases went with
    | post msg => simp [posts, ih]
    | idle _ other => rw [posts_other other, ih]
    | _ => exact ih

/- What a message says about its posting. -/

/-- Every message under way meets the condition for its kind. -/
structure Carries (ofGoal : Tagged (PoseStamped K) → Prop) (ofRequest : Tagged (Goal K) → Prop)
    (ofPlan : Tagged (Path K) → Prop) (ofResult : Tagged (Result K) → Prop) (s : System K) :
    Prop where
  toFlight : ∀ m ∈ s.goalsToFlight, ofGoal m
  toRelay : ∀ m ∈ s.goalsToRelay, ofGoal m
  requests : ∀ m ∈ s.requests, ofRequest m
  executing : ∀ m ∈ s.executing, ofRequest m
  plans : ∀ m ∈ s.plans, ofPlan m
  results : ∀ m ∈ s.results, ofResult m

section Carrying
variable {p : Params K} {s s' : System K} {a : Action K} {notes : List (Note K)}
  {ofGoal ofGoal' : Tagged (PoseStamped K) → Prop} {ofRequest ofRequest' : Tagged (Goal K) → Prop}
  {ofPlan ofPlan' : Tagged (Path K) → Prop} {ofResult ofResult' : Tagged (Result K) → Prop}

omit [Field K] [LinearOrder K] [FloorRing K] [FloatMath K] in
theorem Carries.imp (kept : Carries ofGoal ofRequest ofPlan ofResult s)
    (goal : ∀ m, ofGoal m → ofGoal' m) (request : ∀ m, ofRequest m → ofRequest' m)
    (plan : ∀ m, ofPlan m → ofPlan' m) (result : ∀ m, ofResult m → ofResult' m) :
    Carries ofGoal' ofRequest' ofPlan' ofResult' s where
  toFlight m mem := goal m (kept.toFlight m mem)
  toRelay m mem := goal m (kept.toRelay m mem)
  requests m mem := request m (kept.requests m mem)
  executing m mem := request m (kept.executing m mem)
  plans m mem := plan m (kept.plans m mem)
  results m mem := result m (kept.results m mem)

theorem transfer_carries (went : Transfer p s a s' notes)
    (kept : Carries ofGoal ofRequest ofPlan ofResult s)
    (posted : ∀ msg, a = .post msg → ofGoal ⟨s.posted, msg⟩)
    (asked : ∀ m, ofGoal m → ofRequest ⟨m.tag, requestFor m.body⟩)
    (planned : ∀ m result, ofRequest m → .computed m.tag m.body result true ∈ notes →
      ofPlan ⟨m.tag, result.path⟩)
    (finished : ∀ m result published, ofRequest m →
      .computed m.tag m.body result published ∈ notes → ofResult ⟨m.tag, result⟩) :
    Carries ofGoal ofRequest ofPlan ofResult s' := by
  cases went with
  | post msg =>
    exact { kept with
      toFlight := List.forall_mem_cons.mpr ⟨posted msg rfl, kept.toFlight⟩
      toRelay := List.forall_mem_cons.mpr ⟨posted msg rfl, kept.toRelay⟩ }
  | loseGoal i m rest took | hearGoal now i m rest took =>
    exact { kept with toFlight := fun b mem => kept.toFlight b (takeAt_rest took mem) }
  | loseRelayGoal i m rest took | unavailable i m rest took =>
    exact { kept with toRelay := fun b mem => kept.toRelay b (takeAt_rest took mem) }
  | losePlan i m rest took | hearPlan now i m rest took =>
    exact { kept with plans := fun b mem => kept.plans b (takeAt_rest took mem) }
  | request i m rest took =>
    have sent := asked m (kept.toRelay m (takeAt_mem took))
    exact { kept with
      toRelay := fun b mem => kept.toRelay b (takeAt_rest took mem)
      requests := List.forall_mem_cons.mpr ⟨sent, kept.requests⟩ }
  | accept i m rest took =>
    have begun := kept.requests m (takeAt_mem took)
    exact { kept with
      requests := fun b mem => kept.requests b (takeAt_rest took mem)
      executing := List.forall_mem_cons.mpr ⟨begun, kept.executing⟩ }
  | decline i m rest took =>
    exact { kept with requests := fun b mem => kept.requests b (takeAt_rest took mem) }
  | publish i m rest result took =>
    have begun := kept.executing m (takeAt_mem took)
    have made := planned m result begun List.mem_cons_self
    have done := finished m result true begun List.mem_cons_self
    exact { kept with
      executing := fun b mem => kept.executing b (takeAt_rest took mem)
      plans := List.forall_mem_cons.mpr ⟨made, kept.plans⟩
      results := List.forall_mem_cons.mpr ⟨done, kept.results⟩ }
  | withhold i m rest result took =>
    have done := finished m result false (kept.executing m (takeAt_mem took)) List.mem_cons_self
    exact { kept with
      executing := fun b mem => kept.executing b (takeAt_rest took mem)
      results := List.forall_mem_cons.mpr ⟨done, kept.results⟩ }
  | report i j m rest r others took found =>
    exact { kept with results := fun b mem => kept.results b (takeAt_rest found mem) }
  | idle | ask | rejected | flight => exact { kept with }

end Carrying

/-- A request for a plan to the pose from where the robot is, nothing in it changed. -/
def Asks {K : Type} (goal : Goal K) (msg : PoseStamped K) : Prop :=
  goal.goal = msg ∧ goal.useStart = false

/-- The planner finished the request for the pose posted under `tag` with `result`. -/
def ComputedFor (p : Params K) (run : List (Action K)) (tag : Nat) (result : Result K)
    (published : Bool) : Prop :=
  ∃ msg goal, (posts run)[tag]? = some msg ∧ Asks goal msg ∧
    .computed tag goal result published ∈ (navigation p).trace run

def PlannedFor (p : Params K) (run : List (Action K)) (tag : Nat) (path : Path K) : Prop :=
  ∃ result : Result K, ComputedFor p run tag result true ∧ result.path = path

theorem computed_kept {p : Params K} {past : List (Action K)} {tag : Nat} {result : Result K}
    {published : Bool} (a : Action K) (computed : ComputedFor p past tag result published) :
    ComputedFor p (a :: past) tag result published := by
  obtain ⟨msg, goal, posted, asks, noted⟩ := computed
  exact ⟨msg, goal, posts_kept a posted, asks, List.mem_append_left _ noted⟩

/-- Messages carry what was posted: goals verbatim, requests the goal and nothing else,
    results and plans what was computed for it. -/
theorem messages_faithful (p : Params K) (run : List (Action K)) :
    Carries (fun m => (posts run)[m.tag]? = some m.body)
      (fun m => ∃ msg, (posts run)[m.tag]? = some msg ∧ Asks m.body msg)
      (fun m => PlannedFor p run m.tag m.body)
      (fun m => ∃ published, ComputedFor p run m.tag m.body published)
      ((navigation p).after run) := by
  induction run with
  | nil => constructor <;> intro m mem <;> cases mem
  | cons a past ih =>
    have went := step_transfer p ((navigation p).after past) a
    have noted : ∀ m : Tagged (Goal K), ∀ result published,
        (∃ msg, (posts (a :: past))[m.tag]? = some msg ∧ Asks m.body msg) →
        .computed m.tag m.body result published ∈ (navigation p).emitted past a →
        ComputedFor p (a :: past) m.tag result published := by
      intro m result published sent computed
      obtain ⟨msg, posted, asks⟩ := sent
      exact ⟨msg, m.body, posted, asks, List.mem_append_right _ computed⟩
    have older : Carries (fun m => (posts (a :: past))[m.tag]? = some m.body)
        (fun m => ∃ msg, (posts (a :: past))[m.tag]? = some msg ∧ Asks m.body msg)
        (fun m => PlannedFor p (a :: past) m.tag m.body)
        (fun m => ∃ published, ComputedFor p (a :: past) m.tag m.body published)
        ((navigation p).after past) := ih.imp
      (fun m posted => posts_kept a posted)
      (fun m ⟨msg, posted, asks⟩ => ⟨msg, posts_kept a posted, asks⟩)
      (fun m ⟨result, computed, same⟩ => ⟨result, computed_kept a computed, same⟩)
      (fun m ⟨published, computed⟩ => ⟨published, computed_kept a computed⟩)
    apply transfer_carries went older
    · intro msg same
      subst same
      simp [posted_counts, posts]
    · intro m posted
      exact ⟨m.body, posted, rfl, rfl⟩
    · intro m result sent computed
      exact ⟨result, noted m result true sent computed, rfl⟩
    · intro m result published sent computed
      exact ⟨published, noted m result published sent computed⟩

/- The relay's account. -/

theorem count_spent_le (p : Params K) (run : List (Action K)) (track : Track) (tag : Nat) :
    (total (spent track) ((navigation p).trace run)).count tag ≤ 1 := by
  have balance := congrArg (Multiset.count tag) (postings_conserved p run track)
  rw [Multiset.count_add] at balance
  have once := Multiset.nodup_iff_count_le_one.mp
    (Multiset.nodup_range ((navigation p).after run).posted) tag
  omega

theorem relay_line {p : Params K} {past : List (Action K)} {a : Action K} {tag : Nat}
    {line : GoalRelay.Output K} (said : .relay tag line ∈ (navigation p).emitted past a) :
    (∃ ready msg, (posts past)[tag]? = some msg ∧ line = GoalRelay.onGoalPose ready msg) ∨
      (∃ accepted, line = onGoalResponse accepted) ∨
      ∃ result published, ComputedFor p past tag result published ∧ line = onResult result := by
  have went := step_transfer p ((navigation p).after past) a
  have kept := messages_faithful p past
  change _ ∈ (step p ((navigation p).after past) a).2 at said
  generalize step p ((navigation p).after past) a = done at went said
  obtain ⟨s', notes⟩ := done
  cases went with
  | request i m rest took =>
    simp only [List.mem_singleton, Note.relay.injEq] at said
    obtain ⟨rfl, rfl⟩ := said
    exact Or.inl ⟨true, m.body, kept.toRelay m (takeAt_mem took), rfl⟩
  | unavailable i m rest took =>
    simp only [List.mem_singleton, Note.relay.injEq] at said
    obtain ⟨rfl, rfl⟩ := said
    exact Or.inl ⟨false, m.body, kept.toRelay m (takeAt_mem took), rfl⟩
  | ask =>
    simp only [List.mem_singleton, Note.relay.injEq] at said
    exact Or.inr (Or.inl ⟨true, said.2⟩)
  | rejected =>
    simp only [List.mem_singleton, Note.relay.injEq] at said
    exact Or.inr (Or.inl ⟨false, said.2⟩)
  | report i j m rest r others took found same =>
    simp only [List.mem_singleton, Note.relay.injEq] at said
    obtain ⟨rfl, rfl⟩ := said
    obtain ⟨published, computed⟩ := kept.results r (takeAt_mem found)
    exact Or.inr (Or.inr ⟨r.body, published, same ▸ computed, rfl⟩)
  | _ => simp at said

structure RelayLaw (p : Params K) (run : List (Action K)) : Prop where
  accounted : held ((navigation p).after run) .client +
      total (spent .client) ((navigation p).trace run) = Multiset.range (posts run).length
  once : ∀ tag, (total (spent .client) ((navigation p).trace run)).count tag ≤ 1
  verbatim : ∀ tag goal, .relay tag (.sendGoalAsync goal) ∈ (navigation p).trace run →
    ∃ msg, (posts run)[tag]? = some msg ∧ goal.goal = msg ∧ goal.useStart = false
  honest : ∀ tag status count,
    .relay tag (.finished status count) ∈ (navigation p).trace run →
      ∃ result published, ComputedFor p run tag result published ∧ status = result.status ∧
        count = result.path.poses.length

theorem trace_of_each {p : Params K} (keep : List (Action K) → Note K → Prop)
    (each : ∀ past a, ∀ note ∈ (navigation p).emitted past a, keep (a :: past) note)
    (kept : ∀ past a note, keep past note → keep (a :: past) note) (run : List (Action K)) :
    ∀ note ∈ (navigation p).trace run, keep run note := by
  induction run with
  | nil => intro note mem; cases mem
  | cons a past ih =>
    intro note mem
    rcases List.mem_append.mp mem with old | new
    · exact kept past a note (ih note old)
    · exact each past a note new

/-- In every interleaving of the operator, the relay, the planner and the topics, each goal
    posted is in exactly one place or has been closed by exactly one line of the log or a
    lost message; a request asks for the goal verbatim, and a finished line reports the
    result computed for it. -/
theorem relay_accounts_for_every_goal (p : Params K) (run : List (Action K)) : RelayLaw p run where
  accounted := by rw [postings_conserved, posted_counts]
  once := count_spent_le p run .client
  verbatim := by
    intro tag goal said
    have every := trace_of_each (p := p) (fun run note => ∀ tag goal,
        note = .relay tag (.sendGoalAsync goal) →
          ∃ msg, (posts run)[tag]? = some msg ∧ Asks goal msg) ?_ ?_ run
    · exact every _ said tag goal rfl
    · intro past a note mem tag goal same
      subst same
      rcases relay_line mem with ⟨ready, msg, posted, line⟩ | ⟨accepted, line⟩ | ⟨_, _, _, line⟩
      · cases ready with
        | true =>
          obtain rfl : goal = requestFor msg := by simpa [GoalRelay.onGoalPose] using line
          exact ⟨msg, posts_kept a posted, rfl, rfl⟩
        | false => simp [GoalRelay.onGoalPose] at line
      · cases accepted <;> simp [onGoalResponse] at line
      · simp [onResult] at line
    · intro past a note kept tag goal same
      obtain ⟨msg, posted, value⟩ := kept tag goal same
      exact ⟨msg, posts_kept a posted, value⟩
  honest := by
    intro tag status count said
    have every := trace_of_each (p := p) (fun run note => ∀ tag status count,
        note = .relay tag (.finished status count) → ∃ result published,
          ComputedFor p run tag result published ∧ status = result.status ∧
            count = result.path.poses.length) ?_ ?_ run
    · exact every _ said tag status count rfl
    · intro past a note mem tag status count same
      subst same
      rcases relay_line mem with ⟨ready, _, _, line⟩ | ⟨accepted, line⟩ |
        ⟨result, published, computed, line⟩
      · cases ready <;> simp [GoalRelay.onGoalPose] at line
      · cases accepted <;> simp [onGoalResponse] at line
      · simp only [onResult, GoalRelay.Output.finished.injEq] at line
        exact ⟨result, published, computed_kept a computed, line⟩
    · intro past a note kept tag status count same
      obtain ⟨result, published, computed, values⟩ := kept tag status count same
      exact ⟨result, published, computed_kept a computed, values⟩

end Navigation
