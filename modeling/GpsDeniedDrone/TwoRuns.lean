import GpsDeniedDrone.PastTime

/-!
Two runs of one machine side by side: runs that differ in events it takes no notice of,
and runs whose events differ in something it does not show. Nothing here fixes what a
state, an event or an output is.
-/
namespace TwoRuns
open PastTime
variable {State Event Output : Type} (m : Machine State Event Output)

/- Silent events. -/

section Silent
variable (silent : Event → Prop) [DecidablePred silent]

def shown : List Event → List (State × List Output)
  | [] => []
  | e :: past =>
    if silent e then shown past else (m.after (e :: past), m.emitted past e) :: shown past

def loud (run : List Event) : List Event := run.filter fun e => ¬ silent e

variable {m silent} {run : List Event}

theorem shown_loud
    (still : Always (fun past e => silent e → m.after (e :: past) = m.after past) run) :
    m.after (loud silent run) = m.after run ∧
      shown m silent (loud silent run) = shown m silent run := by
  induction run with
  | nil => exact ⟨rfl, rfl⟩
  | cons e past ih =>
    obtain ⟨after, seen⟩ := ih still.2
    by_cases quiet : silent e
    · have deleted : loud silent (e :: past) = loud silent past := by simp [loud, quiet]
      rw [deleted, after, seen, still.1 quiet, shown, if_pos quiet]
      exact ⟨rfl, rfl⟩
    · have kept : loud silent (e :: past) = e :: loud silent past := by simp [loud, quiet]
      rw [kept]
      simp only [shown, Machine.after, Machine.emitted, if_neg quiet, after, seen, and_self]

end Silent

/- Views. -/

section Views
variable {StateView EventView OutputView : Type} (stop : State → Prop) [DecidablePred stop]
  (state : State → StateView) (event : Event → EventView) (output : Output → OutputView)

/-- What is seen of the run until it has stopped, newest first: at every event the view of
    the state left and of the outputs. -/
def viewed : List Event → List (StateView × List OutputView)
  | [] => []
  | e :: past =>
    if stop (m.after past) then viewed past
    else (state (m.after (e :: past)), (m.emitted past e).map output) :: viewed past

def Follows (next : StateView → EventView → StateView × List OutputView) : Moment Event :=
  fun past e => ¬ stop (m.after past) →
    (state (m.after (e :: past)), (m.emitted past e).map output) =
      next (state (m.after past)) (event e)

variable {m stop state event output}

theorem viewed_eq {next : StateView → EventView → StateView × List OutputView}
    (stop_seen : ∀ s s', state s = state s' → (stop s ↔ stop s'))
    (stays : ∀ past e, stop (m.after past) → stop (m.after (e :: past)))
    {run run' : List Event} (same : run.map event = run'.map event)
    (follows : Always (Follows m stop state event output next) run)
    (follows' : Always (Follows m stop state event output next) run') :
    viewed m stop state output run = viewed m stop state output run' ∧
      ((stop (m.after run) ∧ stop (m.after run')) ∨
        state (m.after run) = state (m.after run')) := by
  induction run generalizing run' with
  | nil =>
    rw [List.map_nil, List.nil_eq, List.map_eq_nil_iff] at same
    subst same
    exact ⟨rfl, Or.inr rfl⟩
  | cons e past ih =>
    cases run' with
    | nil => cases same
    | cons e' past' =>
      obtain ⟨alike, rest⟩ := List.cons_eq_cons.mp same
      obtain ⟨seen, stopped | view⟩ := ih rest follows.2 follows'.2
      · simp only [viewed, stopped.1, stopped.2, if_true]
        exact ⟨seen, Or.inl ⟨stays past e stopped.1, stays past' e' stopped.2⟩⟩
      · have together := stop_seen _ _ view
        by_cases stopped : stop (m.after past)
        · have stopped' := together.mp stopped
          simp only [viewed, stopped, stopped', if_true]
          exact ⟨seen, Or.inl ⟨stays past e stopped, stays past' e' stopped'⟩⟩
        · have going := follows.1 stopped
          have going' := follows'.1 (mt together.mpr stopped)
          rw [view, alike, ← going'] at going
          simp only [viewed, stopped, mt together.mpr stopped, if_false, going, seen, true_and]
          exact Or.inr (congrArg Prod.fst going)

end Views

/- Silent events under a view. -/

section SilentViews
variable {StateView OutputView : Type} (silent : Event → Prop) [DecidablePred silent]
  (stop : State → Prop) [DecidablePred stop] (state : State → StateView)

/-- The view of the state left and the outputs at every event that is not silent, until
    the run has stopped. -/
def heard : List Event → List (StateView × List Output)
  | [] => []
  | e :: past =>
    if stop (m.after past) ∨ silent e then heard past
    else (state (m.after (e :: past)), m.emitted past e) :: heard past

variable {m silent stop state}

/-- Silent events that leave the view alone can be deleted, if what comes of any other
    event can be told from the view. -/
theorem heard_loud {next : StateView → Event → StateView × List Output}
    (stop_seen : ∀ s s', state s = state s' → (stop s ↔ stop s'))
    (stays : ∀ past e, stop (m.after past) → stop (m.after (e :: past)))
    (still : ∀ past e, silent e → ¬ stop (m.after past) →
      state (m.after (e :: past)) = state (m.after past))
    (follows : ∀ past e, ¬ silent e → ¬ stop (m.after past) →
      (state (m.after (e :: past)), m.emitted past e) = next (state (m.after past)) e)
    (run : List Event) :
    heard m silent stop state (loud silent run) = heard m silent stop state run ∧
      ((stop (m.after (loud silent run)) ∧ stop (m.after run)) ∨
        state (m.after (loud silent run)) = state (m.after run)) := by
  induction run with
  | nil => exact ⟨rfl, Or.inr rfl⟩
  | cons e past ih =>
    obtain ⟨seen, ended⟩ := ih
    by_cases quiet : silent e
    · have deleted : loud silent (e :: past) = loud silent past := by simp [loud, quiet]
      rw [deleted, heard, if_pos (Or.inr quiet)]
      refine ⟨seen, ?_⟩
      by_cases stopped : stop (m.after past)
      · have both : stop (m.after (loud silent past)) := by
          rcases ended with ⟨both, _⟩ | view
          · exact both
          · exact (stop_seen _ _ view).mpr stopped
        exact Or.inl ⟨both, stays past e stopped⟩
      · rcases ended with ⟨_, stopped'⟩ | view
        · exact absurd stopped' stopped
        · exact Or.inr (view.trans (still past e quiet stopped).symm)
    · have kept : loud silent (e :: past) = e :: loud silent past := by simp [loud, quiet]
      rw [kept]
      rcases ended with ⟨stopped', stopped⟩ | view
      · simp only [heard, stopped, stopped', true_or, if_true]
        exact ⟨seen, Or.inl ⟨stays _ e stopped', stays past e stopped⟩⟩
      · have together := stop_seen _ _ view
        by_cases stopped : stop (m.after past)
        · have stopped' := together.mpr stopped
          simp only [heard, stopped, stopped', true_or, if_true]
          exact ⟨seen, Or.inl ⟨stays _ e stopped', stays past e stopped⟩⟩
        · have going := follows past e quiet stopped
          have going' := follows (loud silent past) e quiet (mt together.mp stopped)
          rw [view, ← going] at going'
          simp only [heard, stopped, mt together.mp stopped, quiet, or_self, if_false, going',
            seen, true_and]
          exact Or.inr (congrArg Prod.fst going')

end SilentViews
end TwoRuns
