import Mathlib.Data.List.Basic
import Mathlib.Order.Basic

/-!
Runs of a deterministic machine that reads events and emits outputs, and
past-time formulas over them. A run is the list of the events read so far,
NEWEST FIRST: its suffixes are the moments the run went through, and induction
on the list is induction on the run. Nothing here fixes what a state, an event
or an output is.
-/
namespace PastTime
variable {State Event Output : Type}

structure Machine (State Event Output : Type) where
  start : State
  step : State → Event → State × List Output

def Machine.after (m : Machine State Event Output) : List Event → State
  | [] => m.start
  | e :: past => (m.step (m.after past) e).1

/-- What the machine emits on reading `e` after `past`, in order of emission. -/
def Machine.emitted (m : Machine State Event Output) (past : List Event) (e : Event) :
    List Output := (m.step (m.after past) e).2

/-- Every output of a run, oldest first. -/
def Machine.trace (m : Machine State Event Output) : List Event → List Output
  | [] => []
  | e :: past => m.trace past ++ m.emitted past e

/-- A formula about one moment: the events behind it and the event read at it. -/
abbrev Moment (Event : Type) := List Event → Event → Prop

def Always (f : Moment Event) : List Event → Prop
  | [] => True
  | e :: past => f past e ∧ Always f past

/-- Some moment met `anchor`, and every later one met `hold`. -/
def Since (anchor hold : Moment Event) : List Event → Prop
  | [] => False
  | e :: past => anchor past e ∨ (hold past e ∧ Since anchor hold past)

def decideAlways (f : Moment Event) [∀ past e, Decidable (f past e)] :
    ∀ run, Decidable (Always f run)
  | [] => isTrue trivial
  | _ :: past =>
    have := decideAlways f past
    inferInstanceAs (Decidable (_ ∧ _))

instance (f : Moment Event) [∀ past e, Decidable (f past e)] :
    DecidablePred (Always f) := decideAlways f

def decideSince (anchor hold : Moment Event) [∀ past e, Decidable (anchor past e)]
    [∀ past e, Decidable (hold past e)] : ∀ run, Decidable (Since anchor hold run)
  | [] => isFalse id
  | _ :: past =>
    have := decideSince anchor hold past
    inferInstanceAs (Decidable (_ ∨ (_ ∧ _)))

instance (anchor hold : Moment Event) [∀ past e, Decidable (anchor past e)]
    [∀ past e, Decidable (hold past e)] : DecidablePred (Since anchor hold) :=
  decideSince anchor hold

theorem always_intro {legal f : Moment Event}
    (each : ∀ past e, Always legal (e :: past) → f past e) {run : List Event}
    (all : Always legal run) : Always f run := by
  induction run with
  | nil => trivial
  | cons e past ih => exact ⟨each past e all, ih all.2⟩

theorem always_of_forall {f : Moment Event} (each : ∀ past e, f past e) (run : List Event) :
    Always f run := by
  induction run with
  | nil => trivial
  | cons e past ih => exact ⟨each past e, ih⟩

theorem always_suffix {f : Moment Event} {newer older : List Event}
    (all : Always f (newer ++ older)) : Always f older := by
  induction newer with
  | nil => exact all
  | cons e newer ih => exact ih all.2

theorem first_of_kind {kind : Event → Prop} {run : List Event} (some_event : ∃ e ∈ run, kind e) :
    ∃ newer s older, run = newer ++ s :: older ∧ kind s ∧ ∀ b ∈ older, ¬ kind b := by
  induction run with
  | nil => simp at some_event
  | cons e past ih =>
    by_cases earlier : ∃ b ∈ past, kind b
    · obtain ⟨newer, s, older, split, found, first⟩ := ih earlier
      exact ⟨e :: newer, s, older, by rw [split, List.cons_append], found, first⟩
    · obtain ⟨s, mem, found⟩ := some_event
      rcases List.mem_cons.mp mem with rfl | old
      · exact ⟨[], s, past, rfl, found, fun b mem held => earlier ⟨b, mem, held⟩⟩
      · exact absurd ⟨s, old, found⟩ earlier

/-- Where `hold` failed the formula had to start again later. -/
theorem since_restarted {anchor hold : Moment Event} {newer older : List Event} {u : Event}
    (since : Since anchor hold (newer ++ u :: older)) (broken : ¬ hold older u)
    (not_here : ¬ anchor older u) : ∃ b ∈ newer, ∃ past, anchor past b := by
  induction newer with
  | nil =>
    rcases since with here | ⟨held, _⟩
    · exact absurd here not_here
    · exact absurd held broken
  | cons b newer ih =>
    rcases since with here | ⟨_, before⟩
    · exact ⟨b, List.mem_cons_self, newer ++ u :: older, here⟩
    · obtain ⟨c, mem, past, found⟩ := ih before
      exact ⟨c, List.mem_cons_of_mem b mem, past, found⟩

section Invariants
variable (m : Machine State Event Output)

/-- The run rule. The invariant may speak of the whole history. -/
theorem Machine.invariant (inv : List Event → State → Prop) (start : inv [] m.start)
    (keep : ∀ past e, inv past (m.after past) → inv (e :: past) (m.after (e :: past)))
    (run : List Event) : inv run (m.after run) := by
  induction run with
  | nil => exact start
  | cons e past ih => exact keep past e ih

/-- The run rule where the step may use that the history was legal. -/
theorem Machine.legal_invariant {legal : Moment Event} (inv : List Event → State → Prop)
    (start : inv [] m.start)
    (keep : ∀ past e, Always legal (e :: past) → inv past (m.after past) →
      inv (e :: past) (m.after (e :: past)))
    {run : List Event} (all : Always legal run) : inv run (m.after run) := by
  induction run with
  | nil => exact start
  | cons e past ih => exact keep past e all (ih all.2)

theorem Machine.trace_suffix {older run : List Event} (within : older <:+ run) :
    m.trace older <+: m.trace run := by
  obtain ⟨newer, rfl⟩ := within
  induction newer with
  | nil => exact List.prefix_refl _
  | cons e newer ih => exact ih.trans (List.prefix_append _ _)

theorem Machine.rank_mono (rank : State → Nat)
    (grows : ∀ past e, rank (m.after past) ≤ rank (m.after (e :: past))) (later past : List Event) :
    rank (m.after past) ≤ rank (m.after (later ++ past)) := by
  induction later with
  | nil => exact Nat.le_refl _
  | cons e later ih => exact Nat.le_trans ih (grows (later ++ past) e)

/-- A region of states that one kind of output leads into and that no other kind
    of output leaves from orders the two kinds in every trace. -/
theorem Machine.trace_ordered {first later : Output → Prop} (closed : State → Prop)
    (inside : ∀ past e, (m.emitted past e).Pairwise fun a b => first a → ¬ later b)
    (enter : ∀ past e, (∃ o ∈ m.emitted past e, first o) → closed (m.after (e :: past)))
    (stay : ∀ past e, closed (m.after past) → closed (m.after (e :: past)))
    (quiet : ∀ past e, closed (m.after past) → ∀ o ∈ m.emitted past e, ¬ later o)
    (run : List Event) : (m.trace run).Pairwise fun a b => first a → ¬ later b := by
  suffices both : ((m.trace run).Pairwise fun a b => first a → ¬ later b) ∧
      ((∃ o ∈ m.trace run, first o) → closed (m.after run)) from both.1
  induction run with
  | nil => simp [trace]
  | cons e past ih =>
    obtain ⟨ordered, entered⟩ := ih
    constructor
    · have across : ∀ a ∈ m.trace past, ∀ b ∈ m.emitted past e, first a → ¬ later b := by
        intro a old b new isFirst
        exact quiet past e (entered ⟨a, old, isFirst⟩) b new
      exact List.pairwise_append.mpr ⟨ordered, inside past e, across⟩
    · intro found
      obtain ⟨o, mem, isFirst⟩ := found
      rcases List.mem_append.mp mem with old | new
      · exact stay past e (entered ⟨o, old, isFirst⟩)
      · exact enter past e ⟨o, new, isFirst⟩

end Invariants
end PastTime
