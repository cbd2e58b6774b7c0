import Mathlib.Data.List.Perm.Basic
import Mathlib.Algebra.BigOperators.Group.List.Basic
import GpsDeniedDrone.Cadence

/-!
A machine as a part of a larger one. The part's state is a view of the whole state, and
each event of the whole makes the part read at most one event of its own; what holds of
every run of the part then holds of the part inside every run of the whole.

The parts most systems share are mailboxes: what is posted is delivered in any order,
at most once, or lost.
-/
namespace Components
open PastTime Cadence
variable {State Event Output Inner Read Said : Type}

/-- `part` inside `whole`. -/
structure Component (whole : Machine State Event Output) (part : Machine Inner Read Said) where
  view : State → Inner
  reads : State → Event → Option Read
  started : view whole.start = part.start
  skips : ∀ s e, reads s e = none → view (whole.step s e).1 = view s
  steps : ∀ s e r, reads s e = some r → view (whole.step s e).1 = (part.step (view s) r).1

namespace Component
variable {whole : Machine State Event Output} {part : Machine Inner Read Said}
  (c : Component whole part)

def history : List Event → List Read
  | [] => []
  | e :: past => (c.reads (whole.after past) e).toList ++ history past

variable {c} in
theorem history_read {past : List Event} {e : Event} {r : Read}
    (read : c.reads (whole.after past) e = some r) :
    c.history (e :: past) = r :: c.history past := by
  rw [history, read]
  rfl

variable {c} in
theorem history_skip {past : List Event} {e : Event}
    (skipped : c.reads (whole.after past) e = none) : c.history (e :: past) = c.history past := by
  rw [history, skipped]
  rfl

/-- The part runs inside the whole exactly as it runs alone. -/
theorem view_after (run : List Event) : c.view (whole.after run) = part.after (c.history run) := by
  induction run with
  | nil => exact c.started
  | cons e past ih =>
    cases read : c.reads (whole.after past) e with
    | none =>
      rw [history_skip read, ← ih]
      exact c.skips _ e read
    | some r =>
      rw [history_read read, Machine.after, Machine.after, ← ih]
      exact c.steps _ e r read

/-- A formula of the part, at the events of the whole that make the part read. -/
def lift (f : Moment Read) : Moment Event := fun past e =>
  ∀ r, c.reads (whole.after past) e = some r → f (c.history past) r

theorem always_history (f : Moment Read) (run : List Event) :
    Always f (c.history run) ↔ Always (c.lift f) run := by
  induction run with
  | nil => exact Iff.rfl
  | cons e past ih =>
    cases read : c.reads (whole.after past) e with
    | none =>
      rw [history_skip read]
      refine ⟨fun all => ⟨fun r other => ?_, ih.mp all⟩, fun all => ih.mpr all.2⟩
      rw [read] at other
      cases other
    | some r =>
      rw [history_read read]
      refine ⟨fun all => ⟨fun s same => ?_, ih.mp all.2⟩, fun all => ⟨all.1 r read, ih.mpr all.2⟩⟩
      rw [read] at same
      cases same
      exact all.1

end Component

/- Mailboxes. -/

variable {Message : Type}

def takeAt (box : List Message) (i : Nat) : Option (Message × List Message) :=
  (box[i]?).map fun m => (m, box.eraseIdx i)

theorem takeAt_perm {box rest : List Message} {i : Nat} {m : Message}
    (took : takeAt box i = some (m, rest)) : box.Perm (m :: rest) := by
  obtain ⟨found, at_i, same⟩ := Option.map_eq_some_iff.mp took
  obtain ⟨short, value⟩ := List.getElem?_eq_some_iff.mp at_i
  cases same
  rw [← value]
  exact (List.getElem_cons_eraseIdx_perm short).symm

theorem takeAt_mem {box rest : List Message} {i : Nat} {m : Message}
    (took : takeAt box i = some (m, rest)) : m ∈ box :=
  (takeAt_perm took).mem_iff.mpr List.mem_cons_self

theorem takeAt_rest {box rest : List Message} {i : Nat} {m : Message}
    (took : takeAt box i = some (m, rest)) : rest ⊆ box := fun _ mem =>
  (takeAt_perm took).mem_iff.mpr (List.mem_cons_of_mem m mem)

/- Conservation. -/

section Conservation
variable {Amount : Type} [AddCommMonoid Amount] (m : Machine State Event Output)

def total (spent : Output → Amount) (out : List Output) : Amount := (out.map spent).sum

@[simp] theorem total_nil (spent : Output → Amount) : total spent [] = 0 := rfl

@[simp] theorem total_cons (spent : Output → Amount) (o : Output) (out : List Output) :
    total spent (o :: out) = spent o + total spent out := List.sum_cons

theorem total_append (spent : Output → Amount) (a b : List Output) :
    total spent (a ++ b) = total spent a + total spent b := by
  rw [total, List.map_append, List.sum_append]
  rfl

def income (brought : State → Event → Amount) : List Event → Amount
  | [] => 0
  | e :: past => income brought past + brought (m.after past) e

/-- Where each step conserves, a run does: what is held and what has gone out is what was
    there at first and what has come in. -/
theorem conserved (held : State → Amount) (spent : Output → Amount)
    (brought : State → Event → Amount)
    (step : ∀ s e, held (m.step s e).1 + total spent (m.step s e).2 = held s + brought s e)
    (run : List Event) :
    held (m.after run) + total spent (m.trace run) = held m.start + income m brought run := by
  induction run with
  | nil => rfl
  | cons e past ih =>
    rw [Machine.trace, total_append, income]
    calc held (m.after (e :: past)) + (total spent (m.trace past) + total spent (m.emitted past e))
        = (held (m.after (e :: past)) + total spent (m.emitted past e)) +
            total spent (m.trace past) := by
          rw [add_left_comm, add_comm (total spent (m.trace past))]
      _ = (held (m.after past) + brought (m.after past) e) + total spent (m.trace past) := by
          rw [← step (m.after past) e]
          rfl
      _ = (held (m.after past) + total spent (m.trace past)) + brought (m.after past) e :=
          add_right_comm _ _ _
      _ = held m.start + (income m brought past + brought (m.after past) e) := by
          rw [ih, add_assoc]

end Conservation

end Components
