import Mathlib.Algebra.Order.Ring.Int
import Mathlib.Tactic.Linarith
import Mathlib.Tactic.Ring
import GpsDeniedDrone.Cadence
import GpsDeniedDrone.Streak

/-!
Moments kept apart in time: each at least a gap after the latest one before it. In any
stretch of a run there are then at most one more of them than the gaps that fit between
two of its events.
-/
namespace Spacing
open PastTime Cadence Streak
variable {Event : Type} (time : Event → Int) (hit : Moment Event)
  [∀ past e, Decidable (hit past e)]

def Spaced (gap : Int) : Moment Event := fun past e =>
  hit past e → ∀ t ∈ latest time hit past, t + gap ≤ time e

variable {time hit} {gap : Int} {newer older : List Event}

theorem tally_suffix (newer older : List Event) : tally hit older ≤ tally hit (newer ++ older) := by
  induction newer with
  | nil => exact Nat.le_refl _
  | cons e newer ih => exact ih.trans (Nat.le_add_right _ _)

theorem stretch_bounded (spaced : Always (Spaced time hit gap) (newer ++ older))
    (more : tally hit older < tally hit (newer ++ older)) :
    ∃ a ∈ newer, ∃ b ∈ newer, latest time hit (newer ++ older) = some (time b) ∧
      time a + gap * (tally hit (newer ++ older) - tally hit older - 1) ≤ time b := by
  induction newer with
  | nil => exact absurd more (Nat.lt_irrefl _)
  | cons e newer ih =>
    obtain ⟨apart, before⟩ := spaced
    change tally hit older < tally hit (e :: (newer ++ older)) at more
    change ∃ a ∈ e :: newer, ∃ b ∈ e :: newer,
      latest time hit (e :: (newer ++ older)) = some (time b) ∧
        time a + gap * (tally hit (e :: (newer ++ older)) - tally hit older - 1) ≤ time b
    by_cases here : hit (newer ++ older) e
    · have now : latest time hit (e :: (newer ++ older)) = some (time e) := if_pos here
      rw [tally_hit here] at more ⊢
      by_cases earlier : tally hit older < tally hit (newer ++ older)
      · obtain ⟨a, first, b, mem, last, span⟩ := ih before earlier
        have step := apart here (time b) (Option.mem_def.mpr last)
        refine ⟨a, List.mem_cons_of_mem e first, e, List.mem_cons_self, now, ?_⟩
        push_cast
        linarith
      · have none_before : tally hit (newer ++ older) = tally hit older :=
          Nat.le_antisymm (Nat.le_of_not_lt earlier) (tally_suffix newer older)
        refine ⟨e, List.mem_cons_self, e, List.mem_cons_self, now, ?_⟩
        rw [none_before]
        push_cast
        ring_nf
        exact le_refl _
    · have same : latest time hit (e :: (newer ++ older)) = latest time hit (newer ++ older) :=
        if_neg here
      rw [tally_miss here] at more ⊢
      obtain ⟨a, first, b, mem, last, span⟩ := ih before more
      exact ⟨a, List.mem_cons_of_mem e first, b, List.mem_cons_of_mem e mem, same.trans last, span⟩

end Spacing
