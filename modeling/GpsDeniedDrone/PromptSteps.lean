import GpsDeniedDrone.Cadence

/-!
Moments that are waited for. If every `limit`-th tick in a row without an advance is itself
an advance, then the ticks of a run are bounded by its advances: nothing waits for ever.
-/
namespace PromptSteps
open PastTime Cadence
variable {Event : Type}

section Waiting
variable (tick advance : Moment Event) [∀ past e, Decidable (tick past e)]
  [∀ past e, Decidable (advance past e)]

def waited : List Event → Nat
  | [] => 0
  | e :: past => if advance past e then 0 else waited past + if tick past e then 1 else 0

def Prompt (limit : Nat) : Moment Event := fun past e =>
  tick past e → limit ≤ waited tick advance past + 1 → advance past e

variable {tick advance} {limit : Nat} {run : List Event}

theorem waited_lt (positive : 0 < limit) (prompt : Always (Prompt tick advance limit) run) :
    waited tick advance run < limit := by
  induction run with
  | nil => exact positive
  | cons e past ih =>
    obtain ⟨now, before⟩ := prompt
    by_cases here : advance past e
    · rw [waited, if_pos here]
      exact positive
    · rw [waited, if_neg here]
      by_cases ticks : tick past e
      · rw [if_pos ticks]
        exact Nat.lt_of_not_le fun late => here (now ticks late)
      · rw [if_neg ticks]
        exact ih before

theorem ticks_le_advances (positive : 0 < limit)
    (prompt : Always (Prompt tick advance limit) run) :
    tally tick run ≤ limit * tally advance run + waited tick advance run := by
  induction run with
  | nil => exact Nat.zero_le _
  | cons e past ih =>
    have earlier := ih prompt.2
    have wait := waited_lt positive prompt.2
    by_cases here : advance past e
    · rw [waited, if_pos here, tally_hit here, tally, Nat.mul_succ]
      split <;> omega
    · rw [waited, if_neg here, tally_miss here, tally]
      omega

theorem ticks_bounded (positive : 0 < limit) (prompt : Always (Prompt tick advance limit) run) :
    tally tick run < limit * (tally advance run + 1) := by
  have ticks := ticks_le_advances positive prompt
  have wait := waited_lt positive prompt
  rw [Nat.mul_succ]
  omega

end Waiting
end PromptSteps
