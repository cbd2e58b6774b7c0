import Mathlib.Algebra.Order.Group.Nat
import GpsDeniedDrone.PastTime

/-!
Events of one kind, numbered as they come, and a moment that recurs at every multiple
of a period from some number on. How often such a moment comes in a stretch of a run
follows from the numbers at its two ends.
-/
namespace Cadence
open PastTime
variable {Event : Type}

def tally (f : Moment Event) [∀ past e, Decidable (f past e)] : List Event → Nat
  | [] => 0
  | e :: past => tally f past + if f past e then 1 else 0

def number (kind : Event → Prop) [DecidablePred kind] : List Event → Nat :=
  tally fun _ e => kind e

section Tally
variable {f : Moment Event} [∀ past e, Decidable (f past e)]

theorem tally_hit {past : List Event} {e : Event} (hit : f past e) :
    tally f (e :: past) = tally f past + 1 := by
  rw [tally, if_pos hit]

theorem tally_miss {past : List Event} {e : Event} (miss : ¬ f past e) :
    tally f (e :: past) = tally f past := by
  rw [tally, if_neg miss, Nat.add_zero]

theorem tally_or_le {g h : Moment Event} [∀ past e, Decidable (g past e)]
    [∀ past e, Decidable (h past e)] (either : ∀ past e, f past e → g past e ∨ h past e)
    (run : List Event) : tally f run ≤ tally g run + tally h run := by
  induction run with
  | nil => exact Nat.le_refl 0
  | cons e past ih =>
    by_cases here : f past e
    · rw [tally_hit here]
      rcases either past e here with first | second
      · rw [tally_hit first, tally]
        omega
      · rw [tally_hit second, tally]
        omega
    · rw [tally_miss here, tally, tally]
      omega

theorem exists_of_tally_lt {newer older : List Event}
    (more : tally f older < tally f (newer ++ older)) :
    ∃ mid e tail, newer = mid ++ e :: tail ∧ f (tail ++ older) e := by
  induction newer with
  | nil => exact absurd more (Nat.lt_irrefl _)
  | cons e newer ih =>
    by_cases here : f (newer ++ older) e
    · exact ⟨[], e, newer, rfl, here⟩
    · rw [List.cons_append, tally_miss here] at more
      obtain ⟨mid, b, tail, split, found⟩ := ih more
      exact ⟨e :: mid, b, tail, by rw [split]; rfl, found⟩

end Tally

section Number
variable {kind : Event → Prop} [DecidablePred kind]

theorem number_kind {past : List Event} {e : Event} (counted : kind e) :
    number kind (e :: past) = number kind past + 1 := tally_hit counted

theorem number_other {past : List Event} {e : Event} (other : ¬ kind e) :
    number kind (e :: past) = number kind past := tally_miss other

theorem number_append (newer older : List Event) :
    number kind (newer ++ older) = number kind newer + number kind older := by
  induction newer with
  | nil => exact (Nat.zero_add _).symm
  | cons e newer ih =>
    by_cases counted : kind e
    · rw [List.cons_append, number_kind counted, number_kind counted, ih, Nat.add_right_comm]
    · rw [List.cons_append, number_other counted, number_other counted, ih]

theorem split_at_number {run : List Event} {k : Nat} (reached : k ≤ number kind run) :
    ∃ newer older, run = newer ++ older ∧ number kind older = k := by
  induction run with
  | nil => exact ⟨[], [], rfl, (Nat.le_zero.mp reached).symm⟩
  | cons e past ih =>
    by_cases whole : number kind (e :: past) = k
    · exact ⟨[], e :: past, rfl, whole⟩
    · have before : k ≤ number kind past := by
        by_cases counted : kind e
        · rw [number_kind counted] at reached whole
          omega
        · rwa [number_other counted] at reached
      obtain ⟨newer, older, split, numbered⟩ := ih before
      exact ⟨e :: newer, older, by rw [split]; rfl, numbered⟩

end Number

section Beats
variable (kind : Event → Prop) [DecidablePred kind] (hit : Moment Event)
  [∀ past e, Decidable (hit past e)] (first period : Nat)

/-- Hit at the events of the kind whose number is a multiple of the period, from `first` on. -/
def Beats : Moment Event := fun past e =>
  hit past e ↔ kind e ∧ first ≤ number kind past + 1 ∧ period ∣ number kind past + 1

variable {kind hit first period} {newer older run : List Event}

/-- The tally of the hits is the number of multiples of the period from `first` on. -/
theorem tally_beats (late : 0 < first) (beats : Always (Beats kind hit first period) run) :
    tally hit run = number kind run / period - (first - 1) / period := by
  induction run with
  | nil => simp [tally, number]
  | cons e past ih =>
    obtain ⟨here, before⟩ := beats
    have earlier := ih before
    by_cases counted : kind e
    · rw [number_kind counted, Nat.succ_div]
      by_cases due : first ≤ number kind past + 1
      · have started : (first - 1) / period ≤ number kind past / period :=
          Nat.div_le_div_right (by omega)
        by_cases multiple : period ∣ number kind past + 1
        · rw [tally_hit (here.mpr ⟨counted, due, multiple⟩), if_pos multiple, earlier]
          omega
        · rw [tally_miss fun found => multiple (here.mp found).2.2, if_neg multiple, earlier,
            Nat.add_zero]
      · have quiet : (number kind past + 1) / period ≤ (first - 1) / period :=
          Nat.div_le_div_right (by omega)
        rw [Nat.succ_div] at quiet
        rw [tally_miss fun found => due (here.mp found).2.1, earlier]
        omega
    · rw [tally_miss fun found => counted (here.mp found).1, earlier, number_other counted]

theorem one_in_window (late : 0 < first) (positive : 0 < period)
    (beats : Always (Beats kind hit first period) (newer ++ older))
    (started : first ≤ number kind older + 1) (window : number kind newer = period) :
    tally hit (newer ++ older) = tally hit older + 1 := by
  have whole := tally_beats late beats
  have before := tally_beats late (always_suffix beats)
  have least : (first - 1) / period ≤ number kind older / period :=
    Nat.div_le_div_right (by omega)
  rw [number_append, window, Nat.add_div_left _ positive] at whole
  omega

theorem first_hit (late : 0 < first) (positive : 0 < period)
    (beats : Always (Beats kind hit first period) run)
    (reached : first - 1 + period ≤ number kind run) :
    ∃ newer e older, run = newer ++ e :: older ∧ hit older e ∧
      number kind older + 1 ≤ first - 1 + period := by
  obtain ⟨rest, window, split, at_end⟩ := split_at_number reached
  have enough : first - 1 ≤ number kind window := by omega
  obtain ⟨middle, start, parted, at_start⟩ := split_at_number enough
  subst split parted
  have within := always_suffix beats
  rw [number_append] at at_end
  have once := one_in_window late positive within (by omega) (by omega)
  obtain ⟨mid, e, tail, here, found⟩ := exists_of_tally_lt (Nat.lt_of_lt_of_eq
    (Nat.lt_succ_self _) once.symm)
  subst here
  refine ⟨rest ++ mid, e, tail ++ start, by simp, found, ?_⟩
  have law : Beats kind hit first period (tail ++ start) e := by
    rw [List.append_assoc] at within
    exact (always_suffix within).1
  have counted : kind e := (law.mp found).1
  rw [number_append mid, number_kind counted] at at_end
  rw [number_append]
  omega

theorem hits_apart (late : 0 < first) (positive : 0 < period) {mid : List Event} {a b : Event}
    (beats : Always (Beats kind hit first period) (b :: (mid ++ a :: older)))
    (earlier : hit older a) (later : hit (mid ++ a :: older) b)
    (none_between : tally hit (mid ++ a :: older) = tally hit (a :: older)) :
    number kind (b :: mid) = period := by
  have parted : Always (Beats kind hit first period) ((b :: mid) ++ a :: older) := beats
  have since : Always (Beats kind hit first period) (a :: older) := always_suffix parted
  have law_a := since.1
  have law_b := beats.1
  obtain ⟨kind_a, first_a, i, at_i⟩ := law_a.mp earlier
  obtain ⟨kind_b, _, j, at_j⟩ := law_b.mp later
  have tally_b := tally_beats late beats
  have tally_a := tally_beats late since
  have least : (first - 1) / period ≤ (number kind older + 1) / period :=
    Nat.div_le_div_right (by omega)
  rw [tally_hit later, none_between, tally_a, number_kind kind_b, number_kind kind_a, at_j, at_i,
    Nat.mul_div_cancel_left _ positive, Nat.mul_div_cancel_left _ positive] at tally_b
  rw [at_i, Nat.mul_div_cancel_left _ positive] at least
  have next : j = i + 1 := by omega
  rw [number_append, number_kind kind_a, at_i, next, Nat.mul_succ] at at_j
  rw [number_kind kind_b]
  omega

end Beats
end Cadence
