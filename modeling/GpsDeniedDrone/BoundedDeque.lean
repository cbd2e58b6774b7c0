import Mathlib.Data.List.DropRight
import GpsDeniedDrone.PastTime

/-!
A queue of bounded length that drops its oldest item to take a new one in, and what
it holds in terms of the whole sequence fed to it since it was last emptied. With it
the sequence a run feeds, item by item, with restarts.
-/
namespace BoundedDeque
open PastTime
variable {α Event : Type} {maxlen : Nat}

structure Deque (α : Type) (maxlen : Nat) where
  items : List α
  bounded : items.length ≤ maxlen

def Deque.clear : Deque α maxlen := ⟨[], Nat.zero_le maxlen⟩

theorem rtake_length (n : Nat) (l : List α) : (l.rtake n).length = min l.length n := by
  simp only [List.rtake, List.length_drop]
  omega

def Deque.append (d : Deque α maxlen) (a : α) : Deque α maxlen :=
  ⟨(d.items ++ [a]).rtake maxlen, by
    rw [rtake_length]
    exact Nat.min_le_right _ _⟩

/-- The deque has been fed `all` since it was last empty. -/
def Deque.Fed (d : Deque α maxlen) (all : List α) : Prop := d.items = all.rtake maxlen

theorem fed_clear : (Deque.clear : Deque α maxlen).Fed [] := by
  simp [Deque.Fed, Deque.clear]

theorem rtake_rtake_succ (n : Nat) (l : List α) : (l.rtake (n + 1)).rtake n = l.rtake n := by
  simp [List.rtake_eq_reverse_take_reverse, List.take_take]

theorem fed_append {d : Deque α maxlen} {all : List α} (fed : d.Fed all) (a : α) :
    (d.append a).Fed (all ++ [a]) := by
  simp only [Deque.Fed, Deque.append] at fed ⊢
  cases maxlen with
  | zero => simp
  | succ n =>
    rw [fed, List.rtake_concat_succ, List.rtake_concat_succ, rtake_rtake_succ]

theorem append_last (room : 0 < maxlen) (d : Deque α maxlen) (a : α) :
    (d.append a).items.getLast? = some a := by
  obtain ⟨n, rfl⟩ := Nat.exists_eq_add_one.mpr room
  simp only [Deque.append, List.rtake_concat_succ, List.getLast?_append, List.getLast?_singleton,
    Option.some_or]

/-- The sequence of the items of a run since its latest restart, oldest first. -/
def gathered (restart : Moment Event) [∀ past e, Decidable (restart past e)]
    (item : List Event → Event → List α) : List Event → List α
  | [] => []
  | e :: past => (if restart past e then [] else gathered restart item past) ++ item past e

def everGathered (item : List Event → Event → List α) : List Event → List α
  | [] => []
  | e :: past => everGathered item past ++ item past e

section Gathered
variable {restart : Moment Event} [∀ past e, Decidable (restart past e)]
  {item : List Event → Event → List α}

theorem gathered_never {run : List Event} (never : Always (fun past e => ¬ restart past e) run) :
    gathered restart item run = everGathered item run := by
  induction run with
  | nil => rfl
  | cons e past ih => simp only [gathered, everGathered, if_neg never.1, ih never.2]

/-- What has been gathered is what came after the latest restart, and nothing that
    came before it. -/
theorem gathered_after {newer older : List Event} {s : Event} (here : restart older s)
    (later : ∀ mid e tail, newer = mid ++ e :: tail → ¬ restart (tail ++ s :: older) e) :
    everGathered item (newer ++ s :: older) =
      everGathered item older ++ gathered restart item (newer ++ s :: older) := by
  induction newer with
  | nil => simp [gathered, everGathered, here]
  | cons e newer ih =>
    have quiet : ¬ restart (newer ++ s :: older) e := later [] e newer rfl
    have before := ih fun mid b tail split => later (e :: mid) b tail (by rw [split]; rfl)
    simp only [List.cons_append, gathered, everGathered, if_neg quiet, before,
      List.append_assoc]

end Gathered
end BoundedDeque
