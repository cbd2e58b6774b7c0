import Mathlib.Algebra.Order.Group.Abs
import Mathlib.Data.Set.Prod
import Mathlib.Order.UpperLower.Closure

/-!
Bounding boxes of sets of points in the plane, and boxes grown by a margin on every
side. Coordinates are elements of a linear order, of an ordered group where there is a
margin.
-/
namespace BoundingBox

section Order
variable {α : Type} [LinearOrder α] {s t : Set α} {x : α}

def hull (s : Set α) : Set α := ↑(upperClosure s) ∩ ↑(lowerClosure s)

theorem subset_hull : s ⊆ hull s := fun x mem => ⟨⟨x, mem, le_refl x⟩, ⟨x, mem, le_refl x⟩⟩

theorem hull_least (within : s ⊆ t) (interval : t.OrdConnected) : hull s ⊆ t := by
  intro x between
  obtain ⟨⟨a, mem_a, le_a⟩, ⟨b, mem_b, le_b⟩⟩ := between
  exact interval.out (within mem_a) (within mem_b) ⟨le_a, le_b⟩

def box (s : Set (α × α)) : Set (α × α) := hull (Prod.fst '' s) ×ˢ hull (Prod.snd '' s)

theorem subset_box (s : Set (α × α)) : s ⊆ box s := fun q mem =>
  ⟨subset_hull ⟨q, mem, rfl⟩, subset_hull ⟨q, mem, rfl⟩⟩

theorem box_least {s : Set (α × α)} {i j : Set α} (within : s ⊆ i ×ˢ j) (left : i.OrdConnected)
    (right : j.OrdConnected) : box s ⊆ i ×ˢ j := by
  have first : Prod.fst '' s ⊆ i := by
    intro x mem
    obtain ⟨q, mem, rfl⟩ := mem
    exact (within mem).1
  have second : Prod.snd '' s ⊆ j := by
    intro y mem
    obtain ⟨q, mem, rfl⟩ := mem
    exact (within mem).2
  exact Set.prod_mono (hull_least first left) (hull_least second right)

end Order

section Margin
variable {α : Type} [AddCommGroup α] [LinearOrder α] [IsOrderedAddMonoid α] {s : Set α}
  {m x : α}

def widened (m : α) (s : Set α) : Set α := {x | ∃ a ∈ s, |x - a| ≤ m}

/-- The points no further than `m` from the set in either coordinate. -/
def grown (m : α) (s : Set (α × α)) : Set (α × α) :=
  {q | ∃ a ∈ s, |q.1 - a.1| ≤ m ∧ |q.2 - a.2| ≤ m}

omit [IsOrderedAddMonoid α] in
theorem grown_prod (m : α) (s t : Set α) : grown m (s ×ˢ t) = widened m s ×ˢ widened m t := by
  ext q
  constructor
  · intro near
    obtain ⟨a, mem, first, second⟩ := near
    exact ⟨⟨a.1, mem.1, first⟩, ⟨a.2, mem.2, second⟩⟩
  · intro near
    obtain ⟨⟨a, mem_a, first⟩, ⟨b, mem_b, second⟩⟩ := near
    exact ⟨(a, b), ⟨mem_a, mem_b⟩, first, second⟩

theorem near_below {a : α} (nonneg : 0 ≤ m) (le : x ≤ a) (within : a ≤ x + m) :
    |x - a| ≤ m :=
  abs_sub_le_iff.mpr ⟨(sub_nonpos.mpr le).trans nonneg, sub_le_iff_le_add'.mpr within⟩

theorem near_above {b : α} (nonneg : 0 ≤ m) (le : b ≤ x) (within : x - m ≤ b) :
    |x - b| ≤ m :=
  abs_sub_le_iff.mpr ⟨sub_le_comm.mp within, (sub_nonpos.mpr le).trans nonneg⟩

theorem mem_widened_hull (nonneg : 0 ≤ m) :
    x ∈ widened m (hull s) ↔ (∃ a ∈ s, a ≤ x + m) ∧ ∃ b ∈ s, x - m ≤ b := by
  constructor
  · intro near
    obtain ⟨c, ⟨⟨a, mem_a, le_a⟩, ⟨b, mem_b, le_b⟩⟩, dist⟩ := near
    obtain ⟨above, below⟩ := abs_sub_le_iff.mp dist
    exact ⟨⟨a, mem_a, le_a.trans (sub_le_iff_le_add'.mp below)⟩,
      ⟨b, mem_b, (sub_le_comm.mp above).trans le_b⟩⟩
  · intro ends
    obtain ⟨⟨a, mem_a, le_a⟩, ⟨b, mem_b, le_b⟩⟩ := ends
    rcases le_total x a with left | left
    · exact ⟨a, subset_hull mem_a, near_below nonneg left le_a⟩
    · rcases le_total b x with right | right
      · exact ⟨b, subset_hull mem_b, near_above nonneg right le_b⟩
      · have between : x ∈ hull s := ⟨⟨a, mem_a, left⟩, ⟨b, mem_b, right⟩⟩
        exact ⟨x, between, near_below nonneg (le_refl x) (le_add_of_nonneg_right nonneg)⟩

end Margin
end BoundingBox
