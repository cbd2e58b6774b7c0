import Mathlib.LinearAlgebra.Matrix.NonsingularInverse
import Mathlib.Algebra.Order.BigOperators.Ring.Finset

/-!
Variances under an orthogonal change of axes. For uncorrelated components with
variances `c`, the components of the transformed vector have the variances
`diag (A * diagonal c * Aᵀ)`. They are again `c` exactly when the transformation
mixes only components of equal variance.
-/
namespace OrthogonalVariance
open Matrix
variable {n K : Type} [Fintype n] [DecidableEq n]

theorem transformed_variance [CommRing K] (A : Matrix n n K) (c : n → K) (i : n) :
    (A * diagonal c * Aᵀ) i i = ∑ j, A i j ^ 2 * c j := by
  rw [mul_apply]
  refine Finset.sum_congr rfl fun j _ => ?_
  rw [mul_diagonal, transpose_apply]
  ring

theorem row_squares [CommRing K] {A : Matrix n n K} (orth : A * Aᵀ = 1) (i : n) :
    ∑ j, A i j ^ 2 = 1 := by
  have entry := congrFun (congrFun orth i) i
  simpa [mul_apply, pow_two] using entry

theorem column_squares [CommRing K] {A : Matrix n n K} (orth : A * Aᵀ = 1) (j : n) :
    ∑ i, A i j ^ 2 = 1 := by
  have flipped : Aᵀ * A = 1 := mul_eq_one_comm.mp orth
  have entry := congrFun (congrFun flipped j) j
  simpa [mul_apply, pow_two] using entry

/-- Both rows and columns of squares sum to one, so the spread of `c` over the
    entries of `A` is twice the loss of variance. -/
theorem spread_eq_loss [CommRing K] {A : Matrix n n K} (orth : A * Aᵀ = 1) (c : n → K) :
    ∑ i, ∑ j, A i j ^ 2 * (c i - c j) ^ 2 =
      2 * ∑ i, c i * (c i - ∑ j, A i j ^ 2 * c j) := by
  have rows : ∑ i, ∑ j, A i j ^ 2 * c i ^ 2 = ∑ i, c i ^ 2 := by
    refine Finset.sum_congr rfl fun i _ => ?_
    rw [← Finset.sum_mul, row_squares orth, one_mul]
  have columns : ∑ i, ∑ j, A i j ^ 2 * c j ^ 2 = ∑ j, c j ^ 2 := by
    rw [Finset.sum_comm]
    refine Finset.sum_congr rfl fun j _ => ?_
    rw [← Finset.sum_mul, column_squares orth, one_mul]
  have cross : ∑ i, ∑ j, A i j ^ 2 * (c i * c j) = ∑ i, c i * ∑ j, A i j ^ 2 * c j := by
    refine Finset.sum_congr rfl fun i _ => ?_
    rw [Finset.mul_sum]
    exact Finset.sum_congr rfl fun j _ => by ring
  calc ∑ i, ∑ j, A i j ^ 2 * (c i - c j) ^ 2
      = ∑ i, ∑ j, (A i j ^ 2 * c i ^ 2 + A i j ^ 2 * c j ^ 2
          - 2 * (A i j ^ 2 * (c i * c j))) :=
        Finset.sum_congr rfl fun i _ => Finset.sum_congr rfl fun j _ => by ring
    _ = ∑ i, c i ^ 2 + ∑ j, c j ^ 2 - 2 * ∑ i, c i * ∑ j, A i j ^ 2 * c j := by
        simp only [Finset.sum_add_distrib, Finset.sum_sub_distrib, ← Finset.mul_sum,
          rows, columns, cross]
    _ = 2 * ∑ i, c i * (c i - ∑ j, A i j ^ 2 * c j) := by
        simp only [mul_sub, Finset.sum_sub_distrib, ← pow_two]
        ring

theorem variance_kept_iff [Field K] [LinearOrder K] [IsStrictOrderedRing K]
    {A : Matrix n n K} (orth : A * Aᵀ = 1) (c : n → K) :
    (∀ i, (A * diagonal c * Aᵀ) i i = c i) ↔ ∀ i j, A i j ≠ 0 → c i = c j := by
  simp only [transformed_variance]
  constructor
  · intro kept i j mixed
    have none_lost : ∑ i, ∑ j, A i j ^ 2 * (c i - c j) ^ 2 = 0 := by
      rw [spread_eq_loss orth]
      simp [kept]
    have nonneg : ∀ i j, 0 ≤ A i j ^ 2 * (c i - c j) ^ 2 := by
      intro i j
      positivity
    have row := (Finset.sum_eq_zero_iff_of_nonneg fun i _ =>
      Finset.sum_nonneg fun j _ => nonneg i j).mp none_lost i (Finset.mem_univ i)
    have entry := (Finset.sum_eq_zero_iff_of_nonneg fun j _ => nonneg i j).mp row j
      (Finset.mem_univ j)
    rcases mul_eq_zero.mp entry with zero | same
    · exact absurd (pow_eq_zero_iff two_ne_zero |>.mp zero) mixed
    · exact sub_eq_zero.mp (pow_eq_zero_iff two_ne_zero |>.mp same)
  · intro equal i
    calc ∑ j, A i j ^ 2 * c j = ∑ j, A i j ^ 2 * c i := by
          refine Finset.sum_congr rfl fun j _ => ?_
          by_cases zero : A i j = 0
          · simp [zero]
          · rw [equal i j zero]
      _ = c i := by rw [← Finset.sum_mul, row_squares orth, one_mul]

end OrthogonalVariance
