import Mathlib.Algebra.Quaternion
import Mathlib.Tactic.Linarith

/-!
Rotation of a vector by a quaternion as the sandwich `q * v * star q`, over any
commutative ring. Half turns are the quaternions whose square is -1; conjugating
both sides of an attitude by half turns is a change of frame.
-/
namespace QuaternionRotation
variable {R : Type} [CommRing R]

def sandwich (q v : Quaternion R) : Quaternion R := q * v * star q

theorem sandwich_mul (a b v : Quaternion R) :
    sandwich (a * b) v = sandwich a (sandwich b v) := by
  simp only [sandwich, star_mul, mul_assoc]

theorem sandwich_half_turn {f : Quaternion R} (half : f * f = -1) (v : Quaternion R) :
    sandwich f (sandwich f v) = v := by
  rw [← sandwich_mul, half]
  simp [sandwich]

/-- Relabelling the body by `f` and the world by `n` carries an attitude `q` to
    `n * q * f`: the relabelled attitude acts on relabelled body vectors as the old
    one acts on the old ones. -/
theorem sandwich_relabel {f : Quaternion R} (half : f * f = -1) (n q v : Quaternion R) :
    sandwich (n * q * f) (sandwich f v) = sandwich n (sandwich q v) := by
  rw [sandwich_mul, sandwich_mul, sandwich_half_turn half]

theorem sandwich_add (q v w : Quaternion R) :
    sandwich q (v + w) = sandwich q v + sandwich q w := by
  simp only [sandwich, mul_add, add_mul]

/-- A unit quaternion acts by an algebra automorphism: products are carried to
    products and the scalars stay where they are. -/
theorem sandwich_product {q : Quaternion R} (unit : Quaternion.normSq q = 1)
    (v w : Quaternion R) : sandwich q v * sandwich q w = sandwich q (v * w) := by
  have inverse : star q * q = 1 := by
    rw [Quaternion.star_mul_self, unit, Quaternion.coe_one]
  calc q * v * star q * (q * w * star q)
      = q * v * (star q * q) * (w * star q) := by simp only [mul_assoc]
    _ = q * (v * w) * star q := by
        rw [inverse, mul_one]
        simp only [mul_assoc]

theorem sandwich_scalar {q : Quaternion R} (unit : Quaternion.normSq q = 1) (r : R) :
    sandwich q (r : Quaternion R) = (r : Quaternion R) := by
  have inverse : q * star q = 1 := by
    rw [Quaternion.self_mul_star, unit, Quaternion.coe_one]
  rw [sandwich, ← Quaternion.coe_commutes, mul_assoc, inverse, mul_one]

theorem sandwich_imI (d v : Quaternion R) : (sandwich d v).imI =
    (d.re ^ 2 + d.imI ^ 2 - d.imJ ^ 2 - d.imK ^ 2) * v.imI +
      2 * (d.imI * d.imJ - d.re * d.imK) * v.imJ + 2 * (d.imI * d.imK + d.re * d.imJ) * v.imK := by
  simp [sandwich]
  ring

theorem sandwich_imJ (d v : Quaternion R) : (sandwich d v).imJ =
    2 * (d.imI * d.imJ + d.re * d.imK) * v.imI +
      (d.re ^ 2 - d.imI ^ 2 + d.imJ ^ 2 - d.imK ^ 2) * v.imJ +
      2 * (d.imJ * d.imK - d.re * d.imI) * v.imK := by
  simp [sandwich]
  ring

section Sign
variable [LinearOrder R] [IsStrictOrderedRing R]

theorem sum_sq_eq_zero {x y : R} (zero : x ^ 2 + y ^ 2 = 0) : x = 0 ∧ y = 0 := by
  obtain ⟨first, second⟩ := (add_eq_zero_iff_of_nonneg (sq_nonneg x) (sq_nonneg y)).mp zero
  exact ⟨(pow_eq_zero_iff two_ne_zero).mp first, (pow_eq_zero_iff two_ne_zero).mp second⟩

theorem eq_one_or_neg_one {d : Quaternion R} (unit : Quaternion.normSq d = 1)
    (fixes : ∀ v : Quaternion R, v.re = 0 → sandwich d v = v) : d = 1 ∨ d = -1 := by
  rw [Quaternion.normSq_def'] at unit
  have along := (sandwich_imI d _).symm.trans (congrArg (fun q => q.imI) (fixes ⟨0, 1, 0, 0⟩ rfl))
  have across := (sandwich_imJ d _).symm.trans (congrArg (fun q => q.imJ) (fixes ⟨0, 0, 1, 0⟩ rfl))
  dsimp only at along across
  obtain ⟨j, k⟩ : d.imJ = 0 ∧ d.imK = 0 := sum_sq_eq_zero (by linarith)
  obtain ⟨i, _⟩ : d.imI = 0 ∧ d.imK = 0 := sum_sq_eq_zero (by linarith)
  rw [i, j, k] at unit
  have square : d.re * d.re = 1 := by linarith
  rcases mul_self_eq_one_iff.mp square with one | other
  · exact Or.inl (Quaternion.ext_iff.mpr ⟨one, i, j, k⟩)
  · exact Or.inr (Quaternion.ext_iff.mpr ⟨other, i.trans neg_zero.symm, j.trans neg_zero.symm,
      k.trans neg_zero.symm⟩)

/-- A rotation determines its unit quaternion up to the sign. -/
theorem eq_or_neg_of_sandwich {a b : Quaternion R} (a_unit : Quaternion.normSq a = 1)
    (b_unit : Quaternion.normSq b = 1)
    (same : ∀ v : Quaternion R, v.re = 0 → sandwich a v = sandwich b v) : a = b ∨ a = -b := by
  have inverse : b * star b = 1 := by
    rw [Quaternion.self_mul_star, b_unit, Quaternion.coe_one]
  have inverse' : star b * b = 1 := by
    rw [Quaternion.star_mul_self, b_unit, Quaternion.coe_one]
  have unit : Quaternion.normSq (star b * a) = 1 := by
    rw [map_mul, Quaternion.normSq_star, a_unit, b_unit, one_mul]
  have back : b * (star b * a) = a := by rw [← mul_assoc, inverse, one_mul]
  have fixes : ∀ v : Quaternion R, v.re = 0 → sandwich (star b * a) v = v := by
    intro v pure
    rw [sandwich_mul, same v pure, ← sandwich_mul, inverse', sandwich, one_mul, star_one, mul_one]
  rcases eq_one_or_neg_one unit fixes with one | other
  · rw [one, mul_one] at back
    exact Or.inl back.symm
  · rw [other, mul_neg, mul_one] at back
    exact Or.inr back.symm

end Sign
end QuaternionRotation
