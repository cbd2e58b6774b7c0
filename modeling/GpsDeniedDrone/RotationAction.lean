import Mathlib.Analysis.Real.Sqrt
import GpsDeniedDrone.FrameTransforms

/-!
`quat_rotate_vector` as an action of the unit quaternions on vectors: it is the sandwich
product written with `_quat_mul` alone, it keeps lengths, angles and handedness, and it
composes as `_quat_mul` does.
-/
namespace FrameTransforms
open QuaternionRotation Quaternion

variable {K : Type} [CommRing K]

def Quat.conj (q : Quat K) : Quat K := ⟨q.w, -q.x, -q.y, -q.z⟩

def Vec3.cross (v w : Vec3 K) : Vec3 K :=
  ⟨v.y * w.z - v.z * w.y, v.z * w.x - v.x * w.z, v.x * w.y - v.y * w.x⟩

/- The vector as the quaternion `(0, v)` that the comment in the source multiplies by. -/
def Vec3.pure (v : Vec3 K) : Quat K := ⟨0, v.x, v.y, v.z⟩

instance : Neg (Quat K) := ⟨fun q => ⟨-q.w, -q.x, -q.y, -q.z⟩⟩

noncomputable def Quat.norm (q : Quat ℝ) : ℝ := Real.sqrt q.normSq

theorem toQuaternion_injective {a b : Quat K} (same : a.toQuaternion = b.toQuaternion) :
    a = b := by
  have parts := Quaternion.ext_iff.mp same
  exact quat_ext parts.1 parts.2.1 parts.2.2.1 parts.2.2.2

theorem conj_toQuaternion (q : Quat K) : q.conj.toQuaternion = star q.toQuaternion := by
  ext <;> simp [Quat.conj]

theorem pure_toQuaternion (v : Vec3 K) : v.pure.toQuaternion = v.toQuaternion := rfl

theorem unit_toQuaternion (q : UnitQuat K) : Quaternion.normSq q.1.toQuaternion = 1 := by
  rw [normSq_toQuaternion, q.2]

/-- The product of two vectors holds both of theirs: minus the dot product as its
    scalar and the cross product as its vector. -/
theorem cross_toQuaternion (v w : Vec3 K) :
    (v.cross w).toQuaternion = v.toQuaternion * w.toQuaternion + (v.dot w : Quaternion K) := by
  ext
  · simp [Vec3.cross, Vec3.dot]
  · simp [Vec3.cross]
  · simp [Vec3.cross]
    ring
  · simp [Vec3.cross]

theorem quatRotateVector_sandwich (q : UnitQuat K) (v : Vec3 K) :
    quatMul (quatMul q.1 v.pure) q.1.conj = (quatRotateVector q.1 v).pure := by
  apply toQuaternion_injective
  rw [quatMul_toQuaternion, quatMul_toQuaternion, conj_toQuaternion, pure_toQuaternion,
    pure_toQuaternion, quatRotateVector_toQuaternion q.2, sandwich]

theorem quatRotateVector_cross (q : UnitQuat K) (v w : Vec3 K) :
    (quatRotateVector q.1 v).cross (quatRotateVector q.1 w) =
      quatRotateVector q.1 (v.cross w) := by
  have unit := unit_toQuaternion q
  apply vec3_toQuaternion_injective
  calc ((quatRotateVector q.1 v).cross (quatRotateVector q.1 w)).toQuaternion
      = sandwich q.1.toQuaternion v.toQuaternion * sandwich q.1.toQuaternion w.toQuaternion
          + (v.dot w : Quaternion K) := by
        rw [cross_toQuaternion, quatRotateVector_dot q.2, quatRotateVector_toQuaternion q.2,
          quatRotateVector_toQuaternion q.2]
    _ = sandwich q.1.toQuaternion
          (v.toQuaternion * w.toQuaternion + (v.dot w : Quaternion K)) := by
        rw [sandwich_product unit, sandwich_add, sandwich_scalar unit]
    _ = (quatRotateVector q.1 (v.cross w)).toQuaternion := by
        rw [quatRotateVector_toQuaternion q.2, cross_toQuaternion]

theorem normSq_product_unit (a b : UnitQuat K) : (quatMul a.1 b.1).normSq = 1 := by
  rw [normSq_quatMul, a.2, b.2, one_mul]

theorem quatRotateVector_quatMul (a b : UnitQuat K) (v : Vec3 K) :
    quatRotateVector (quatMul a.1 b.1) v = quatRotateVector a.1 (quatRotateVector b.1 v) := by
  apply vec3_toQuaternion_injective
  rw [quatRotateVector_toQuaternion (normSq_product_unit a b),
    quatRotateVector_toQuaternion a.2, quatRotateVector_toQuaternion b.2,
    quatMul_toQuaternion, sandwich_mul]

theorem quatRotateVector_neg (q : Quat K) (v : Vec3 K) :
    quatRotateVector (-q) v = quatRotateVector q v := by
  change quatRotateVector ⟨-q.w, -q.x, -q.y, -q.z⟩ v = quatRotateVector q v
  apply vec3_ext
  · simp only [quatRotateVector]
    ring
  · simp only [quatRotateVector]
    ring
  · simp only [quatRotateVector]
    ring

theorem quatMul_assoc (a b c : Quat K) :
    quatMul (quatMul a b) c = quatMul a (quatMul b c) := by
  apply toQuaternion_injective
  simp only [quatMul_toQuaternion, mul_assoc]

theorem normSq_nonneg (q : Quat ℝ) : 0 ≤ q.normSq := by
  simp only [Quat.normSq]
  positivity

theorem norm_quatMul (a b : Quat ℝ) : (quatMul a b).norm = a.norm * b.norm := by
  rw [Quat.norm, normSq_quatMul, Real.sqrt_mul (normSq_nonneg a), Quat.norm, Quat.norm]

/-- The laws of a proper rotation action, each with the side condition it needs: the
    composition law asks both factors to be unit, the sign law and the laws of
    `_quat_mul` ask nothing. -/
theorem quatRotateVector_proper_action :
    (∀ (q : UnitQuat K) (v : Vec3 K),
      quatMul (quatMul q.1 v.pure) q.1.conj = (quatRotateVector q.1 v).pure) ∧
    (∀ (q : UnitQuat K) (v w : Vec3 K),
      (quatRotateVector q.1 v).dot (quatRotateVector q.1 w) = v.dot w ∧
      (quatRotateVector q.1 v).cross (quatRotateVector q.1 w) =
        quatRotateVector q.1 (v.cross w)) ∧
    (∀ (a b : UnitQuat K) (v : Vec3 K),
      quatRotateVector (quatMul a.1 b.1) v =
        quatRotateVector a.1 (quatRotateVector b.1 v)) ∧
    (∀ (q : Quat K) (v : Vec3 K), quatRotateVector (-q) v = quatRotateVector q v) ∧
    (∀ a b c : Quat K, quatMul (quatMul a b) c = quatMul a (quatMul b c)) ∧
    (∀ a b : Quat K, (quatMul a b).normSq = a.normSq * b.normSq) ∧
    (∀ a b : Quat ℝ, (quatMul a b).norm = a.norm * b.norm) :=
  ⟨quatRotateVector_sandwich,
    fun q v w => ⟨quatRotateVector_dot q.2 v w, quatRotateVector_cross q v w⟩,
    quatRotateVector_quatMul, quatRotateVector_neg, quatMul_assoc, normSq_quatMul,
    norm_quatMul⟩

end FrameTransforms
