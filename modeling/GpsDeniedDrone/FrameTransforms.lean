import Mathlib.Tactic.LinearCombination
import GpsDeniedDrone.QuaternionRotation

/-!
frame_transforms.py: ENU/FLU (ROS) to NED/FRD (PX4). Vectors are relabelled axis by
axis, attitudes are Hamilton quaternions (w, x, y, z), body-to-world. Scalars are an
arbitrary commutative ring: no rounding is modelled.
-/
namespace FrameTransforms
open QuaternionRotation Quaternion

structure Vec3 (K : Type) where
  x : K
  y : K
  z : K
  deriving DecidableEq, Repr

structure Quat (K : Type) where
  w : K
  x : K
  y : K
  z : K
  deriving DecidableEq, Repr

theorem vec3_ext {K : Type} {v w : Vec3 K} (x : v.x = w.x) (y : v.y = w.y) (z : v.z = w.z) :
    v = w := by
  cases v; cases w
  simp_all

theorem quat_ext {K : Type} {a b : Quat K} (w : a.w = b.w) (x : a.x = b.x) (y : a.y = b.y)
    (z : a.z = b.z) : a = b := by
  cases a; cases b
  simp_all

variable {K : Type} [CommRing K]

/-- The module writes the component of `_NED_ENU_Q` as the literal 0.70710678. -/
def halfTurnLiteral {K : Type} [Field K] : K := 70710678 / 100000000

/-- `_NED_ENU_Q`, with the literal as an argument so that it can also be read as the
    real number it approximates. -/
def nedEnuQ (c : K) : Quat K := ⟨0, c, c, 0⟩

def frdFluQ : Quat K := ⟨0, 1, 0, 0⟩

def enuToNed (v : Vec3 K) : Vec3 K := ⟨v.y, v.x, -v.z⟩

def fluToFrd (v : Vec3 K) : Vec3 K := ⟨v.x, -v.y, -v.z⟩

def quatRotateVector (q : Quat K) (v : Vec3 K) : Vec3 K :=
  let uvx := q.y * v.z - q.z * v.y
  let uvy := q.z * v.x - q.x * v.z
  let uvz := q.x * v.y - q.y * v.x
  let uuvx := q.y * uvz - q.z * uvy
  let uuvy := q.z * uvx - q.x * uvz
  let uuvz := q.x * uvy - q.y * uvx
  ⟨v.x + 2 * (q.w * uvx + uuvx), v.y + 2 * (q.w * uvy + uuvy), v.z + 2 * (q.w * uvz + uuvz)⟩

def quatMul (a b : Quat K) : Quat K :=
  ⟨a.w * b.w - a.x * b.x - a.y * b.y - a.z * b.z,
   a.w * b.x + a.x * b.w + a.y * b.z - a.z * b.y,
   a.w * b.y - a.x * b.z + a.y * b.w + a.z * b.x,
   a.w * b.z + a.x * b.y - a.y * b.x + a.z * b.w⟩

def fluEnuToFrdNedQuaternion (c : K) (q : Quat K) : Quat K :=
  quatMul (quatMul (nedEnuQ c) q) frdFluQ

instance : Add (Vec3 K) := ⟨fun v w => ⟨v.x + w.x, v.y + w.y, v.z + w.z⟩⟩

@[simp] theorem vec3_add_x (v w : Vec3 K) : (v + w).x = v.x + w.x := rfl
@[simp] theorem vec3_add_y (v w : Vec3 K) : (v + w).y = v.y + w.y := rfl
@[simp] theorem vec3_add_z (v w : Vec3 K) : (v + w).z = v.z + w.z := rfl

def Quat.normSq (q : Quat K) : K := q.w ^ 2 + q.x ^ 2 + q.y ^ 2 + q.z ^ 2

/-- The attitudes `quat_rotate_vector` is meant for: "q is assumed unit-norm so conj
    == inverse". -/
abbrev UnitQuat (K : Type) [CommRing K] := { q : Quat K // q.normSq = 1 }

def Vec3.dot (v w : Vec3 K) : K := v.x * w.x + v.y * w.y + v.z * w.z

/- The tuples of the source as Mathlib's quaternions. -/
def Quat.toQuaternion (q : Quat K) : Quaternion K := ⟨q.w, q.x, q.y, q.z⟩

def Vec3.toQuaternion (v : Vec3 K) : Quaternion K := ⟨0, v.x, v.y, v.z⟩

@[simp] theorem quat_re (q : Quat K) : q.toQuaternion.re = q.w := rfl
@[simp] theorem quat_imI (q : Quat K) : q.toQuaternion.imI = q.x := rfl
@[simp] theorem quat_imJ (q : Quat K) : q.toQuaternion.imJ = q.y := rfl
@[simp] theorem quat_imK (q : Quat K) : q.toQuaternion.imK = q.z := rfl
@[simp] theorem vec3_re (v : Vec3 K) : v.toQuaternion.re = 0 := rfl
@[simp] theorem vec3_imI (v : Vec3 K) : v.toQuaternion.imI = v.x := rfl
@[simp] theorem vec3_imJ (v : Vec3 K) : v.toQuaternion.imJ = v.y := rfl
@[simp] theorem vec3_imK (v : Vec3 K) : v.toQuaternion.imK = v.z := rfl

theorem vec3_toQuaternion_injective {v w : Vec3 K}
    (same : v.toQuaternion = w.toQuaternion) : v = w := by
  have parts := Quaternion.ext_iff.mp same
  exact vec3_ext parts.2.1 parts.2.2.1 parts.2.2.2

theorem quatMul_toQuaternion (a b : Quat K) :
    (quatMul a b).toQuaternion = a.toQuaternion * b.toQuaternion := by
  ext <;> simp [quatMul]

theorem normSq_toQuaternion (q : Quat K) :
    Quaternion.normSq q.toQuaternion = q.normSq := by
  simp [Quaternion.normSq_def', Quat.normSq]

theorem normSq_quatMul (a b : Quat K) : (quatMul a b).normSq = a.normSq * b.normSq := by
  rw [← normSq_toQuaternion, quatMul_toQuaternion, map_mul, normSq_toQuaternion,
    normSq_toQuaternion]

/-- The hand-expanded double cross product is the sandwich product, for unit
    quaternions only: its linear term is `v`, not `|q|² v`. -/
theorem quatRotateVector_toQuaternion {q : Quat K} (unit : q.normSq = 1) (v : Vec3 K) :
    (quatRotateVector q v).toQuaternion = sandwich q.toQuaternion v.toQuaternion := by
  simp only [Quat.normSq] at unit
  ext
  · simp [sandwich, quatRotateVector]
    ring
  · simp [sandwich, quatRotateVector]
    linear_combination -v.x * unit
  · simp [sandwich, quatRotateVector]
    linear_combination -v.y * unit
  · simp [sandwich, quatRotateVector]
    linear_combination -v.z * unit

/-- The axis swap is the half turn about north-east, if `c` really is 1/√2. -/
theorem enuToNed_toQuaternion {c : K} (half : 2 * c ^ 2 = 1) (v : Vec3 K) :
    (enuToNed v).toQuaternion = sandwich (nedEnuQ c).toQuaternion v.toQuaternion := by
  ext
  · simp [sandwich, enuToNed, nedEnuQ]
  · simp [sandwich, enuToNed, nedEnuQ]
    linear_combination -v.y * half
  · simp [sandwich, enuToNed, nedEnuQ]
    linear_combination -v.x * half
  · simp [sandwich, enuToNed, nedEnuQ]
    linear_combination v.z * half

theorem fluToFrd_toQuaternion (v : Vec3 K) :
    (fluToFrd v).toQuaternion = sandwich (frdFluQ : Quat K).toQuaternion v.toQuaternion := by
  ext <;> simp [sandwich, fluToFrd, frdFluQ]

theorem frdFluQ_half_turn :
    (frdFluQ : Quat K).toQuaternion * (frdFluQ : Quat K).toQuaternion = -1 := by
  ext <;> simp [frdFluQ]

theorem enuToNed_add (v w : Vec3 K) : enuToNed (v + w) = enuToNed v + enuToNed w := by
  refine vec3_ext rfl rfl ?_
  simp only [enuToNed, vec3_add_z]
  ring

theorem normSq_fluEnuToFrdNedQuaternion (c : K) (q : Quat K) :
    (fluEnuToFrdNedQuaternion c q).normSq = 2 * c ^ 2 * q.normSq := by
  rw [fluEnuToFrdNedQuaternion, normSq_quatMul, normSq_quatMul]
  simp only [nedEnuQ, frdFluQ, Quat.normSq]
  ring

theorem fluEnuToFrdNedQuaternion_unit {c : K} (half : 2 * c ^ 2 = 1) (q : UnitQuat K) :
    (fluEnuToFrdNedQuaternion c q.1).normSq = 1 := by
  rw [normSq_fluEnuToFrdNedQuaternion, half, q.2, one_mul]

/-- Rotating and then relabelling the world axes is relabelling the body axes and then
    rotating by the converted attitude. -/
theorem enuToNed_rotate {c : K} (half : 2 * c ^ 2 = 1) (q : UnitQuat K) (b : Vec3 K) :
    enuToNed (quatRotateVector q.1 b) =
      quatRotateVector (fluEnuToFrdNedQuaternion c q.1) (fluToFrd b) := by
  have unit := fluEnuToFrdNedQuaternion_unit half q
  apply vec3_toQuaternion_injective
  calc (enuToNed (quatRotateVector q.1 b)).toQuaternion
      = sandwich (nedEnuQ c).toQuaternion
          (sandwich q.1.toQuaternion b.toQuaternion) := by
        rw [enuToNed_toQuaternion half, quatRotateVector_toQuaternion q.2]
    _ = sandwich ((nedEnuQ c).toQuaternion * q.1.toQuaternion * frdFluQ.toQuaternion)
          (sandwich frdFluQ.toQuaternion b.toQuaternion) :=
        (sandwich_relabel frdFluQ_half_turn _ _ _).symm
    _ = (quatRotateVector (fluEnuToFrdNedQuaternion c q.1) (fluToFrd b)).toQuaternion := by
        rw [quatRotateVector_toQuaternion unit, fluToFrd_toQuaternion,
          fluEnuToFrdNedQuaternion, quatMul_toQuaternion, quatMul_toQuaternion]

theorem quatRotateVector_dot {q : Quat K} (unit : q.normSq = 1) (v w : Vec3 K) :
    (quatRotateVector q v).dot (quatRotateVector q w) = v.dot w := by
  simp only [Quat.normSq] at unit
  simp only [quatRotateVector, Vec3.dot]
  linear_combination
    4 * ((q.y * v.z - q.z * v.y) * (q.y * w.z - q.z * w.y)
      + (q.z * v.x - q.x * v.z) * (q.z * w.x - q.x * w.z)
      + (q.x * v.y - q.y * v.x) * (q.x * w.y - q.y * w.x)) * unit

end FrameTransforms
