import Mathlib.Analysis.SpecialFunctions.Sqrt
import Mathlib.LinearAlgebra.Matrix.IsDiag
import GpsDeniedDrone.Messages
import GpsDeniedDrone.OrthogonalVariance

/-!
openvins_odometry_bridge.py: one OpenVINS odometry message in, one VehicleOdometry
message out. The mean goes through the frame conversion, the covariance does not.
-/
namespace OdometryBridge
open FrameTransforms Messages OrthogonalVariance Matrix

section Bridge
variable {K : Type} [CommRing K]

/-- `OpenvinsOdometryBridge._on_odometry`; `c` is the literal of `_NED_ENU_Q`. -/
def onOdometry (c : K) (now : Int) (msg : Odometry K) : VehicleOdometry K :=
  let p := msg.pose.pose.position
  let q := msg.pose.pose.orientation
  let v := msg.twist.twist.linear
  let w := msg.twist.twist.angular
  let pc := msg.pose.covariance
  let tc := msg.twist.covariance
  { timestamp := stamp now
    timestampSample := stamp now
    poseFrame := poseFrameFrd
    position := enuToNed p
    q := fluEnuToFrdNedQuaternion c q
    velocityFrame := velocityFrameFrd
    velocity := enuToNed (quatRotateVector q v)
    angularVelocity := fluToFrd w
    positionVariance := ⟨pc 0, pc 7, pc 14⟩
    orientationVariance := ⟨pc 21, pc 28, pc 35⟩
    velocityVariance := ⟨tc 0, tc 7, tc 14⟩
    resetCounter := 0
    quality := 0 }

end Bridge

/-- Reading the literal as 1/√2, the vector and the quaternion conversions describe
    one change of frame, and the published velocity agrees with the published attitude. -/
theorem frame_conversion_commutes :
    (∀ (q : UnitQuat ℝ) (p b : Vec3 ℝ),
      enuToNed (p + quatRotateVector q.1 b) =
          enuToNed p + quatRotateVector (fluEnuToFrdNedQuaternion (1 / √2) q.1) (fluToFrd b) ∧
        (fluEnuToFrdNedQuaternion (1 / √2) q.1).normSq = 1) ∧
    ∀ (now : Int) (msg : Odometry ℝ), msg.pose.pose.orientation.normSq = 1 →
      (onOdometry (1 / √2) now msg).velocity =
        quatRotateVector (onOdometry (1 / √2) now msg).q (fluToFrd msg.twist.twist.linear) := by
  have half : 2 * (1 / √2 : ℝ) ^ 2 = 1 := by
    rw [div_pow, Real.sq_sqrt zero_le_two]
    norm_num
  refine ⟨fun q p b => ⟨?_, fluEnuToFrdNedQuaternion_unit half q⟩, fun now msg unit => ?_⟩
  · rw [enuToNed_add, enuToNed_rotate half]
  · exact enuToNed_rotate half ⟨_, unit⟩ _

/- Yawed by 2 arctan (4/3), moving and turning. -/
theorem frame_conversion_commutes_yawed :
    (onOdometry (1 / √2) 0
        ⟨⟨⟨⟨1, 2, 3⟩, ⟨3 / 5, 0, 0, 4 / 5⟩⟩, 0⟩, ⟨⟨⟨4, 5, 6⟩, ⟨0, 0, 1⟩⟩, 0⟩⟩).velocity =
      quatRotateVector (fluEnuToFrdNedQuaternion (1 / √2) ⟨3 / 5, 0, 0, 4 / 5⟩)
        (fluToFrd (⟨4, 5, 6⟩ : Vec3 ℝ)) :=
  frame_conversion_commutes.2 0
    ⟨⟨⟨⟨1, 2, 3⟩, ⟨3 / 5, 0, 0, 4 / 5⟩⟩, 0⟩, ⟨⟨⟨4, 5, 6⟩, ⟨0, 0, 1⟩⟩, 0⟩⟩
    (by norm_num [Quat.normSq])

section Covariance
variable {K : Type} [Field K]

def toFun (v : Vec3 K) : Fin 3 → K := ![v.x, v.y, v.z]

def axis (j : Fin 3) : Vec3 K :=
  ⟨if j = 0 then 1 else 0, if j = 1 then 1 else 0, if j = 2 then 1 else 0⟩

/-- The matrix of a linear map on vectors: column `j` is the image of axis `j`. -/
def matrixOf (f : Vec3 K → Vec3 K) : Matrix (Fin 3) (Fin 3) K :=
  fun i j => toFun (f (axis j)) i

def enuToNedMatrix : Matrix (Fin 3) (Fin 3) K := matrixOf enuToNed

def rotationMatrix (q : Quat K) : Matrix (Fin 3) (Fin 3) K := matrixOf (quatRotateVector q)

def velocityMatrix (q : Quat K) : Matrix (Fin 3) (Fin 3) K := enuToNedMatrix * rotationMatrix q

def linearBlock (covariance : Fin 36 → K) : Matrix (Fin 3) (Fin 3) K :=
  fun i j => covariance ⟨6 * i.val + j.val, by omega⟩

/-- Entry `i` of both published variances is the variance of published component `i`. -/
def CovarianceOfPublished (msg : Odometry K) (out : VehicleOdometry K) : Prop :=
  let velocityMap := velocityMatrix msg.pose.pose.orientation
  toFun out.positionVariance =
      (enuToNedMatrix * linearBlock msg.pose.covariance * enuToNedMatrixᵀ).diag ∧
    toFun out.velocityVariance =
      (velocityMap * linearBlock msg.twist.covariance * velocityMapᵀ).diag

theorem enuToNedMatrix_apply (v : Vec3 K) :
    enuToNedMatrix *ᵥ toFun v = toFun (enuToNed v) := by
  funext i
  fin_cases i <;>
    simp [enuToNedMatrix, matrixOf, mulVec, dotProduct, toFun, axis, enuToNed]

theorem rotationMatrix_apply (q : Quat K) (v : Vec3 K) :
    rotationMatrix q *ᵥ toFun v = toFun (quatRotateVector q v) := by
  funext i
  fin_cases i <;>
    simp [rotationMatrix, matrixOf, mulVec, dotProduct, Fin.sum_univ_three, toFun, axis,
      quatRotateVector] <;>
    ring

/-- The matrix of the velocity part is the map the bridge applies to the body velocity. -/
theorem published_velocity_linear (c : K) (now : Int) (msg : Odometry K) :
    toFun (onOdometry c now msg).velocity =
      velocityMatrix msg.pose.pose.orientation *ᵥ toFun msg.twist.twist.linear := by
  rw [velocityMatrix, ← mulVec_mulVec, rotationMatrix_apply, enuToNedMatrix_apply]
  rfl

theorem enuToNedMatrix_orthogonal : (enuToNedMatrix : Matrix _ _ K) * enuToNedMatrixᵀ = 1 := by
  ext i j
  fin_cases i <;> fin_cases j <;>
    simp [enuToNedMatrix, matrixOf, mul_apply, toFun, axis, enuToNed]

theorem axis_dot (i j : Fin 3) : (axis i : Vec3 K).dot (axis j) = (1 : Matrix _ _ K) i j := by
  fin_cases i <;> fin_cases j <;> simp [axis, Vec3.dot]

theorem rotationMatrix_orthogonal {q : Quat K} (unit : q.normSq = 1) :
    rotationMatrix q * (rotationMatrix q)ᵀ = 1 := by
  have columns : (rotationMatrix q)ᵀ * rotationMatrix q = 1 := by
    ext i j
    calc ((rotationMatrix q)ᵀ * rotationMatrix q) i j
        = (quatRotateVector q (axis i)).dot (quatRotateVector q (axis j)) := by
          simp [rotationMatrix, matrixOf, mul_apply, Fin.sum_univ_three, toFun, Vec3.dot]
      _ = (1 : Matrix (Fin 3) (Fin 3) K) i j := by rw [quatRotateVector_dot unit, axis_dot]
  exact mul_eq_one_comm.mp columns

theorem velocityMatrix_orthogonal {q : Quat K} (unit : q.normSq = 1) :
    velocityMatrix q * (velocityMatrix q)ᵀ = 1 := by
  rw [velocityMatrix, transpose_mul, Matrix.mul_assoc, ← Matrix.mul_assoc (rotationMatrix q),
    rotationMatrix_orthogonal unit, Matrix.one_mul, enuToNedMatrix_orthogonal]

theorem enuToNedMatrix_mixes_iff (d : Fin 3 → K) :
    (∀ i j, (enuToNedMatrix : Matrix _ _ K) i j ≠ 0 → d i = d j) ↔ d 0 = d 1 := by
  constructor
  · intro equal
    exact equal 0 1 (by simp [enuToNedMatrix, matrixOf, toFun, axis, enuToNed])
  · intro same i j mixed
    fin_cases i <;> fin_cases j <;>
      simp_all [enuToNedMatrix, matrixOf, toFun, axis, enuToNed]

/-- The bridge passes the variances through by index, so it publishes those of the
    published vector exactly when the change of axes mixes only equal variances. -/
theorem covariance_of_published_iff [LinearOrder K] [IsStrictOrderedRing K] (c : K) (now : Int)
    (msg : Odometry K) (unit : msg.pose.pose.orientation.normSq = 1)
    (position_diagonal : (linearBlock msg.pose.covariance).IsDiag)
    (velocity_diagonal : (linearBlock msg.twist.covariance).IsDiag) :
    CovarianceOfPublished msg (onOdometry c now msg) ↔
      msg.pose.covariance 0 = msg.pose.covariance 7 ∧
        ∀ i j, velocityMatrix msg.pose.pose.orientation i j ≠ 0 →
          linearBlock msg.twist.covariance i i = linearBlock msg.twist.covariance j j := by
  have position := variance_kept_iff enuToNedMatrix_orthogonal
    (linearBlock msg.pose.covariance).diag
  have velocity := variance_kept_iff (velocityMatrix_orthogonal unit)
    (linearBlock msg.twist.covariance).diag
  rw [position_diagonal.diagonal_diag, enuToNedMatrix_mixes_iff] at position
  rw [velocity_diagonal.diagonal_diag] at velocity
  have published : ∀ cov : Fin 36 → K, toFun ⟨cov 0, cov 7, cov 14⟩ = (linearBlock cov).diag := by
    intro cov
    funext i
    fin_cases i <;> rfl
  simp only [CovarianceOfPublished, onOdometry, published]
  exact and_congr ((funext_iff.trans (forall_congr' fun i => eq_comm)).trans position)
    ((funext_iff.trans (forall_congr' fun i => eq_comm)).trans velocity)

def covarianceOf (v : Vec3 K) : Fin 36 → K := fun k =>
  if k = 0 then v.x else if k = 7 then v.y else if k = 14 then v.z else 0

def reportAt (orientation : Quat K) (position velocity : Vec3 K) : Odometry K :=
  ⟨⟨⟨⟨0, 0, 0⟩, orientation⟩, covarianceOf position⟩,
    ⟨⟨⟨0, 0, 0⟩, ⟨0, 0, 0⟩⟩, covarianceOf velocity⟩⟩

theorem linearBlock_covarianceOf (v : Vec3 K) :
    linearBlock (covarianceOf v) = diagonal (toFun v) := by
  ext i j
  fin_cases i <;> fin_cases j <;> rfl

theorem covariance_of_published_iff_level :
    CovarianceOfPublished (reportAt ⟨1, 0, 0, 0⟩ ⟨1, 1, 3⟩ ⟨2, 2, 5⟩ : Odometry ℚ)
        (onOdometry halfTurnLiteral 0 (reportAt ⟨1, 0, 0, 0⟩ ⟨1, 1, 3⟩ ⟨2, 2, 5⟩)) ↔
      (1 : ℚ) = 1 ∧ ∀ i j, velocityMatrix (⟨1, 0, 0, 0⟩ : Quat ℚ) i j ≠ 0 →
        linearBlock (covarianceOf (⟨2, 2, 5⟩ : Vec3 ℚ)) i i =
          linearBlock (covarianceOf ⟨2, 2, 5⟩) j j :=
  covariance_of_published_iff halfTurnLiteral 0 (reportAt ⟨1, 0, 0, 0⟩ ⟨1, 1, 3⟩ ⟨2, 2, 5⟩)
    (by norm_num [reportAt, Quat.normSq])
    (linearBlock_covarianceOf (⟨1, 1, 3⟩ : Vec3 ℚ) ▸ isDiag_diagonal _)
    (linearBlock_covarianceOf (⟨2, 2, 5⟩ : Vec3 ℚ) ▸ isDiag_diagonal _)

/-- Level flight with east known better than north: the two position variances come
    out exchanged. -/
theorem covariance_not_of_published :
    (⟨1, 0, 0, 0⟩ : Quat ℚ).normSq = 1 ∧
      ¬ CovarianceOfPublished (reportAt ⟨1, 0, 0, 0⟩ ⟨1, 2, 3⟩ ⟨1, 1, 1⟩ : Odometry ℚ)
        (onOdometry halfTurnLiteral 0 (reportAt ⟨1, 0, 0, 0⟩ ⟨1, 2, 3⟩ ⟨1, 1, 1⟩)) := by
  refine ⟨by norm_num [Quat.normSq], fun claimed => ?_⟩
  have north : (1 : ℚ) =
      (enuToNedMatrix * linearBlock (covarianceOf ⟨1, 2, 3⟩) * enuToNedMatrixᵀ :
        Matrix (Fin 3) (Fin 3) ℚ) 0 0 :=
    congrFun claimed.1 0
  rw [linearBlock_covarianceOf, transformed_variance] at north
  norm_num [Fin.sum_univ_three, enuToNedMatrix, matrixOf, toFun, axis, enuToNed] at north

end Covariance
end OdometryBridge
