import Mathlib.Algebra.Order.Field.Basic
import Mathlib.Tactic.NormNum
import GpsDeniedDrone.StateTfPublisher

/-!
One conversion function serves both directions: OpenVINS's pose published to PX4 by
the bridge and read back by the state publisher is the pose it was, but for the scale
that the truncated literal in the code leaves on the quaternion.
-/
namespace FrameTransforms
variable {K : Type}

section Ring
variable [CommRing K]

def Quat.scale (r : K) (q : Quat K) : Quat K := ⟨r * q.w, r * q.x, r * q.y, r * q.z⟩

theorem enuToNed_enuToNed (v : Vec3 K) : enuToNed (enuToNed v) = v :=
  vec3_ext rfl rfl (neg_neg v.z)

/-- Both half turns square to a negative scalar, `-2 c²` and `-1`, so their signs cancel. -/
theorem fluEnuToFrdNedQuaternion_twice (c : K) (q : Quat K) :
    fluEnuToFrdNedQuaternion c (fluEnuToFrdNedQuaternion c q) = q.scale (2 * c ^ 2) := by
  apply quat_ext
  · simp only [fluEnuToFrdNedQuaternion, quatMul, nedEnuQ, frdFluQ, Quat.scale]
    ring
  · simp only [fluEnuToFrdNedQuaternion, quatMul, nedEnuQ, frdFluQ, Quat.scale]
    ring
  · simp only [fluEnuToFrdNedQuaternion, quatMul, nedEnuQ, frdFluQ, Quat.scale]
    ring
  · simp only [fluEnuToFrdNedQuaternion, quatMul, nedEnuQ, frdFluQ, Quat.scale]
    ring

theorem normSq_iterate (c : K) (n : Nat) (q : Quat K) :
    ((fluEnuToFrdNedQuaternion c)^[n] q).normSq = (2 * c ^ 2) ^ n * q.normSq := by
  induction n with
  | zero => rw [Function.iterate_zero, id, pow_zero, one_mul]
  | succ n ih =>
    rw [Function.iterate_succ_apply', normSq_fluEnuToFrdNedQuaternion, ih, ← mul_assoc,
      ← pow_succ' (2 * c ^ 2) n]

end Ring

section Literal
variable [Field K] [LinearOrder K] [IsStrictOrderedRing K]

theorem halfTurnLiteral_scale :
    0 < 2 * (halfTurnLiteral : K) ^ 2 ∧ |2 * (halfTurnLiteral : K) ^ 2 - 1| < 1 / 10 ^ 8 := by
  simp only [halfTurnLiteral]
  rw [abs_lt]
  norm_num

end Literal
end FrameTransforms

namespace StateTfPublisher
open FrameTransforms Messages OdometryBridge BoundedDeque

variable {K : Type} [Field K]

theorem poseFromOdometry_onOdometry (sent : Int) (msg : Odometry K) :
    poseFromOdometry (onOdometry halfTurnLiteral sent msg) =
      ⟨msg.pose.pose.position,
        msg.pose.pose.orientation.scale (2 * (halfTurnLiteral : K) ^ 2)⟩ := by
  simp only [poseFromOdometry, onOdometry, enuToNed_enuToNed, fluEnuToFrdNedQuaternion_twice]

theorem publish_cached (n : Node K) (msg : VehicleOdometry K) (now : Int) :
    ((step n (.onOdometry msg)).1.publish now).2 =
      [.sendTransform ⟨⟨now, odomFrame⟩, baseFrame, (poseFromOdometry msg).position,
        (poseFromOdometry msg).orientation⟩,
       .path ⟨⟨now, odomFrame⟩, (n.pathPoses.append (stampedPose now msg)).items⟩] := rfl

section RoundTrip
variable [LinearOrder K] [IsStrictOrderedRing K]

/-- From any state of the publisher: the pose that comes back is the one OpenVINS gave,
    with its quaternion scaled by `2 a²`, a positive number within 1e-8 of 1. -/
theorem pose_round_trip :
    (∀ (n : Node K) (sent now : Int) (msg : Odometry K),
      let a : K := halfTurnLiteral
      let position := msg.pose.pose.position
      let orientation := msg.pose.pose.orientation.scale (2 * a ^ 2)
      ∃ poses, (step (step n (.onOdometry (onOdometry a sent msg))).1 (.publish now)).2 =
          [.sendTransform ⟨⟨now, odomFrame⟩, baseFrame, position, orientation⟩,
            .path ⟨⟨now, odomFrame⟩, poses⟩] ∧
        poses.getLast? = some ⟨⟨now, odomFrame⟩, ⟨position, orientation⟩⟩) ∧
    0 < 2 * (halfTurnLiteral : K) ^ 2 ∧
    |2 * (halfTurnLiteral : K) ^ 2 - 1| < 1 / 10 ^ 8 ∧
    (∀ q : Quat K, (fluEnuToFrdNedQuaternion halfTurnLiteral q).normSq =
      2 * halfTurnLiteral ^ 2 * q.normSq) ∧
    ∀ (n : Nat) (q : Quat K), ((fluEnuToFrdNedQuaternion halfTurnLiteral)^[n] q).normSq =
      (2 * halfTurnLiteral ^ 2) ^ n * q.normSq := by
  refine ⟨fun n sent now msg => ?_, halfTurnLiteral_scale.1, halfTurnLiteral_scale.2,
    normSq_fluEnuToFrdNedQuaternion halfTurnLiteral, normSq_iterate halfTurnLiteral⟩
  have back := poseFromOdometry_onOdometry sent msg
  have outputs := publish_cached n (onOdometry halfTurnLiteral sent msg) now
  rw [back] at outputs
  refine ⟨_, outputs, ?_⟩
  rw [append_last maxPathPoses_pos, stampedPose, back]

/-- A pose three metres up, facing east. -/
theorem pose_round_trip_rational :
    let msg : Odometry ℚ := ⟨⟨⟨⟨1, 2, 3⟩, ⟨1, 0, 0, 0⟩⟩, 0⟩, ⟨⟨⟨0, 0, 0⟩, ⟨0, 0, 0⟩⟩, 0⟩⟩
    let orientation := (⟨1, 0, 0, 0⟩ : Quat ℚ).scale (2 * halfTurnLiteral ^ 2)
    (∃ poses, (step (step .start (.onOdometry (onOdometry halfTurnLiteral 1000 msg))).1
        (.publish 2000)).2 =
          [.sendTransform ⟨⟨2000, odomFrame⟩, baseFrame, ⟨1, 2, 3⟩, orientation⟩,
            .path ⟨⟨2000, odomFrame⟩, poses⟩] ∧
        poses.getLast? = some ⟨⟨2000, odomFrame⟩, ⟨⟨1, 2, 3⟩, orientation⟩⟩) ∧
      |2 * (halfTurnLiteral : ℚ) ^ 2 - 1| < 1 / 10 ^ 8 :=
  ⟨pose_round_trip.1 .start 1000 2000 ⟨⟨⟨⟨1, 2, 3⟩, ⟨1, 0, 0, 0⟩⟩, 0⟩, ⟨⟨⟨0, 0, 0⟩, ⟨0, 0, 0⟩⟩, 0⟩⟩,
    pose_round_trip.2.2.1⟩

end RoundTrip
end StateTfPublisher
