import GpsDeniedDrone.PastTime
import GpsDeniedDrone.PoseRoundTrip
import GpsDeniedDrone.RotationAction

/-!
loopback_odometry_bridge.py beside openvins_odometry_bridge.py: two processes that feed
PX4's external vision, the stand-in from PX4's own odometry and the real one from
OpenVINS. They differ in the conversion of a message and in what an error of the
middleware does to the process.
-/
namespace VisionBridges
open FrameTransforms Messages PastTime OdometryBridge QuaternionRotation

section Processes
variable {K : Type}

/-- `LoopbackOdometryBridge._on_odometry`. -/
def loopback (now : Int) (msg : VehicleOdometry K) : VehicleOdometry K :=
  { timestamp := stamp now
    timestampSample := stamp now
    poseFrame := msg.poseFrame
    position := msg.position
    q := msg.q
    velocityFrame := msg.velocityFrame
    velocity := msg.velocity
    angularVelocity := msg.angularVelocity
    positionVariance := msg.positionVariance
    orientationVariance := msg.orientationVariance
    velocityVariance := msg.velocityVariance
    resetCounter := msg.resetCounter
    quality := msg.quality }

/-- What one turn of the executor brings: a message, a RuntimeError out of the middleware,
    or the end of the process from outside. -/
inductive Event (Message : Type) where
  | delivered (now : Int) (msg : Message)
  | runtimeError
  | stopped

inductive Output (K : Type) where
  | published (msg : VehicleOdometry K)
  | transientError

/-- The loop of the OpenVINS bridge's `main`: the state says whether it still spins. -/
def openvinsStep [CommRing K] (c : K) (spinning : Bool) :
    Event (Odometry K) → Bool × List (Output K)
  | .delivered now msg =>
    if spinning then (true, [.published (onOdometry c now msg)]) else (false, [])
  | .runtimeError => if spinning then (true, [.transientError]) else (false, [])
  | .stopped => (false, [])

/-- `rclpy.spin` in the loopback bridge's `main`: an error leaves it. -/
def loopbackStep (spinning : Bool) : Event (VehicleOdometry K) → Bool × List (Output K)
  | .delivered now msg =>
    if spinning then (true, [.published (loopback now msg)]) else (false, [])
  | .runtimeError => (false, [])
  | .stopped => (false, [])

def openvinsBridge [CommRing K] (c : K) : Machine Bool (Event (Odometry K)) (Output K) :=
  ⟨true, openvinsStep c⟩

def loopbackBridge : Machine Bool (Event (VehicleOdometry K)) (Output K) := ⟨true, loopbackStep⟩

/-- What EKF2 takes from a message for the motion of the vehicle. -/
structure Motion (K : Type) where
  timestamp : Int
  timestampSample : Int
  position : Vec3 K
  q : Quat K
  velocity : Vec3 K
  angularVelocity : Vec3 K

def motion (msg : VehicleOdometry K) : Motion K :=
  ⟨msg.timestamp, msg.timestampSample, msg.position, msg.q, msg.velocity, msg.angularVelocity⟩

def Output.motion : Output K → Option (Motion K)
  | .published msg => some (VisionBridges.motion msg)
  | .transientError => none

end Processes

section Messages

/-- The attitude takes a vector of the body to the world. -/
def Turns (q : Quat ℝ) (body world : Vec3 ℝ) : Prop :=
  sandwich q.toQuaternion body.toQuaternion = world.toQuaternion

/-- An OpenVINS message about the motion PX4 reports: east, north and up for the world,
    forward, left and up for the body, the velocity in the body's axes. -/
structure Reports (report : Odometry ℝ) (msg : VehicleOdometry ℝ) : Prop where
  position : report.pose.pose.position = ⟨msg.position.y, msg.position.x, -msg.position.z⟩
  unit : report.pose.pose.orientation.normSq = 1
  attitude : ∀ forward left up north east down,
    Turns msg.q ⟨forward, -left, -up⟩ ⟨north, east, down⟩ →
      Turns report.pose.pose.orientation ⟨forward, left, up⟩ ⟨east, north, -down⟩
  velocity : Turns report.pose.pose.orientation report.twist.twist.linear
    ⟨msg.velocity.y, msg.velocity.x, -msg.velocity.z⟩
  angular : report.twist.twist.angular =
    ⟨msg.angularVelocity.x, -msg.angularVelocity.y, -msg.angularVelocity.z⟩

/-- Two signs of a quaternion are one attitude. -/
structure SameMotion (a b : Motion ℝ) : Prop where
  timestamp : a.timestamp = b.timestamp
  timestampSample : a.timestampSample = b.timestampSample
  position : a.position = b.position
  q : a.q = b.q ∨ a.q = -b.q
  velocity : a.velocity = b.velocity
  angularVelocity : a.angularVelocity = b.angularVelocity

theorem half_turn_literal : 2 * (1 / √2 : ℝ) ^ 2 = 1 := by
  rw [div_pow, Real.sq_sqrt zero_le_two]
  norm_num

theorem turns_iff {q : Quat ℝ} (unit : q.normSq = 1) {v w : Vec3 ℝ} :
    Turns q v w ↔ quatRotateVector q v = w := by
  rw [Turns, ← quatRotateVector_toQuaternion unit]
  exact ⟨vec3_toQuaternion_injective, congrArg _⟩

theorem attitude_of_rotations {a b : Quat ℝ} (a_unit : a.normSq = 1) (b_unit : b.normSq = 1)
    (same : ∀ v, quatRotateVector a v = quatRotateVector b v) : a = b ∨ a = -b := by
  have turns : ∀ v : Quaternion ℝ, v.re = 0 →
      sandwich a.toQuaternion v = sandwich b.toQuaternion v := by
    intro v pure
    have vector : (⟨v.imI, v.imJ, v.imK⟩ : Vec3 ℝ).toQuaternion = v :=
      Quaternion.ext_iff.mpr ⟨pure.symm, rfl, rfl, rfl⟩
    rw [← vector, ← quatRotateVector_toQuaternion a_unit, ← quatRotateVector_toQuaternion b_unit,
      same]
  rw [← normSq_toQuaternion] at a_unit b_unit
  rcases eq_or_neg_of_sandwich a_unit b_unit turns with equal | opposite
  · exact Or.inl (toQuaternion_injective equal)
  · exact Or.inr (toQuaternion_injective (opposite.trans (Quaternion.ext_iff.mpr
      ⟨rfl, rfl, rfl, rfl⟩)))

theorem motion_reported (now : Int) {report : Odometry ℝ} {msg : VehicleOdometry ℝ}
    (reports : Reports report msg) (unit : msg.q.normSq = 1) :
    SameMotion (motion (onOdometry (1 / √2) now report)) (motion (loopback now msg)) := by
  obtain ⟨position, report_unit, attitude, velocity, angular⟩ := reports
  have q_unit := fluEnuToFrdNedQuaternion_unit half_turn_literal ⟨_, report_unit⟩
  exact {
    timestamp := rfl
    timestampSample := rfl
    position := by
      change enuToNed report.pose.pose.position = msg.position
      rw [position]
      exact vec3_ext rfl rfl (neg_neg _)
    q := by
      apply attitude_of_rotations q_unit unit
      intro v
      have body : fluToFrd (fluToFrd v) = v := vec3_ext rfl (neg_neg _) (neg_neg _)
      have world := enuToNed_rotate half_turn_literal ⟨_, report_unit⟩ (fluToFrd v)
      dsimp only at world
      rw [body] at world
      have frd : quatRotateVector msg.q ⟨v.x, - -v.y, - -v.z⟩ = quatRotateVector msg.q v := by
        rw [neg_neg, neg_neg]
      have turned := attitude v.x (-v.y) (-v.z) _ _ _ ((turns_iff unit).mpr frd)
      rw [← world, fluToFrd, (turns_iff report_unit).mp turned]
      exact vec3_ext rfl rfl (neg_neg _)
    velocity := by
      change enuToNed (quatRotateVector _ _) = msg.velocity
      rw [(turns_iff report_unit).mp velocity]
      exact vec3_ext rfl rfl (neg_neg _)
    angularVelocity := by
      change fluToFrd report.twist.twist.angular = msg.angularVelocity
      rw [angular]
      exact vec3_ext rfl (neg_neg _) (neg_neg _) }

end Messages

/- Whole runs. -/

section Runs
variable {K : Type} {run past : List (Event (VehicleOdometry K))} {e : Event (VehicleOdometry K)}

def motions (out : List (Output K)) : List (Motion K) := out.filterMap Output.motion

def Event.isError {Message : Type} : Event Message → Bool
  | .runtimeError => true
  | _ => false

def errorFree (run : List (Event (VehicleOdometry K))) : List (Event (VehicleOdometry K)) :=
  run.filter fun e => !e.isError

theorem errorFree_error (failed : e.isError = true) : errorFree (e :: past) = errorFree past := by
  simp [errorFree, failed]

theorem errorFree_other (fine : e.isError = false) :
    errorFree (e :: past) = e :: errorFree past := by
  simp [errorFree, fine]

theorem spun_out (e : Event (VehicleOdometry K)) : loopbackStep false e = (false, []) := by
  cases e <;> rfl

theorem motions_trace_cons {Message : Type} (m : Machine Bool (Event Message) (Output K))
    (past : List (Event Message)) (e : Event Message) :
    motions (m.trace (e :: past)) = motions (m.trace past) ++ motions (m.emitted past e) :=
  List.filterMap_append

def untilError : List (Event (VehicleOdometry K)) → List (Event (VehicleOdometry K))
  | [] => []
  | e :: past => if past.any Event.isError || e.isError then untilError past else e :: past

theorem untilError_suffix (run : List (Event (VehicleOdometry K))) :
    untilError run <:+ errorFree run := by
  induction run with
  | nil => exact List.suffix_refl _
  | cons e past ih =>
    unfold untilError
    split
    · cases failed : e.isError with
      | true => rwa [errorFree_error failed]
      | false =>
        rw [errorFree_other failed]
        exact ih.trans (List.suffix_cons _ _)
    · rename_i fine
      rw [Bool.or_eq_true, not_or, List.any_eq_true, not_exists] at fine
      have whole : errorFree past = past := by
        apply List.filter_eq_self.mpr
        intro b mem
        simpa [mem] using fine.1 b
      rw [errorFree_other (Bool.eq_false_iff.mpr fine.2), whole]

theorem loopback_stopped {run : List (Event (VehicleOdometry K))}
    (failed : run.any Event.isError = true) : loopbackBridge.after run = false := by
  induction run with
  | nil => cases failed
  | cons e past ih =>
    change (loopbackStep (loopbackBridge.after past) e).1 = false
    rcases Bool.or_eq_true _ _ ▸ failed with now | before
    · cases e with
      | runtimeError => rfl
      | _ => cases now
    · rw [ih before, spun_out]

theorem loopback_cut (run : List (Event (VehicleOdometry K))) :
    loopbackBridge.trace run = loopbackBridge.trace (untilError run) := by
  induction run with
  | nil => rfl
  | cons e past ih =>
    unfold untilError
    split
    · rename_i failed
      rw [← ih]
      change loopbackBridge.trace past ++ (loopbackStep (loopbackBridge.after past) e).2 = _
      rcases (Bool.or_eq_true _ _).mp failed with before | now
      · rw [loopback_stopped before, spun_out, List.append_nil]
      · cases e with
        | runtimeError => exact List.append_nil _
        | _ => cases now
    · rfl

end Runs

section Told

def Told : Event (Odometry ℝ) → Event (VehicleOdometry ℝ) → Prop
  | .delivered now report, .delivered now' msg => now = now' ∧ Reports report msg
  | .runtimeError, .runtimeError => True
  | .stopped, .stopped => True
  | _, _ => False

def UnitAttitude : Event (VehicleOdometry ℝ) → Prop
  | .delivered _ msg => msg.q.normSq = 1
  | _ => True

/-- Event by event the real bridge does what the stand-in does where nothing fails. -/
theorem openvins_step {heard : Event (Odometry ℝ)} {e : Event (VehicleOdometry ℝ)}
    (told : Told heard e) (unit : UnitAttitude e) (spinning : Bool) :
    (openvinsStep (1 / √2) spinning heard).1 =
        (if e.isError then spinning else (loopbackStep spinning e).1) ∧
      List.Forall₂ SameMotion (motions (openvinsStep (1 / √2) spinning heard).2)
        (if e.isError then [] else motions (loopbackStep spinning e).2) := by
  cases heard with
  | delivered now report =>
    cases e with
    | delivered now' msg =>
      obtain ⟨rfl, reports⟩ := told
      cases spinning with
      | false => exact ⟨rfl, List.Forall₂.nil⟩
      | true =>
        exact ⟨rfl, List.Forall₂.cons (motion_reported now reports unit) List.Forall₂.nil⟩
    | _ => exact told.elim
  | runtimeError =>
    cases e with
    | runtimeError => cases spinning <;> exact ⟨rfl, List.Forall₂.nil⟩
    | _ => exact told.elim
  | stopped =>
    cases e with
    | stopped => cases spinning <;> exact ⟨rfl, List.Forall₂.nil⟩
    | _ => exact told.elim

theorem openvins_run {heard : List (Event (Odometry ℝ))} {run : List (Event (VehicleOdometry ℝ))}
    (told : List.Forall₂ Told heard run) (unit : ∀ e ∈ run, UnitAttitude e) :
    (openvinsBridge (1 / √2)).after heard = loopbackBridge.after (errorFree run) ∧
      List.Forall₂ SameMotion (motions ((openvinsBridge (1 / √2)).trace heard))
        (motions (loopbackBridge.trace (errorFree run))) := by
  induction told with
  | nil => exact ⟨rfl, List.Forall₂.nil⟩
  | @cons heard_now e heard past one _ ih =>
    obtain ⟨same, shown⟩ := ih fun b mem => unit b (List.mem_cons_of_mem e mem)
    obtain ⟨next, sent⟩ := openvins_step one (unit e List.mem_cons_self)
      ((openvinsBridge (1 / √2)).after heard)
    rw [motions_trace_cons]
    change (openvinsStep (1 / √2) _ _).1 = _ ∧
      List.Forall₂ _ (_ ++ motions (openvinsStep (1 / √2) _ _).2) _
    rw [next]
    rw [same] at sent ⊢
    cases failed : e.isError with
    | true =>
      rw [failed] at sent
      rw [errorFree_error failed, List.forall₂_nil_right_iff.mp sent, List.append_nil]
      exact ⟨rfl, shown⟩
    | false =>
      rw [failed] at sent
      rw [errorFree_other failed, motions_trace_cons]
      exact ⟨rfl, List.rel_append shown sent⟩

/-- The stand-in is a faithful one: told of the same motion by OpenVINS, the real bridge
    publishes through any errors just the motion the stand-in publishes where there are
    none, and the stand-in's own stream is its beginning, up to the first error. -/
theorem bridges_interchangeable {heard : List (Event (Odometry ℝ))}
    {run : List (Event (VehicleOdometry ℝ))} (told : List.Forall₂ Told heard run)
    (unit : ∀ e ∈ run, UnitAttitude e) :
    List.Forall₂ SameMotion (motions ((openvinsBridge (1 / √2)).trace heard))
        (motions (loopbackBridge.trace (errorFree run))) ∧
      motions (loopbackBridge.trace run) = motions (loopbackBridge.trace (untilError run)) ∧
      motions (loopbackBridge.trace run) <+: motions (loopbackBridge.trace (errorFree run)) := by
  refine ⟨(openvins_run told unit).2, by rw [loopback_cut], ?_⟩
  rw [loopback_cut]
  exact (loopbackBridge.trace_suffix (untilError_suffix run)).filterMap _

end Told

def eastward (c east : ℝ) : VehicleOdometry ℝ :=
  ⟨0, 0, 2, ⟨0, east, -1⟩, ⟨c, 0, 0, c⟩, 2, ⟨0, 1, 0⟩, ⟨0, 0, 0⟩, ⟨0, 0, 0⟩, ⟨0, 0, 0⟩,
    ⟨0, 0, 0⟩, 0, 0⟩

def eastwardReport (east : ℝ) : Odometry ℝ :=
  ⟨⟨⟨⟨east, 0, 1⟩, ⟨1, 0, 0, 0⟩⟩, 0⟩, ⟨⟨⟨1, 0, 0⟩, ⟨0, 0, 0⟩⟩, 0⟩⟩

theorem eastward_unit {c : ℝ} (half : 2 * c ^ 2 = 1) (east : ℝ) :
    (eastward c east).q.normSq = 1 := by
  simp only [eastward, Quat.normSq]
  linarith

theorem eastward_reported {c : ℝ} (half : 2 * c ^ 2 = 1) (east : ℝ) :
    Reports (eastwardReport east) (eastward c east) where
  position := by simp [eastwardReport, eastward]
  unit := by simp [eastwardReport, Quat.normSq]
  attitude := by
    intro forward left up north east' down turned
    have world := (turns_iff (eastward_unit half east)).mp turned
    simp only [quatRotateVector, eastward, Vec3.mk.injEq] at world
    obtain ⟨rfl, rfl, rfl⟩ := world
    apply (turns_iff (by simp [eastwardReport, Quat.normSq])).mpr
    apply vec3_ext
    · simp only [quatRotateVector, eastwardReport]
      linear_combination -(forward + left) * half
    · simp only [quatRotateVector, eastwardReport]
      linear_combination (forward - left) * half
    · simp only [quatRotateVector, eastwardReport]
      ring
  velocity := by
    apply (turns_iff (by simp [eastwardReport, Quat.normSq])).mpr
    apply vec3_ext <;> simp [quatRotateVector, eastwardReport, eastward]
  angular := by simp [eastwardReport, eastward]

theorem bridges_interchangeable_eastward :
    List.Forall₂ SameMotion
      (motions ((openvinsBridge (1 / √2)).trace
        [.delivered 2000 (eastwardReport 2), .runtimeError, .delivered 1000 (eastwardReport 1)]))
      (motions (loopbackBridge.trace (errorFree
        [.delivered 2000 (eastward (1 / √2) 2), .runtimeError,
          .delivered 1000 (eastward (1 / √2) 1)]))) := by
  have half := half_turn_literal
  have told : List.Forall₂ Told
      [.delivered 2000 (eastwardReport 2), .runtimeError, .delivered 1000 (eastwardReport 1)]
      [.delivered 2000 (eastward (1 / √2) 2), .runtimeError,
        .delivered 1000 (eastward (1 / √2) 1)] :=
    .cons ⟨rfl, eastward_reported half 2⟩
      (.cons trivial (.cons ⟨rfl, eastward_reported half 1⟩ .nil))
  refine (bridges_interchangeable told fun e mem => ?_).1
  simp only [List.mem_cons, List.not_mem_nil, or_false] at mem
  rcases mem with rfl | rfl | rfl
  · exact eastward_unit half 2
  · trivial
  · exact eastward_unit half 1

end VisionBridges
