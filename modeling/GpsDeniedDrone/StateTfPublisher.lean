import GpsDeniedDrone.BoundedDeque
import GpsDeniedDrone.OdometryBridge

/-!
state_tf_publisher.py: PX4's position estimate as a TF and as an accumulated path, in
ROS's frames. One odometry message is cached, the path is emptied when the vehicle is
seen to arm, and a timer appends to it and publishes.
-/
namespace StateTfPublisher
open FrameTransforms Messages PastTime BoundedDeque

variable {K : Type}

def odomFrame : String := "odom"
def baseFrame : String := "base_link"
def maxPathPoses : Nat := 20000

theorem maxPathPoses_pos : 0 < maxPathPoses := by decide

structure Header where
  /-- `get_clock().now()`, nanoseconds. -/
  stamp : Int
  frameId : String
  deriving DecidableEq, Repr

structure TransformStamped (K : Type) where
  header : Header
  childFrameId : String
  translation : Vec3 K
  rotation : Quat K
  deriving DecidableEq, Repr

structure PoseStamped (K : Type) where
  header : Header
  pose : Pose K
  deriving DecidableEq, Repr

structure Path (K : Type) where
  header : Header
  poses : List (PoseStamped K)
  deriving DecidableEq, Repr

inductive Event (K : Type) where
  | onOdometry (msg : VehicleOdometry K)
  | onVehicleStatus (msg : VehicleStatus)
  | publish (now : Int)

inductive Output (K : Type) where
  | info (text : String)
  | sendTransform (tf : TransformStamped K)
  | path (path : Path K)
  deriving DecidableEq, Repr

structure Node (K : Type) where
  pathPoses : Deque (PoseStamped K) maxPathPoses
  latest : Option (VehicleOdometry K)
  wasArmed : Bool

def Node.start : Node K := ⟨Deque.clear, none, false⟩

def Node.onVehicleStatus (n : Node K) (msg : VehicleStatus) : Node K × List (Output K) :=
  let nowArmed := decide (msg.armingState = armingStateArmed)
  if nowArmed && !n.wasArmed then
    ({ n with pathPoses := Deque.clear, wasArmed := nowArmed },
      [.info "armed — starting a fresh /drone/path trace"])
  else ({ n with wasArmed := nowArmed }, [])

section Publish
variable [Field K]

/-- The two conversions `_publish` applies to the cached message. -/
def poseFromOdometry (msg : VehicleOdometry K) : Pose K :=
  ⟨enuToNed msg.position, fluEnuToFrdNedQuaternion halfTurnLiteral msg.q⟩

def stampedPose (now : Int) (msg : VehicleOdometry K) : PoseStamped K :=
  ⟨⟨now, odomFrame⟩, poseFromOdometry msg⟩

def Node.publish (n : Node K) (now : Int) : Node K × List (Output K) :=
  match n.latest with
  | none => (n, [])
  | some msg =>
    let pose := stampedPose now msg
    let poses := n.pathPoses.append pose
    let tf := ⟨pose.header, baseFrame, pose.pose.position, pose.pose.orientation⟩
    ({ n with pathPoses := poses },
      [.sendTransform tf, .path ⟨⟨now, odomFrame⟩, poses.items⟩])

def step (n : Node K) : Event K → Node K × List (Output K)
  | .onOdometry msg => ({ n with latest := some msg }, [])
  | .onVehicleStatus msg => n.onVehicleStatus msg
  | .publish now => n.publish now

def viewer : Machine (Node K) (Event K) (Output K) := ⟨Node.start, step⟩

end Publish

section Status

def odometryOf : Event K → Option (VehicleOdometry K)
  | .onOdometry msg => some msg
  | _ => none

def statusOf : Event K → Option VehicleStatus
  | .onVehicleStatus msg => some msg
  | _ => none

def latestOdometry (past : List (Event K)) : Option (VehicleOdometry K) :=
  past.findSome? odometryOf

def ArmedAt (past : List (Event K)) : Prop :=
  ∃ msg, past.findSome? statusOf = some msg ∧ msg.armingState = armingStateArmed

def Arming (past : List (Event K)) (e : Event K) : Prop :=
  ArmedAt (e :: past) ∧ ¬ ArmedAt past

instance (past : List (Event K)) : Decidable (ArmedAt past) :=
  match found : past.findSome? statusOf with
  | none => isFalse fun ⟨_, eq, _⟩ => by simp [found] at eq
  | some msg =>
    decidable_of_iff (msg.armingState = armingStateArmed)
      ⟨fun armed => ⟨msg, found, armed⟩, fun ⟨m, eq, armed⟩ => by
        rw [found] at eq
        rwa [Option.some.inj eq]⟩

instance (past : List (Event K)) (e : Event K) : Decidable (Arming past e) :=
  inferInstanceAs (Decidable (_ ∧ _))

theorem armedAt_status (past : List (Event K)) (msg : VehicleStatus) :
    ArmedAt (.onVehicleStatus msg :: past) ↔ msg.armingState = armingStateArmed := by
  simp only [ArmedAt, List.findSome?_cons, statusOf, Option.some.injEq, exists_eq_left']

theorem armedAt_other {past : List (Event K)} {e : Event K} (other : statusOf e = none) :
    ArmedAt (e :: past) ↔ ArmedAt past := by
  simp only [ArmedAt, List.findSome?_cons, other]

theorem not_arming_other {past : List (Event K)} {e : Event K} (other : statusOf e = none) :
    ¬ Arming past e :=
  fun edge => edge.2 ((armedAt_other other).mp edge.1)

@[simp] theorem onVehicleStatus_latest (n : Node K) (msg : VehicleStatus) :
    (n.onVehicleStatus msg).1.latest = n.latest := by
  simp only [Node.onVehicleStatus]
  split <;> rfl

@[simp] theorem onVehicleStatus_wasArmed (n : Node K) (msg : VehicleStatus) :
    (n.onVehicleStatus msg).1.wasArmed = decide (msg.armingState = armingStateArmed) := by
  simp only [Node.onVehicleStatus]
  split <;> rfl

end Status

section History
variable [Field K]

/-- The pose a moment adds to the path: none but at publish ticks with an estimate. -/
def posed (past : List (Event K)) : Event K → List (PoseStamped K)
  | .publish now => ((latestOdometry past).map (stampedPose now)).toList
  | .onOdometry _ | .onVehicleStatus _ => []

/-- The poses added since the vehicle was last seen to arm, oldest first. -/
def flightPoses : List (Event K) → List (PoseStamped K) := gathered Arming posed

def allPoses : List (Event K) → List (PoseStamped K) := everGathered posed

section Reads
variable (run past : List (Event K))

@[simp] theorem after_cons (e : Event K) :
    viewer.after (e :: past) = (step (viewer.after past) e).1 := rfl

@[simp] theorem publish_latest (n : Node K) (now : Int) : (n.publish now).1.latest = n.latest := by
  obtain ⟨poses, latest, wasArmed⟩ := n
  cases latest <;> rfl

@[simp] theorem publish_wasArmed (n : Node K) (now : Int) :
    (n.publish now).1.wasArmed = n.wasArmed := by
  obtain ⟨poses, latest, wasArmed⟩ := n
  cases latest <;> rfl

theorem latest_is_cached : (viewer.after run).latest = latestOdometry run := by
  induction run with
  | nil => rfl
  | cons e past ih =>
    cases e with
    | onOdometry msg => rfl
    | onVehicleStatus msg =>
      rw [after_cons, step, onVehicleStatus_latest]
      exact ih
    | publish now =>
      rw [after_cons, step, publish_latest]
      exact ih

theorem wasArmed_iff : (viewer.after run).wasArmed = true ↔ ArmedAt run := by
  induction run with
  | nil => simp [viewer, Machine.after, Node.start, ArmedAt]
  | cons e past ih =>
    cases e with
    | onOdometry msg =>
      rw [armedAt_other rfl, ← ih]
      rfl
    | onVehicleStatus msg =>
      rw [armedAt_status, after_cons, step, onVehicleStatus_wasArmed, decide_eq_true_iff]
    | publish now => rw [armedAt_other rfl, ← ih, after_cons, step, publish_wasArmed]

theorem clears_iff_arming (msg : VehicleStatus) :
    (decide (msg.armingState = armingStateArmed) && !(viewer.after past).wasArmed) = true ↔
      Arming past (.onVehicleStatus msg) := by
  rw [Arming, armedAt_status, ← wasArmed_iff]
  simp

end Reads

/-- The deque has been fed the poses of the present flight, whatever was in it before. -/
theorem path_fed (run : List (Event K)) : (viewer.after run).pathPoses.Fed (flightPoses run) := by
  induction run with
  | nil => exact fed_clear
  | cons e past ih =>
    rw [after_cons]
    cases e with
    | onOdometry msg =>
      have quiet : ¬ Arming past (.onOdometry msg) := not_arming_other rfl
      simp only [flightPoses, gathered, if_neg quiet, posed, List.append_nil]
      exact ih
    | onVehicleStatus msg =>
      have edge := clears_iff_arming past msg
      simp only [flightPoses, gathered, posed, List.append_nil]
      by_cases arming : Arming past (.onVehicleStatus msg)
      · rw [if_pos arming, step, Node.onVehicleStatus, if_pos (edge.mpr arming)]
        exact fed_clear
      · rw [if_neg arming, step, Node.onVehicleStatus, if_neg (mt edge.mp arming)]
        exact ih
    | publish now =>
      have quiet : ¬ Arming past (.publish now) := not_arming_other rfl
      rw [flightPoses, gathered, if_neg quiet, posed, step, Node.publish, latest_is_cached]
      cases latestOdometry past with
      | none =>
        simp only [Option.map_none, Option.toList_none, List.append_nil]
        exact ih
      | some msg => exact fed_append ih (stampedPose now msg)

end History

end StateTfPublisher
