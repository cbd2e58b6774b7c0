import GpsDeniedDrone.Messages

/-!
goal_relay.py: each `/goal_pose` becomes one `ComputePathToPose` goal. The node keeps no
state of its own; the futures it waits on belong to the action client, and its callbacks
are functions of what those deliver.
-/
namespace GoalRelay
open Messages

structure Goal (K : Type) where
  goal : PoseStamped K
  start : PoseStamped K
  plannerId : String
  useStart : Bool
  deriving DecidableEq, Repr

section Default
variable {K : Type} [Zero K] [One K]

def defaultPose : PoseStamped K := ⟨⟨⟨0, 0, 0⟩, ⟨1, 0, 0, 0⟩⟩⟩

def Goal.default : Goal K := ⟨defaultPose, defaultPose, "", false⟩

end Default

structure Result (K : Type) where
  status : Nat
  path : Path K
  deriving DecidableEq, Repr

inductive Output (K : Type) where
  | sendGoalAsync (goal : Goal K)
  | getResultAsync
  | serverNotAvailable
  | goalRejected
  | finished (status numPoses : Nat)
  deriving DecidableEq, Repr

variable {K : Type}

/-- `start` deliberately left unset: the planner reads the robot's pose itself. -/
def requestFor [Zero K] [One K] (msg : PoseStamped K) : Goal K := { Goal.default with goal := msg }

/-- `_on_goal_pose`; `serverReady` is what `wait_for_server` returned. -/
def onGoalPose [Zero K] [One K] (serverReady : Bool) (msg : PoseStamped K) : Output K :=
  if serverReady then .sendGoalAsync (requestFor msg) else .serverNotAvailable

def onGoalResponse (accepted : Bool) : Output K :=
  if accepted then .getResultAsync else .goalRejected

def onResult (result : Result K) : Output K :=
  .finished result.status result.path.poses.length

end GoalRelay
