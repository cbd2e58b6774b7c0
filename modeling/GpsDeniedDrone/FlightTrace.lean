import GpsDeniedDrone.StateTfPublisher

/-!
What `/drone/path` shows: the trace of the present flight and nothing of the flights
before it, cut to the latest poses when it grows long.
-/
namespace StateTfPublisher
open FrameTransforms Messages PastTime BoundedDeque

variable {K : Type} [Field K]

/-- `s`, read after `older`, is where the run last saw the vehicle arm. -/
def LastArming (run : List (Event K)) (s : Event K) (older : List (Event K)) : Prop :=
  ∃ newer, run = newer ++ s :: older ∧ Arming older s ∧
    ∀ mid b tail, newer = mid ++ b :: tail → ¬ Arming (tail ++ s :: older) b

theorem path_published {past : List (Event K)} {e : Event K} {path : Path K}
    (published : .path path ∈ viewer.emitted past e) :
    ∃ now msg, e = .publish now ∧ latestOdometry past = some msg ∧
      path.poses = ((viewer.after past).pathPoses.append (stampedPose now msg)).items := by
  cases e with
  | onOdometry msg => simp [viewer, Machine.emitted, step] at published
  | onVehicleStatus msg =>
    simp only [viewer, Machine.emitted, step, Node.onVehicleStatus] at published
    split at published <;> simp at published
  | publish now =>
    have cached := latest_is_cached past
    change .path path ∈ ((viewer.after past).publish now).2 at published
    rw [Node.publish, cached] at published
    cases found : latestOdometry past with
    | none => simp [found] at published
    | some msg =>
      simp only [found, List.mem_cons, reduceCtorEq, Output.path.injEq, List.not_mem_nil,
        or_false, false_or] at published
      exact ⟨now, msg, rfl, rfl, by rw [published]⟩

theorem flightPoses_publish {past : List (Event K)} {now : Int} {msg : VehicleOdometry K}
    (cached : latestOdometry past = some msg) :
    flightPoses (.publish now :: past) = flightPoses past ++ [stampedPose now msg] := by
  have quiet : ¬ Arming past (.publish now) := not_arming_other rfl
  simp only [flightPoses, gathered, if_neg quiet, posed, cached, Option.map_some,
    Option.toList_some]

theorem flightPoses_after_arming {run older : List (Event K)} {s : Event K}
    (last : LastArming run s older) : allPoses run = allPoses older ++ flightPoses run := by
  obtain ⟨newer, rfl, edge, later⟩ := last
  exact gathered_after edge later

/-- Every published path is the end of the present flight's sequence of poses, that
    sequence has nothing from before the vehicle was last seen to arm, and all poses
    since startup if it never was. -/
theorem path_is_present_flight (past : List (Event K)) (e : Event K) (path : Path K)
    (published : .path path ∈ viewer.emitted past e) :
    path.poses = (flightPoses (e :: past)).rtake maxPathPoses ∧
      path.poses.length = min (flightPoses (e :: past)).length maxPathPoses ∧
      (∃ now msg, e = .publish now ∧ latestOdometry past = some msg ∧
        path.poses.getLast? = some (stampedPose now msg)) ∧
      (∀ s older, LastArming (e :: past) s older →
        allPoses (e :: past) = allPoses older ++ flightPoses (e :: past)) ∧
      (Always (fun past e => ¬ Arming past e) (e :: past) →
        flightPoses (e :: past) = allPoses (e :: past)) := by
  obtain ⟨now, msg, rfl, cached, poses⟩ := path_published published
  have fed := fed_append (path_fed past) (stampedPose now msg)
  have shown : path.poses = (flightPoses (.publish now :: past)).rtake maxPathPoses := by
    rw [poses, flightPoses_publish cached]
    exact fed
  refine ⟨shown, ?_, ⟨now, msg, rfl, cached, ?_⟩, fun s older last => flightPoses_after_arming last,
    gathered_never⟩
  · rw [shown, rtake_length]
  · rw [poses]
    exact append_last maxPathPoses_pos _ _

def estimate : VehicleOdometry ℚ :=
  ⟨0, 0, 2, ⟨1, 2, -3⟩, ⟨1, 0, 0, 0⟩, 2, ⟨0, 0, 0⟩, ⟨0, 0, 0⟩, ⟨0, 0, 0⟩, ⟨0, 0, 0⟩,
    ⟨0, 0, 0⟩, 0, 0⟩

/- Two poses of a first flight, then the vehicle disarms and arms again. -/
def secondFlight : List (Event ℚ) :=
  [.onVehicleStatus ⟨0, armingStateArmed⟩, .onVehicleStatus ⟨0, armingStateDisarmed⟩,
    .publish 2, .publish 1, .onVehicleStatus ⟨0, armingStateArmed⟩, .onOdometry estimate]

theorem path_is_present_flight_second :
    [stampedPose 3 estimate] = (flightPoses (.publish 3 :: secondFlight)).rtake maxPathPoses ∧
      allPoses (.publish 3 :: secondFlight) =
        [stampedPose 1 estimate, stampedPose 2 estimate, stampedPose 3 estimate] :=
  ⟨(path_is_present_flight secondFlight (.publish 3)
      ⟨⟨3, odomFrame⟩, [stampedPose 3 estimate]⟩ (by decide +kernel)).1, by decide +kernel⟩

end StateTfPublisher
