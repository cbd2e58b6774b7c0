import GpsDeniedDrone.ControlStep
import GpsDeniedDrone.Streak

/-!
Runs of the node and what every one of them keeps: the latches clear where the checks
read them, each step one of the listed moves, the latest status stored.
-/
namespace OffboardControl
open FrameTransforms Messages PastTime Streak
variable {K : Type} [Field K] [LinearOrder K] [FloorRing K] [FloatMath K]

/-- Where the code that owns the node may call `set_waypoints`: "before takeoff
    completes". -/
def QueueAllowed (s : FlightState) : Callback K → Prop
  | .setWaypoints _ => s = .init ∨ s = .takeoff
  | _ => True

instance (s : FlightState) : (c : Callback K) → Decidable (QueueAllowed s c)
  | .setWaypoints _ => inferInstanceAs (Decidable (_ ∨ _))
  | .localPosition _ | .vehicleStatus _ | .landDetected _ | .goalPose _ | .navPath _
  | .control => isTrue trivial

def QueuedInTime (p : Params K) : Moment (Event K) := fun past e =>
  QueueAllowed ((flight p).after past).state e.callback

instance (p : Params K) (past : List (Event K)) (e : Event K) :
    Decidable (QueuedInTime p past e) := inferInstanceAs (Decidable (QueueAllowed _ _))

/-- The runs considered: any messages and any clock, the queue set in time. -/
def Run (p : Params K) (run : List (Event K)) : Prop := Always (QueuedInTime p) run

instance (p : Params K) (run : List (Event K)) : Decidable (Run p run) :=
  inferInstanceAs (Decidable (Always _ run))

theorem flying_ne {s : FlightState} (flying : s.Flying) :
    s ≠ .init ∧ s ≠ .land ∧ s ≠ .done := by
  rcases flying with rfl | rfl | rfl | rfl <;> decide

theorem onRoute_flying {s : FlightState} (route : s.OnRoute) : s.Flying := by
  rcases route with rfl | rfl <;> decide

theorem tick_latches {p : Params K} {now : Int} {n n' : Node K} {out : List (Output K)}
    (went : Tick p now n n' out) (latches : LatchesClear n) : LatchesClear n' := by
  obtain ⟨flight, landing⟩ := latches
  cases went with
  | fenceAbort flying | estimateAbort flying =>
    have ne := flying_ne flying
    constructor <;> simp_all [Node.landing, Node.checked]
  | indexFault route | cruise route | reach route =>
    have ne := flying_ne (onRoute_flying route)
    constructor <;> simp_all [Node.checked]
  | _ => constructor <;> simp_all [Node.landing, Node.checked]

theorem move_latches {p : Params K} {n n' : Node K} {e : Event K} {out : List (Output K)}
    (moved : Move p n e n' out) (latches : LatchesClear n) : LatchesClear n' := by
  cases moved with
  | tick now running went => exact tick_latches went latches
  | accepted _ goal running state nonempty =>
    have flight := latches.flight (by simp [state]) (by simp [state])
    exact ⟨fun _ _ => flight, fun _ => latches.landing (by simp [state])⟩
  | _ => exact ⟨latches.flight, latches.landing⟩

theorem after_latches (p : Params K) (run : List (Event K)) :
    LatchesClear ((flight p).after run) := by
  apply (flight p).invariant (fun _ n => LatchesClear n)
  · exact ⟨fun _ _ => ⟨rfl, rfl⟩, fun _ => ⟨rfl, rfl⟩⟩
  · intro past e latches
    exact move_latches (step_move e latches) latches

/-- Every step of every run is one of the listed moves. -/
theorem after_move (p : Params K) (past : List (Event K)) (e : Event K) :
    Move p ((flight p).after past) e ((flight p).after (e :: past))
      ((flight p).emitted past e) :=
  step_move e (after_latches p past)

theorem move_tick {p : Params K} {n n' : Node K} {e : Event K} {out : List (Output K)}
    (moved : Move p n e n' out) (control : e.callback = .control)
    (running : n.process = .running) : Tick p e.now n n' out := by
  cases moved with
  | stopped _ gone => exact absurd running gone
  | refused _ goal | emptyPlan _ goal | accepted _ goal =>
    rw [control] at goal
    exact goal.elim
  | tick now _ went => exact went
  | _ => cases control

theorem after_tick {p : Params K} {past : List (Event K)} {e : Event K}
    (control : e.callback = .control) (running : ((flight p).after past).process = .running) :
    Tick p e.now ((flight p).after past) ((flight p).after (e :: past))
      ((flight p).emitted past e) :=
  move_tick (after_move p past e) control running

/- Messages received. -/

def latestStatus : List (Event K) → VehicleStatus
  | [] => .default
  | e :: past =>
    match e.callback with
    | .vehicleStatus msg => msg
    | _ => latestStatus past

theorem tick_keeps_messages {p : Params K} {now : Int} {n n' : Node K} {out : List (Output K)}
    (went : Tick p now n n' out) :
    n'.vehicleLocalPosition = n.vehicleLocalPosition ∧ n'.vehicleStatus = n.vehicleStatus ∧
      n'.lowThrottleSince = n.lowThrottleSince := by
  cases went <;> exact ⟨rfl, rfl, rfl⟩

theorem move_running {p : Params K} {n n' : Node K} {e : Event K} {out : List (Output K)}
    (moved : Move p n e n' out) (running : n'.process = .running) : n.process = .running := by
  cases moved <;> assumption

theorem running_before {p : Params K} {past : List (Event K)} {e : Event K}
    (running : ((flight p).after (e :: past)).process = .running) :
    ((flight p).after past).process = .running :=
  move_running (after_move p past e) running

theorem move_status {p : Params K} {n n' : Node K} {e : Event K} {out : List (Output K)}
    (moved : Move p n e n' out) (running : n.process = .running) :
    n'.vehicleStatus =
      match e.callback with
      | .vehicleStatus msg => msg
      | _ => n.vehicleStatus := by
  cases moved with
  | stopped _ gone => exact absurd running gone
  | tick now _ went => exact (tick_keeps_messages went).2.1
  | refused _ goal | emptyPlan _ goal | accepted _ goal =>
    obtain ⟨now, callback⟩ := e
    cases callback <;> first | rfl | exact goal.elim
  | _ => rfl

theorem status_is_latest {p : Params K} {run : List (Event K)}
    (running : ((flight p).after run).process = .running) :
    ((flight p).after run).vehicleStatus = latestStatus run := by
  revert running
  apply (flight p).invariant
    (fun run n => n.process = .running → n.vehicleStatus = latestStatus run)
  · intro _
    rfl
  · intro past e ih running
    have before := running_before running
    rw [move_status (after_move p past e) before, ih before]
    rfl

end OffboardControl
