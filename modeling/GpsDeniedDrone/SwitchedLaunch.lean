import GpsDeniedDrone.Bringup
import GpsDeniedDrone.LocalizationSwitch

/-!
A launch together with the switch process it starts and the PX4 the switch talks to. The
process runs `main` of set_localization_source.py, whose exit status is all the launch
learns of it; it may also be killed, with any other status, at any time.
-/
namespace SwitchedLaunch
open PastTime PythonFloat LaunchSystem Bringup SetLocalizationSource

/-- The command line; the connection string plays no part here. -/
structure CommandLine where
  source : String
  evPosX : Option String
  evPosY : Option String
  evPosZ : Option String

/-- `parse_args` and the check after it; `none` is `parser.error`. `float` reads a number as
    argparse has Python do. -/
def CommandLine.parse (float : String → Option PyFloat) (c : CommandLine) :
    Option (String × Option LeverArm) :=
  if c.source ∈ sources.map Prod.fst then
    match c.evPosX, c.evPosY, c.evPosZ with
    | none, none, none => some (c.source, none)
    | some x, some y, some z => do
      let x ← float x
      let y ← float y
      let z ← float z
      return (c.source, some ⟨x, y, z⟩)
    | _, _, _ => none
  else none

/-- `sys.exit(0 if success else 1)`, or the status of an uncaught exception. -/
def exitStatus : Phase → Option Int
  | .returned true => some 0
  | .returned false => some 1
  | .raised => some 1
  | .connecting | .deciding | .awaiting _ => none

def simCommandLine (args : SimArguments) : CommandLine :=
  ⟨args.localizationSource, none, none, none⟩

def hwCommandLine (args : HwArguments) : CommandLine :=
  ⟨args.localizationSource, some args.evPosX, some args.evPosY, some args.evPosZ⟩

inductive Action where
  | switch (a : SetLocalizationSource.Action)
  | launch (turn : Turn Bringup.Program)

def switchHistory : List Action → List SetLocalizationSource.Action
  | [] => []
  | .switch a :: past => a :: switchHistory past
  | .launch _ :: past => switchHistory past

def launchHistory : List Action → List (Turn Bringup.Program)
  | [] => []
  | .switch _ :: past => launchHistory past
  | .launch turn :: past => turn :: launchHistory past

section Runs
variable (float : String → Option PyFloat) (c : CommandLine) (start : String → BitVec 32)

/-- The switch process and its link; none where the command line was refused. -/
def call (run : List Action) : Option SetLocalizationSource.System :=
  (c.parse float).map fun parsed => (switch parsed.1 parsed.2 start).after (switchHistory run)

/-- The switch exits with status 0 only where `main` does. -/
def Truthful : List Action → Prop
  | [] => True
  | .switch _ :: past => Truthful past
  | .launch turn :: past =>
    Truthful past ∧ (turn.event = .exited .setLocalizationSource 0 →
      ∃ s, call float c start past = some s ∧ exitStatus s.call.phase = some 0)

structure Possible (system : LaunchSystem.System Bringup.Program)
    (description : List (Entity Bringup.Program)) (run : List Action) : Prop where
  launch : system description (launchHistory run)
  status : Truthful float c start run

variable {float c start}

theorem returned_kept {s : SetLocalizationSource.System} {ok : Bool}
    (returned : s.call.phase = .returned ok) (a : SetLocalizationSource.Action) :
    (SetLocalizationSource.step s a).1.call.phase = .returned ok := by
  cases a with
  | serve name word =>
    by_cases mem : (name, word) ∈ s.link.requests <;>
      simp [SetLocalizationSource.step, mem, returned]
  | _ => simp [SetLocalizationSource.step, returned]

theorem exitStatus_zero {phase : Phase} (zero : exitStatus phase = some 0) :
    phase = .returned true := by
  cases phase with
  | returned ok => cases ok <;> simp_all [exitStatus]
  | raised => simp [exitStatus] at zero
  | connecting | deciding | awaiting => cases zero

/-- The launch has seen status 0 only from a call that returned True, and that result
    stands. -/
theorem exit_zero_returned {run : List Action} (status : Truthful float c start run)
    (seen : ∃ turn ∈ launchHistory run, turn.event = .exited .setLocalizationSource 0) :
    ∃ source arm, c.parse float = some (source, arm) ∧
      ((switch source arm start).after (switchHistory run)).call.phase = .returned true := by
  induction run with
  | nil =>
    obtain ⟨turn, mem, _⟩ := seen
    cases mem
  | cons a past ih =>
    cases a with
    | switch a =>
      obtain ⟨source, arm, parsed, returned⟩ := ih status seen
      exact ⟨source, arm, parsed, returned_kept returned a⟩
    | launch turn =>
      obtain ⟨t, mem, exited⟩ := seen
      rcases List.mem_cons.mp mem with rfl | older
      · obtain ⟨s, called, zero⟩ := status.2 exited
        obtain ⟨parsed, accepted, rfl⟩ := Option.map_eq_some_iff.mp called
        exact ⟨parsed.1, parsed.2, accepted, exitStatus_zero zero⟩
      · exact ih status.1 ⟨t, older, exited⟩

theorem parse_source {float : String → Option PyFloat} {c : CommandLine} {source : String}
    {arm : Option LeverArm} (parsed : c.parse float = some (source, arm)) :
    source = c.source ∧ ∃ ints, sources.lookup c.source = some ints := by
  unfold CommandLine.parse at parsed
  split at parsed
  · rename_i choice
    have known : ∃ ints, sources.lookup c.source = some ints := by
      simp only [sources, List.map_cons, List.map_nil, List.mem_cons, List.not_mem_nil,
        or_false] at choice
      rcases choice with gps | vision
      · rw [gps]
        exact ⟨_, rfl⟩
      · rw [vision]
        exact ⟨_, rfl⟩
    split at parsed
    · cases parsed
      exact ⟨rfl, known⟩
    · simp only [Option.bind_eq_bind, Option.bind_eq_some_iff, Option.pure_def,
        Option.some.injEq, Prod.mk.injEq] at parsed
      obtain ⟨_, _, _, _, _, _, same, _⟩ := parsed
      exact ⟨same.symm, known⟩
    · cases parsed
  · cases parsed

variable (float c start)

/-- Whatever has been started beside the switch, the command line was good, its source is
    known, and PX4 holds the profile of that source: every integer, and every float that
    is a number and fits and before which PX4 held one. -/
def OnSource (run : List Action) : Prop :=
  ∀ p ∈ started (launchHistory run), p ≠ .setLocalizationSource →
    ∃ arm ints, c.parse float = some (c.source, arm) ∧ sources.lookup c.source = some ints ∧
      ∃ s, call float c start run = some s ∧
        ∀ q ∈ profile c.source ints (leverArmFrd arm),
          q.Proper (start q.name) → q.Held (s.link.store q.name)

variable {float c start}

theorem on_source {run : List Action} {localizationSource : String}
    (law : GatedLaw localizationSource (launchHistory run))
    (status : Truthful float c start run) : OnSource float c start run := by
  intro p mem other
  obtain ⟨source, arm, parsed, returned⟩ := exit_zero_returned status (law.gate p mem other)
  obtain ⟨rfl, ints, known⟩ := parse_source parsed
  have now : call float c start run =
      some ((switch c.source arm start).after (switchHistory run)) := by
    rw [call, parsed]
    rfl
  refine ⟨arm, ints, parsed, known, _, now, ?_⟩
  intro q q_mem proper
  exact held_of_true (after_sound known arm start _) returned q_mem proper

/-- From the command line to the parameters in PX4: whenever a launch with the switch has
    started anything else, over any behaviour of the MAVLink link and of the processes,
    PX4 holds the parameters of the source the launch was asked for. -/
theorem flies_on_the_source_asked_for {system : LaunchSystem.System Bringup.Program}
    (documented : Documented system) (float : String → Option PyFloat)
    (evaluate : String → Option Bool) (start : String → BitVec 32) (run : List Action) :
    (∀ args : SimArguments,
      Possible float (simCommandLine args) start system args.description run →
        OnSource float (simCommandLine args) start run) ∧
      ∀ args : HwArguments, evaluate args.useMavlinkSwitch = some true →
        Possible float (hwCommandLine args) start system (args.description evaluate) run →
          OnSource float (hwCommandLine args) start run := by
  constructor
  · intro args possible
    exact on_source (SimArguments.launch_law documented possible.launch) possible.status
  · intro args wired possible
    exact on_source (HwArguments.launch_law documented wired possible.launch) possible.status

/- A launch on vision with every message of the switch arriving. -/

def visionLaunch : SimArguments := { SimArguments.default with localizationSource := "vision" }

def visionRun : List Action :=
  .launch ⟨.exited .setLocalizationSource 0,
      flying (.mission "square") ++ [.start .loopbackOdometryBridge],
      [.mission "square", .loopbackOdometryBridge]⟩ ::
    (promptSwitch.map .switch ++
      [.launch ⟨.launched, visionLaunch.description, [.setLocalizationSource]⟩])

theorem launchHistory_switch (actions : List SetLocalizationSource.Action) (past : List Action) :
    launchHistory (actions.map .switch ++ past) = launchHistory past := by
  induction actions with
  | nil => rfl
  | cons a actions ih => exact ih

theorem switchHistory_switch (actions : List SetLocalizationSource.Action) (past : List Action) :
    switchHistory (actions.map .switch ++ past) = actions ++ switchHistory past := by
  induction actions with
  | nil => rfl
  | cons a actions ih => exact congrArg (a :: ·) ih

theorem truthful_switch {actions : List SetLocalizationSource.Action} {past : List Action}
    (truthful : Truthful float c start past) :
    Truthful float c start (actions.map .switch ++ past) := by
  induction actions with
  | nil => exact truthful
  | cons a actions ih => exact ih

theorem visionRun_history : launchHistory visionRun =
    [⟨.exited .setLocalizationSource 0,
      flying (.mission "square") ++ [.start .loopbackOdometryBridge],
      [.mission "square", .loopbackOdometryBridge]⟩,
    ⟨.launched, visionLaunch.description, [.setLocalizationSource]⟩] := by
  rw [visionRun, launchHistory, launchHistory_switch]
  rfl

theorem visionRun_possible (float : String → Option PyFloat) :
    Possible float (simCommandLine visionLaunch) (fun _ => 0) obedient visionLaunch.description
      visionRun where
  launch := by
    rw [visionRun_history]
    refine ⟨⟨trivial, by simp, rfl, Or.inr ⟨quiet_not_ended rfl, rfl⟩⟩, by simp,
      ⟨by decide, rfl⟩, Or.inr ⟨quiet_not_ended rfl, rfl⟩⟩
  status := by
    refine ⟨truthful_switch ⟨trivial, nofun⟩, fun _ => ⟨_, rfl, ?_⟩⟩
    rw [switchHistory_switch, switchHistory, switchHistory, List.append_nil]
    decide +kernel

theorem flies_on_the_source_asked_for_vision :
    .mission "square" ∈ started (launchHistory visionRun) ∧
      OnSource (fun _ => none) (simCommandLine visionLaunch) (fun _ => 0) visionRun := by
  constructor
  · rw [visionRun_history]
    decide
  · exact (flies_on_the_source_asked_for obedient_documented (fun _ => none) (fun _ => none)
      (fun _ => 0) visionRun).1 visionLaunch (visionRun_possible _)

end Runs
end SwitchedLaunch
