import GpsDeniedDrone.LaunchSystem

/-!
The launch files: autonomy.launch.py, which starts the flight node and takes the launch
down when it exits, the sensor and planner pieces, and the two entry points sim.launch.py
and hw.launch.py that put the localization switch before all of them. A launch file of
another package that is included counts as one process.
-/
namespace Bringup
open LaunchSystem

inductive Program where
  | setLocalizationSource
  | offboardControlNode
  | mission (name : String)
  | loopbackOdometryBridge
  | cameraImuBridge
  | realsense
  | openvins
  | openvinsOdometryBridge
  | vioOutputCheck
  | plannerServer
  | lifecycleManager
  | goalRelay
  deriving DecidableEq

/- autonomy.launch.py -/

def missions : List String := ["square"]

def unknownMission (mission : String) : String :=
  s!"Unknown mission '{mission}' — choose from ('square',)"

def unknownAction (action : String) : String :=
  s!"Unknown action '{action}' — choose 'hover' or 'mission'"

def exitReason : String := "flight/mission node exited — shutting down the rest of the launch"

def flying (flightNode : Program) : List (Entity Program) :=
  [.start flightNode, .onExit flightNode fun _ => [.shutdown exitReason]]

def launchAutonomy (action mission : String) : List (Entity Program) :=
  if action = "hover" then flying .offboardControlNode
  else if action = "mission" then
    if mission ∉ missions then [.fail (unknownMission mission)] else flying (.mission mission)
  else [.fail (unknownAction action)]

/- What sim.launch.py and hw.launch.py include. -/

def nav2Planner : List (Entity Program) :=
  [.start .plannerServer, .start .lifecycleManager, .start .goalRelay]

def vio : List (Entity Program) :=
  [.start .cameraImuBridge, .start .openvins, .start .openvinsOdometryBridge,
    .start .vioOutputCheck]

def hwVio : List (Entity Program) :=
  [.start .realsense, .start .openvins, .start .openvinsOdometryBridge, .start .vioOutputCheck]

/- sim.launch.py -/

structure SimArguments where
  action : String
  mission : String
  localizationSource : String
  vioBackend : String
  nav2 : String

def SimArguments.default : SimArguments := ⟨"mission", "square", "gps", "loopback", "false"⟩

/-- `_after_localization_source_set`. -/
def SimArguments.afterLocalizationSourceSet (args : SimArguments) (returncode : Int) :
    List (Entity Program) :=
  if returncode ≠ 0 then []
  else
    launchAutonomy args.action args.mission ++
      (if args.nav2 = "true" then nav2Planner else []) ++
      if args.localizationSource = "vision" then
        if args.vioBackend = "openvins" then vio else [.start .loopbackOdometryBridge]
      else []

def SimArguments.description (args : SimArguments) : List (Entity Program) :=
  gated .setLocalizationSource args.afterLocalizationSourceSet

/- hw.launch.py -/

structure HwArguments where
  action : String
  mission : String
  localizationSource : String
  useMavlinkSwitch : String
  evPosX : String
  evPosY : String
  evPosZ : String

def HwArguments.autonomyAndVioActions (args : HwArguments) : List (Entity Program) :=
  launchAutonomy args.action args.mission ++
    if args.localizationSource = "vision" then hwVio else []

def HwArguments.afterLocalizationSourceSet (args : HwArguments) (returncode : Int) :
    List (Entity Program) :=
  if returncode ≠ 0 then [] else args.autonomyAndVioActions

/-- An entity's condition as the launch system reads it; `none` where it is neither true
    nor false, which is an exception. -/
def onlyIf (wanted : Bool) (condition : Option Bool) (entities : List (Entity Program)) :
    List (Entity Program) :=
  match condition with
  | none => [.fail "InvalidConditionExpressionError"]
  | some value => if value = wanted then entities else []

/-- `evaluate` is how the launch system evaluates the text of a condition. -/
def HwArguments.description (evaluate : String → Option Bool) (args : HwArguments) :
    List (Entity Program) :=
  let useMavlinkSwitch := evaluate args.useMavlinkSwitch
  onlyIf true useMavlinkSwitch [.start .setLocalizationSource] ++
    onlyIf true useMavlinkSwitch
      [.onExit .setLocalizationSource args.afterLocalizationSourceSet] ++
    onlyIf false useMavlinkSwitch args.autonomyAndVioActions

/- What the descriptions start. -/

def isFlightNode : Program → Bool
  | .offboardControlNode | .mission _ => true
  | _ => false

def publishesVisualOdometry : Program → Bool
  | .loopbackOdometryBridge | .openvinsOdometryBridge => true
  | _ => false

theorem launchAutonomy_cases (action mission : String) :
    (∃ error, launchAutonomy action mission = [.fail error]) ∨
      ∃ f, isFlightNode f = true ∧ launchAutonomy action mission = flying f := by
  unfold launchAutonomy
  split
  · exact Or.inr ⟨_, rfl, rfl⟩
  · split
    · split
      · exact Or.inl ⟨_, rfl⟩
      · exact Or.inr ⟨_, rfl, rfl⟩
    · exact Or.inl ⟨_, rfl⟩

/-- The pieces beside the flight node: they start processes and do nothing else. -/
def Plain (description : List (Entity Program)) : Prop :=
  ∀ e ∈ description, ∃ p, e = .start p ∧ isFlightNode p = false ∧ p ≠ .setLocalizationSource

theorem plain_append {a b : List (Entity Program)} (first : Plain a) (second : Plain b) :
    Plain (a ++ b) := fun e mem => (List.mem_append.mp mem).elim (first e) (second e)

/-- A launch that flies: a flight node with its exit guarded, and plain pieces beside it. -/
structure Flies (description : List (Entity Program)) : Prop where
  plan : Plan .setLocalizationSource description
  guarded : ∀ p, isFlightNode p = true → p ∈ starts (reached description) →
    ∃ reaction, .onExit p reaction ∈ reached description

theorem flies_nil : Flies [] := ⟨by simp [Plan], fun p _ mem => absurd mem List.not_mem_nil⟩

theorem autonomy_flies (action mission : String) {beside : List (Entity Program)}
    (plain : Plain beside) : Flies (launchAutonomy action mission ++ beside) := by
  have others : Plan .setLocalizationSource beside := by
    intro e mem
    obtain ⟨p, rfl, _, other⟩ := plain e mem
    exact other
  rcases launchAutonomy_cases action mission with ⟨error, failed⟩ | ⟨f, flight, launched⟩
  · rw [failed]
    refine ⟨fun e mem => ?_, fun p _ mem => absurd mem List.not_mem_nil⟩
    rcases List.mem_cons.mp mem with rfl | later
    · trivial
    · exact others e later
  · rw [launched]
    have apart : f ≠ .setLocalizationSource := by
      rintro rfl
      cases flight
    refine ⟨fun e mem => ?_, fun p flies mem => ?_⟩
    · rcases List.mem_cons.mp mem with rfl | later
      · exact apart
      rcases List.mem_cons.mp later with rfl | beside
      · exact ⟨apart, fun _ => ⟨exitReason, rfl⟩⟩
      · exact others e beside
    · have written := reached_subset (mem_starts.mp mem)
      rcases List.mem_cons.mp written with first | later
      · cases first
        exact ⟨_, List.mem_cons_of_mem _ List.mem_cons_self⟩
      · rcases List.mem_cons.mp later with second | more
        · cases second
        · obtain ⟨_, same, grounded, _⟩ := plain _ more
          cases same
          rw [grounded] at flies
          cases flies

theorem SimArguments.plain_beside (args : SimArguments) :
    Plain ((if args.nav2 = "true" then nav2Planner else []) ++
      if args.localizationSource = "vision" then
        if args.vioBackend = "openvins" then vio else [.start .loopbackOdometryBridge]
      else []) := by
  apply plain_append
  · split <;> simp [Plain, nav2Planner, isFlightNode]
  · split
    · split <;> simp [Plain, vio, isFlightNode]
    · simp [Plain]

theorem HwArguments.plain_beside (args : HwArguments) :
    Plain (if args.localizationSource = "vision" then hwVio else []) := by
  split <;> simp [Plain, hwVio, isFlightNode]

theorem SimArguments.flies (args : SimArguments) (code : Int) :
    Flies (args.afterLocalizationSourceSet code) := by
  unfold SimArguments.afterLocalizationSourceSet
  split
  · exact flies_nil
  · rw [List.append_assoc]
    exact autonomy_flies args.action args.mission args.plain_beside

theorem HwArguments.flies (args : HwArguments) : Flies args.autonomyAndVioActions :=
  autonomy_flies args.action args.mission args.plain_beside

structure Sparing (localizationSource : String) (programs : List Program) : Prop where
  once : programs.Nodup
  oneSource : (programs.filter publishesVisualOdometry).length ≤ 1
  vision : ∀ p ∈ programs, publishesVisualOdometry p = true → localizationSource = "vision"

theorem sparing_nil (localizationSource : String) : Sparing localizationSource [] :=
  ⟨List.nodup_nil, by simp, by simp⟩

theorem Sparing.sublist {localizationSource : String} {part whole : List Program}
    (sparing : Sparing localizationSource whole) (fewer : part.Sublist whole) :
    Sparing localizationSource part where
  once := sparing.once.sublist fewer
  oneSource := Nat.le_trans (fewer.filter _).length_le sparing.oneSource
  vision p mem := sparing.vision p (fewer.subset mem)

theorem Sparing.behind_switch {localizationSource : String} {programs : List Program}
    (sparing : Sparing localizationSource programs)
    (apart : .setLocalizationSource ∉ programs) :
    Sparing localizationSource ([.setLocalizationSource] ++ programs) where
  once := List.nodup_cons.mpr ⟨apart, sparing.once⟩
  oneSource := by simpa [publishesVisualOdometry] using sparing.oneSource
  vision p mem publishes := by
    rcases List.mem_cons.mp mem with rfl | beside
    · cases publishes
    · exact sparing.vision p beside publishes

theorem autonomy_sparing {action mission localizationSource : String}
    {beside : List (Entity Program)} (sparing : ∀ f, isFlightNode f = true →
      Sparing localizationSource (starts (reached (flying f ++ beside)))) :
    Sparing localizationSource (starts (reached (launchAutonomy action mission ++ beside))) := by
  rcases launchAutonomy_cases action mission with ⟨error, failed⟩ | ⟨f, flight, launched⟩
  · rw [failed]
    exact sparing_nil _
  · rw [launched]
    exact sparing f flight

theorem SimArguments.sparing (args : SimArguments) (code : Int) :
    Sparing args.localizationSource (starts (reached (args.afterLocalizationSourceSet code))) := by
  unfold SimArguments.afterLocalizationSourceSet
  split
  · exact sparing_nil _
  rw [List.append_assoc]
  apply autonomy_sparing
  intro f flight
  cases f with
  | offboardControlNode | mission name =>
    by_cases vision : args.localizationSource = "vision" <;>
      by_cases nav2 : args.nav2 = "true" <;> by_cases backend : args.vioBackend = "openvins" <;>
        constructor <;>
          simp [vision, nav2, backend, reached, flying, nav2Planner, vio, publishesVisualOdometry,
            List.filter_cons]
  | _ => cases flight

theorem HwArguments.sparing (args : HwArguments) :
    Sparing args.localizationSource (starts (reached args.autonomyAndVioActions)) := by
  apply autonomy_sparing
  intro f flight
  cases f with
  | offboardControlNode | mission name =>
    by_cases vision : args.localizationSource = "vision" <;> constructor <;>
      simp [vision, reached, flying, hwVio, publishesVisualOdometry, List.filter_cons]
  | _ => cases flight

/- Histories of a launch. -/

section Histories
variable {system : System Program} (documented : Documented system)
  {reaction : Int → List (Entity Program)} {description : List (Entity Program)}
  {history : List (Turn Program)} {localizationSource : String}

/-- What every launch keeps to: it is sparing, and from the exit of a flight node on it
    starts nothing. -/
structure Orderly (localizationSource : String) (history : List (Turn Program)) : Prop where
  sparing : Sparing localizationSource (started history)
  teardown : ∀ later turn past p code, history = later ++ turn :: past →
    turn.event = .exited p code → isFlightNode p = true → started history = started past

structure GatedLaw (localizationSource : String) (history : List (Turn Program)) : Prop
    extends Orderly localizationSource history where
  gate : ∀ p ∈ started history, p ≠ .setLocalizationSource →
    ∃ turn ∈ history, turn.event = .exited .setLocalizationSource 0

include documented

theorem exited_started {turn : Turn Program} {past : List (Turn Program)} {p : Program}
    {code : Int} (happens : system description (turn :: past))
    (event : turn.event = .exited p code) : p ∈ started past :=
  List.count_pos_iff.mp (Nat.zero_lt_of_lt (documented.exitsRunning happens event))

theorem gated_sparing (flies : ∀ code, Flies (reaction code))
    (sparing : ∀ code, Sparing localizationSource (starts (reached (reaction code))))
    (happens : system (gated .setLocalizationSource reaction) history) :
    Sparing localizationSource (started history) := by
  cases history with
  | nil => exact sparing_nil _
  | cons turn past =>
    cases gated_stage documented (fun code => (flies code).plan) happens with
    | waiting given =>
      exact ((sparing_nil localizationSource).behind_switch List.not_mem_nil).sublist given.started
    | released code _ given =>
      exact ((sparing code).behind_switch (starts_not_gate (flies code).plan)).sublist given.started

theorem gated_teardown (flies : ∀ code, Flies (reaction code)) {later past : List (Turn Program)}
    {turn : Turn Program} {p : Program} {code : Int}
    (happens : system (gated .setLocalizationSource reaction) (later ++ turn :: past))
    (event : turn.event = .exited p code) (flight : isFlightNode p = true) :
    started (later ++ turn :: past) = started past := by
  have now := earlier_history documented happens
  have begun := exited_started documented now event
  have apart : p ≠ .setLocalizationSource := by
    rintro rfl
    cases flight
  cases past with
  | nil => cases begun
  | cons last past =>
    cases gated_stage documented (fun code => (flies code).plan) (documented.earlier now) with
    | waiting given => exact absurd (List.mem_singleton.mp (given.started.subset begun)) apart
    | released code' _ given =>
      rcases List.mem_cons.mp (given.started.subset begun) with same | beside
      · exact absurd same apart
      · obtain ⟨_, guarded⟩ := (flies code').guarded p flight beside
        refine guarded_exit_final documented happens event (flies code').plan given ?_ guarded
        intro h mem
        rw [List.mem_singleton.mp mem]
        exact apart.symm

theorem gated_law (flies : ∀ code, Flies (reaction code))
    (confirmed : ∀ code, code ≠ 0 → reaction code = [])
    (sparing : ∀ code, Sparing localizationSource (starts (reached (reaction code))))
    (happens : system (gated .setLocalizationSource reaction) history) :
    GatedLaw localizationSource history where
  sparing := gated_sparing documented flies sparing happens
  teardown := by
    rintro later turn past p code rfl event flight
    exact gated_teardown documented flies happens event flight
  gate := by
    intro p mem other
    cases history with
    | nil => cases mem
    | cons turn past =>
      cases gated_stage documented (fun code => (flies code).plan) happens with
      | waiting given => exact absurd (List.mem_singleton.mp (given.started.subset mem)) other
      | released code exited given =>
        by_cases zero : code = 0
        · rwa [zero] at exited
        · have started := given.started.subset mem
          rw [confirmed code zero] at started
          exact absurd (List.mem_singleton.mp started) other

theorem direct_law (flies : Flies description)
    (sparing : Sparing localizationSource (starts (reached description)))
    (happens : system description history) :
    Orderly localizationSource history ∧ .setLocalizationSource ∉ started history := by
  have given : history = [] ∨ Given [] [] description history := by
    cases history with
    | nil => exact Or.inl rfl
    | cons turn past => exact Or.inr (plan_given documented flies.plan happens)
  have fewer : (started history).Sublist (starts (reached description)) := by
    rcases given with rfl | given
    · exact List.nil_sublist _
    · exact given.started
  refine ⟨⟨sparing.sublist fewer, ?_⟩, fun mem => starts_not_gate flies.plan (fewer.subset mem)⟩
  rintro later turn past p code rfl event flight
  have now := earlier_history documented happens
  have begun := exited_started documented now event
  cases past with
  | nil => cases begun
  | cons last past =>
    have given := plan_given documented flies.plan (documented.earlier now)
    obtain ⟨_, guarded⟩ := flies.guarded p flight (given.started.subset begun)
    exact guarded_exit_final documented happens event flies.plan given nofun guarded

theorem SimArguments.launch_law {args : SimArguments}
    (happens : system args.description history) : GatedLaw args.localizationSource history := by
  apply gated_law documented args.flies _ args.sparing happens
  intro code failed
  exact if_pos failed

omit documented in
theorem HwArguments.description_cases (evaluate : String → Option Bool) (args : HwArguments) :
    args.description evaluate =
      match evaluate args.useMavlinkSwitch with
      | none => [.fail "InvalidConditionExpressionError", .fail "InvalidConditionExpressionError",
          .fail "InvalidConditionExpressionError"]
      | some true => gated .setLocalizationSource args.afterLocalizationSourceSet
      | some false => args.autonomyAndVioActions := by
  unfold HwArguments.description
  cases evaluate args.useMavlinkSwitch with
  | none => rfl
  | some value => cases value <;> simp [onlyIf, gated]

theorem HwArguments.launch_law {evaluate : String → Option Bool} {args : HwArguments}
    (wired : evaluate args.useMavlinkSwitch = some true)
    (happens : system (args.description evaluate) history) :
    GatedLaw args.localizationSource history := by
  rw [args.description_cases, wired] at happens
  apply gated_law documented _ _ _ happens
  · intro code
    unfold HwArguments.afterLocalizationSourceSet
    split
    · exact flies_nil
    · exact args.flies
  · intro code failed
    exact if_pos failed
  · intro code
    unfold HwArguments.afterLocalizationSourceSet
    split
    · exact sparing_nil _
    · exact args.sparing

theorem HwArguments.unreadable {evaluate : String → Option Bool} {args : HwArguments}
    (neither : evaluate args.useMavlinkSwitch = none)
    (happens : system (args.description evaluate) history) : started history = [] := by
  rw [args.description_cases, neither] at happens
  cases history with
  | nil => rfl
  | cons turn past =>
    have plan : Plan Program.setLocalizationSource [.fail "InvalidConditionExpressionError",
        .fail "InvalidConditionExpressionError", .fail "InvalidConditionExpressionError"] := by
      simp [Plan]
    have given := plan_given documented plan happens
    exact List.sublist_nil.mp given.started

end Histories

/-- The law of every launch. `evaluate` reads the text of a condition. -/
structure LaunchLaw (system : System Program) (evaluate : String → Option Bool) : Prop where
  sim : ∀ (args : SimArguments) history, system args.description history →
    GatedLaw args.localizationSource history
  hw : ∀ (args : HwArguments) history, evaluate args.useMavlinkSwitch = some true →
    system (args.description evaluate) history → GatedLaw args.localizationSource history
  unreadable : ∀ (args : HwArguments) history, evaluate args.useMavlinkSwitch = none →
    system (args.description evaluate) history → started history = []
  unwired : ∀ args : HwArguments, evaluate args.useMavlinkSwitch = some false →
    args.description evaluate = args.afterLocalizationSourceSet 0 ∧
      ∀ history, system (args.description evaluate) history →
        Orderly args.localizationSource history ∧ .setLocalizationSource ∉ started history

/-- On any launch system that keeps its promises every launch with the switch, in simulation
    and on hardware, starts nothing else before the switch has exited with status 0, nothing
    twice, at most one visual odometry and that with vision only, and nothing once the
    flight node has ended; and the hardware launch without the switch is given just what it
    would have been given after a switch that succeeded. -/
theorem every_launch_is_gated {system : System Program} (documented : Documented system)
    (evaluate : String → Option Bool) : LaunchLaw system evaluate where
  sim _ _ happens := SimArguments.launch_law documented happens
  hw _ _ wired happens := HwArguments.launch_law documented wired happens
  unreadable _ _ neither happens := HwArguments.unreadable documented neither happens
  unwired args unwired := by
    have direct : args.description evaluate = args.autonomyAndVioActions := by
      rw [args.description_cases, unwired]
    rw [direct]
    exact ⟨rfl, fun history happens => direct_law documented args.flies args.sparing happens⟩

def squareHistory : List (Turn Program) :=
  [⟨.exited (.mission "square") 0, [.shutdown exitReason], []⟩,
    ⟨.exited .setLocalizationSource 0, flying (.mission "square"), [.mission "square"]⟩,
    ⟨.launched, SimArguments.default.description, [.setLocalizationSource]⟩]

theorem squareHistory_obedient : obedient SimArguments.default.description squareHistory := by
  refine ⟨⟨⟨trivial, ?_, rfl, Or.inr ⟨quiet_not_ended rfl, rfl⟩⟩, ?_, ⟨by decide, rfl⟩,
    Or.inr ⟨quiet_not_ended rfl, rfl⟩⟩, ?_, ⟨by decide, rfl⟩,
    Or.inr ⟨quiet_not_ended rfl, rfl⟩⟩ <;> simp

theorem every_launch_is_gated_square :
    started squareHistory = [.setLocalizationSource, .mission "square"] ∧
      GatedLaw "gps" squareHistory :=
  ⟨rfl, (every_launch_is_gated obedient_documented fun text =>
    if text = "true" then some true else if text = "false" then some false else none).sim _ _
      squareHistory_obedient⟩

end Bringup
