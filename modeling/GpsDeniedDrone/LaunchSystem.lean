import Mathlib.Data.List.Count
import Mathlib.Data.List.Nodup

/-!
A launch system, left open but for what it promises: it visits the entities of a
description in their order, which starts processes and registers what to do when one of
them exits, and at an exit it visits what the registered handlers return. An exception ends
the visit, and nothing starts any more after a shutdown or an exception. A gated description
starts one process and everything else in reaction to its exit.
-/
namespace LaunchSystem
variable {Program : Type}

inductive Entity (Program : Type) where
  | start (program : Program)
  | onExit (target : Program) (reaction : Int → List (Entity Program))
  | shutdown (reason : String)
  | fail (error : String)

inductive Event (Program : Type) where
  | launched
  | exited (p : Program) (code : Int)
  | interrupted

/-- One event the system handles, with the entities it visits for it and the processes these
    start. -/
structure Turn (Program : Type) where
  event : Event Program
  visited : List (Entity Program)
  started : List Program

/-- A system is known by its histories, newest turn first, for each description. -/
abbrev System (Program : Type) := List (Entity Program) → List (Turn Program) → Prop

/-- The entities up to the first one that fails. -/
def reached : List (Entity Program) → List (Entity Program)
  | [] => []
  | .fail error :: _ => [.fail error]
  | e :: rest => e :: reached rest

def Entity.process : Entity Program → Option Program
  | .start p => some p
  | _ => none

def Entity.handler : Entity Program → Option (Program × (Int → List (Entity Program)))
  | .onExit target reaction => some (target, reaction)
  | _ => none

def Entity.ends : Entity Program → Bool
  | .shutdown _ | .fail _ => true
  | _ => false

def starts (entities : List (Entity Program)) : List Program := entities.filterMap Entity.process

@[simp] theorem starts_nil : starts ([] : List (Entity Program)) = [] := rfl

@[simp] theorem starts_start (p : Program) (rest : List (Entity Program)) :
    starts (.start p :: rest) = p :: starts rest := rfl

@[simp] theorem starts_onExit (p : Program) (reaction : Int → List (Entity Program))
    (rest : List (Entity Program)) : starts (.onExit p reaction :: rest) = starts rest := rfl

def handlers (entities : List (Entity Program)) : List (Program × (Int → List (Entity Program))) :=
  entities.filterMap Entity.handler

def started : List (Turn Program) → List Program
  | [] => []
  | turn :: past => started past ++ turn.started

def registered : List (Turn Program) → List (Program × (Int → List (Entity Program)))
  | [] => []
  | turn :: past => (handlers turn.visited).reverse ++ registered past

def Ended (history : List (Turn Program)) : Prop :=
  ∃ turn ∈ history, ∃ e ∈ turn.visited, e.ends = true

theorem quiet_not_ended {history : List (Turn Program)}
    (quiet : (history.all fun turn => turn.visited.all fun e => !e.ends) = true) :
    ¬ Ended history := by
  rintro ⟨turn, mem, e, visited, ends⟩
  have still := List.all_eq_true.mp (List.all_eq_true.mp quiet turn mem) e visited
  rw [ends] at still
  cases still

section Promises
variable [DecidableEq Program]

def Event.exits (p : Program) : Event Program → Bool
  | .exited q _ => q = p
  | _ => false

def exits (p : Program) (history : List (Turn Program)) : Nat :=
  history.countP fun turn => turn.event.exits p

def reactions (past : List (Turn Program)) (p : Program) (code : Int) : List (Entity Program) :=
  ((registered past).filter fun h => h.1 = p).flatMap fun h => h.2 code

/-- What is relied on, in the words of the launch system's own documentation: the
    description is visited first and once; only processes that run exit; every handler
    of an exited process is called; only a visited start action starts a process, and it
    starts one; an interrupt shuts the launch down; and after a shutdown or an exception
    no process is started. -/
structure Documented (system : System Program) : Prop where
  earlier : ∀ {description turn past}, system description (turn :: past) → system description past
  first : ∀ {description turn past}, system description (turn :: past) →
    (turn.event = .launched ↔ past = [])
  visitsDescription : ∀ {description turn past}, system description (turn :: past) →
    turn.event = .launched → turn.visited = reached description
  exitsRunning : ∀ {description turn past p code}, system description (turn :: past) →
    turn.event = .exited p code → exits p past < (started past).count p
  handlesExit : ∀ {description turn past p code}, system description (turn :: past) →
    turn.event = .exited p code → ¬ Ended past → turn.visited = reached (reactions past p code)
  shutsDown : ∀ {description turn past}, system description (turn :: past) →
    turn.event = .interrupted → ∃ reason, turn.visited = [.shutdown reason]
  startsVisited : ∀ {description turn past}, system description (turn :: past) →
    turn.started.Sublist (starts turn.visited)
  endsForGood : ∀ {description turn past}, system description (turn :: past) → Ended past →
    turn.started = []

end Promises

/- Descriptions. -/

theorem reached_subset {entities : List (Entity Program)} {e : Entity Program}
    (mem : e ∈ reached entities) : e ∈ entities := by
  induction entities with
  | nil => exact mem
  | cons first rest ih =>
    cases first with
    | fail error =>
      rw [List.mem_singleton.mp mem]
      exact List.mem_cons_self
    | _ =>
      rcases List.mem_cons.mp mem with rfl | later
      · exact List.mem_cons_self
      · exact List.mem_cons_of_mem _ (ih later)

theorem reached_whole {entities : List (Entity Program)}
    (sound : ∀ e ∈ entities, ∀ error, e ≠ .fail error) : reached entities = entities := by
  induction entities with
  | nil => rfl
  | cons first rest ih =>
    have whole := ih fun e mem => sound e (List.mem_cons_of_mem _ mem)
    cases first with
    | fail error => exact absurd rfl (sound _ List.mem_cons_self error)
    | _ => simp [reached, whole]

def Shuts (entities : List (Entity Program)) : Prop :=
  ∀ e ∈ entities, ∃ reason, e = .shutdown reason

def ShutsDown (reaction : Int → List (Entity Program)) : Prop :=
  ∀ code, ∃ reason, reaction code = [.shutdown reason]

/-- A description that leaves the gate alone and reacts to exits by shutting down. -/
def Plan (gate : Program) (description : List (Entity Program)) : Prop :=
  ∀ e ∈ description,
    match e with
    | .start p => p ≠ gate
    | .onExit target reaction => target ≠ gate ∧ ShutsDown reaction
    | .shutdown _ => False
    | .fail _ => True

def gated (gate : Program) (reaction : Int → List (Entity Program)) : List (Entity Program) :=
  [.start gate, .onExit gate reaction]

theorem gated_reached (gate : Program) (reaction : Int → List (Entity Program)) :
    reached (gated gate reaction) = gated gate reaction := rfl

theorem shuts_starts {entities : List (Entity Program)} (shuts : Shuts entities) :
    starts entities = [] := by
  apply List.filterMap_eq_nil_iff.mpr
  intro e mem
  obtain ⟨_, rfl⟩ := shuts e mem
  rfl

theorem shuts_handlers {entities : List (Entity Program)} (shuts : Shuts entities) :
    handlers entities = [] := by
  apply List.filterMap_eq_nil_iff.mpr
  intro e mem
  obtain ⟨_, rfl⟩ := shuts e mem
  rfl

theorem mem_starts {entities : List (Entity Program)} {p : Program} :
    p ∈ starts entities ↔ .start p ∈ entities := by
  constructor
  · intro mem
    obtain ⟨e, written, process⟩ := List.mem_filterMap.mp mem
    cases e with
    | start q =>
      cases process
      exact written
    | _ => cases process
  · intro mem
    exact List.mem_filterMap.mpr ⟨_, mem, rfl⟩

theorem mem_handlers {entities : List (Entity Program)} {p : Program}
    {reaction : Int → List (Entity Program)} :
    (p, reaction) ∈ handlers entities ↔ .onExit p reaction ∈ entities := by
  constructor
  · intro mem
    obtain ⟨e, written, handler⟩ := List.mem_filterMap.mp mem
    cases e with
    | onExit target r =>
      cases handler
      exact written
    | _ => cases handler
  · intro mem
    exact List.mem_filterMap.mpr ⟨_, mem, rfl⟩

theorem starts_not_gate {gate : Program} {description : List (Entity Program)}
    (plan : Plan gate description) : gate ∉ starts (reached description) :=
  fun mem => plan _ (reached_subset (mem_starts.mp mem)) rfl

section Histories
variable [DecidableEq Program]

/-- Where a launch stands that has been given `entities` to visit, after the processes of
    `before` were started and the handlers of `old` registered. -/
structure Given (before : List Program) (old : List (Program × (Int → List (Entity Program))))
    (entities : List (Entity Program)) (history : List (Turn Program)) : Prop where
  started : (started history).Sublist (before ++ starts (reached entities))
  registered : ¬ Ended history → registered history = (handlers (reached entities)).reverse ++ old

variable {system : System Program} {description entities : List (Entity Program)}
  {turn : Turn Program} {past : List (Turn Program)} {before : List Program}
  {old : List (Program × (Int → List (Entity Program)))} {p gate : Program} {code : Int}
  {reaction : Int → List (Entity Program)}

omit [DecidableEq Program] in
theorem ended_append {past : List (Turn Program)} (ended : Ended past)
    (later : List (Turn Program)) : Ended (later ++ past) := by
  obtain ⟨turn, mem, final⟩ := ended
  exact ⟨turn, List.mem_append_right _ mem, final⟩

theorem nothing_starts_after_end (documented : Documented system) {later : List (Turn Program)}
    (happens : system description (later ++ past)) (ended : Ended past) :
    started (later ++ past) = started past := by
  induction later with
  | nil => rfl
  | cons turn later ih =>
    rw [List.cons_append, started, documented.endsForGood happens (ended_append ended later),
      List.append_nil]
    exact ih (documented.earlier happens)

theorem started_quiet (documented : Documented system)
    (happens : system description (turn :: past)) (quiet : ¬ Ended past → Shuts turn.visited) :
    started (turn :: past) = started past := by
  have nothing : turn.started = [] := by
    by_cases ended : Ended past
    · exact documented.endsForGood happens ended
    · have visited := documented.startsVisited happens
      rw [shuts_starts (quiet ended)] at visited
      exact List.sublist_nil.mp visited
  rw [started, nothing, List.append_nil]

theorem given_quiet (documented : Documented system) (happens : system description (turn :: past))
    (given : Given before old entities past) (quiet : ¬ Ended past → Shuts turn.visited) :
    Given before old entities (turn :: past) := by
  constructor
  · rw [started_quiet documented happens quiet]
    exact given.started
  · intro up
    have still : ¬ Ended past := fun ended => up (ended_append ended [turn])
    rw [registered, shuts_handlers (quiet still)]
    exact given.registered still

theorem given_interrupted (documented : Documented system)
    (happens : system description (turn :: past)) (event : turn.event = .interrupted)
    (given : Given before old entities past) : Given before old entities (turn :: past) := by
  apply given_quiet documented happens given
  intro _ e mem
  obtain ⟨reason, visited⟩ := documented.shutsDown happens event
  rw [visited] at mem
  exact ⟨reason, List.mem_singleton.mp mem⟩

theorem given_visited (documented : Documented system) (happens : system description (turn :: past))
    (visited : turn.visited = reached entities) (started_before : (started past).Sublist before)
    (registered_before : ¬ Ended past → registered past = old) :
    Given before old entities (turn :: past) := by
  constructor
  · have now := documented.startsVisited happens
    rw [visited] at now
    exact started_before.append now
  · intro up
    rw [registered, visited, registered_before fun ended => up (ended_append ended [turn])]

theorem given_first (documented : Documented system) (happens : system description [turn]) :
    Given [] [] description [turn] :=
  given_visited documented happens
    (documented.visitsDescription happens ((documented.first happens).mpr rfl))
    (List.Sublist.refl _) fun _ => rfl

theorem plan_reactions (plan : Plan gate entities) (given : Given before old entities past)
    (up : ¬ Ended past) (others : ∀ h ∈ old, h.1 ≠ p) (code : Int) :
    Shuts (reactions past p code) := by
  intro e mem
  obtain ⟨h, mine, returned⟩ := List.mem_flatMap.mp mem
  obtain ⟨mem, target⟩ := List.mem_filter.mp mine
  rw [given.registered up] at mem
  rcases List.mem_append.mp mem with planned | earlier
  · have written := reached_subset (mem_handlers.mp (List.mem_reverse.mp planned))
    obtain ⟨reason, only⟩ := (plan _ written).2 code
    rw [only] at returned
    exact ⟨reason, List.mem_singleton.mp returned⟩
  · exact absurd (of_decide_eq_true target) (others h earlier)

theorem plan_exit_shuts (documented : Documented system)
    (happens : system description (turn :: past)) (event : turn.event = .exited p code)
    (plan : Plan gate entities) (given : Given before old entities past)
    (others : ∀ h ∈ old, h.1 ≠ p) (up : ¬ Ended past) : Shuts turn.visited := by
  intro e mem
  rw [documented.handlesExit happens event up] at mem
  exact plan_reactions plan given up others code e (reached_subset mem)

/-- An exit under a plan changes nothing, or it shuts the launch down. -/
theorem given_exit (documented : Documented system) (happens : system description (turn :: past))
    (event : turn.event = .exited p code) (plan : Plan gate entities)
    (given : Given before old entities past) (others : ∀ h ∈ old, h.1 ≠ p) :
    Given before old entities (turn :: past) :=
  given_quiet documented happens given (plan_exit_shuts documented happens event plan given others)

theorem guarded_exit_ended (documented : Documented system)
    (happens : system description (turn :: past)) (event : turn.event = .exited p code)
    (plan : Plan gate entities) (given : Given before old entities past)
    (others : ∀ h ∈ old, h.1 ≠ p) (guarded : .onExit p reaction ∈ reached entities) :
    Ended (turn :: past) := by
  by_cases ended : Ended past
  · exact ended_append ended [turn]
  · have whole : reached (reactions past p code) = reactions past p code := by
      apply reached_whole
      intro e mem error failed
      obtain ⟨reason, rfl⟩ := plan_reactions plan given ended others code e mem
      cases failed
    have mine : (p, reaction) ∈ registered past := by
      rw [given.registered ended]
      exact List.mem_append_left _ (List.mem_reverse.mpr (mem_handlers.mpr guarded))
    obtain ⟨reason, returned⟩ := (plan _ (reached_subset guarded)).2 code
    refine ⟨turn, List.mem_cons_self, .shutdown reason, ?_, rfl⟩
    rw [documented.handlesExit happens event ended, whole]
    refine List.mem_flatMap.mpr ⟨_, List.mem_filter.mpr ⟨mine, by simp⟩, ?_⟩
    change _ ∈ reaction code
    rw [returned]
    exact List.mem_singleton_self _

theorem earlier_history (documented : Documented system) {later : List (Turn Program)}
    (happens : system description (later ++ past)) : system description past := by
  induction later with
  | nil => exact happens
  | cons _ _ ih => exact ih (documented.earlier happens)

theorem guarded_exit_final (documented : Documented system) {later : List (Turn Program)}
    (happens : system description (later ++ turn :: past)) (event : turn.event = .exited p code)
    (plan : Plan gate entities) (given : Given before old entities past)
    (others : ∀ h ∈ old, h.1 ≠ p) (guarded : .onExit p reaction ∈ reached entities) :
    started (later ++ turn :: past) = started past := by
  have now := earlier_history documented happens
  rw [nothing_starts_after_end documented happens
    (guarded_exit_ended documented now event plan given others guarded)]
  exact started_quiet documented now (plan_exit_shuts documented now event plan given others)

theorem plan_given (documented : Documented system) (plan : Plan gate description)
    (happens : system description (turn :: past)) : Given [] [] description (turn :: past) := by
  induction past generalizing turn with
  | nil => exact given_first documented happens
  | cons last past ih =>
    have given := ih (documented.earlier happens)
    cases event : turn.event with
    | launched => cases (documented.first happens).mp event
    | exited p code => exact given_exit documented happens event plan given nofun
    | interrupted => exact given_interrupted documented happens event given

/-- A launch behind a gate waits for the gate to exit, and then stays with the plan for the
    gate's exit code. -/
inductive Stage (gate : Program) (reaction : Int → List (Entity Program))
    (history : List (Turn Program)) : Prop where
  | waiting (given : Given [] [] (gated gate reaction) history)
  | released (code : Int) (exited : ∃ turn ∈ history, turn.event = .exited gate code)
      (given : Given [gate] [(gate, reaction)] (reaction code) history)

theorem gate_gone (plan : Plan gate entities)
    (exited : ∃ turn ∈ past, turn.event = .exited gate code)
    (given : Given [gate] old entities past) : (started past).count gate ≤ exits gate past := by
  have once : (started past).count gate ≤ 1 := by
    have most := given.started.count_le gate
    rwa [List.count_append, List.count_eq_zero_of_not_mem (starts_not_gate plan),
      List.count_singleton_self] at most
  obtain ⟨turn, mem, event⟩ := exited
  have seen : 0 < exits gate past :=
    List.countP_pos_iff.mpr ⟨turn, mem, by simp [event, Event.exits]⟩
  omega

theorem gated_stage (documented : Documented system) (plan : ∀ code, Plan gate (reaction code))
    (happens : system (gated gate reaction) (turn :: past)) :
    Stage gate reaction (turn :: past) := by
  induction past generalizing turn with
  | nil => exact Stage.waiting (given_first documented happens)
  | cons last past ih =>
    cases event : turn.event with
    | launched => cases (documented.first happens).mp event
    | interrupted =>
      cases ih (documented.earlier happens) with
      | waiting given => exact Stage.waiting (given_interrupted documented happens event given)
      | released code exited given =>
        obtain ⟨t, mem, exit⟩ := exited
        exact Stage.released code ⟨t, List.mem_cons_of_mem _ mem, exit⟩
          (given_interrupted documented happens event given)
    | exited p code =>
      have running := documented.exitsRunning happens event
      cases ih (documented.earlier happens) with
      | waiting given =>
        have only : p = gate := by
          have mem := given.started.subset (List.count_pos_iff.mp (Nat.zero_lt_of_lt running))
          exact List.mem_singleton.mp mem
        subst only
        by_cases ended : Ended (last :: past)
        · exact Stage.waiting (given_quiet documented happens given fun up => absurd ended up)
        · have reacts : reactions (last :: past) p code = reaction code := by
            have handled : handlers (gated p reaction) = [(p, reaction)] := rfl
            rw [reactions, given.registered ended, gated_reached, handled]
            simp
          refine Stage.released code ⟨turn, List.mem_cons_self, event⟩
            (given_visited documented happens ?_ given.started given.registered)
          rw [documented.handlesExit happens event ended, reacts]
      | released code' exited given =>
        have other : gate ≠ p := by
          rintro rfl
          exact Nat.not_lt.mpr (gate_gone (plan code') exited given) running
        obtain ⟨t, mem, exit⟩ := exited
        refine Stage.released code' ⟨t, List.mem_cons_of_mem _ mem, exit⟩
          (given_exit documented happens event (plan code') given ?_)
        rintro h mem
        rw [List.mem_singleton.mp mem]
        exact other

/-- The system that keeps the promises to the letter and starts all it is asked to. -/
def obedient (description : List (Entity Program)) : List (Turn Program) → Prop
  | [] => True
  | turn :: past =>
    obedient description past ∧ (turn.event = .launched ↔ past = []) ∧
      (match turn.event with
      | .launched => turn.visited = reached description
      | .exited p code =>
        exits p past < (started past).count p ∧ turn.visited = reached (reactions past p code)
      | .interrupted => ∃ reason, turn.visited = [.shutdown reason]) ∧
      (Ended past ∧ turn.started = [] ∨ ¬ Ended past ∧ turn.started = starts turn.visited)

theorem obedient_documented : Documented (obedient : System Program) where
  earlier happens := happens.1
  first happens := happens.2.1
  visitsDescription happens event := by
    have visits := happens.2.2.1
    rwa [event] at visits
  exitsRunning happens event := by
    have visits := happens.2.2.1
    rw [event] at visits
    exact visits.1
  handlesExit happens event _ := by
    have visits := happens.2.2.1
    rw [event] at visits
    exact visits.2
  shutsDown happens event := by
    have visits := happens.2.2.1
    rwa [event] at visits
  startsVisited happens := by
    rcases happens.2.2.2 with ⟨_, nothing⟩ | ⟨_, all⟩
    · rw [nothing]
      exact List.nil_sublist _
    · rw [all]
  endsForGood happens ended := by
    rcases happens.2.2.2 with ⟨_, nothing⟩ | ⟨up, _⟩
    · exact nothing
    · exact absurd ended up

end Histories
end LaunchSystem
