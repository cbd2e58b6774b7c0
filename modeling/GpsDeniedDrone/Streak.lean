import GpsDeniedDrone.PastTime

/-!
Dwell timers. A condition is looked at from time to time; the timer remembers when
it was first found true in the present unbroken run of true findings and forgets on
the first false one. The timer is related to the history of findings itself, so that
a program's single field can be read as a statement about everything it has seen.
-/
namespace Streak
open PastTime
variable {Event Time : Type}

abbrev Finding (Event : Type) := List Event → Event → Option Bool

def streak (time : Event → Time) (seen : Finding Event) : List Event → Option Time
  | [] => none
  | e :: past =>
    match seen past e with
    | none => streak time seen past
    | some true => some ((streak time seen past).getD (time e))
    | some false => none

def latest (time : Event → Time) (look : Moment Event) [∀ past e, Decidable (look past e)] :
    List Event → Option Time
  | [] => none
  | e :: past => if look past e then some (time e) else latest time look past

def ClockMonotone [LE Time] (time : Event → Time) : Moment Event :=
  fun past e => ∀ prev ∈ past, time prev ≤ time e

instance [LE Time] [DecidableLE Time] (time : Event → Time) (past : List Event) (e : Event) :
    Decidable (ClockMonotone time past e) :=
  inferInstanceAs (Decidable (∀ prev ∈ past, time prev ≤ time e))

section Latest
variable {time : Event → Time} {look : Moment Event} [∀ past e, Decidable (look past e)]
  {run : List Event}

theorem latest_is_event_time {t : Time} (some_t : latest time look run = some t) :
    ∃ e ∈ run, time e = t := by
  induction run with
  | nil => cases some_t
  | cons e past ih =>
    simp only [latest] at some_t
    split at some_t
    · exact ⟨e, List.mem_cons_self, Option.some.inj some_t⟩
    · obtain ⟨a, mem, eq⟩ := ih some_t
      exact ⟨a, List.mem_cons_of_mem e mem, eq⟩

theorem latest_of_since {anchor hold : Moment Event}
    (looked : ∀ past e, anchor past e → look past e) (since : Since anchor hold run) :
    ∃ t, latest time look run = some t := by
  induction run with
  | nil => exact since.elim
  | cons e past ih =>
    by_cases here : look past e
    · exact ⟨time e, by simp [latest, here]⟩
    · rcases since with now | ⟨_, before⟩
      · exact absurd (looked past e now) here
      · obtain ⟨t, eq⟩ := ih before
        exact ⟨t, by simp [latest, here, eq]⟩

end Latest

theorem streak_congr {time : Event → Time} {seen seen' : Finding Event} {run : List Event}
    (same : Always (fun past e => seen past e = seen' past e) run) :
    streak time seen run = streak time seen' run := by
  induction run with
  | nil => rfl
  | cons e past ih => simp only [streak, same.1, ih same.2]

theorem streak_is_event_time {time : Event → Time} {seen : Finding Event} {run : List Event}
    {start : Time} (some_start : streak time seen run = some start) :
    ∃ e ∈ run, time e = start := by
  induction run generalizing start with
  | nil => simp [streak] at some_start
  | cons e past ih =>
    simp only [streak] at some_start
    split at some_start
    · obtain ⟨a, mem, eq⟩ := ih some_start
      exact ⟨a, List.mem_cons_of_mem e mem, eq⟩
    · cases before : streak time seen past with
      | none => exact ⟨e, by simp, by simpa [before] using some_start⟩
      | some s =>
        obtain ⟨a, mem, eq⟩ := ih before
        have same : s = start := by simpa [before] using some_start
        exact ⟨a, List.mem_cons_of_mem e mem, eq.trans same⟩
    · cases some_start

/-- The timer has run for as long as `old` asks exactly when the history shows a true
    finding that old with no false one since. `old` is any condition that only gets
    easier for earlier times. -/
theorem streak_iff_since [PartialOrder Time] {time : Event → Time} {seen : Finding Event}
    {run : List Event}
    (clock : Always (ClockMonotone time) run) (old : Time → Prop)
    (down : ∀ a b, a ≤ b → old b → old a) :
    (∃ start, streak time seen run = some start ∧ old start) ↔
      Since (fun past e => seen past e = some true ∧ old (time e))
        (fun past e => seen past e ≠ some false) run := by
  induction run with
  | nil => simp [streak, Since]
  | cons e past ih =>
    have earlier := ih clock.2
    simp only [streak, Since]
    cases found : seen past e with
    | none => simpa using earlier
    | some b =>
      cases b with
      | false => simp
      | true =>
        cases before : streak time seen past with
        | none =>
          have never : ¬ Since (fun past e => seen past e = some true ∧ old (time e))
              (fun past e => seen past e ≠ some false) past := by
            intro since
            obtain ⟨start, eq, _⟩ := earlier.mpr since
            simp [before] at eq
          simp [never]
        | some start =>
          obtain ⟨a, mem, eq⟩ := streak_is_event_time before
          have le : start ≤ time e := eq ▸ clock.1 a mem
          have since : old start ↔ Since (fun past e => seen past e = some true ∧ old (time e))
              (fun past e => seen past e ≠ some false) past := by
            rw [← earlier]
            simp [before]
          simp only [Option.getD_some, Option.some.injEq, exists_eq_left', true_and, ne_eq,
            reduceCtorEq, not_false_eq_true, ← since]
          constructor
          · exact Or.inr
          · intro either
            rcases either with now | before
            · exact down start (time e) le now
            · exact before

section Samples
variable {time : Event → Time} {seen : Event → Option Bool} {run : List Event}

theorem streak_latest {start : Time} (alive : streak time (fun _ e => seen e) run = some start) :
    ∃ e ∈ run, seen e = some true ∧
      latest time (fun _ e => (seen e).isSome = true) run = some (time e) := by
  induction run generalizing start with
  | nil => cases alive
  | cons e past ih =>
    cases found : seen e with
    | none =>
      obtain ⟨a, mem, low, last⟩ := ih (by simpa [streak, found] using alive)
      exact ⟨a, List.mem_cons_of_mem e mem, low, by simpa [latest, found] using last⟩
    | some b =>
      cases b with
      | true => exact ⟨e, List.mem_cons_self, found, by simp [latest, found]⟩
      | false => simp [streak, found] at alive

theorem latest_ge [Preorder Time] (clock : Always (ClockMonotone time) run) {e : Event}
    (mem : e ∈ run) (looked : (seen e).isSome = true) :
    ∃ t, latest time (fun _ e => (seen e).isSome = true) run = some t ∧ time e ≤ t := by
  induction run with
  | nil => cases mem
  | cons a past ih =>
    by_cases here : (seen a).isSome = true
    · have le : time e ≤ time a := by
        rcases List.mem_cons.mp mem with rfl | before
        · exact le_refl _
        · exact clock.1 e before
      exact ⟨time a, by simp [latest, here], le⟩
    · rcases List.mem_cons.mp mem with rfl | before
      · exact absurd looked here
      · obtain ⟨t, last, le⟩ := ih clock.2 before
        exact ⟨t, by simpa [latest, here] using last, le⟩

end Samples

section Looking
variable (look bad : Moment Event)

/-- Found bad at some moment, and at every later one that looked. -/
def Unbroken : List Event → Prop :=
  Since (fun past e => look past e ∧ bad past e) (fun past e => look past e → bad past e)

def Began (time : Event → Time) (old : Time → Prop) : List Event → Prop :=
  Since (fun past e => (look past e ∧ bad past e) ∧ ¬ Unbroken look bad past ∧ old (time e))
    (fun past e => look past e → bad past e)

variable {look bad}

theorem unbroken_of_began {time : Event → Time} {old : Time → Prop} {run : List Event}
    (began : Began look bad time old run) : Unbroken look bad run := by
  induction run with
  | nil => exact began.elim
  | cons e past ih =>
    rcases began with ⟨found, _⟩ | ⟨held, before⟩
    · exact Or.inl found
    · exact Or.inr ⟨held, ih before⟩

variable (look bad) [∀ past e, Decidable (look past e)] [∀ past e, Decidable (bad past e)]

/-- The finding of a check that runs at some moments and has a verdict at each. -/
def findingOf : Finding Event := fun past e =>
  if look past e then some (decide (bad past e)) else none

theorem findingOf_true {past : List Event} {e : Event} :
    findingOf look bad past e = some true ↔ look past e ∧ bad past e := by
  by_cases looked : look past e <;> simp [findingOf, looked]

theorem findingOf_not_false {past : List Event} {e : Event} :
    findingOf look bad past e ≠ some false ↔ (look past e → bad past e) := by
  by_cases looked : look past e <;> simp [findingOf, looked]

variable {time : Event → Time} {run : List Event}

theorem streak_none_iff :
    streak time (findingOf look bad) run = none ↔ ¬ Unbroken look bad run := by
  induction run with
  | nil => simp [streak, Unbroken, Since]
  | cons e past ih =>
    simp only [Unbroken] at ih
    by_cases looked : look past e
    · by_cases found : bad past e <;> simp [streak, findingOf, Unbroken, Since, looked, found]
    · simp [streak, findingOf, Unbroken, Since, looked, ih]

theorem streak_iff_began (old : Time → Prop) :
    (∃ start, streak time (findingOf look bad) run = some start ∧ old start) ↔
      Began look bad time old run := by
  induction run with
  | nil => simp [streak, Began, Since]
  | cons e past ih =>
    have before : Began look bad time old (e :: past) ↔
        ((look past e ∧ bad past e) ∧ ¬ Unbroken look bad past ∧ old (time e)) ∨
          (look past e → bad past e) ∧ Began look bad time old past := Iff.rfl
    rw [before]
    by_cases looked : look past e
    · by_cases found : bad past e
      · cases earlier : streak time (findingOf look bad) past with
        | none =>
          -- a run of bad findings begins here
          have fresh := (streak_none_iff look bad).mp earlier
          have none_began : ¬ Began look bad time old past := fun began =>
            fresh (unbroken_of_began began)
          simp [streak, findingOf, looked, found, earlier, fresh, none_began]
        | some start =>
          have running : Unbroken look bad past := by
            by_contra broken
            simp [(streak_none_iff look bad).mpr broken] at earlier
          simp [streak, findingOf, looked, found, earlier, running, ← ih]
      · simp [streak, findingOf, looked, found]
    · simp [streak, findingOf, looked, ← ih]

theorem began_iff_since [PartialOrder Time] (clock : Always (ClockMonotone time) run)
    (old : Time → Prop) (down : ∀ a b, a ≤ b → old b → old a) :
    Began look bad time old run ↔
      Since (fun past e => (look past e ∧ bad past e) ∧ old (time e))
        (fun past e => look past e → bad past e) run := by
  rw [← streak_iff_began, streak_iff_since clock old down]
  simp only [findingOf_true, findingOf_not_false]

end Looking
end Streak
