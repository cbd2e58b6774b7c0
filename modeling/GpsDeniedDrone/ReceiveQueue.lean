import GpsDeniedDrone.AnswerQueue
import GpsDeniedDrone.ParamConfirmation

/-!
`recv_match(type='PARAM_VALUE')` hands over the oldest PARAM_VALUE on the connection,
whatever parameter it is of. The requests of a call share that one queue.
-/
namespace SetLocalizationSource
open PythonFloat AnswerQueue

structure Report where
  name : String
  word : BitVec 32
  deriving DecidableEq

def Report.received (r : Report) : ParamValue := ⟨r.name, unpackFloat r.word⟩

/-- The verdict of `_set_param` or `_set_float_param` on the message it got. -/
def accepts (p : Param) (r : Report) : Bool := (p.confirm (some r.received)).1

/-- The same name and the value asked for, a float as near as its docstring asks. -/
def Carries (r : Report) (p : Param) : Prop :=
  r.name = p.name ∧
    match p.value with
    | .int value => mavlinkFloatToInt32 (unpackFloat r.word) = some value
    | .float value => exceeds (absDiff (unpackFloat r.word) value) (1 / 10000) = false

instance (r : Report) (p : Param) : Decidable (Carries r p) :=
  match p with
  | ⟨_, .int _⟩ => inferInstanceAs (Decidable (_ ∧ _))
  | ⟨_, .float _⟩ => inferInstanceAs (Decidable (_ ∧ _))

/-- `_set_param` or `_set_float_param` after its PARAM_SET, on the PARAM_VALUEs that come
    in within the timeout, oldest first; with the result, what it leaves unread. -/
def setParam (p : Param) (stream : List Report) : Bool × List Report := settle accepts p stream

/-- The loops of `set_localization_source`, each request with what comes in before the next. -/
def confirmations (rounds : List (Param × List Report)) (unread : List Report) : List Bool :=
  settleAll accepts rounds unread

theorem accepts_iff {p : Param} {r : Report} : accepts p r = true ↔ Carries r p := by
  obtain ⟨name, value⟩ := p
  cases value with
  | int value =>
    simp only [accepts, Param.confirm, confirmParam, Report.received, Carries]
    by_cases named : r.name = name
    · by_cases held : mavlinkFloatToInt32 (unpackFloat r.word) = some value <;>
        simp [named, held]
    · simp [named]
  | float value =>
    simp only [accepts, Param.confirm, confirmFloatParam, Report.received, Carries]
    by_cases named : r.name = name
    · simp only [named, ne_eq, not_true_eq_false, false_or, true_and]
      split
      · rename_i far
        rw [far]
        simp
      · rename_i near
        rw [Bool.eq_false_iff.mpr near]
        simp
    · simp [named]

theorem refuses_other {p : Param} {r : Report} (other : r.name ≠ p.name) : accepts p r = false :=
  Bool.eq_false_iff.mpr fun accepted => other (accepts_iff.mp accepted).1

theorem answer_setParam (c : Call) (p : Param) (stream : List Report) :
    (c.answer p (stream.head?.map Report.received)).1.ok = ((setParam p stream).1 && c.ok) := by
  obtain ⟨name, value⟩ := p
  cases stream with
  | nil => cases value <;> rfl
  | cons r stream => rfl

theorem shifted_of_names {late : Report} {answered : List (Param × Report)}
    (carried : ∀ pr ∈ answered, Carries pr.2 pr.1)
    (names : (late.name :: answered.map fun pr => pr.1.name).Nodup) :
    Shifted accepts late answered := by
  induction answered generalizing late with
  | nil => trivial
  | cons pr answered ih =>
    have named := (carried pr List.mem_cons_self).1
    obtain ⟨fresh, rest⟩ := List.nodup_cons.mp names
    have other : late.name ≠ pr.1.name := fun same => fresh (by simp [same])
    refine ⟨refuses_other other, ih (fun b mem => carried b (List.mem_cons_of_mem pr mem)) ?_⟩
    rw [named]
    exact rest

def Answered (p : Param) (queue : List Report) : Prop :=
  ∃ before m after, queue = before ++ m :: after ∧ Carries m p ∧ ∀ b ∈ before, b.name ≠ p.name

def OwnFirst (p : Param) (queue : List Report) : Prop := queue.head?.map Report.name = some p.name

def Undisturbed (rounds : List (Param × List Report)) (unread : List Report) : Prop :=
  ∀ (i : Nat) (p : Param) (queue : List Report), (queues rounds unread)[i]? = some (p, queue) →
    Answered p queue → (confirmations rounds unread)[i]? = some true

theorem setParam_iff_own_first {p : Param} {queue : List Report} (answered : Answered p queue) :
    (setParam p queue).1 = true ↔ OwnFirst p queue := by
  obtain ⟨before, m, after, rfl, carries, others⟩ := answered
  have first : (setParam p (before ++ m :: after)).1 = true ↔ before = [] :=
    settle_iff_first (accepts_iff.mpr carries) fun b mem => refuses_other (others b mem)
  rw [first]
  cases before with
  | nil => exact iff_of_true rfl (congrArg some carries.1)
  | cons b before =>
    have other := others b List.mem_cons_self
    exact iff_of_false nofun fun own => other (Option.some.inj own)

/-- After one message too many every later confirmation of a call fails, where all would
    have succeeded without it. -/
theorem late_answer_shifts {late : Report} {answered : List (Param × Report)}
    (carried : ∀ pr ∈ answered, Carries pr.2 pr.1)
    (names : (late.name :: answered.map fun pr => pr.1.name).Nodup) :
    confirmations (prompt answered) [] = (answered.map fun _ => true) ∧
      confirmations (prompt answered) [late] = (answered.map fun _ => false) :=
  ⟨settleAll_prompt fun pr mem => accepts_iff.mpr (carried pr mem),
    settleAll_shifted (shifted_of_names carried names)⟩

/-- The answers of a call are all recognised exactly when each request that has one finds
    a message of its own parameter first. -/
theorem confirmed_iff_first (rounds : List (Param × List Report)) (unread : List Report) :
    Undisturbed rounds unread ↔
      ∀ found ∈ queues rounds unread, Answered found.1 found.2 → OwnFirst found.1 found.2 := by
  have verdict (i : Nat) (p : Param) (queue : List Report)
      (here : (queues rounds unread)[i]? = some (p, queue)) :
      (confirmations rounds unread)[i]? = some (setParam p queue).1 := by
    rw [confirmations, settleAll_eq, List.getElem?_map, here]
    rfl
  constructor
  · intro calm found mem answered
    obtain ⟨i, here⟩ := List.mem_iff_getElem?.mp mem
    have confirmed := calm i found.1 found.2 here answered
    rw [verdict i found.1 found.2 here] at confirmed
    exact (setParam_iff_own_first answered).mp (Option.some.inj confirmed)
  · intro first i p queue here answered
    have own := first (p, queue) (List.mem_of_getElem? here) answered
    rw [verdict i p queue here, (setParam_iff_own_first answered).mpr own]

def gpsCtrl : Param := ⟨"EKF2_GPS_CTRL", .int 7⟩

/- PX4 accepts the value, and an unsolicited PARAM_VALUE comes in ahead of its answer. -/
theorem broadcast_refuses :
    ¬ ∀ (p : Param) (before after : List Report) (m : Report), Carries m p →
      (∀ b ∈ before, b.name ≠ p.name) → (setParam p (before ++ m :: after)).1 = true := by
  intro undisturbed
  have confirmed := undisturbed gpsCtrl [⟨"EKF2_EV_CTRL", 0⟩] [] ⟨"EKF2_GPS_CTRL", 7⟩
    (by decide +kernel) (by decide +kernel)
  exact absurd confirmed (by decide +kernel)

end SetLocalizationSource
