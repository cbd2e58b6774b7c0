import Mathlib.Data.List.Basic

/-!
Requests answered through one queue. Each request waits for the oldest message that is
not taken yet and judges it; messages carry no request number, so a message that is
not an answer to the present request is an answer lost to a later one.
-/
namespace AnswerQueue
variable {Request Message : Type} (accepts : Request → Message → Bool)

/-- One wait: the verdict, and the queue it leaves. Nothing in time is a refusal. -/
def settle (r : Request) : List Message → Bool × List Message
  | [] => (false, [])
  | m :: rest => (accepts r m, rest)

def settleAll : List (Request × List Message) → List Message → List Bool
  | [], _ => []
  | (r, arrivals) :: rounds, queue =>
    let (ok, left) := settle accepts r (queue ++ arrivals)
    ok :: settleAll rounds left

def queues : List (Request × List Message) → List Message → List (Request × List Message)
  | [], _ => []
  | (r, arrivals) :: rounds, queue =>
    (r, queue ++ arrivals) :: queues rounds (queue ++ arrivals).tail

def prompt (answered : List (Request × Message)) : List (Request × List Message) :=
  answered.map fun ra => (ra.1, [ra.2])

def Shifted : Message → List (Request × Message) → Prop
  | _, [] => True
  | m, ra :: answered => accepts ra.1 m = false ∧ Shifted ra.2 answered

variable {accepts}

theorem settle_iff_first {r : Request} {before after : List Message} {m : Message}
    (answer : accepts r m = true) (others : ∀ b ∈ before, accepts r b = false) :
    (settle accepts r (before ++ m :: after)).1 = true ↔ before = [] := by
  cases before with
  | nil => simp [settle, answer]
  | cons b before => simp [settle, others b List.mem_cons_self]

theorem settle_left (r : Request) (queue : List Message) :
    (settle accepts r queue).2 = queue.tail := by
  cases queue <;> rfl

theorem settleAll_eq (rounds : List (Request × List Message)) (queue : List Message) :
    settleAll accepts rounds queue =
      (queues rounds queue).map fun found => (settle accepts found.1 found.2).1 := by
  induction rounds generalizing queue with
  | nil => rfl
  | cons round rounds ih =>
    obtain ⟨r, arrivals⟩ := round
    have left : (settle accepts r (queue ++ arrivals)).2 = (queue ++ arrivals).tail :=
      settle_left r _
    simp only [settleAll, queues, List.map_cons, left, ih]

theorem settleAll_prompt {answered : List (Request × Message)}
    (answers : ∀ ra ∈ answered, accepts ra.1 ra.2 = true) :
    settleAll accepts (prompt answered) [] = answered.map fun _ => true := by
  induction answered with
  | nil => rfl
  | cons ra answered ih =>
    have first := answers ra List.mem_cons_self
    have rest := ih fun b mem => answers b (List.mem_cons_of_mem ra mem)
    simp only [prompt, List.map_cons, settleAll, List.nil_append, settle, first]
    exact congrArg (true :: ·) rest

/-- One message too many, and every request from there on judges the one before its own. -/
theorem settleAll_shifted {late : Message} {answered : List (Request × Message)}
    (shifted : Shifted accepts late answered) :
    settleAll accepts (prompt answered) [late] = answered.map fun _ => false := by
  induction answered generalizing late with
  | nil => rfl
  | cons ra answered ih =>
    obtain ⟨refused, rest⟩ := shifted
    simp only [prompt, List.map_cons, settleAll, List.cons_append, settle, refused, List.nil_append]
    exact congrArg (false :: ·) (ih rest)

end AnswerQueue
