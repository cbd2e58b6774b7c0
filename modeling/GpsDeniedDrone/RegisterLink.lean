import Mathlib.Data.List.Nodup
import Mathlib.Logic.Function.Basic

/-!
A store of registers behind an unreliable link. Requests to write and reports of values
are never taken off their lists: one that is lost is never served or received, one that
is delayed or overtaken is served or received later. With one request a key and no other
writer, a report is of the first value or of the value that is still there.
-/
namespace RegisterLink
variable {Key Word : Type}

structure Link (Key Word : Type) where
  store : Key → Word
  requests : List (Key × Word)
  reports : List (Key × Word)

namespace Link

def idle (store : Key → Word) : Link Key Word := ⟨store, [], []⟩

def request (l : Link Key Word) (k : Key) (w : Word) : Link Key Word :=
  { l with requests := (k, w) :: l.requests }

/-- The store reports a register, whether it was asked to or not. -/
def report (l : Link Key Word) (k : Key) : Link Key Word :=
  { l with reports := (k, l.store k) :: l.reports }

/-- A request takes effect and is answered with the value stored. -/
def serve [DecidableEq Key] (l : Link Key Word) (k : Key) (w : Word) : Link Key Word :=
  ({ l with store := Function.update l.store k w }).report k

def requested (l : Link Key Word) : List Key := l.requests.map Prod.fst

end Link

structure Faithful (start : Key → Word) (l : Link Key Word) : Prop where
  stored : ∀ k, l.store k = start k ∨ (k, l.store k) ∈ l.requests
  reported : ∀ k w, (k, w) ∈ l.reports → w = start k ∨ w = l.store k
  once : l.requested.Nodup

variable {start : Key → Word} {l : Link Key Word} {k : Key} {w : Word}

theorem requested_of_mem (mem : (k, w) ∈ l.requests) : k ∈ l.requested :=
  List.mem_map_of_mem mem

theorem idle_faithful (start : Key → Word) : Faithful start (Link.idle start) where
  stored _ := Or.inl rfl
  reported _ _ mem := absurd mem List.not_mem_nil
  once := List.nodup_nil

theorem request_faithful (faithful : Faithful start l) (fresh : k ∉ l.requested) (w : Word) :
    Faithful start (l.request k w) where
  stored k' := (faithful.stored k').imp_right (List.mem_cons_of_mem _)
  reported := faithful.reported
  once := List.nodup_cons.mpr ⟨fresh, faithful.once⟩

theorem report_faithful (faithful : Faithful start l) (k : Key) : Faithful start (l.report k) where
  stored := faithful.stored
  reported k' w mem := by
    rcases List.mem_cons.mp mem with now | before
    · obtain ⟨rfl, rfl⟩ := Prod.mk.inj now
      exact Or.inr rfl
    · exact faithful.reported k' w before
  once := faithful.once

theorem request_unique (faithful : Faithful start l) {w' : Word} (one : (k, w) ∈ l.requests)
    (two : (k, w') ∈ l.requests) : w = w' := by
  have same : (k, w) = (k, w') := List.inj_on_of_nodup_map faithful.once one two rfl
  exact (Prod.mk.inj same).2

theorem serve_faithful [DecidableEq Key] (faithful : Faithful start l)
    (mem : (k, w) ∈ l.requests) : Faithful start (l.serve k w) := by
  apply report_faithful
  constructor
  · intro k'
    by_cases here : k' = k
    · subst here
      simpa using Or.inr mem
    · simpa [here] using faithful.stored k'
  · intro k' w' reported
    by_cases here : k' = k
    · subst here
      -- the value replaced was the first one, or the one now served again
      rcases faithful.reported k' w' reported with first | last
      · exact Or.inl first
      · rcases faithful.stored k' with untouched | written
        · exact Or.inl (last.trans untouched)
        · rw [last, request_unique faithful written mem]
          simp
    · simpa [here] using faithful.reported k' w' reported
  · exact faithful.once

/-- What a report shows of a register goes on to hold of it, if it also holds of the
    value requested. -/
theorem store_of_report {good : Word → Prop} (faithful : Faithful start l)
    (reported : (k, w) ∈ l.reports) (shown : good w)
    (request : ∀ w', (k, w') ∈ l.requests → good w') : good (l.store k) := by
  rcases faithful.reported k w reported with first | last
  · rcases faithful.stored k with untouched | written
    · rw [untouched, ← first]
      exact shown
    · exact request _ written
  · rw [← last]
    exact shown

theorem store_of_serve [DecidableEq Key] {good : Word → Prop} {k' : Key} {w' : Word}
    (held : good (l.store k)) (request : k = k' → good w') : good ((l.serve k' w').store k) := by
  by_cases here : k = k'
  · subst here
    simpa [Link.serve, Link.report] using request rfl
  · simpa [Link.serve, Link.report, here] using held

end RegisterLink
