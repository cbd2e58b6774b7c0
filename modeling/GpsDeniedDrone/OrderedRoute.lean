import Mathlib.Data.List.Basic

/-!
A list of stops visited in order, with one stop ahead at all times. What is said at
each stop carries its number and the length of the route; `reports` is everything
said so far. A finished itinerary is no itinerary, so an index out of range cannot
be built.
-/
namespace OrderedRoute
variable {Stop Report : Type}

structure Itinerary (Stop : Type) where
  route : List Stop
  index : Nat
  inRange : index < route.length

def begin (route : List Stop) (nonempty : route ≠ []) : Itinerary Stop :=
  ⟨route, 0, List.length_pos_iff.mpr nonempty⟩

def Itinerary.ahead (it : Itinerary Stop) : Stop := it.route.get ⟨it.index, it.inRange⟩

def Itinerary.advance (it : Itinerary Stop) (more : it.index + 1 < it.route.length) :
    Itinerary Stop := ⟨it.route, it.index + 1, more⟩

/-- What is said over the first `k` stops: number, length of the route, stop. -/
def reportsOf (say : Nat → Nat → Stop → Report) (route : List Stop) (k : Nat) : List Report :=
  (route.take k).mapIdx fun i stop => say (i + 1) route.length stop

def Itinerary.reports (say : Nat → Nat → Stop → Report) (it : Itinerary Stop) : List Report :=
  reportsOf say it.route it.index

variable (say : Nat → Nat → Stop → Report)

theorem reportsOf_length (route : List Stop) {k : Nat} (le : k ≤ route.length) :
    (reportsOf say route k).length = k := by
  simp [reportsOf, le]

theorem reportsOf_succ {route : List Stop} {k : Nat} {stop : Stop}
    (next : route[k]? = some stop) :
    reportsOf say route (k + 1) = reportsOf say route k ++ [say (k + 1) route.length stop] := by
  have short : k ≤ route.length := Nat.le_of_lt (List.getElem?_eq_some_iff.mp next).1
  simp [reportsOf, List.take_add_one, next, List.mapIdx_append, short]

@[simp] theorem reports_begin (route : List Stop) (nonempty : route ≠ []) :
    (begin route nonempty).reports say = [] := by
  simp [begin, Itinerary.reports, reportsOf]

theorem Itinerary.ahead_eq_some (it : Itinerary Stop) : it.route[it.index]? = some it.ahead :=
  List.getElem?_eq_getElem it.inRange

theorem reports_advance (it : Itinerary Stop) (more : it.index + 1 < it.route.length) :
    (it.advance more).reports say =
      it.reports say ++ [say (it.index + 1) it.route.length it.ahead] :=
  reportsOf_succ say it.ahead_eq_some

theorem reports_finish (it : Itinerary Stop) (last : it.route.length ≤ it.index + 1) :
    it.reports say ++ [say (it.index + 1) it.route.length it.ahead] =
      reportsOf say it.route it.route.length := by
  have whole : it.route.length = it.index + 1 := Nat.le_antisymm last it.inRange
  calc it.reports say ++ [say (it.index + 1) it.route.length it.ahead]
      = reportsOf say it.route (it.index + 1) := (reportsOf_succ say it.ahead_eq_some).symm
    _ = reportsOf say it.route it.route.length := by rw [whole]

theorem reports_ne_all (it : Itinerary Stop) :
    it.reports say ≠ reportsOf say it.route it.route.length := by
  intro same
  have lengths := congrArg List.length same
  rw [Itinerary.reports, reportsOf_length say _ (Nat.le_of_lt it.inRange),
    reportsOf_length say _ (Nat.le_refl _)] at lengths
  exact absurd lengths (Nat.ne_of_lt it.inRange)

end OrderedRoute
