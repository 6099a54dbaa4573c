import StateCheck.Tree.Basic

/-!
Binary search for the simplest integer on the way from a start to a target. It runs on the distance from
the target, so both sides of the target shrink alike.
-/

namespace StateCheck

structure Search where
  target : Int
  above : Bool
  lo : Nat
  distance : Nat
  hi : Nat
  deriving DecidableEq, Repr

namespace Search

def start (start target : Int) : Search :=
  let distance := (start - target).natAbs
  ⟨target, decide (target ≤ start), 0, distance, distance⟩

def value (s : Search) : Int :=
  if s.above then s.target + s.distance else s.target - s.distance

theorem value_start (a b : Int) : (start a b).value = a := by
  unfold start value
  by_cases h : b ≤ a
  · simp only [h, decide_true, if_true]
    omega
  · simp only [h, decide_false, Bool.false_eq_true, if_false]
    omega

def reposition (s : Search) : Bool × Search :=
  let middle := (s.lo + s.hi) / 2
  if middle = s.distance then (false, s) else (true, { s with distance := middle })

/-- The present value will do: nothing farther away has to be tried. -/
def simplify (s : Search) : Bool × Search :=
  if s.hi ≤ s.lo then (false, s) else reposition { s with hi := s.distance }

/-- The present value is too simple: something farther away has to be tried. -/
def complicate (s : Search) : Bool × Search :=
  if s.hi ≤ s.lo then (false, s) else reposition { s with lo := s.distance + 1 }

def tree : ValueTree Search Int where
  current s := .ok s.value
  simplify := .ofMove simplify
  complicate := .ofMove complicate
  slack s := s.hi - s.lo

end Search
end StateCheck
