import StateCheck.Model

/-!
Candidates, and the fold that tells whether a model accepts one.
-/

namespace StateCheck
variable {S T : Type}

structure Candidate (S T : Type) where
  initial : S
  transitions : List T
  deriving BEq

instance [Datum S] [Datum T] : Datum (Candidate S T) :=
  ⟨fun c => .candidate (datum c.initial) (c.transitions.map datum)⟩

def Candidate.unhashable : Fault := .ofText .type "unhashable type: 'Candidate'"

namespace Rules

/-- The first position from `start` on whose transition is not allowed in the state folded from those
before it; the first transition of the list is at `position`. -/
def firstInvalidFrom (rules : Rules S T) (start : Int) : Nat → S → List T → Except Fault (Option Nat)
  | _, _, [] => .ok none
  | position, s, t :: rest => do
    let allowed ← if start ≤ position then rules.allows s t else .ok true
    if allowed then
      let s' ← rules.apply s t
      firstInvalidFrom rules start (position + 1) s' rest
    else .ok (some position)

def firstInvalid (rules : Rules S T) (initial : S) (transitions : List T) (start : Int) :
    Except Fault (Option Nat) :=
  firstInvalidFrom rules start 0 initial transitions

def isValid (rules : Rules S T) (initial : S) (transitions : List T) (start : Int) :
    Except Fault Bool :=
  (rules.firstInvalid initial transitions start).map Option.isNone

def longestValid (rules : Rules S T) (initial : S) (transitions : List T) : Except Fault Nat :=
  (rules.firstInvalid initial transitions 0).map (·.getD transitions.length)

end Rules
end StateCheck
