import StateCheck.Fault

/-!
Where the next reduction of a sequence is tried: a phase, and a position in it. Phases are run in the
order of their constructors.
-/

namespace StateCheck

inductive Phase where
  | deleteTransition | shrinkTransition | shrinkInitialState | done
  deriving DecidableEq, Repr

namespace Phase

def name : Phase → String
  | deleteTransition => "delete_transition"
  | shrinkTransition => "shrink_transition"
  | shrinkInitialState => "shrink_initial_state"
  | done => "done"

def rank : Phase → Nat
  | deleteTransition => 0
  | shrinkTransition => 1
  | shrinkInitialState => 2
  | done => 3

def all : List Phase := [deleteTransition, shrinkTransition, shrinkInitialState, done]

def ofName (s : String) : Except Fault Phase :=
  match all.find? (·.name == s) with
  | some phase => .ok phase
  | none => .error (.ofText .value (Text.quoted s ++ " is not a valid Phase"))

theorem ofName_name (phase : Phase) : ofName phase.name = .ok phase := by cases phase <;> rfl

end Phase

structure Cursor where
  phase : Phase := .deleteTransition
  index : Int := 0
  deriving DecidableEq, Repr

def Cursor.exhausted (c : Cursor) : Bool := c.phase = .done

end StateCheck
