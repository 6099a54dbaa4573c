import StateCheck.Sequence.Cursor
import StateCheck.Text.Digit

/-!
The log, one constructor per kind of record. `Note.line` words a record with its level and the part of
the engine that wrote it.
-/

namespace StateCheck

inductive Note.Level where
  | debug | info | warning | error
  deriving DecidableEq, Repr

def Note.Level.name : Level → String
  | debug => "DEBUG"
  | info => "INFO"
  | warning => "WARNING"
  | error => "ERROR"

inductive Note where
  | phaseEntered (before after : Phase)
  | deleted (first last : Int)
  | deletionRefused (minSize : Int)
  | transitionRefused (index : Nat)
  | initialStateRefused
  | undone (phase : Phase) (index : Int)
  | truncated (first last : Int)
  | generated (length attempt : Nat)
  | attemptTooShort (attempt length needed : Nat)
  | slotUnfillable (slot inARow : Nat)
  | replayStarted (length : Nat)
  | transitionApplied (position length : Nat) (transition : Value)
  | replayFailed (index : Int) (cause : Fault)
  | teardownFailed (cause : Fault)
  | nothingToMinimise
  | budgetSpent (iterations : Nat)
  | reductionKept (length : Nat) (index : Int)
  | minimised (before after iterations kept dropped : Nat)
  | runStarted (cases : Nat) (seed : Int)
  | caseFailed (case : Nat) (index : Int) (cause : Fault) (length : Nat)
  | reporterFailed (name : String)
  | runPassed (cases : Nat)

namespace Note

def level : Note → Level
  | replayStarted .. | transitionApplied .. | replayFailed .. => .info
  | runStarted .. | caseFailed .. | runPassed .. => .info
  | teardownFailed .. | budgetSpent .. => .warning
  | reporterFailed .. => .error
  | _ => .debug

def source : Note → String
  | phaseEntered .. | deleted .. | deletionRefused .. | transitionRefused .. => "lockstep.engine.shrinkable"
  | initialStateRefused | undone .. | truncated .. => "lockstep.engine.shrinkable"
  | generated .. | attemptTooShort .. | slotUnfillable .. => "lockstep.engine.generator"
  | replayStarted .. | transitionApplied .. | replayFailed .. => "lockstep.engine.executor"
  | teardownFailed .. => "lockstep.engine.executor"
  | nothingToMinimise | budgetSpent .. | reductionKept .. | minimised .. => "lockstep.engine.controller"
  | runStarted .. | caseFailed .. | reporterFailed .. | runPassed .. => "lockstep.engine.runner"

def message : Note → String
  | phaseEntered before after => s!"Shrink phase {before.name} -> {after.name}"
  | deleted first last => s!"Deleted transitions {first}..{last}"
  | deletionRefused minSize => s!"No valid deletion keeps {minSize} transition(s)"
  | transitionRefused index => s!"Rejected shrink of transition {index}: precondition no longer holds"
  | initialStateRefused => "Rejected shrink of initial state: precondition no longer holds"
  | undone phase index => s!"Undid {phase.name} at index {index}"
  | truncated first last => s!"Dropped transitions {first}..{last} after the failure"
  | generated length attempt => s!"Generated {length} transition(s) on attempt {attempt}"
  | attemptTooShort attempt length needed =>
    s!"Attempt {attempt} produced {length} transition(s), need {needed}; retrying"
  | slotUnfillable slot inARow => s!"Slot {slot} unfillable ({inARow} in a row)"
  | replayStarted length => s!"Running a test case with {length} transitions."
  | transitionApplied position length transition =>
    s!"Applying transition {position}/{length}: {transition.shown}"
  | replayFailed index cause => s!"Transition {index} failed: {cause.typeName}: {cause.message}"
  | teardownFailed cause =>
    s!"Teardown raised after a failed test case: {cause.typeName}: {cause.message}"
  | nothingToMinimise => "Candidate passes; nothing to minimise"
  | budgetSpent iterations =>
    s!"Shrink budget exhausted after {iterations} iteration(s); reporting best failure so far"
  | reductionKept length index => s!"Kept reduction: {length} transition(s), failing at {index}"
  | minimised before after iterations kept dropped =>
    s!"Shrunk {before} -> {after} transition(s) in {iterations} iteration(s) ({kept} kept, {dropped} undone)"
  | runStarted cases seed => s!"Running {cases} case(s) with seed {seed}"
  | caseFailed case index cause length =>
    s!"Case {case} failed at index {index} with {cause.typeName}; shrinking {length} transition(s)"
  | reporterFailed name => s!"Reporter {name} failed"
  | runPassed cases => s!"All {cases} case(s) passed"

def dropWord? (word cs : List Char) : Option (List Char) :=
  if word.isPrefixOf cs then some (cs.drop word.length) else none

def durationLength (reversed : List Char) : Nat :=
  match dropWord? " ms".toList.reverse reversed with
  | none => 0
  | some rest =>
    let digits := rest.takeWhile Text.isDecimalDigit
    let word := " in ".toList.reverse
    if digits.isEmpty || (dropWord? word (rest.drop digits.length)).isNone then 0
    else 3 + digits.length + word.length

/-- Durations differ from run to run: one at the end of a text is left out. -/
def dropDuration (s : String) : String :=
  match s.toList.reverse with
  | '\n' :: rest => String.ofList (rest.drop (durationLength rest)).reverse ++ "\n"
  | cs => String.ofList (cs.drop (durationLength cs)).reverse

def line (note : Note) : String := s!"{note.level.name} {note.source}: {dropDuration note.message}"

end Note
end StateCheck
