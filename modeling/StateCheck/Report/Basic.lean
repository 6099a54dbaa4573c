import StateCheck.Minimise
import StateCheck.Numeric.Binary64
import StateCheck.Report.Timestamp

/-!
The report of a minimal failing case: where it failed, why, and what reproduces it.
-/

namespace StateCheck

structure FailureReport where
  initial : Value
  transitions : List Value
  index : Int
  cause : Fault
  seed : Option Int := none
  case : Int := 0
  startLength : Int := 0
  shrinkIterations : Int := 0
  timedOut : Bool := false
  timestamp : Option Timestamp := none

namespace FailureReport

def ofOutcome (candidate : Candidate Value Value) (outcome : Outcome) (startLength iterations : Int)
    (timedOut : Bool) (seed : Option Int) (case : Int) : Except Fault FailureReport :=
  match outcome with
  | .pass => .error (.ofText .value "Cannot build a FailureReport from a passing outcome")
  | .fail index cause => .ok
    { initial := candidate.initial, transitions := candidate.transitions, index := index,
      cause := cause, seed := seed, case := case, startLength := startLength,
      shrinkIterations := iterations, timedOut := timedOut }

def ofMinimum {S T : Type} [Datum S] [Datum T] (m : Minimum S T) (seed : Option Int) (case : Int) :
    Except Fault FailureReport :=
  ofOutcome ⟨datum m.candidate.initial, m.candidate.transitions.map datum⟩ m.outcome m.startLength
    m.iterations m.timedOut seed case

def failing? (r : FailureReport) : Option Value :=
  if 0 ≤ r.index then r.transitions[r.index.toNat]? else none

def location (r : FailureReport) : String :=
  if r.index = -1 then "initial state"
  else if (r.transitions.length : Int) ≤ r.index then "teardown"
  else s!"transition {r.index + 1}/{r.transitions.length}"

def headline (cause : Fault) : String := cause.typeName ++ ": " ++ cause.message

def causeTrace (r : FailureReport) : String :=
  if r.cause.message.isEmpty then r.cause.typeName ++ "\n" else headline r.cause ++ "\n"

def seedShown (seed : Option Int) : String := seed.elim "None" toString

def summaryLines (index : Int) : Nat → List Value → List String
  | _, [] => []
  | position, t :: rest =>
    (s!"    {position}: {t.shown}" ++ if (position : Int) = index then "  <-- failed here" else "")
      :: summaryLines index (position + 1) rest

def effort (r : FailureReport) : String :=
  s!"shrunk from {r.startLength} transition(s) in {r.shrinkIterations} step(s)"

def summary (r : FailureReport) : String :=
  "\n".intercalate <|
    ["Test failed at " ++ r.location ++ ": " ++ headline r.cause, "", "Minimal failing input:",
      s!"  initial state: {r.initial.shown}", s!"  transitions ({r.transitions.length}):"] ++
    summaryLines r.index 0 r.transitions ++
    ["", s!"  seed={seedShown r.seed} case={r.case} ({r.effort}" ++
      (if r.timedOut then ", shrink budget exhausted" else "") ++ ")"]

end FailureReport

structure RunResult where
  seed : Int
  cases : Int := 0
  transitions : Int := 0
  durationMs : Float := 0

def RunResult.shownDuration (r : RunResult) : String :=
  Numeric.text (Numeric.roundTo 2 r.durationMs)

end StateCheck
