import StateCheck.Report.Basic
import StateCheck.Text.Markup
import StateCheck.Text.Wrap
import StateCheck.Numeric.Binary64

/-!
Reports for a terminal: a panel with the cause, the transitions, runs of equal ones as one line, and the
failing one marked in place.
-/

namespace StateCheck.Console
open Text

def runs : List String → List (String × Nat)
  | [] => []
  | label :: rest =>
    match runs rest with
    | (next, n) :: more => if label = next then (next, n + 1) :: more else (label, 1) :: (next, n) :: more
    | [] => [(label, 1)]

theorem runs_expand (labels : List String) :
    (runs labels).flatMap (fun run => List.replicate run.2 run.1) = labels := by
  induction labels with
  | nil => rfl
  | cons label rest ih =>
    unfold runs
    split
    · rename_i next n more h
      rw [h] at ih
      split
      · rename_i heq
        subst heq
        rw [← ih]
        simp [List.replicate_succ]
      · rw [← ih]
        simp
    · rename_i h
      rw [h] at ih
      simp at ih
      simp [← ih]

def span (first count : Nat) : String :=
  if count = 1 then toString first else s!"{first}..{first + count - 1}"

def runText (label : String) (count : Nat) : String :=
  if count = 1 then Markup.escape label else s!"{Markup.escape label} ×{count}"

def runLine (failing : Int) (first : Nat) (label : String) (count : Nat) : String :=
  if first ≤ failing ∧ failing < first + count then
    let place := if count = 1 then "" else s!" (#{failing - first + 1})"
    s!"  [red]✗ {span first count}  {runText label count}[/red]  [dim]failed here{place}[/dim]"
  else s!"  [green]✓[/green] {span first count}  {runText label count}"

def runLines (failing : Int) : Nat → List (String × Nat) → List String
  | _, [] => []
  | first, (label, count) :: rest =>
    runLine failing first label count :: runLines failing (first + count) rest

def transitionLines (r : FailureReport) : List String :=
  runLines r.index 0 (runs (r.transitions.map Value.shown))

def lines (r : FailureReport) (withTrace : Bool) : List String :=
  [s!"[bold]{Markup.escape r.cause.typeName}[/bold]: {Markup.escape r.cause.message}",
    s!"[dim]at {r.location}[/dim]", "", s!"Initial state: {Markup.escape r.initial.shown}",
    s!"Transitions ({r.transitions.length}):"] ++
  transitionLines r ++
  ["", s!"[dim]seed={FailureReport.seedShown r.seed} case={r.case} {r.effort}[/dim]"] ++
  (if r.timedOut then ["[yellow]Shrink budget exhausted; this may not be minimal.[/yellow]"] else []) ++
  (if withTrace then
    ["", Markup.escape (String.ofList (trimEnd isGap r.causeTrace.toList))]
  else [])

def rule (n : Nat) : String := String.ofList (List.replicate n '─')

def title : String := " MINIMAL FAILING CASE "

def topLine (width : Nat) : String :=
  if width ≤ 4 then "╭" ++ rule (width - 2) ++ "╮"
  else
    let shown := String.ofList (fit (width - 4) title.toList)
    -- An odd excess leaves one more on the right.
    let excess := width - 4 - shown.length
    "╭─" ++ rule (excess / 2) ++ shown ++ rule (excess - excess / 2) ++ "─╮"

def ended (lines : List String) : String := String.join (lines.map (·.push '\n'))

/-- A frame with so many cells between its outer edges. One of up to four has no title and no text, and one
of none is not drawn. -/
def panel (width : Nat) (body : String) : String :=
  let inner := if width ≤ 4 then [] else wrap (width - 4) body
  let shown := inner.map fun cs => "│ " ++ String.ofList (padTo (width - 4) cs) ++ " │"
  if width = 0 then ""
  else
    ended ([topLine width] ++ shown ++ ["╰" ++ rule (width - 2) ++ "╯"] |>.map fun line =>
      String.ofList (fit width line.toList))

def report (r : FailureReport) (width : Nat) (withTrace : Bool) : String :=
  panel width (Markup.render ("\n".intercalate (lines r withTrace)))

def reportRun (r : RunResult) (width : Nat) : String :=
  let shown := s!"✓ {r.cases} case(s), {r.transitions} transition(s) passed " ++
    s!"(seed={r.seed}, {Numeric.fixed 0 r.durationMs} ms)"
  if width = 0 then "" else ended ((wrap width shown).map String.ofList)

end StateCheck.Console
