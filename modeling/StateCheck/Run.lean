import StateCheck.Generation
import StateCheck.Report.Basic

/-!
The case loop: generate, replay, minimise the first failure, report it. Later cases are not run.
-/

namespace StateCheck
variable {U S T ρ : Type}

/-- May write into a notebook of its own, and leaves the report as it is. -/
structure Reporter where
  name : String
  report : FailureReport → Act (List String) Unit

structure RunState (ρ : Type) where
  source : ρ
  tally : Tally := {}
  notebooks : List (List String) := []

inductive Conclusion where
  | passed (result : RunResult)
  | failed (report : FailureReport)
  /-- The failure is not known to be minimal: the budget ran out. -/
  | timedOut (report : FailureReport)
  /-- The fuel did not last to the end of the shrink session. -/
  | unfinished

structure Runner (U S T : Type) : Type 1 where
  model : Model S T
  adapter : Adapter U S T
  settings : Settings
  reporters : List Reporter := []
  clock : Nat → Float
  fuel : Nat

namespace Runner

def bench (r : Runner U S T) : Bench U S T where
  rules := r.model.toRules
  adapter := r.adapter
  verbose := r.settings.verbose

def minimiser (r : Runner U S T) :
    Minimiser U S T r.model.initial.State r.model.TransitionTree where
  bench := r.bench
  shrinker := r.model.shrinker
  settings := r.settings
  clock := r.clock

/-- A reporter that raises must not hide the failure. -/
def tell (report : FailureReport) (i : Nat) (reporter : Reporter) : Act (List (List String)) Unit := do
  -- What the reporter wrote before it raised is kept.
  match ← Act.attempt (Act.onItem i () (reporter.report report)) with
  | .ok () => pure ()
  | .error e => if e.escapes then Act.raise e else Act.log (.reporterFailed reporter.name)

def tellAll (report : FailureReport) : Nat → List Reporter → Act (List (List String)) Unit
  | _, [] => pure ()
  | i, reporter :: rest => do
    tell report i reporter
    tellAll report (i + 1) rest

def draw [WordSource ρ] (r : Runner U S T) : Act (RunState ρ) r.model.Sequence :=
  .on RunState.source (fun source state => { state with source := source })
    (r.model.generate r.settings)

def replay [Datum T] (r : Runner U S T) (c : Candidate S T) : Act (RunState ρ) Outcome :=
  .on RunState.tally (fun tally state => { state with tally := tally }) (r.bench.replayCounted c)

def minimise [Datum T] [BEq S] [BEq T] (r : Runner U S T) (value : r.model.Sequence)
    (outcome : Outcome) : Act (RunState ρ) (Option (Minimum S T)) := fun state =>
  let m := r.minimiser.minimise r.fuel (some outcome) { value := value, tally := state.tally }
  ⟨m.answer, { state with tally := m.state.tally }, m.notes⟩

def conclude [Datum S] [Datum T] [BEq S] [BEq T] (r : Runner U S T) (seed : Int) (case : Nat)
    (value : r.model.Sequence) (outcome : Outcome) : Act (RunState ρ) Conclusion := do
  match ← r.minimise value outcome with
  | none => pure .unfinished
  | some m =>
    let report ← Act.lift (FailureReport.ofMinimum m (some seed) case)
    .on RunState.notebooks (fun notebooks state => { state with notebooks := notebooks })
      (tellAll report 0 r.reporters)
    pure (if m.timedOut then .timedOut report else .failed report)

def runCases [WordSource ρ] [Datum S] [Datum T] [BEq S] [BEq T] (r : Runner U S T) (seed : Int) :
    Nat → Nat → Nat → Act (RunState ρ) Conclusion
  | 0, case, total => do
    Act.log (.runPassed case)
    pure (.passed { seed := seed, cases := case, transitions := total })
  | left + 1, case, total => do
    let value ← r.draw
    let candidate := value.current
    let outcome ← r.replay candidate
    match outcome with
    | .pass => runCases r seed left (case + 1) (total + candidate.transitions.length)
    | .fail index cause =>
      Act.log (.caseFailed case index cause candidate.transitions.length)
      r.conclude seed case value outcome

def runWith [WordSource ρ] [Datum S] [Datum T] [BEq S] [BEq T] (r : Runner U S T) (seed : Int) :
    Act (RunState ρ) Conclusion := do
  Act.log (.runStarted r.settings.cases seed)
  r.runCases seed r.settings.cases 0 0

def run [Datum S] [Datum T] [BEq S] [BEq T] (r : Runner U S T) (seed : Int) :
    Result (RunState MersenneTwister) Conclusion :=
  r.runWith seed { source := .ofSeed seed, notebooks := r.reporters.map fun _ => [] }

end Runner
end StateCheck
