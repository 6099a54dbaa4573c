import StateCheck.Replay
import StateCheck.Sequence.Shrink
import StateCheck.Settings.Basic

/-!
Minimising a failing sequence: each reduction is replayed, kept if it still fails at the same transition
or an earlier one, and undone otherwise. What is held at the end was seen to fail.
-/

namespace StateCheck
variable {U S T ι τ : Type}

structure Minimum (S T : Type) where
  candidate : Candidate S T
  outcome : Outcome
  startLength : Nat
  iterations : Nat := 0
  accepted : Nat := 0
  rejected : Nat := 0
  timedOut : Bool := false
  durationMs : Float := 0

def Minimum.reproduced (m : Minimum S T) : Bool := !m.outcome.passed

structure Session (S T ι τ : Type) where
  value : Sequence S T ι τ
  tally : Tally := {}
  readings : Nat := 0

structure Minimiser (U S T ι τ : Type) where
  bench : Bench U S T
  shrinker : Shrinker S T ι τ
  settings : Settings
  clock : Nat → Float

namespace Outcome

def stillFails : Outcome → Outcome → Bool
  | fail index _, fail best _ => decide (index ≤ best)
  | _, _ => false

end Outcome

namespace Minimiser

def onValue {α : Type} (x : Act (Sequence S T ι τ) α) : Act (Session S T ι τ) α :=
  .on Session.value (fun value session => { session with value := value }) x

def replay [Datum T] (m : Minimiser U S T ι τ) (c : Candidate S T) : Act (Session S T ι τ) Outcome :=
  .on Session.tally (fun tally session => { session with tally := tally }) (m.bench.replayCounted c)

def now (m : Minimiser U S T ι τ) : Act (Session S T ι τ) Float :=
  .ofMove fun session => (m.clock session.readings, { session with readings := session.readings + 1 })

def current : Act (Session S T ι τ) (Candidate S T) := .ofMove fun session => (session.value.current, session)

/-- The transitions after the failing one never ran. -/
def dropTail : Outcome → Act (Session S T ι τ) Unit
  | .pass => pure ()
  | .fail index _ => do
    let _ ← onValue (Sequence.truncate (index + 1))
    pure ()

def outOfTime (m : Minimiser U S T ι τ) (started : Float) : Act (Session S T ι τ) Bool :=
  if m.settings.maxShrinkTime == 0 then pure false
  else do
    let reading ← m.now
    pure (reading - started ≥ m.settings.maxShrinkTime)

def budgetSpent (m : Minimiser U S T ι τ) (iterations : Nat) (started : Float) :
    Act (Session S T ι τ) Bool :=
  if m.settings.maxShrinkIters ≠ 0 ∧ m.settings.maxShrinkIters ≤ iterations then pure true
  else m.outOfTime started

def judge [Datum T] [BEq S] [BEq T] (m : Minimiser U S T ι τ) (best : Minimum S T) :
    Act (Session S T ι τ) (Minimum S T) := do
  let candidate ← current
  let outcome ← m.replay candidate
  let best := { best with iterations := best.iterations + 1 }
  match outcome.stillFails best.outcome, outcome with
  | true, .fail index _ =>
    dropTail outcome
    let smaller ← current
    Act.log (.reductionKept candidate.transitions.length index)
    pure { best with candidate := smaller, outcome := outcome, accepted := best.accepted + 1 }
  | _, _ =>
    let _ ← onValue (Sequence.complicate m.shrinker)
    pure { best with rejected := best.rejected + 1 }

/-- Runs until no reduction is left or the budget is spent; `none` when `fuel` was not enough. -/
def reduce [Datum T] [BEq S] [BEq T] (m : Minimiser U S T ι τ) (started : Float) :
    Nat → Minimum S T → Act (Session S T ι τ) (Option (Minimum S T))
  | 0, _ => pure none
  | fuel + 1, best => do
    if ← onValue (Sequence.shrink m.shrinker) then
      if ← m.budgetSpent best.iterations started then
        -- The reduction just made was never replayed.
        let _ ← onValue (Sequence.complicate m.shrinker)
        Act.log (.budgetSpent best.iterations)
        pure (some { best with timedOut := true })
      else
        let best ← m.judge best
        reduce m started fuel best
    else pure (some best)

def fuelFor (settings : Settings) (fuel : Nat) : Nat :=
  if settings.maxShrinkIters = 0 then fuel else settings.maxShrinkIters + 1

def minimiseFailure [Datum T] [BEq S] [BEq T] (m : Minimiser U S T ι τ) (fuel : Nat) (started : Float)
    (startLength : Nat) (failure : Outcome) : Act (Session S T ι τ) (Option (Minimum S T)) := do
  dropTail failure
  let best ← current
  match ← m.reduce started (fuelFor m.settings fuel)
      { candidate := best, outcome := failure, startLength := startLength } with
  | none => pure none
  | some best =>
    let finished ← m.now
    Act.log (.minimised startLength best.candidate.transitions.length best.iterations best.accepted
      best.rejected)
    pure (some { best with durationMs := (finished - started) * 1000 })

/-- Shrinks the session's value in place. `failure` is the outcome of its present candidate, if that was
replayed already. -/
def minimise [Datum T] [BEq S] [BEq T] (m : Minimiser U S T ι τ) (fuel : Nat)
    (failure : Option Outcome) : Act (Session S T ι τ) (Option (Minimum S T)) := do
  let started ← m.now
  let best ← current
  let outcome ← match failure with
    | some outcome => pure outcome
    | none => m.replay best
  let startLength := best.transitions.length
  match outcome with
  | .pass =>
    Act.log .nothingToMinimise
    pure (some { candidate := best, outcome := .pass, startLength := startLength })
  | .fail .. => m.minimiseFailure fuel started startLength outcome

end Minimiser
end StateCheck
