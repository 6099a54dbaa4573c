import StateCheck.Candidate

/-!
Replaying a candidate against the model and the system side by side. The first fault of the system stops
the replay and becomes the failure; the system is torn down either way.
-/

namespace StateCheck
variable {U S T : Type}

/-- How a replay ended. The index is `-1` when the initial state failed and the number of transitions
when only the teardown did. -/
inductive Outcome where
  | pass
  | fail (index : Int) (cause : Fault)

namespace Outcome

def passed : Outcome → Bool
  | pass => true
  | fail .. => false

def shown : Outcome → String
  | pass => "Pass"
  | fail index cause => s!"Fail({index}, {cause.shown})"

end Outcome

inductive Call (S T : Type) where
  | init (ref : S)
  | check (ref : S)
  | apply (ref : S) (transition : T)
  | teardown (ref : S)

abbrev Calls (S T : Type) : Type := List (Call S T)

inductive Progress (U S : Type) where
  | through (system : U) (ref : S)
  | stopped (index : Int) (system : Option U) (ref : S) (cause : Fault)

structure Bench (U S T : Type) where
  rules : Rules S T
  adapter : Adapter U S T
  verbose : Bool := false

namespace Bench

def call {α : Type} (c : Call S T) (given : Except Fault α) : Act (Calls S T) (Except Fault α) := do
  Act.modify (· ++ [c])
  pure given

def logIf (b : Bench U S T) (note : Note) : Act (Calls S T) Unit :=
  if b.verbose then Act.log note else pure ()

def advance [Datum T] (b : Bench U S T) (total : Nat) :
    Nat → U → S → List T → Act (Calls S T) (Progress U S)
  | _, u, s, [] => pure (.through u s)
  | position, u, s, t :: rest => do
    b.logIf (.transitionApplied (position + 1) total (datum t))
    match b.rules.apply s t with
    | .error e => pure (.stopped position (some u) s e)
    | .ok s' =>
      match ← call (.apply s' t) (b.adapter.apply u s' t) with
      | .error e => pure (.stopped position (some u) s' e)
      | .ok u' =>
        match ← call (.check s') (b.adapter.check u' s') with
        | .error e => pure (.stopped position (some u') s' e)
        | .ok () => advance b total (position + 1) u' s' rest

def progress [Datum T] (b : Bench U S T) (c : Candidate S T) :
    Act (Calls S T) (Progress U S) := do
  match ← call (.init c.initial) (b.adapter.init c.initial) with
  | .error e => pure (.stopped (-1) none c.initial e)
  | .ok u =>
    match ← call (.check c.initial) (b.adapter.check u c.initial) with
    | .error e => pure (.stopped (-1) (some u) c.initial e)
    | .ok () => b.advance c.transitions.length 0 u c.initial c.transitions

def teardownAfter (b : Bench U S T) (u : U) (s : S) : Act (Calls S T) Unit := do
  match ← call (.teardown s) (b.adapter.teardown u s) with
  | .ok () => pure ()
  | .error e => if e.escapes then Act.raise e else Act.log (.teardownFailed e)

def finish (b : Bench U S T) (total : Nat) : Progress U S → Act (Calls S T) Outcome
  | .through u s => do
    match ← call (.teardown s) (b.adapter.teardown u s) with
    | .ok () => pure .pass
    | .error e => if e.escapes then Act.raise e else pure (.fail total e)
  | .stopped index u s e => do
    if e.escapes then Act.raise e
    else
      b.logIf (.replayFailed index e)
      match u with
      | some u => b.teardownAfter u s
      | none => pure ()
      pure (.fail index e)

def replay [Datum T] (b : Bench U S T) (c : Candidate S T) : Act (Calls S T) Outcome := do
  match ← Act.lift (b.rules.firstInvalid c.initial c.transitions 0) with
  | some position =>
    .raise (.preconditionViolated (.int position) ((c.transitions[position]?).elim .none datum))
  | none =>
    b.logIf (.replayStarted c.transitions.length)
    let reached ← b.progress c
    b.finish c.transitions.length reached

end Bench

structure Tally where
  inits : Nat := 0
  checks : Nat := 0
  applies : Nat := 0
  teardowns : Nat := 0
  deriving DecidableEq, Repr

namespace Tally

def count (tally : Tally) : Call S T → Tally
  | .init _ => { tally with inits := tally.inits + 1 }
  | .check _ => { tally with checks := tally.checks + 1 }
  | .apply .. => { tally with applies := tally.applies + 1 }
  | .teardown _ => { tally with teardowns := tally.teardowns + 1 }

def add (tally : Tally) (calls : Calls S T) : Tally := calls.foldl count tally

end Tally

def Bench.replayCounted [Datum T] (b : Bench U S T) (c : Candidate S T) : Act Tally Outcome :=
  fun tally =>
    let r := b.replay c []
    ⟨r.answer, tally.add r.state, r.notes⟩

end StateCheck
