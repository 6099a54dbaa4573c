import StateCheck.Replay
import StateCheck.Scenario.Recipe

/-!
Described systems under test. Each compares itself with the reference state after every transition.
-/

namespace StateCheck.Scenario

structure Demand where
  condition : Expr
  message : List Expr

inductive SystemRecipe where
  | counter (limit : Option Int)
  | bank (bugFrom : Option Int)
  | heap
  | bag
  | expr (init : Option Expr) (apply : RuleTable) (post check teardown : Option Demand)

def Demand.enforce (demand : Demand) (kind : Fault.Kind) (env : Env) : Except Fault Unit := do
  if ← demand.condition.test env then .ok ()
  else
    let message ← Expr.evalAll env demand.message
    .error (.raised kind message)

def enforce? (demand : Option Demand) (kind : Fault.Kind) (env : Env) : Except Fault Unit :=
  demand.elim (.ok ()) fun demand => demand.enforce kind env

def failing (message : String) : Except Fault Unit := .error (.ofText .assertion message)

def require (holds : Bool) : Except Fault Unit :=
  if holds then .ok () else .error (.raised .assertion [])

namespace System

def nothing (_ _ : Value) : Except Fault Unit := .ok ()

def systemEnv (u s : Value) : Env := [("$u", u), ("$s", s)]

def counter (limit : Option Int) : Adapter Value Value Value where
  init s := .ok s
  apply u s t := do
    let u' ← Rule.counterApply u t
    require (u' == s)
    .ok u'
  check u _ :=
    match limit, u.number? with
    | some limit, some v =>
      if limit < v then failing s!"counter {u.plain} exceeds {limit}" else .ok ()
    | _, _ => .ok ()
  teardown := nothing

def credit (bugFrom : Option Int) (amount : Int) : Int :=
  if bugFrom.any (· ≤ amount) then amount + 1 else amount

def bank (bugFrom : Option Int) : Adapter Value Value Value where
  init s := .ok s
  apply u s t := do
    let balance ← Rule.number u
    let amount ← Rule.amount t
    let balance := Value.int
      (if Rule.isNamed "Deposit" t then balance + credit bugFrom amount else balance - amount)
    if balance == s then .ok balance else
      .error (.ofText .assertion s!"balance {balance.plain} != expected {s.plain}")
  check := nothing
  teardown := nothing

def heap : Adapter Value Value Value where
  init s := .ok s
  apply u s t := do
    let items ← itemsOf u
    let items ← if Rule.isNamed "Push" t then (Rule.item t).map fun v => items ++ [v] else .ok (items.drop 1)
    let sorted := Value.list (sortValues items)
    if sorted == s then .ok (.list items) else
      .error (.ofText .assertion s!"heap holds {sorted.shown}, expected {s.plain}")
  check u s := require (size? u == size? s)
  teardown := nothing

def bag : Adapter Value Value Value where
  init s := .ok s
  apply u s t := do
    let u' ← Rule.bagApply u t
    require (u' == s)
    .ok u'
  check u _ := if size? u == some 0 then failing "bag is empty" else .ok ()
  teardown := nothing

def expr (init : Option Expr) (apply : RuleTable) (post check teardown : Option Demand) :
    Adapter Value Value Value where
  init s := init.elim (.ok s) fun e => e.eval [("$s", s)]
  apply u s t := do
    let u' ← (apply.find? t).elim (.ok u) fun e => e.eval (("$u", u) :: transitionEnv s t)
    enforce? post .assertion (("$u", u') :: transitionEnv s t)
    .ok u'
  check u s := enforce? check .assertion (systemEnv u s)
  teardown u s := enforce? teardown .runtime (systemEnv u s)

end System

def SystemRecipe.adapter : SystemRecipe → Adapter Value Value Value
  | counter limit => System.counter limit
  | bank bugFrom => System.bank bugFrom
  | heap => System.heap
  | bag => System.bag
  | expr init apply post check teardown => System.expr init apply post check teardown

end StateCheck.Scenario
