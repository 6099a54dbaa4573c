import StateCheck.Generation
import StateCheck.Scenario.Expr
import StateCheck.Settings.Sources
import StateCheck.Tree.Table

/-!
Described strategies, trees and models, and what they describe. A description may raise while it is
built; a model's strategies are built anew for every state, so there a fault waits until the draw.
-/

namespace StateCheck.Scenario

mutual

inductive Recipe where
  | just (v : Value)
  | justOf (e : Expr)
  | integers (lo hi : Expr)
  | booleans
  | sampled (values : List Value)
  | sampledOf (e : Expr)
  | oneOf (options : List (Expr × Recipe))
  | tuples (parts : List Recipe)
  | lists (element : Recipe) (minSize maxSize : Expr)
  | builds (name : String) (parts : List Recipe)
  | map (source : Recipe) (e : Expr)
  | filter (source : Recipe) (e : Expr) (whence : String)
  | sequences (model : ModelRecipe) (minSize maxSize : Option Expr) (config : Option Settings.Keywords)
  | tree (t : TreeRecipe)

inductive TreeRecipe where
  | just (v : Value)
  | search (start target : Int)
  | map (source : TreeRecipe) (e : Expr)
  | filter (source : TreeRecipe) (e : Expr) (whence : String)
  | draw (s : Recipe) (seed : Int)
  | table (t : Table Value) (start : Nat)

inductive ModelRecipe where
  | counter (init : Option Recipe) (resetWeight : Int)
  | resetOnly (init : Option Recipe)
  | capped (init : Option Recipe) (cap : Int)
  | bank (init : Option Recipe)
  | heap
  | bag (size : Int)
  | expr (init : Recipe) (next : List (Expr × Recipe)) (apply : List (String × Expr))
      (allows : Option (List (String × Expr)))

end

def justValue (v : Value) : Strategy Value := .just v v.shown

/-- Goes on with what was computed, which may live in a smaller universe. -/
def build {α : Type} {β : Type 1} (x : Except Fault α) (f : α → Except Fault β) : Except Fault β :=
  match x with
  | .ok a => f a
  | .error e => .error e

def orFail {α : Type} : Except Fault (Strategy α) → Strategy α
  | .ok s => s
  | .error e => .fail e

def converted {α β : Type} (s : Strategy α) (f : α → β) : Strategy β :=
  { s.map (fun a => .ok (f a)) "" with shown := s.shown }

def ints (s : Strategy Int) : Strategy Value := converted s .int

def made (name : String) (s : Strategy Int) : Strategy Value :=
  s.map (fun n => .ok (.transition name [.int n])) name

def event (name : String) : Value := .transition name []

def mapped (s : Strategy Value) (env : Env) (e : Expr) : Strategy Value :=
  s.map (fun v => e.eval (("$x", v) :: env)) "fn"

def filtered (s : Strategy Value) (env : Env) (e : Expr) (whence : String) : Strategy Value :=
  s.filter (fun v => e.test (("$x", v) :: env)) (if whence.isEmpty then "pred" else whence)

def itemsOf (v : Value) : Except Fault (List Value) := (items? v).elim (.error illTyped) .ok

def candidateValue (c : Candidate Value Value) : Value := datum c

def settingOf : Value → Setting
  | .none => .null
  | .bool b => .bool b
  | .int n => .int n
  | .text s => .text s
  | _ => .list []

def sequenceSettings (env : Env) (minSize maxSize : Option Expr) (config : Option Settings.Keywords) :
    Except Fault Settings := do
  let low ← minSize.elim (.ok (.int 1)) fun e => e.eval env
  let high ← maxSize.elim (.ok (.int 20)) fun e => e.eval env
  let sizes := [("min_size", settingOf low), ("max_size", settingOf high)]
  match config with
  | none => Settings.ofKeywords {} sizes
  | some keywords => do
    let base ← Settings.ofKeywords {} keywords
    base.override {} sizes

namespace Rule

def isNamed (name : String) : Value → Bool
  | .transition other _ => other == name
  | _ => false

def amount (t : Value) : Except Fault Int :=
  match t with
  | .transition _ (v :: _) => (v.number?).elim (.error illTyped) .ok
  | _ => .error illTyped

def item (t : Value) : Except Fault Value :=
  match t with
  | .transition _ (v :: _) => .ok v
  | _ => .error illTyped

def number (s : Value) : Except Fault Int := (s.number?).elim (.error illTyped) .ok

def counterApply (s t : Value) : Except Fault Value :=
  if isNamed "Increment" t then onNumber (fun n => .int (n + 1)) s else .ok (.int 0)

def counterAllows (s t : Value) : Except Fault Bool :=
  if isNamed "Reset" t then (number s).map fun n => decide (0 < n) else .ok true

def bankApply (s t : Value) : Except Fault Value := do
  let balance ← number s
  let amount ← amount t
  .ok (.int (if isNamed "Deposit" t then balance + amount else balance - amount))

def bankAllows (s t : Value) : Except Fault Bool :=
  if isNamed "Withdraw" t then do
    let amount ← amount t
    let balance ← number s
    .ok (decide (amount ≤ balance))
  else .ok true

def heapApply (s t : Value) : Except Fault Value := do
  let items ← itemsOf s
  if isNamed "Push" t then
    let v ← item t
    .ok (.list (sortValues (items ++ [v])))
  else .ok (.list items.dropLast)

def notInList : Fault := .ofText .value "list.remove(x): x not in list"

def bagApply (s t : Value) : Except Fault Value := do
  let items ← itemsOf s
  let v ← item t
  (removeFirst? v items).elim (.error notInList) fun items => .ok (.list items)

def bagAllows (s t : Value) : Except Fault Bool := do
  let v ← item t
  let items ← itemsOf s
  .ok (contains items v)

def always (_ _ : Value) : Except Fault Bool := .ok true

def tableApply (table : RuleTable) (s t : Value) : Except Fault Value :=
  (table.find? t).elim (.ok s) fun e => e.eval (transitionEnv s t)

def tableAllows (table : Option RuleTable) (s t : Value) : Except Fault Bool :=
  (table.bind (RuleTable.find? · t)).elim (.ok true) fun e => e.test (transitionEnv s t)

end Rule

def counterNext (resetWeight : Int) : Strategy Value :=
  orFail (Strategy.oneOf? [((3 : Int), justValue (event "Increment")), (resetWeight, justValue (event "Reset"))])

def bankNext (s : Value) : Strategy Value :=
  let deposit := made "Deposit" (.integers 1 50)
  match s.number? with
  | some balance =>
    if balance ≤ 0 then deposit
    else .oneOf [(1, deposit), (1, made "Withdraw" (.integers 1 balance))]
  | none => .fail illTyped

def heapNext : Strategy Value :=
  .oneOf [(2, made "Push" (.integers (-100) 100)), (1, justValue (event "Pop"))]

def bagNext (s : Value) : Strategy Value :=
  match items? s with
  | some [] => justValue (.transition "Remove" [.int (-1)])
  | some items =>
    (Strategy.integers 0 (items.length - 1)).map
      (fun i => (itemAt items i).map fun v => .transition "Remove" [v]) "item"
  | none => .fail illTyped

def zero : Strategy Value := justValue (.int 0)

mutual

def Recipe.build (env : Env) : Recipe → Except Fault (Strategy Value)
  | .just v => .ok (justValue v)
  | .justOf e => Scenario.build (e.eval env) fun v => .ok (justValue v)
  | .integers lo hi =>
    Scenario.build (lo.evalAmount env) fun lo =>
    Scenario.build (hi.evalAmount env) fun hi => (Strategy.integers? lo hi).map ints
  | .booleans => .ok (converted .booleans .bool)
  | .sampled values => Strategy.sampledFrom? values
  | .sampledOf e =>
    Scenario.build (e.eval env) fun v => Scenario.build (itemsOf v) fun values =>
      Strategy.sampledFrom? values
  | .oneOf options =>
    match Recipe.buildOptions env options with
    | .ok options => Strategy.oneOf? options
    | .error e => .error e
  | .tuples parts => (Recipe.buildAll env parts).map fun parts => converted (.tuples parts) .tuple
  | .lists element minSize maxSize =>
    match Recipe.build env element with
    | .ok element =>
      Scenario.build (minSize.evalAmount env) fun minSize =>
      Scenario.build (maxSize.evalAmount env) fun maxSize =>
        (Strategy.lists? element minSize maxSize).map fun s => converted s .list
    | .error e => .error e
  | .builds name parts =>
    (Recipe.buildAll env parts).map fun parts =>
      Strategy.builds (fun args => .ok (.transition name args)) parts
  | .map source e => (Recipe.build env source).map fun s => mapped s env e
  | .filter source e whence => (Recipe.build env source).map fun s => filtered s env e whence
  | .sequences model minSize maxSize config =>
    match ModelRecipe.build env model with
    | .ok model =>
      Scenario.build (sequenceSettings env minSize maxSize config) fun settings =>
        .ok (converted (Strategy.sequences model settings) candidateValue)
    | .error e => .error e
  | .tree t => .ok (TreeRecipe.build env t)

def Recipe.buildAll (env : Env) : List Recipe → Except Fault (List (Strategy Value))
  | [] => .ok []
  | r :: rest =>
    match Recipe.build env r with
    | .ok s => (Recipe.buildAll env rest).map (s :: ·)
    | .error e => .error e

def Recipe.buildOptions (env : Env) :
    List (Expr × Recipe) → Except Fault (List (Amount × Strategy Value))
  | [] => .ok []
  | (weight, r) :: rest =>
    Scenario.build (weight.evalAmount env) fun w =>
      match Recipe.build env r with
      | .ok s => (Recipe.buildOptions env rest).map ((w, s) :: ·)
      | .error e => .error e

def Recipe.buildFirst (env : Env) : List (Expr × Recipe) → Except Fault (Strategy Value)
  | [] => .error (.ofText .value "no transition strategy")
  | (condition, r) :: rest =>
    Scenario.build (condition.test env) fun holds =>
      if holds then Recipe.build env r else Recipe.buildFirst env rest

def Recipe.buildInit (env : Env) : Option Recipe → Except Fault (Strategy Value)
  | none => .ok zero
  | some r => Recipe.build env r

def TreeRecipe.build (env : Env) : TreeRecipe → Strategy Value
  | .just v => justValue v
  | .search start target => converted (.held Search.tree (.start start target)) .int
  | .map source e => mapped (TreeRecipe.build env source) env e
  | .filter source e whence => (filtered (TreeRecipe.build env source) env e whence).seeded 0
  | .draw s seed => (orFail (Recipe.build env s)).seeded seed
  | .table t start => .held t.tree start

def ModelRecipe.build (env : Env) : ModelRecipe → Except Fault (Model Value Value)
  | .counter init resetWeight => (Recipe.buildInit env init).map fun init =>
    { name := "CounterModel", apply := Rule.counterApply, allows := Rule.counterAllows,
      initial := init, next := fun _ => counterNext resetWeight }
  | .resetOnly init => (Recipe.buildInit env init).map fun init =>
    { name := "ResetOnly", apply := Rule.counterApply, allows := Rule.counterAllows,
      initial := init, next := fun _ => justValue (event "Reset") }
  | .capped init cap => (Recipe.buildInit env init).map fun init =>
    { name := "Capped", apply := Rule.counterApply,
      allows := fun s _ => (Rule.number s).map fun n => decide (n < cap),
      initial := init, next := fun _ => justValue (event "Increment") }
  | .bank init => (Recipe.buildInit env init).map fun init =>
    { name := "BankModel", apply := Rule.bankApply, allows := Rule.bankAllows,
      initial := init, next := bankNext }
  | .heap => .ok
    { name := "HeapModel", apply := Rule.heapApply, allows := Rule.always,
      initial := justValue (.list []), next := fun _ => heapNext }
  | .bag size => .ok
    { name := "BagModel", apply := Rule.bagApply, allows := Rule.bagAllows,
      initial := justValue (.list ((List.range size.toNat).map fun (i : Nat) => .int i)), next := bagNext }
  | .expr init next apply allows => .ok
    { name := if allows.isSome then "ExprModelPre" else "ExprModel",
      apply := Rule.tableApply apply, allows := Rule.tableAllows allows,
      initial := orFail (Recipe.build env init),
      next := fun s => orFail (Recipe.buildFirst (("$s", s) :: env) next) }

end

end StateCheck.Scenario
