import StateCheck.Fault
import StateCheck.Numeric.Nearest
import StateCheck.Numeric.Reading
import StateCheck.Strategy.Amount

/-!
Small expressions over plain data, which stand for user functions in a described scenario. Conjunction,
disjunction and choice evaluate no more than they need.
-/

namespace StateCheck.Scenario

inductive Op where
  | add | sub | mul | div | mod | lt | le | gt | ge | eq | ne | neg | abs | min | max | not | bool
  | plain | shown | size | sum | sorted | get | mem | list | tuple | append | init | tail | remove | range
  | transition | name | args | initial | transitions | throw | format
  deriving DecidableEq, Repr

inductive Expr where
  | lit (v : Value)
  | var (x : String)
  | apply (op : Op) (args : List Expr)
  | all (args : List Expr)
  | any (args : List Expr)
  | ite (condition yes no : Expr)
  deriving Inhabited

def Op.table : List (String × Op) :=
  [("+", .add), ("-", .sub), ("*", .mul), ("//", .div), ("%", .mod), ("<", .lt), ("<=", .le),
    (">", .gt), (">=", .ge), ("==", .eq), ("!=", .ne), ("neg", .neg), ("abs", .abs), ("min", .min),
    ("max", .max), ("not", .not), ("bool", .bool), ("str", .plain), ("repr", .shown), ("len", .size),
    ("sum", .sum), ("sorted", .sorted), ("get", .get), ("in", .mem), ("list", .list),
    ("tuple", .tuple), ("append", .append), ("init", .init), ("tail", .tail), ("remove", .remove),
    ("range", .range), ("tr", .transition), ("name", .name), ("args", .args), ("initial", .initial),
    ("transitions", .transitions), ("raise", .throw), ("fmt", .format)]

def Op.ofName? (s : String) : Option Op := Op.table.lookup s

def truthy : Value → Bool
  | .none => false
  | .bool b => b
  | .int n => n ≠ 0
  | .text s => !s.isEmpty
  | .list items => !items.isEmpty
  | .tuple items => !items.isEmpty
  | .candidate _ transitions => !transitions.isEmpty
  | .real _ | .transition .. => true

def illTyped : Fault := .ofText .type "ill-typed expression"

def divisionByZero : Fault := .ofText .zeroDivision "division by zero"

mutual

def less : Value → Value → Bool
  | .text s, .text t => decide (s < t)
  | .list xs, .list ys => lessItems xs ys
  | .tuple xs, .tuple ys => lessItems xs ys
  | a, b =>
    match a.number?, b.number? with
    | some m, some n => decide (m < n)
    | _, _ => false

def lessItems : List Value → List Value → Bool
  | _, [] => false
  | [], _ :: _ => true
  | x :: xs, y :: ys => if x == y then lessItems xs ys else less x y

end

def sortValues (items : List Value) : List Value := items.mergeSort fun a b => !less b a

def contains (items : List Value) (v : Value) : Bool := items.any (· == v)

def removeFirst? (v : Value) : List Value → Option (List Value)
  | [] => none
  | item :: rest => if item == v then some rest else (removeFirst? v rest).map (item :: ·)

def itemAt (items : List Value) (i : Int) : Except Fault Value :=
  let found := if 0 ≤ i then items[i.toNat]? else none
  found.elim (.error (.ofText .index "index out of range")) .ok

def onNumbers (f : Int → Int → Except Fault Value) (a b : Value) : Except Fault Value :=
  match a.number?, b.number? with
  | some m, some n => f m n
  | _, _ => .error illTyped

def onNumber (f : Int → Value) (a : Value) : Except Fault Value :=
  (a.number?).elim (.error illTyped) fun n => .ok (f n)

def total (items : List Value) : Except Fault Value :=
  (items.mapM Value.number?).elim (.error illTyped) fun numbers => .ok (.int (numbers.foldl (· + ·) 0))

def items? : Value → Option (List Value)
  | .list items => some items
  | .tuple items => some items
  | _ => none

def size? : Value → Option Nat
  | .list items => some items.length
  | .tuple items => some items.length
  | .text s => some s.length
  | .candidate _ transitions => some transitions.length
  | _ => none

def leastUnwritten : Nat := Numeric.pow10 Numeric.maxDigits

mutual

def isWritten : Value → Bool
  | .int n => decide (n.natAbs < leastUnwritten)
  | .list items | .tuple items | .transition _ items => areWritten items
  | .candidate first steps => isWritten first && areWritten steps
  | .none | .bool _ | .real _ | .text _ => true

def areWritten : List Value → Bool
  | [] => true
  | v :: rest => isWritten v && areWritten rest

end

def unwritten : Fault :=
  .ofText .value <|
    s!"Exceeds the limit ({Numeric.maxDigits} digits) for integer string conversion; " ++
      "use sys.set_int_max_str_digits() to increase the limit"

def written (v : Value) : Except Fault Unit := if isWritten v then .ok () else .error unwritten

def thrown (name : String) (args : List Value) : Fault :=
  match Fault.Kind.ofName? name with
  | some kind => .raised kind args
  | none => illTyped

def Op.eval1 (op : Op) (a : Value) : Except Fault Value :=
  match op, a with
  | .neg, a => onNumber (fun n => .int (-n)) a
  | .abs, a => onNumber (fun n => .int n.natAbs) a
  | .not, a => .ok (.bool (!truthy a))
  | .bool, a => .ok (.bool (truthy a))
  | .plain, a => (written a).map fun _ => .text a.plain
  | .shown, a => (written a).map fun _ => .text a.shown
  | .size, a => (size? a).elim (.error illTyped) fun n => .ok (.int n)
  | .sum, a => (items? a).elim (.error illTyped) total
  | .sorted, a => (items? a).elim (.error illTyped) fun xs => .ok (.list (sortValues xs))
  | .init, .list xs => .ok (.list xs.dropLast)
  | .tail, .list xs => .ok (.list (xs.drop 1))
  | .init, .tuple xs => .ok (.tuple xs.dropLast)
  | .tail, .tuple xs => .ok (.tuple (xs.drop 1))
  | .range, a => onNumber (fun n => .list ((List.range n.toNat).map fun (i : Nat) => .int i)) a
  | .name, .transition label _ => .ok (.text label)
  | .name, _ => .ok .none
  | .args, .transition _ given => .ok (.list given)
  | .args, _ => .ok (.list [])
  | .initial, .candidate first _ => .ok first
  | .transitions, .candidate _ steps => .ok (.list steps)
  | _, _ => .error illTyped

def Op.eval2 (op : Op) (a b : Value) : Except Fault Value :=
  match op, a, b with
  | .add, a, b => onNumbers (fun m n => .ok (.int (m + n))) a b
  | .sub, a, b => onNumbers (fun m n => .ok (.int (m - n))) a b
  | .mul, a, b => onNumbers (fun m n => .ok (.int (m * n))) a b
  | .div, a, b =>
    onNumbers (fun m n => if n = 0 then .error divisionByZero else .ok (.int (Int.fdiv m n))) a b
  | .mod, a, b =>
    onNumbers (fun m n => if n = 0 then .error divisionByZero else .ok (.int (Int.fmod m n))) a b
  | .lt, a, b => .ok (.bool (less a b))
  | .gt, a, b => .ok (.bool (less b a))
  | .le, a, b => .ok (.bool (!less b a))
  | .ge, a, b => .ok (.bool (!less a b))
  | .eq, a, b => .ok (.bool (a == b))
  | .ne, a, b => .ok (.bool (a != b))
  | .min, a, b => .ok (if less b a then b else a)
  | .max, a, b => .ok (if less a b then b else a)
  | .get, xs, i =>
    match items? xs, i.number? with
    | some xs, some i => itemAt xs i
    | _, _ => .error illTyped
  | .mem, x, xs => (items? xs).elim (.error illTyped) fun xs => .ok (.bool (contains xs x))
  | .append, .list xs, x => .ok (.list (xs ++ [x]))
  | .remove, .list xs, x =>
    (removeFirst? x xs).elim (.error (.ofText .value "not in list")) fun xs => .ok (.list xs)
  | _, _, _ => .error illTyped

def Op.eval (op : Op) (values : List Value) : Except Fault Value :=
  match op, values with
  | .list, values => .ok (.list values)
  | .tuple, values => .ok (.tuple values)
  | .format, values => (written (.list values)).map fun _ => .text (String.join (values.map Value.plain))
  | .transition, .text label :: given => .ok (.transition label given)
  | .throw, .text kind :: given => .error (thrown kind given)
  | op, [a] => op.eval1 a
  | op, [a, b] => op.eval2 a b
  | _, _ => .error illTyped

abbrev Env : Type := List (String × Value)

def Env.find (env : Env) (x : String) : Except Fault Value :=
  (env.lookup x).elim (.error (.raised .key [.text x])) .ok

namespace Expr

mutual

def eval (env : Env) : Expr → Except Fault Value
  | lit v => .ok v
  | var x => env.find x
  | apply op args =>
    match evalAll env args with
    | .ok values => op.eval values
    | .error e => .error e
  | all args => (evalAnd env args).map .bool
  | any args => (evalOr env args).map .bool
  | ite condition yes no =>
    match eval env condition with
    | .ok c => if truthy c then eval env yes else eval env no
    | .error e => .error e

def evalAll (env : Env) : List Expr → Except Fault (List Value)
  | [] => .ok []
  | e :: rest =>
    match eval env e with
    | .ok v => (evalAll env rest).map (v :: ·)
    | .error e => .error e

def evalAnd (env : Env) : List Expr → Except Fault Bool
  | [] => .ok true
  | e :: rest =>
    match eval env e with
    | .ok v => if truthy v then evalAnd env rest else .ok false
    | .error e => .error e

def evalOr (env : Env) : List Expr → Except Fault Bool
  | [] => .ok false
  | e :: rest =>
    match eval env e with
    | .ok v => if truthy v then .ok true else evalOr env rest
    | .error e => .error e

end

def test (env : Env) (e : Expr) : Except Fault Bool := (e.eval env).map truthy

def evalAmount (env : Env) (e : Expr) : Except Fault Amount := do
  let v ← e.eval env
  (Amount.ofValue? v).elim (.error illTyped) .ok

end Expr

abbrev RuleTable : Type := List (String × Expr)

def RuleTable.find? (table : RuleTable) : Value → Option Expr
  | .transition name _ => table.lookup name <|> table.lookup "*"
  | _ => table.lookup "*"

def argsOf : Value → List Value
  | .transition _ args => args
  | _ => []

def transitionEnv (s t : Value) : Env :=
  ("$s", s) :: ("$t", t) :: ["$a", "$b", "$c"].zip (argsOf t)

end StateCheck.Scenario
