import StateCheck.Text.Quoted

/-!
Plain data: what states, transitions and candidates look like to a report. Booleans are the numbers
0 and 1, so the two kinds compare as numbers; all other kinds are apart.
-/

namespace StateCheck

inductive Value where
  | none
  | bool (b : Bool)
  | int (n : Int)
  /-- A real number in its written form: reports only quote it. -/
  | real (written : String)
  | text (s : String)
  | list (items : List Value)
  | tuple (items : List Value)
  | transition (name : String) (args : List Value)
  | candidate (initial : Value) (transitions : List Value)
  deriving Inhabited

namespace Value

def recordFields : String → Option (List String)
  | "Increment" | "Reset" | "Pop" => some []
  | "Deposit" | "Withdraw" => some ["amount"]
  | "Push" => some ["value"]
  | "Remove" => some ["item"]
  | _ => .none

def commas (parts : List String) : String := ", ".intercalate parts

def labelled (name : String) (parts : List String) : List String :=
  match recordFields name with
  | some fields => List.zipWith (fun field part => field ++ "=" ++ part) fields parts
  | .none => parts

def tupled : List String → String
  | [part] => "(" ++ part ++ ",)"
  | parts => "(" ++ commas parts ++ ")"

mutual

def shown : Value → String
  | none => "None"
  | bool true => "True"
  | bool false => "False"
  | int n => toString n
  | real written => written
  | text s => Text.quoted s
  | list items => "[" ++ commas (shownAll items) ++ "]"
  | tuple items => tupled (shownAll items)
  | transition name args => name ++ "(" ++ commas (labelled name (shownAll args)) ++ ")"
  | candidate initial transitions =>
    "Candidate(initial_state=" ++ shown initial ++ ", transitions=" ++ tupled (shownAll transitions) ++ ")"

def shownAll : List Value → List String
  | [] => []
  | v :: rest => shown v :: shownAll rest

end

def plain : Value → String
  | text s => s
  | v => shown v

def number? : Value → Option Int
  | bool b => some (if b then 1 else 0)
  | int n => some n
  | _ => .none

mutual

def same : Value → Value → Bool
  | none, none => true
  | real a, real b => a == b
  | text a, text b => a == b
  | list xs, list ys => sameAll xs ys
  | tuple xs, tuple ys => sameAll xs ys
  | transition m xs, transition n ys => m == n && sameAll xs ys
  | candidate i xs, candidate j ys => same i j && sameAll xs ys
  | a, b =>
    match number? a, number? b with
    | some m, some n => m == n
    | _, _ => false

def sameAll : List Value → List Value → Bool
  | [], [] => true
  | x :: xs, y :: ys => same x y && sameAll xs ys
  | _, _ => false

end

instance : BEq Value := ⟨same⟩

def kindName : Value → String
  | none => "NoneType"
  | bool _ => "bool"
  | int _ => "int"
  | real _ => "float"
  | text _ => "str"
  | list _ => "list"
  | tuple _ => "tuple"
  | transition name _ => if (recordFields name).isSome then name else "Tr"
  | candidate _ _ => "Candidate"

def label : Value → String
  | transition name args =>
    if name.isEmpty then kindName (transition name args) else name
  | v => kindName v

end Value

class Datum (α : Type) where
  datum : α → Value

export Datum (datum)

instance : Datum Value := ⟨id⟩

instance : Datum Bool := ⟨.bool⟩

instance : Datum Int := ⟨.int⟩

instance : Datum Nat := ⟨fun n => .int n⟩

instance {α : Type} [Datum α] : Datum (List α) := ⟨fun items => .list (items.map datum)⟩

def shownOf {α : Type} [Datum α] (a : α) : String := (datum a).shown

end StateCheck
