import StateCheck.Fault
import StateCheck.Numeric.Binary64
import StateCheck.Numeric.Reading

/-!
Values as sources of settings give them, and what they are worth as a number or a truth value.
-/

namespace StateCheck

inductive Setting where
  | null
  | bool (b : Bool)
  | int (n : Int)
  | real (x : Float)
  | text (s : String)
  | bytes (bs : List UInt8)
  | day | moment
  | list (items : List Setting)
  | map (pairs : List (Setting × Setting))
  | set (items : List Setting)
  deriving Inhabited

namespace Setting

def kindName : Setting → String
  | null => "NoneType"
  | bool _ => "bool"
  | int _ => "int"
  | real _ => "float"
  | text _ => "str"
  | bytes _ => "bytes"
  | day => "date"
  | moment => "datetime"
  | list _ => "list"
  | map _ => "dict"
  | set _ => "set"

def isVoid : Setting → Bool
  | null => true
  | bool b => !b
  | int n => n = 0
  | real x => x == 0
  | text s => s.isEmpty
  | bytes bs => bs.isEmpty
  | day | moment => false
  | list items => items.isEmpty
  | map pairs => pairs.isEmpty
  | set items => items.isEmpty

def textOfBytes? (bs : List UInt8) : Option String := String.fromUTF8? ⟨bs.toArray⟩

/-- A whole real number of this size or more is read neither as an integer nor as a truth value. -/
def wholeLimit : Nat := Numeric.pow2 63

def intOfReal (x : Float) : Except Complaint Int :=
  match Numeric.Binary64.ofFloat x with
  | .finite negative m q =>
    let (num, den) := Numeric.Binary64.ratio m q
    let n := num / den
    if num % den ≠ 0 then .error .intFromFloat
    else if wholeLimit ≤ n then .error .intParsingSize
    else .ok (if negative then -(n : Int) else n)
  | _ => .error .finiteNumber

def intOfText (s : String) : Except Complaint Int :=
  match Numeric.plainForm? s with
  | none => .error .intParsing
  | some cs =>
    if Numeric.maxDigits < cs.length then .error .intParsingSize
    else (Numeric.plainInt? cs).elim (.error .intParsing) .ok

def asInt : Setting → Except Complaint Int
  | bool b => .ok (if b then 1 else 0)
  | int n => .ok n
  | real x => intOfReal x
  | text s => intOfText s
  | bytes bs => (textOfBytes? bs).elim (.error .intParsing) intOfText
  | _ => .error .intType

def floatOfInt (n : Int) : Float :=
  let x := Numeric.floatOf n.natAbs 0
  if n < 0 then -x else x

def floatOfText (s : String) : Except Complaint Float :=
  (Numeric.floatOfText? s).elim (.error .floatParsing) .ok

def asFloat : Setting → Except Complaint Float
  | bool b => .ok (if b then 1 else 0)
  | int n =>
    let x := floatOfInt n
    if x.isInf then .error .floatType else .ok x
  | real x => .ok x
  | text s => floatOfText s
  | bytes bs => (textOfBytes? bs).elim (.error .floatParsing) floatOfText
  | _ => .error .floatType

def truths : List String := ["1", "on", "t", "true", "y", "yes"]

def falsehoods : List String := ["0", "off", "f", "false", "n", "no"]

def boolOfText (s : String) : Except Complaint Bool :=
  let s := Numeric.lower s.toList
  if truths.contains s then .ok true else if falsehoods.contains s then .ok false
  else .error .boolParsing

def boolOfInt (n : Int) : Except Complaint Bool :=
  if n = 0 then .ok false else if n = 1 then .ok true
  else if -(wholeLimit : Int) ≤ n ∧ n < wholeLimit then .error .boolParsing
  else .error .boolType

def asBool : Setting → Except Complaint Bool
  | bool b => .ok b
  | int n => boolOfInt n
  | real x =>
    match intOfReal x with
    | .ok n => boolOfInt n
    | .error _ => .error .boolType
  | text s => boolOfText s
  | bytes bs => (textOfBytes? bs).elim (.error .boolParsing) boolOfText
  | _ => .error .boolType

def asIntOrNull : Setting → Except Complaint (Option Int)
  | null => .ok none
  | setting => setting.asInt.map some

end Setting
end StateCheck
