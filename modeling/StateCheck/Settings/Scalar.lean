import StateCheck.Document.Base64
import StateCheck.Document.Kind
import StateCheck.Document.Quoted
import StateCheck.Settings.Setting
import StateCheck.Text.Digit
import StateCheck.Text.Letters

/-!
What scalars of configuration files are worth. A scalar may have been given its kind by a tag, so its text
can be anything.
-/

namespace StateCheck.Settings.Scalar
open Numeric Document

def usualDigits (cs : List Char) : List Char :=
  cs.map fun c => (Text.decimalDigit? c).elim c fun d => Char.ofNat ('0'.toNat + d)

def emptyFault : Fault := .ofText .index "string index out of range"

def signed (cs : List Char) : Except Fault (Bool × List Char) :=
  if cs.isEmpty then .error emptyFault else .ok (takeSign cs)

def digitIn? (base : Nat) (c : Char) : Option Nat :=
  (Quoted.hexValue? c).bind fun d => if d < base then some d else none

def baseMark? (base : Nat) : Option Char :=
  match base with
  | 2 => some 'b'
  | 8 => some 'o'
  | 16 => some 'x'
  | _ => none

def dropBaseMark (base : Nat) (cs : List Char) : List Char :=
  match cs with
  | '0' :: c :: rest => if baseMark? base = some c.toLower then rest else cs
  | cs => cs

def notNumeral (base : Nat) (cs : List Char) : Fault :=
  .ofText .value <|
    s!"invalid literal for int() with base {base}: " ++
      String.ofList ((Text.quoted (String.ofList cs)).toList.take 200)

def tooLong (digits : Nat) : Fault :=
  .ofText .value <|
    s!"Exceeds the limit ({maxDigits} digits) for integer string conversion: value has {digits} digits; " ++
      "use sys.set_int_max_str_digits() to increase the limit"

def numeral (base : Nat) (cs : List Char) : Except Fault Int :=
  let (negative, inner) := takeSign (Text.trim Text.isBlank (usualDigits cs))
  let inner := dropBaseMark base inner
  let front := (inner.takeWhile fun c => (digitIn? base c).isSome).length
  if base = 10 && maxDigits < front then .error (tooLong front)
  else
    match inner.mapM (digitIn? base) with
    | none => .error (notNumeral base cs)
    | some [] => .error (notNumeral base cs)
    | some ds =>
      let n := ds.foldl (fun n d => base * n + d) 0
      .ok (if negative then -(n : Int) else n)

def sixties (cs : List Char) : Except Fault Int := do
  let ns ← (Kind.parts ':' cs).mapM (numeral 10)
  .ok (ns.foldl (fun sum n => 60 * sum + n) 0)

def natural (cs : List Char) : Except Fault Int :=
  match cs with
  | [] => .error emptyFault
  | ['0'] => .ok 0
  | '0' :: 'b' :: rest => numeral 2 rest
  | '0' :: 'x' :: rest => numeral 16 rest
  | '0' :: rest => numeral 8 ('0' :: rest)
  | cs => if cs.contains ':' then sixties cs else numeral 10 cs

def int (cs : List Char) : Except Fault Int := do
  let (negative, cs) ← signed (cs.filter (· ≠ '_'))
  let n ← natural cs
  .ok (if negative then -n else n)

def decimal (cs : List Char) : Except Fault Float :=
  match signedFloat? (Text.trim Text.isBlank (usualDigits cs)) with
  | some x => .ok x
  | none => .error (.ofText .value ("could not convert string to float: " ++ Text.quoted (String.ofList cs)))

def addSixties : Float → Nat → List Float → Float
  | sum, _, [] => sum
  | sum, weight, x :: rest => addSixties (sum + x * Setting.floatOfInt weight) (60 * weight) rest

def real (cs : List Char) : Except Fault Float := do
  let (negative, cs) ← signed ((cs.filter (· ≠ '_')).map Text.lowerChar)
  let x ← match String.ofList cs with
    | ".inf" => .ok (1.0 / 0.0)
    | ".nan" => .ok (0.0 / 0.0)
    | _ =>
      if cs.contains ':' then do
        let xs ← (Kind.parts ':' cs).mapM decimal
        .ok (addSixties 0 1 xs.reverse)
      else decimal cs
  .ok (if negative then -x else x)

def bool (s : String) : Except Fault Bool :=
  let lower := Text.lower s
  if ["yes", "true", "on"].contains lower then .ok true
  else if ["no", "false", "off"].contains lower then .ok false
  else .error (.raised .key [.text lower])

def timestamp (cs : List Char) : Except Fault Setting :=
  match Moment.ofText? (Kind.dropBreak cs) with
  | none => .error (.ofText .missingAttribute "'NoneType' object has no attribute 'groupdict'")
  | some m => do
    m.check
    .ok (if m.clock.isSome then .moment else .day)

def bytes (cs : List Char) : Except Fault Setting :=
  if cs.all fun c => c.toNat < 0x80 then
    (Base64.decode? cs).elim (.error .settingsUnreadable) fun bs => .ok (.bytes bs)
  else .error .settingsUnreadable

def read (kind : Kind) (s : String) : Except Fault Setting :=
  match kind with
  | .null => .ok .null
  | .bool => (bool s).map .bool
  | .int => (int s.toList).map .int
  | .real => (real s.toList).map .real
  | .binary => bytes s.toList
  | .timestamp => timestamp s.toList
  | .text => .ok (.text s)
  | _ => .error .settingsUnreadable

end StateCheck.Settings.Scalar
