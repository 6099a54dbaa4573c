import StateCheck.Calendar
import StateCheck.Document.Cursor
import StateCheck.Numeric.Reading

/-!
Days and points in time as documents write them: `2024-01-02`, or `2024-1-2 3:04:05.6 +7:30`.
-/

namespace StateCheck.Document
open Numeric

structure Clock where
  hour : Nat
  minute : Nat
  second : Nat
  /-- Minutes ahead, where an offset is written in numbers. -/
  offset : Option Int := none

structure Moment where
  year : Nat
  month : Nat
  day : Nat
  clock : Option Clock := none

namespace Moment

def number? (least most : Nat) (cs : List Char) : Option (Nat × List Char) :=
  let digits := (cs.take most).takeWhile isDigit
  if digits.length < least then none else some (natOfDigits digits, cs.drop digits.length)

def after? (mark : Char) (cs : List Char) : Option (List Char) :=
  if cs.head? = some mark then some (cs.drop 1) else none

def gap? (cs : List Char) : Option (List Char) :=
  match cs with
  | [] => none
  | c :: rest =>
    if c = 'T' || c = 't' then some rest
    else if isBlank c then some (rest.dropWhile isBlank)
    else none

def dropFraction (cs : List Char) : List Char :=
  match cs with
  | '.' :: rest => rest.dropWhile isDigit
  | cs => cs

def offset? (cs : List Char) : Option (Option Int) :=
  if cs.isEmpty then some none
  else
    match cs.dropWhile isBlank with
    | ['Z'] => some none
    | c :: rest => do
      if c ≠ '+' ∧ c ≠ '-' then none
      else
        let (hours, rest) ← number? 1 2 rest
        let minutes ← match rest with
          | [] => some 0
          | ':' :: rest => do
            let (minutes, rest) ← number? 2 2 rest
            if rest.isEmpty then some minutes else none
          | _ => none
        let size : Int := 60 * hours + minutes
        some (some (if c = '-' then -size else size))
    | [] => none

def clock? (cs : List Char) : Option Clock := do
  let (hour, rest) ← number? 1 2 cs
  let (minute, rest) ← number? 2 2 (← after? ':' rest)
  let (second, rest) ← number? 2 2 (← after? ':' rest)
  let offset ← offset? (dropFraction rest)
  some ⟨hour, minute, second, offset⟩

def ofText? (cs : List Char) : Option Moment := do
  let (year, rest) ← number? 4 4 cs
  let (month, rest) ← number? 1 2 (← after? '-' rest)
  let (day, rest) ← number? 1 2 (← after? '-' rest)
  if rest.isEmpty then some { year, month, day }
  else
    let clock ← clock? (← gap? rest)
    some { year, month, day, clock := clock }

def isWritten (cs : List Char) : Bool := (ofText? cs).any fun m => m.clock.isSome || cs.length = 10

def check (m : Moment) : Except Fault Unit := do
  let offset := (m.clock.bind (·.offset)).getD 0
  Calendar.checkOffset (60 * Calendar.perSecond * offset)
  Calendar.checkDay m.year m.month m.day
  match m.clock with
  | some clock => Calendar.checkTime clock.hour clock.minute clock.second
  | none => .ok ()

end Moment
end StateCheck.Document
