import StateCheck.Calendar
import StateCheck.Numeric.Nearest
import StateCheck.Numeric.Reading

/-!
Points in time as `2024-01-02T03:04:05`, with microseconds and an offset only where there are any. They are
read from other forms as well: without separators, by week, with any character before the time of day.
-/

namespace StateCheck
open Numeric

structure Timestamp where
  year : Nat
  month : Nat
  day : Nat
  hour : Nat := 0
  minute : Nat := 0
  second : Nat := 0
  microsecond : Nat := 0
  offset : Option Int := none
  deriving DecidableEq, Repr

namespace Timestamp

def padded (width n : Nat) : String :=
  let digits := toString n
  String.ofList (List.replicate (width - digits.length) '0') ++ digits

def fractionShown (n : Nat) : String := if n = 0 then "" else "." ++ padded 6 n

def offsetShown (offset : Int) : String :=
  let size := offset.natAbs
  let seconds := size / 1000000
  let rest := size % 1000000
  (if offset < 0 then "-" else "+") ++ padded 2 (seconds / 3600) ++ ":" ++ padded 2 (seconds / 60 % 60) ++
    if seconds % 60 = 0 ∧ rest = 0 then "" else ":" ++ padded 2 (seconds % 60) ++ fractionShown rest

def shown (t : Timestamp) : String :=
  padded 4 t.year ++ "-" ++ padded 2 t.month ++ "-" ++ padded 2 t.day ++ "T" ++
    padded 2 t.hour ++ ":" ++ padded 2 t.minute ++ ":" ++ padded 2 t.second ++
    fractionShown t.microsecond ++ (t.offset.map offsetShown).getD ""

def digits? (count : Nat) (cs : List Char) : Option (Nat × List Char) :=
  let front := cs.take count
  if front.length = count && front.all isDigit then some (natOfDigits front, cs.drop count) else none

def hyphen? (hyphens : Bool) (cs : List Char) : Option (List Char) :=
  if !hyphens then some cs else if cs.head? = some '-' then some (cs.drop 1) else none

/-- The length of the date in front. A week with a hyphen after it goes on with a day, unless two more
characters make that the time's; a week's digits go on with a day if those of the time pair up then. -/
def dateLength (cs : List Char) : Nat :=
  let at? (i : Nat) (c : Char) : Bool := cs[i]? = some c
  if cs.length = 7 then 7
  else if at? 4 '-' then
    if !at? 5 'W' then 10
    else if !at? 8 '-' then 8
    else if (cs[10]?).any isDigit then 8 else 10
  else if at? 4 'W' then
    let stop := 7 + ((cs.drop 7).takeWhile isDigit).length
    if stop < 9 then stop else if stop % 2 = 0 then 7 else 8
  else 8

def date? (cs : List Char) : Option (Nat × Nat × Nat) := do
  let (year, rest) ← digits? 4 cs
  let hyphens := rest.head? = some '-'
  let rest := if hyphens then rest.drop 1 else rest
  if rest.head? = some 'W' then
    let (week, rest) ← digits? 2 (rest.drop 1)
    if rest.isEmpty then Calendar.ofWeek? year week 1
    else
      let (day, _) ← digits? 1 (← hyphen? hyphens rest)
      Calendar.ofWeek? year week day
  else
    let (month, rest) ← digits? 2 rest
    let (day, _) ← digits? 2 (← hyphen? hyphens rest)
    some (year, month, day)

structure Clock where
  fields : List Nat
  microsecond : Nat := 0
  ended : Bool

def fraction? (left : Nat) (cs : List Char) : Option Clock := do
  let count := min left 6
  let (n, rest) ← digits? count cs
  some ⟨[], n * pow10 (6 - count), (rest.dropWhile isDigit).isEmpty⟩

/-- At most `count` fields of two digits, of a time that takes the first `left` characters. Either all
fields are separated by colons or none is. -/
def clock? (colons : Option Bool) (left : Nat) : Nat → List Char → Option Clock
  | 0, cs => fraction? left cs
  | count + 1, cs => do
    let (n, rest) ← digits? 2 cs
    let next := rest.head?
    let separated := colons.getD (next = some ':')
    let clock ←
      if left ≤ 3 then some ⟨[], 0, next.isNone⟩
      else if separated && next = some ':' then clock? separated (left - 3) count (rest.drop 1)
      else if next = some '.' || next = some ',' then fraction? (left - 3) (rest.drop 1)
      else if !separated then clock? separated (left - 2) count rest
      else none
    some { clock with fields := n :: clock.fields }

def isZoneSign (c : Char) : Bool := c = '+' || c = '-' || c = 'Z'

def zone? (cs : List Char) : Option Int :=
  match cs with
  | ['Z'] => some 0
  | sign :: rest => do
    if sign = 'Z' then none
    else
      let clock ← clock? none rest.length 3 rest
      if !clock.ended then none
      else
        let seconds := 3600 * clock.fields.getD 0 0 + 60 * clock.fields.getD 1 0 + clock.fields.getD 2 0
        let size := if seconds = 0 then 0 else 1000000 * seconds + clock.microsecond
        some (if sign = '-' then -(size : Int) else size)
  | [] => none

def withTime? (t : Timestamp) (cs : List Char) : Option Timestamp := do
  let time := cs.takeWhile fun c => !isZoneSign c
  let zone := cs.drop time.length
  let clock ← clock? none time.length 3 cs
  let offset ← if zone.isEmpty then (if clock.ended then some none else none) else (zone? zone).map some
  some { t with
    hour := clock.fields.getD 0 0, minute := clock.fields.getD 1 0, second := clock.fields.getD 2 0,
    microsecond := clock.microsecond, offset := offset }

def form? (cs : List Char) : Option Timestamp := do
  let length := dateLength cs
  let (year, month, day) ← date? (cs.take length)
  let t : Timestamp := { year, month, day }
  match cs.drop length with
  | [] => some t
  | _ :: time => t.withTime? time

def check (t : Timestamp) : Except Fault Unit := do
  Calendar.checkOffset (t.offset.getD 0)
  Calendar.checkDay t.year t.month t.day
  Calendar.checkTime t.hour t.minute t.second

def ofText (s : String) : Except Fault Timestamp :=
  match form? s.toList with
  | none => .error (.ofText .value ("Invalid isoformat string: " ++ Text.quoted s))
  | some t => t.check.map fun _ => t

end Timestamp
end StateCheck
