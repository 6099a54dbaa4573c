import StateCheck.Fault

/-!
Days and times of day that exist.
-/

namespace StateCheck.Calendar

def isLeap (year : Nat) : Bool := year % 4 = 0 && (year % 100 ≠ 0 || year % 400 = 0)

def daysIn (year month : Nat) : Nat :=
  match month with
  | 2 => if isLeap year then 29 else 28
  | 4 | 6 | 9 | 11 => 30
  | _ => 31

def outOfRange (message : String) : Except Fault Unit := .error (.ofText .value message)

def checkDay (year month day : Nat) : Except Fault Unit :=
  if year < 1 ∨ 9999 < year then outOfRange s!"year {year} is out of range"
  else if month < 1 ∨ 12 < month then outOfRange "month must be in 1..12"
  else if day < 1 ∨ daysIn year month < day then outOfRange "day is out of range for month"
  else .ok ()

def checkTime (hour minute second : Nat) : Except Fault Unit :=
  if 23 < hour then outOfRange "hour must be in 0..23"
  else if 59 < minute then outOfRange "minute must be in 0..59"
  else if 59 < second then outOfRange "second must be in 0..59"
  else .ok ()

def daysBefore (year : Nat) : Nat := 365 * (year - 1) + (year - 1) / 4 - (year - 1) / 100 + (year - 1) / 400

/-- The number of the Monday in whose week the first Thursday of a year lies; the first day of all was a
Monday, and has the number 0. -/
def firstMonday (year : Nat) : Int :=
  let weekday := daysBefore year % 7
  if weekday ≤ 3 then daysBefore year - weekday else daysBefore year - weekday + 7

/-- Whether a year has a week number 53: its first day, or its last, is a Thursday. -/
def isLong (year : Nat) : Bool :=
  let weekday := daysBefore year % 7
  weekday = 3 || (weekday = 2 && isLeap year)

def monthOf (year : Nat) : Nat → Nat → Nat → Nat × Nat
  | 0, month, day => (month, day + 1)
  | fuel + 1, month, day =>
    if day < daysIn year month then (month, day + 1)
    else monthOf year fuel (month + 1) (day - daysIn year month)

def ofWeek? (year week day : Nat) : Option (Nat × Nat × Nat) :=
  if year < 1 ∨ 9999 < year ∨ week < 1 ∨ 53 < week ∨ day < 1 ∨ 7 < day then none
  else if week = 53 && !isLong year then none
  else
    let number := firstMonday year + (7 * (week - 1) + (day - 1) : Nat)
    let year := if number < daysBefore year then year - 1
      else if number < daysBefore (year + 1) then year else year + 1
    let (month, day) := monthOf year 12 1 (number - daysBefore year).toNat
    some (year, month, day)

def perSecond : Int := 1000000

def perDay : Int := 86400 * perSecond

def shownLength (microseconds : Int) : String :=
  let part (name : String) (n : Int) : List String := if n = 0 then [] else [s!"{name}={n}"]
  let rest := Int.fmod microseconds perDay
  let parts := part "days" (Int.fdiv microseconds perDay) ++ part "seconds" (rest / perSecond) ++
    part "microseconds" (rest % perSecond)
  "datetime.timedelta(" ++ (if parts.isEmpty then "0" else ", ".intercalate parts) ++ ")"

def checkOffset (offset : Int) : Except Fault Unit :=
  if -perDay < offset ∧ offset < perDay then .ok ()
  else outOfRange <|
    "offset must be a timedelta strictly between -timedelta(hours=24) and timedelta(hours=24), not " ++
    shownLength offset ++ "."

end StateCheck.Calendar
