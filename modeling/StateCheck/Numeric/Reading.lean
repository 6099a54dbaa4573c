import StateCheck.Text.Blank

/-!
Reading numbers from text.
-/

namespace StateCheck.Numeric

def isDigit (c : Char) : Bool := '0' ≤ c && c ≤ '9'

def digitValue (c : Char) : Nat := c.toNat - '0'.toNat

def natOfDigits (cs : List Char) : Nat := cs.foldl (fun n c => 10 * n + digitValue c) 0

def takeSign : List Char → Bool × List Char
  | '-' :: rest => (true, rest)
  | '+' :: rest => (false, rest)
  | cs => (false, cs)

def joinDigits (cs : List Char) : Option (List Char) :=
  if !cs.contains '_' then some cs
  else if cs.head? = some '_' || cs.getLast? = some '_' then none
  else if (cs.zip (cs.drop 1)).any fun p => p.1 = '_' && p.2 = '_' then none
  else some (cs.filter (· ≠ '_'))

def dropZeroFraction (cs : List Char) : List Char :=
  let whole := cs.takeWhile (· ≠ '.')
  let fraction := cs.drop (whole.length + 1)
  if !fraction.isEmpty && fraction.all (· = '0') then whole else cs

/-- What follows a run of zeros and underscores: a number that starts anew, perhaps with its own minus
sign. Where nothing follows, the last of the run stands for all of it. -/
def afterZeros (last : Char) : List Char → Option (List Char)
  | [] => some [last]
  | c :: rest =>
    if c = '0' || c = '_' then afterZeros c rest
    else if isDigit c || c = '-' then some (c :: rest)
    else none

def dropLeadingZeros : List Char → Option (List Char)
  | [] => none
  | c :: rest =>
    if c = '0' then afterZeros c rest
    else if isDigit c || c = '-' then some (c :: rest)
    else none

def plainInt? (cs : List Char) : Option Int :=
  let negative := cs.head? = some '-'
  let digits := if negative then cs.drop 1 else cs
  if digits.isEmpty || !digits.all isDigit || (digits.head? = some '0' && 1 < digits.length) then none
  else some (if negative then -(natOfDigits digits : Int) else natOfDigits digits)

/-- The plain form of an integer with blanks around it, zeros or a plus sign in front, underscores between
its digits and perhaps a fraction of zeros. -/
def plainForm? (s : String) : Option (List Char) :=
  let cs := Text.trim Text.isBlank s.toList
  let cs := if cs.head? = some '+' then cs.drop 1 else cs
  (dropLeadingZeros (dropZeroFraction cs)).bind joinDigits

/-- No integer is read from more characters than this, or written with more digits. -/
def maxDigits : Nat := 4300

/-- `digits * 10 ^ exponent`; an exponent out of all proportion is cut to one that gives the same. -/
def floatOf (digits : Nat) (exponent : Int) : Float :=
  let size := ((toString digits).length : Int)
  if digits = 0 then 0
  else if exponent + size > 400 then Float.ofScientific 1 false 400
  else if exponent + size < -400 then 0
  else Float.ofScientific digits (decide (exponent < 0)) exponent.natAbs

def exponentOf? : List Char → Option Int
  | [] => some 0
  | c :: rest =>
    if c = 'e' || c = 'E' then
      let (negative, cs) := takeSign rest
      if cs.isEmpty || !cs.all isDigit then none
      else some (if negative then -(natOfDigits cs : Int) else natOfDigits cs)
    else none

def unsignedFloat? (cs : List Char) : Option Float := do
  let whole := cs.takeWhile isDigit
  let rest := cs.drop whole.length
  let (fraction, tail) := match rest with
    | '.' :: rest => (rest.takeWhile isDigit, rest.dropWhile isDigit)
    | _ => ([], rest)
  let exponent ← exponentOf? tail
  if whole.isEmpty && fraction.isEmpty then none
  else some (floatOf (natOfDigits (whole ++ fraction)) (exponent - fraction.length))

def lower (cs : List Char) : String := String.ofList (cs.map Char.toLower)

def signedFloat? (cs : List Char) : Option Float := do
  let (negative, cs) := takeSign cs
  let x ← match lower cs with
    | "inf" | "infinity" => some (1.0 / 0.0)
    | "nan" => some (0.0 / 0.0)
    | _ => unsignedFloat? cs
  some (if negative then -x else x)

def floatOfText? (s : String) : Option Float :=
  signedFloat? (Text.trim Text.isBlank s.toList) <|> (joinDigits s.toList).bind signedFloat?

end StateCheck.Numeric
