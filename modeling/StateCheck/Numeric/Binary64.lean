import StateCheck.Numeric.Nearest

/-!
Double precision numbers taken apart, their shortest decimal digits, and their text.
-/

namespace StateCheck.Numeric

inductive Binary64 where
  | nan
  | infinite (negative : Bool)
  | finite (negative : Bool) (significand : Nat) (exponent : Int)
  deriving DecidableEq, Repr

namespace Binary64

def ofBits (bits : Nat) : Binary64 :=
  let negative := bits / pow2 63 % 2 = 1
  let biased : Nat := bits / pow2 52 % pow2 11
  let fraction : Nat := bits % pow2 52
  if biased = 2047 then if fraction = 0 then infinite negative else nan
  else if biased = 0 then finite negative fraction (-1074)
  else finite negative (pow2 52 + fraction) ((biased : Int) - 1075)

def ofFloat (x : Float) : Binary64 := ofBits x.toBits.toNat

def ratio (m : Nat) (q : Int) : Nat × Nat := (m * pow2 q.toNat, pow2 (-q).toNat)

end Binary64

def shiftUp (num den : Nat) : Nat → Nat → Nat
  | 0, t => t
  | fuel + 1, t => if den ≤ num * pow10 t then t else shiftUp num den fuel (t + 1)

def leading (num den : Nat) : Int :=
  if den ≤ num then ((toString (num / den)).length : Int) - 1
  else -(shiftUp num den 400 1 : Int)

def scaled (num den : Nat) (k : Int) : Nat × Nat :=
  if 0 ≤ k then (num, den * pow10 k.toNat) else (num * pow10 (-k).toNat, den)

/-- The numbers that round to `m * 2 ^ q` in quarters of its last place: from `4 m - below` to `4 m + 2`.
The neighbour below a power of two is only half as far away. -/
def quartersBelow (m : Nat) (q : Int) : Nat := if m = pow2 52 ∧ q > -1074 then 1 else 2

/-- Whether `d * 10 ^ k` rounds to `m * 2 ^ q`; the ends of the interval do if `m` is even. -/
def readsBack (m : Nat) (q : Int) (d : Nat) (k : Int) : Bool :=
  let num := d * pow10 k.toNat * pow2 (-(q - 2)).toNat
  let lo := (4 * m - quartersBelow m q) * pow2 (q - 2).toNat * pow10 (-k).toNat
  let hi := (4 * m + 2) * pow2 (q - 2).toNat * pow10 (-k).toNat
  if m % 2 = 0 then decide (lo ≤ num ∧ num ≤ hi) else decide (lo < num ∧ num < hi)

def withDigits (m : Nat) (q : Int) (n : Nat) : Option (Nat × Int) :=
  let (num, den) := Binary64.ratio m q
  let k := leading num den - n + 1
  let (num, den) := scaled num den k
  let low := num / den
  let nearer := nearest num den
  let farther := if nearer = low then low + 1 else low
  if readsBack m q nearer k then some (nearer, k)
  else if readsBack m q farther k then some (farther, k)
  else none

/-- The fewest digits that read back as `m * 2 ^ q`; seventeen always do. -/
def shortest (m : Nat) (q : Int) : Nat × Int :=
  ((List.range 17).findSome? fun n => withDigits m q (n + 1)).getD (m, q)

def positionalBelow : Int := 16

def positionalFrom : Int := -4

def zeros (n : Nat) : String := String.ofList (List.replicate n '0')

def positional (digits : String) (k : Int) : String :=
  if 0 ≤ k then digits ++ zeros k.toNat ++ ".0"
  else
    let places := (-k).toNat
    let digits := zeros (places + 1 - digits.length) ++ digits
    let whole := digits.length - places
    String.ofList (digits.toList.take whole) ++ "." ++ String.ofList (digits.toList.drop whole)

def exponential (digits : String) (e : Int) : String :=
  let mantissa := match digits.toList with
    | [] => ""
    | [c] => c.toString
    | c :: rest => c.toString ++ "." ++ String.ofList rest
  let size := toString e.natAbs
  mantissa ++ (if e < 0 then "e-" else "e+") ++ (if size.length < 2 then "0" ++ size else size)

def trimZeros : Nat → Nat → Int → Nat × Int
  | 0, d, k => (d, k)
  | fuel + 1, d, k => if d % 10 = 0 ∧ d ≠ 0 then trimZeros fuel (d / 10) (k + 1) else (d, k)

def finiteText (m : Nat) (q : Int) : String :=
  if m = 0 then "0.0"
  else
    let (d, k) := shortest m q
    let (d, k) := trimZeros 20 d k
    let digits := toString d
    let e := k + digits.length - 1
    if positionalFrom ≤ e ∧ e < positionalBelow then positional digits k else exponential digits e

def signed (negative : Bool) (s : String) : String := if negative then "-" ++ s else s

def text (x : Float) : String :=
  match Binary64.ofFloat x with
  | .nan => "nan"
  | .infinite negative => signed negative "inf"
  | .finite negative m q => signed negative (finiteText m q)

def units (m : Nat) (q : Int) (places : Nat) : Nat :=
  let (num, den) := Binary64.ratio m q
  nearest (num * pow10 places) den

def fixed (places : Nat) (x : Float) : String :=
  match Binary64.ofFloat x with
  | .nan => "nan"
  | .infinite negative => signed negative "inf"
  | .finite negative m q =>
    let digits := toString (units m q places)
    let digits := zeros (places + 1 - digits.length) ++ digits
    let whole := digits.length - places
    signed negative <| String.ofList (digits.toList.take whole) ++
      if places = 0 then "" else "." ++ String.ofList (digits.toList.drop whole)

def roundTo (places : Nat) (x : Float) : Float :=
  match Binary64.ofFloat x with
  | .finite negative m q =>
    let y := Float.ofScientific (units m q places) true places
    if negative then -y else y
  | _ => x

end StateCheck.Numeric
