/-!
Bytes in sixty-four characters, four of which make three bytes. Other characters do not count.
-/

namespace StateCheck.Document.Base64

def value? (c : Char) : Option Nat :=
  if 'A' ≤ c && c ≤ 'Z' then some (c.toNat - 'A'.toNat)
  else if 'a' ≤ c && c ≤ 'z' then some (c.toNat - 'a'.toNat + 26)
  else if '0' ≤ c && c ≤ '9' then some (c.toNat - '0'.toNat + 52)
  else if c = '+' then some 62
  else if c = '/' then some 63
  else none

/-- How far a group of four characters has come. -/
inductive Group where
  | start
  | one (left : Nat)
  | two (left : Nat)
  | three (left : Nat)

namespace Group

def add (n : Nat) : Group → Group × Option Nat
  | start => (one n, none)
  | one left => (two (n % 16), some (left * 4 + n / 16))
  | two left => (three (n % 4), some (left * 16 + n / 4))
  | three left => (start, some (left * 64 + n))

def padding? : Group → Option Nat
  | two _ => some 2
  | three _ => some 1
  | _ => none

end Group

def bytes (g : Group) (pads : Nat) : List Char → Option (List UInt8)
  | [] =>
    match g with
    | .start => some []
    | _ => none
  | c :: rest =>
    if c = '=' then
      match g.padding? with
      | some n => if n ≤ pads + 1 then some [] else bytes g (pads + 1) rest
      | none => bytes g pads rest
    else
      match value? c with
      | none => bytes g pads rest
      | some n =>
        let (g, byte) := g.add n
        (bytes g 0 rest).map fun more => (byte.map Nat.toUInt8).toList ++ more

def decode? (cs : List Char) : Option (List UInt8) := bytes .start 0 cs

end StateCheck.Document.Base64
