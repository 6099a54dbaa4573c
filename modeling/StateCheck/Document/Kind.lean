import StateCheck.Document.Moment

/-!
Kinds of nodes. A tag names the kind; a plain scalar without one shows it by its form.
-/

namespace StateCheck.Document
open Numeric

inductive Kind where
  | null | bool | int | real | binary | timestamp | text
  | sequence | mapping | set
  | pairs
  | merge
  | value
  | unknown
  deriving DecidableEq, Repr

namespace Kind

def standardStem : String := "tag:yaml.org,2002:"

def standard : List (String × Kind) :=
  [("null", null), ("bool", bool), ("int", int), ("float", real), ("binary", binary),
    ("timestamp", timestamp), ("str", text), ("seq", sequence), ("map", mapping), ("set", set),
    ("omap", pairs), ("pairs", pairs), ("merge", merge), ("value", value)]

def ofTag (tag : String) : Kind :=
  (standard.find? fun entry => standardStem ++ entry.1 == tag).elim unknown (·.2)

def nulls : List String := ["~", "null", "Null", "NULL"]

def truths : List String := ["yes", "Yes", "YES", "true", "True", "TRUE", "on", "On", "ON"]

def falsehoods : List String := ["no", "No", "NO", "false", "False", "FALSE", "off", "Off", "OFF"]

def isBinary (c : Char) : Bool := c = '0' || c = '1'

def isOctal (c : Char) : Bool := '0' ≤ c && c ≤ '7'

def isHex (c : Char) : Bool := isDigit c || ('a' ≤ c && c ≤ 'f') || ('A' ≤ c && c ≤ 'F')

def isGrouped (isMember : Char → Bool) (cs : List Char) : Bool :=
  !cs.isEmpty && cs.all fun c => isMember c || c = '_'

def parts (mark : Char) : List Char → List (List Char)
  | [] => [[]]
  | c :: rest =>
    if c = mark then [] :: parts mark rest
    else
      match parts mark rest with
      | [] => [[c]]
      | part :: others => (c :: part) :: others

def isSixtieth (cs : List Char) : Bool :=
  match cs with
  | [c] => isDigit c
  | [c, d] => '0' ≤ c && c ≤ '5' && isDigit d
  | _ => false

def isSixties (cs : List Char) : Bool :=
  match parts ':' cs with
  | whole :: part :: others =>
    isGrouped isDigit whole && whole.head? ≠ some '_' && (part :: others).all isSixtieth
  | _ => false

def isNatural (cs : List Char) : Bool :=
  match cs with
  | ['0'] => true
  | '0' :: 'b' :: rest => isGrouped isBinary rest
  | '0' :: 'x' :: rest => isGrouped isHex rest
  | '0' :: rest => isGrouped isOctal rest
  | c :: rest => isDigit c && (isGrouped isDigit (c :: rest) || isSixties (c :: rest))
  | [] => false

def isInt (cs : List Char) : Bool := isNatural (takeSign cs).2

def isExponent : List Char → Bool
  | [] => true
  | e :: sign :: digits =>
    (e = 'e' || e = 'E') && (sign = '+' || sign = '-') && !digits.isEmpty && digits.all isDigit
  | _ => false

def isDigitOrBar (c : Char) : Bool := isDigit c || c = '_'

def isPointed (cs : List Char) : Bool :=
  let whole := cs.takeWhile isDigitOrBar
  let rest := cs.drop whole.length
  whole.head?.any isDigit && rest.head? = some '.' && isExponent ((rest.drop 1).dropWhile isDigitOrBar)

def isFraction (cs : List Char) : Bool :=
  match cs with
  | '.' :: c :: rest => isDigit c && isExponent (rest.dropWhile isDigitOrBar)
  | _ => false

def isPointedSixties (cs : List Char) : Bool :=
  match parts '.' cs with
  | [whole, fraction] => isSixties whole && fraction.all isDigitOrBar
  | _ => false

def infinities : List String := [".inf", ".Inf", ".INF"]

def noNumbers : List String := [".nan", ".NaN", ".NAN"]

def isReal (cs : List Char) : Bool :=
  let unsigned := (takeSign cs).2
  isPointed unsigned || isFraction cs || isPointedSixties unsigned ||
    infinities.contains (String.ofList unsigned) || noNumbers.contains (String.ofList cs)

def dropBreak (cs : List Char) : List Char := if cs.getLast? = some '\n' then cs.dropLast else cs

def ofForm (cs : List Char) : Kind :=
  let s := String.ofList cs
  if truths.contains s || falsehoods.contains s then bool
  else if isReal cs then real
  else if isInt cs then int
  else if s = "<<" then merge
  else if nulls.contains s then null
  else if Moment.isWritten cs then timestamp
  else if s = "=" then value
  else text

def ofText (s : String) : Kind := if s.isEmpty then null else ofForm (dropBreak s.toList)

end Kind
end StateCheck.Document
