import StateCheck.Document.Cursor

/-!
Quoted scalars. A quote in a single-quoted one is written twice; a double-quoted one has escapes. Either
may go over several lines, whose breaks count as blanks.
-/

namespace StateCheck.Document

/-- What breaks become in a folded text: a single plain one is a blank, and the first of several goes. -/
def folded (first : Char) (others : List Char) : List Char :=
  if shownBreak first ≠ '\n' then first :: others
  else if others.isEmpty then [' '] else others

def breaks : Nat → List Char → Read (List Char × List Char)
  | 0, _ => unreadable
  | fuel + 1, cs =>
    if isSeparator cs then unreadable
    else
      match cs.dropWhile isBlank with
      | c :: rest =>
        if isBreak c then do
          let (others, rest) ← breaks fuel rest
          .ok (shownBreak c :: others, rest)
        else .ok ([], c :: rest)
      | [] => .ok ([], [])

def gap (cs : List Char) : Read (List Char × List Char) :=
  let blanks := cs.takeWhile isBlank
  match cs.drop blanks.length with
  | [] => unreadable
  | c :: rest =>
    if isBreak c then do
      let (others, rest) ← breaks (rest.length + 1) rest
      .ok (folded c others, rest)
    else .ok (blanks, c :: rest)

namespace Quoted

def escapes : List (Char × Nat) :=
  [('0', 0), ('a', 7), ('b', 8), ('t', 9), ('\t', 9), ('n', 10), ('v', 11), ('f', 12), ('r', 13),
    ('e', 0x1b), (' ', 0x20), ('"', 0x22), ('\\', 0x5c), ('/', 0x2f), ('N', 0x85), ('_', 0xa0),
    ('L', 0x2028), ('P', 0x2029)]

def hexWidth? : Char → Option Nat
  | 'x' => some 2
  | 'u' => some 4
  | 'U' => some 8
  | _ => none

def hexValue? (c : Char) : Option Nat :=
  if '0' ≤ c && c ≤ '9' then some (c.toNat - '0'.toNat)
  else if 'a' ≤ c && c ≤ 'f' then some (c.toNat - 'a'.toNat + 10)
  else if 'A' ≤ c && c ≤ 'F' then some (c.toNat - 'A'.toNat + 10)
  else none

def hexNumber? (cs : List Char) : Option Nat :=
  (cs.mapM hexValue?).map fun digits => digits.foldl (fun n d => 16 * n + d) 0

/-- The character of a number. Half of a surrogate pair is none, and reads as the null character. -/
def charOf (n : Nat) : Read Char :=
  if n < 0x110000 then .ok (Char.ofNat n)
  else if n < 0x80000000 then .error (.ofText .value "chr() arg not in range(0x110000)")
  else .error (.ofText .overflow "Python int too large to convert to C int")

def numbered (width : Nat) (cs : List Char) : Read Char :=
  let digits := cs.take width
  if digits.length < width then unreadable else (hexNumber? digits).elim unreadable charOf

def escape (cs : List Char) : Read (List Char × List Char) :=
  match cs with
  | [] => unreadable
  | c :: rest =>
    match escapes.lookup c, hexWidth? c with
    | some n, _ => .ok ([Char.ofNat n], rest)
    | none, some width => do
      let d ← numbered width rest
      .ok ([d], rest.drop width)
    | none, none => if isBreak c then breaks (rest.length + 1) rest else unreadable

def piece (quote c : Char) (rest : List Char) : Read (List Char × List Char) :=
  if c = quote then .ok ([quote], rest.drop 1)
  else if quote = '"' && c = '\\' then escape rest
  else if isGap c then gap (c :: rest)
  else .ok ([c], rest)

def closes (quote c : Char) (rest : List Char) : Bool :=
  c = quote && !(quote = '\'' && rest.head? = some quote)

def text (quote : Char) : Nat → List Char → Read (List Char × List Char)
  | 0, _ => unreadable
  | _, [] => unreadable
  | fuel + 1, c :: rest =>
    if closes quote c rest then .ok ([], rest)
    else do
      let (front, rest) ← piece quote c rest
      let (more, rest) ← text quote fuel rest
      .ok (front ++ more, rest)

end Quoted
end StateCheck.Document
