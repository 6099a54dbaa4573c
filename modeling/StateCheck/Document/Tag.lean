import StateCheck.Document.Quoted
import StateCheck.Document.Token

/-!
Anchors, tags and directives as they are written.
-/

namespace StateCheck.Document

def isNameChar (c : Char) : Bool := c.isAlphanum || c = '-' || c = '_'

def name (cs : List Char) : Read (List Char × List Char) :=
  let name := cs.takeWhile isNameChar
  if name.isEmpty then unreadable else .ok (name, cs.drop name.length)

namespace Anchor

def mayFollow (c : Char) : Bool := isGap c || "?:,]\x7d%@\x60".toList.contains c

def read (cs : List Char) : Read (String × List Char) := do
  let (name, rest) ← name cs
  if stops mayFollow rest then .ok (String.ofList name, rest) else unreadable

end Anchor

namespace Tag

def isUriChar (c : Char) : Bool := c.isAlphanum || "-;/?:@&=+$,_.!~*'()[]%".toList.contains c

def escapedBytes : Nat → List Char → Read (List UInt8 × List Char)
  | 0, _ => unreadable
  | fuel + 1, cs =>
    match cs with
    | '%' :: rest => do
      let n ← if (rest.take 2).length < 2 then unreadable else (Quoted.hexNumber? (rest.take 2)).elim unreadable .ok
      let (bytes, rest) ← escapedBytes fuel (rest.drop 2)
      .ok (n.toUInt8 :: bytes, rest)
    | cs => .ok ([], cs)

def decoded (bytes : List UInt8) : Read (List Char) :=
  (String.fromUTF8? ⟨bytes.toArray⟩).elim unreadable fun s => .ok s.toList

def uriText : Nat → List Char → Read (List Char × List Char)
  | 0, _ => unreadable
  | fuel + 1, cs =>
    match cs with
    | [] => .ok ([], [])
    | c :: rest =>
      if !isUriChar c then .ok ([], c :: rest)
      else do
        let (front, rest) ←
          if c = '%' then do
            let (bytes, rest) ← escapedBytes (rest.length + 2) (c :: rest)
            let cs ← decoded bytes
            .ok (cs, rest)
          else .ok ([c], rest)
        let (more, rest) ← uriText fuel rest
        .ok (front ++ more, rest)

def uri (cs : List Char) : Read (String × List Char) :=
  if !cs.head?.any isUriChar then unreadable
  else do
    let (text, rest) ← uriText (cs.length + 1) cs
    .ok (String.ofList text, rest)

def handle (cs : List Char) : Read (String × List Char) :=
  match cs with
  | '!' :: rest =>
    if rest.head? = some ' ' then .ok ("!", rest)
    else
      let name := rest.takeWhile isNameChar
      match rest.drop name.length with
      | '!' :: rest => .ok ("!" ++ String.ofList name ++ "!", rest)
      | _ => unreadable
  | _ => unreadable

def body (cs : List Char) : Read (Token × List Char) :=
  match cs with
  | '<' :: rest => do
    let (suffix, rest) ← uri rest
    match rest with
    | '>' :: rest => .ok (.tag none suffix, rest)
    | _ => unreadable
  | cs =>
    if stops isGap cs then .ok (.tag none "!", cs)
    else if (cs.takeWhile fun c => !isSpaceOrBreak c).contains '!' then do
      let (handle, rest) ← handle ('!' :: cs)
      let (suffix, rest) ← uri rest
      .ok (.tag handle suffix, rest)
    else do
      let (suffix, rest) ← uri cs
      .ok (.tag "!" suffix, rest)

def read (cs : List Char) : Read (Token × List Char) := do
  let (token, rest) ← body cs
  if stops isSpaceOrBreak rest then .ok (token, rest) else unreadable

end Tag

namespace Directive

def skipSpaces (cs : List Char) : List Char := cs.dropWhile (· = ' ')

def number (cs : List Char) : Read (Nat × List Char) :=
  let digits := cs.takeWhile Char.isDigit
  if digits.isEmpty then unreadable
  else .ok (digits.foldl (fun n c => 10 * n + (c.toNat - '0'.toNat)) 0, cs.drop digits.length)

def readVersion (cs : List Char) : Read (Directive × List Char) := do
  let (major, rest) ← number (skipSpaces cs)
  match rest with
  | '.' :: rest => do
    let (_, rest) ← number rest
    if stops isSpaceOrBreak rest then .ok (.version major, rest) else unreadable
  | _ => unreadable

def readTagStem (cs : List Char) : Read (Directive × List Char) := do
  let (handle, rest) ← Tag.handle (skipSpaces cs)
  if rest.head? ≠ some ' ' then unreadable
  else do
    let (stem, rest) ← Tag.uri (skipSpaces rest)
    if stops isSpaceOrBreak rest then .ok (.tagStem handle stem, rest) else unreadable

def ended (cs : List Char) : Read (List Char) :=
  let rest := skipSpaces cs
  let rest := if rest.head? = some '#' then rest.dropWhile fun c => !isBreak c else rest
  if stops isBreak rest then .ok (rest.drop 1) else unreadable

def read (cs : List Char) : Read (Directive × List Char) := do
  let (name, rest) ← name cs
  if !stops isSpaceOrBreak rest then unreadable
  else do
    let (directive, rest) ← match String.ofList name with
      | "YAML" => readVersion rest
      | "TAG" => readTagStem rest
      | _ => .ok (.other, rest.dropWhile fun c => !isBreak c)
    let rest ← ended rest
    .ok (directive, rest)

end Directive
end StateCheck.Document
