import StateCheck.Document.Plain
import StateCheck.Document.Tag

/-!
From text to tokens. A key is known by the colon after it: a place where one may have started is kept, and
the tokens that open a key are put there once the colon comes. Such a key ends on its line.
-/

namespace StateCheck.Document

/-- A place where a key may have started. -/
structure KeyStart where
  token : Nat
  required : Bool
  index : Nat
  line : Nat
  column : Nat

def maxKeyLength : Nat := 1024

structure Layout where
  place : Cursor
  tokens : Array Token := #[]
  columns : List Nat := []
  depth : Nat := 0
  keyAllowed : Bool := true
  starts : List (Nat × KeyStart) := []

namespace Layout

def push (s : Layout) (t : Token) : Layout := { s with tokens := s.tokens.push t }

def upTo (s : Layout) (rest : List Char) : Layout := { s with place := s.place.upTo rest }

def sign (s : Layout) (t : Token) (length : Nat) : Layout :=
  { s.push t with place := s.place.skip length }

def inBlock (s : Layout) : Bool := s.depth = 0

def dedent (s : Layout) (column : Option Nat) : Layout :=
  if !s.inBlock then s
  else
    let isDeeper (c : Nat) : Bool := column.all (· < c)
    let closed := s.columns.takeWhile isDeeper
    { s with columns := s.columns.drop closed.length
             tokens := s.tokens ++ Array.replicate closed.length .blockEnd }

def isDeeper (s : Layout) (column : Nat) : Bool := s.columns.head?.all (· < column)

def indent (s : Layout) (t : Token) : Layout :=
  let column := s.place.column
  if s.inBlock && s.isDeeper column then { s.push t with columns := column :: s.columns } else s

def isStale (s : Layout) (k : KeyStart) : Bool :=
  k.line ≠ s.place.line || maxKeyLength < s.place.index - k.index

def dropStale (s : Layout) : Read Layout :=
  if s.starts.any fun (_, k) => s.isStale k && k.required then unreadable
  else .ok { s with starts := s.starts.filter fun (_, k) => !s.isStale k }

def dropStart (s : Layout) : Read Layout :=
  match s.starts.lookup s.depth with
  | none => .ok s
  | some k =>
    if k.required then unreadable
    else .ok { s with starts := s.starts.filter (·.1 != s.depth) }

def keepStart (s : Layout) : Read Layout :=
  if !s.keyAllowed then .ok s
  else do
    let s ← s.dropStart
    let k : KeyStart :=
      { token := s.tokens.size, required := s.inBlock && s.columns.head? = some s.place.column,
        index := s.place.index, line := s.place.line, column := s.place.column }
    .ok { s with starts := (s.depth, k) :: s.starts }

def setKeyAllowed (s : Layout) (allowed : Bool) : Layout := { s with keyAllowed := allowed }

def alone (s : Layout) : Read Layout := do
  let s ← (s.dedent none).dropStart
  .ok (s.setKeyAllowed false)

def documentMark (s : Layout) (t : Token) : Read Layout := do
  let s ← s.alone
  .ok (s.sign t 3)

def directive (s : Layout) : Read Layout := do
  let s ← s.alone
  let (d, rest) ← Directive.read (s.place.rest.drop 1)
  .ok ((s.push (.directive d)).upTo rest)

def openFlow (s : Layout) (t : Token) : Read Layout := do
  let s ← s.keepStart
  .ok ({ s with depth := s.depth + 1, keyAllowed := true }.sign t 1)

def closeFlow (s : Layout) (t : Token) : Read Layout := do
  let s ← s.dropStart
  if s.inBlock then unreadable
  else .ok ({ s with depth := s.depth - 1, keyAllowed := false }.sign t 1)

def entry (s : Layout) : Read Layout := do
  let s ← (s.setKeyAllowed true).dropStart
  .ok (s.sign .entry 1)

def item (s : Layout) : Read Layout := do
  if s.inBlock && !s.keyAllowed then unreadable
  else
    let s ← ((s.indent .blockSequence).setKeyAllowed true).dropStart
    .ok (s.sign .item 1)

def key (s : Layout) : Read Layout := do
  if s.inBlock && !s.keyAllowed then unreadable
  else
    let s ← ((s.indent .blockMapping).setKeyAllowed s.inBlock).dropStart
    .ok (s.sign .key 1)

def insert (s : Layout) (number : Nat) (ts : Array Token) : Layout :=
  { s with tokens := s.tokens.extract 0 number ++ ts ++ s.tokens.extract number s.tokens.size }

/-- The key that started at the place is one, and may be the first of a mapping. -/
def confirm (s : Layout) (k : KeyStart) : Layout :=
  let s := { s with starts := s.starts.filter (·.1 != s.depth), keyAllowed := false }
  if s.inBlock && s.isDeeper k.column then
    { s.insert k.token #[.blockMapping, .key] with columns := k.column :: s.columns }
  else s.insert k.token #[.key]

def value (s : Layout) : Read Layout := do
  match s.starts.lookup s.depth with
  | some k => .ok ((s.confirm k).sign .value 1)
  | none =>
    if s.inBlock && !s.keyAllowed then unreadable
    else .ok (((s.indent .blockMapping).setKeyAllowed s.inBlock).sign .value 1)

def reading (s : Layout) (read : List Char → Read (Token × List Char)) : Read Layout := do
  let s ← s.keepStart
  let (t, rest) ← read (s.place.rest.drop 1)
  .ok (((s.setKeyAllowed false).push t).upTo rest)

def aliased (s : Layout) : Read Layout :=
  s.reading fun cs => (Anchor.read cs).map fun (name, rest) => (.reference name, rest)

def anchor (s : Layout) : Read Layout :=
  s.reading fun cs => (Anchor.read cs).map fun (name, rest) => (.anchor name, rest)

def quoted (s : Layout) (quote : Char) : Read Layout :=
  s.reading fun cs =>
    (Quoted.text quote (cs.length + 1) cs).map fun (text, rest) => (.scalar (String.ofList text) false, rest)

def inner (s : Layout) : Nat := s.columns.head?.elim 0 (· + 1)

def literal (s : Layout) (isFolded : Bool) : Read Layout := do
  let s ← (s.setKeyAllowed true).dropStart
  let (text, rest) ← Literal.text isFolded (max s.inner 1) (s.place.rest.drop 1)
  .ok ((s.push (.scalar (String.ofList text) false)).upTo rest)

def plain (s : Layout) : Read Layout := do
  let s ← s.keepStart
  let cs := s.place.rest
  let (text, broken, rest) := Plain.text s.inner (!s.inBlock) false (cs.length + 1) cs
  .ok (((s.setKeyAllowed broken).push (.scalar (String.ofList text) true)).upTo rest)

def isIndicator (c : Char) : Bool := "-?:,[]\x7b\x7d#&*!|>'\"%@\x60".toList.contains c

def startsPlain (s : Layout) (c : Char) (rest : List Char) : Bool :=
  (!isGap c && !isIndicator c) ||
    (!stops isGap rest && (c = '-' || (s.inBlock && (c = '?' || c = ':'))))

def token (s : Layout) (c : Char) (rest : List Char) : Read Layout :=
  let first := s.place.column = 0
  let ends := stops isGap rest
  if first && c = '%' then s.directive
  else if first && isMark "---" (c :: rest) then s.documentMark .documentStart
  else if first && isMark "..." (c :: rest) then s.documentMark .documentEnd
  else if c = '[' then s.openFlow .flowSequence
  else if c = '{' then s.openFlow .flowMapping
  else if c = ']' then s.closeFlow .flowSequenceEnd
  else if c = '}' then s.closeFlow .flowMappingEnd
  else if c = ',' then s.entry
  else if c = '-' && ends then s.item
  else if c = '?' && (!s.inBlock || ends) then s.key
  else if c = ':' && (!s.inBlock || ends) then s.value
  else if c = '*' then s.aliased
  else if c = '&' then s.anchor
  else if c = '!' then s.reading Tag.read
  else if s.inBlock && (c = '|' || c = '>') then s.literal (c = '>')
  else if c = '\'' || c = '"' then s.quoted c
  else if s.startsPlain c rest then s.plain
  else unreadable

def skipGap (inComment : Bool) : List Char → Bool × List Char
  | [] => (false, [])
  | c :: rest =>
    if isBreak c then (true, (skipGap false rest).2)
    else if inComment || c = ' ' then skipGap inComment rest
    else if c = '#' then skipGap true rest
    else (false, c :: rest)

def toToken (s : Layout) : Layout :=
  let (broken, rest) := skipGap false s.place.rest
  (s.setKeyAllowed (s.keyAllowed || (broken && s.inBlock))).upTo rest

def finish (s : Layout) : Read Layout := (s.dedent none).dropStart

/-- All tokens from here on; each takes at least one character. -/
def run : Nat → Layout → Read Layout
  | 0, _ => unreadable
  | fuel + 1, s => do
    let s ← s.toToken.dropStale
    let s := s.dedent s.place.column
    match s.place.rest with
    | [] => s.finish
    | c :: rest => do
      let s ← s.token c rest
      run fuel s

def dropByteOrderMark (cs : List Char) : List Char :=
  if cs.head? = some byteOrderMark then cs.drop 1 else cs

end Layout

def tokens (text : List Char) : Read (List Token) :=
  if text.any isForbidden then unreadable
  else do
    let s ← Layout.run (text.length + 1) { place := { rest := Layout.dropByteOrderMark text } }
    .ok s.tokens.toList

end StateCheck.Document
