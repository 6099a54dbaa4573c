import StateCheck.Document.Quoted

/-!
Plain scalars, and the literal and folded ones that keep their lines.
-/

namespace StateCheck.Document

namespace Plain

def endsWord (inFlow : Bool) : List Char → Bool
  | [] => true
  | c :: rest =>
    isGap c || (c = ':' && stops (fun d => isGap d || (inFlow && isFlowMark d)) rest) ||
      (inFlow && (isFlowMark c || c = '?'))

def word (inFlow : Bool) : List Char → List Char
  | [] => []
  | c :: rest => if endsWord inFlow (c :: rest) then [] else c :: word inFlow rest

structure Gap where
  text : List Char
  column : Option Nat
  rest : List Char

/-- The breaks among spaces and breaks from the given column on. Before a document's mark they count for
nothing. -/
def indents (column : Nat) : List Char → Option (List Char) × Nat × List Char
  | [] => (some [], column, [])
  | c :: rest =>
    if c = ' ' then indents (column + 1) rest
    else if isBreak c then
      if isSeparator rest then (none, 0, rest)
      else
        let (others, column, rest) := indents 0 rest
        (others.map (shownBreak c :: ·), column, rest)
    else (some [], column, c :: rest)

def gap (cs : List Char) : Gap :=
  let spaces := cs.takeWhile (· = ' ')
  match cs.drop spaces.length with
  | [] => ⟨spaces, none, []⟩
  | c :: rest =>
    if !isBreak c then ⟨spaces, none, c :: rest⟩
    else if isSeparator rest then ⟨[], some 0, rest⟩
    else
      let (others, column, rest) := indents 0 rest
      ⟨others.elim [] (folded c), some column, rest⟩

/-- A plain scalar's text, whether a break follows it, and what follows both. Lines that go on with it are
indented by `indent` or more. -/
def text (indent : Nat) (inFlow : Bool) (broken : Bool) : Nat → List Char → List Char × Bool × List Char
  | 0, cs => ([], broken, cs)
  | fuel + 1, cs =>
    let front := word inFlow cs
    if cs.head? = some '#' || front.isEmpty then ([], broken, cs)
    else
      let gap := gap (cs.drop front.length)
      let broken := gap.column.isSome
      if gap.text.isEmpty || (!inFlow && gap.column.any (· < indent)) then (front, broken, gap.rest)
      else
        let (more, broken, rest) := text indent inFlow broken fuel gap.rest
        (if more.isEmpty then front else front ++ gap.text ++ more, broken, rest)

end Plain

namespace Literal

structure Header where
  keep : Option Bool := none
  indent : Option Nat := none

def digit? (c : Char) : Option Nat := if '1' ≤ c && c ≤ '9' then some (c.toNat - '0'.toNat) else none

def keep? (c : Char) : Option Bool := if c = '+' then some true else if c = '-' then some false else none

def signs (cs : List Char) : Header × List Char :=
  match cs with
  | [] => ({}, [])
  | c :: rest =>
    match keep? c, digit? c with
    | some keep, _ =>
      match rest.head?.bind digit? with
      | some n => ({ keep := keep, indent := n }, rest.drop 1)
      | none => ({ keep := keep }, rest)
    | none, some n =>
      match rest.head?.bind keep? with
      | some keep => ({ keep := keep, indent := n }, rest.drop 1)
      | none => ({ indent := n }, rest)
    | none, none => ({}, c :: rest)

def endLine (cs : List Char) : Read (List Char) :=
  let rest := cs.dropWhile (· = ' ')
  let rest := if rest.head? = some '#' then rest.dropWhile fun c => !isBreak c else rest
  match rest with
  | [] => .ok []
  | c :: rest => if isBreak c then .ok rest else unreadable

def header (cs : List Char) : Read (Header × List Char) :=
  let (header, rest) := signs cs
  if stops isSpaceOrBreak rest then (endLine rest).map fun rest => (header, rest) else unreadable

def opening (column widest : Nat) : List Char → List Char × Nat × Nat × List Char
  | [] => ([], widest, column, [])
  | c :: rest =>
    if c = ' ' then opening (column + 1) (max widest (column + 1)) rest
    else if isBreak c then
      let (others, widest, column, rest) := opening 0 widest rest
      (shownBreak c :: others, widest, column, rest)
    else ([], widest, column, c :: rest)

def between (indent column : Nat) : List Char → List Char × Nat × List Char
  | [] => ([], column, [])
  | c :: rest =>
    if c = ' ' && column < indent then between indent (column + 1) rest
    else if isBreak c then
      let (others, column, rest) := between indent 0 rest
      (shownBreak c :: others, column, rest)
    else ([], column, c :: rest)

/-- What stands between two lines: folding makes a plain break between lines without indentation of their
own a blank, and drops it before other breaks. -/
def joint (isFolded indented : Bool) (mark : Char) (others next : List Char) : List Char :=
  if isFolded && mark = '\n' && !indented && !(next.head?.any isBlank) then
    if others.isEmpty then [' '] else []
  else [mark]

structure Body where
  text : List Char
  last : List Char
  trailing : List Char
  rest : List Char

def body (isFolded : Bool) (indent : Nat) (before : List Char) (column : Nat) :
    Nat → List Char → Body
  | 0, cs => ⟨[], [], before, cs⟩
  | fuel + 1, cs =>
    if column ≠ indent || cs.isEmpty then ⟨[], [], before, cs⟩
    else
      let line := cs.takeWhile fun c => !isBreak c
      match cs.drop line.length with
      | [] => ⟨before ++ line, [], [], []⟩
      | c :: after =>
        let (others, column, next) := between indent 0 after
        if column ≠ indent || next.isEmpty then ⟨before ++ line, [shownBreak c], others, next⟩
        else
          let more := body isFolded indent others column fuel next
          let joint := joint isFolded (cs.head?.any isBlank) (shownBreak c) others next
          { more with text := before ++ line ++ joint ++ more.text }

def text (isFolded : Bool) (least : Nat) (cs : List Char) : Read (List Char × List Char) := do
  let (header, rest) ← header cs
  let body := match header.indent with
    | some n =>
      let indent := least + n - 1
      let (before, column, rest) := between indent 0 rest
      body isFolded indent before column (rest.length + 1) rest
    | none =>
      let (before, widest, column, rest) := opening 0 0 rest
      body isFolded (max least widest) before column (rest.length + 1) rest
  .ok (body.text ++ (if header.keep = some false then [] else body.last) ++
    (if header.keep = some true then body.trailing else []), body.rest)

end Literal
end StateCheck.Document
