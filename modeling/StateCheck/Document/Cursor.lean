import StateCheck.Fault

/-!
Places in a document, and the classes of characters that lay it out. Lines and columns count from zero.
-/

namespace StateCheck.Document

def isBreak (c : Char) : Bool := c = '\n' || c.toNat = 0x85 || c.toNat = 0x2028 || c.toNat = 0x2029

def isBlank (c : Char) : Bool := c = ' ' || c = '\t'

def isGap (c : Char) : Bool := isBlank c || isBreak c

def isSpaceOrBreak (c : Char) : Bool := c = ' ' || isBreak c

def isFlowMark (c : Char) : Bool := c = ',' || c = '[' || c = ']' || c = '{' || c = '}'

def stops (isStop : Char → Bool) (cs : List Char) : Bool := cs.head?.all isStop

def isMark (mark : String) (cs : List Char) : Bool := mark.toList.isPrefixOf cs && stops isGap (cs.drop 3)

def isSeparator (cs : List Char) : Bool := isMark "---" cs || isMark "..." cs

def shownBreak (c : Char) : Char := if c.toNat = 0x85 then '\n' else c

def byteOrderMark : Char := Char.ofNat 0xfeff

def isForbidden (c : Char) : Bool :=
  let n := c.toNat
  (n < 0x20 && c != '\t' && c != '\n') || (0x7f ≤ n && n ≤ 0x9f && n != 0x85) || n = 0xfffe || n = 0xffff

abbrev Read (α : Type) : Type := Except Fault α

def unreadable {α : Type} : Read α := .error .settingsUnreadable

structure Cursor where
  rest : List Char
  index : Nat := 0
  line : Nat := 0
  column : Nat := 0

namespace Cursor

def next (p : Cursor) : Cursor :=
  match p.rest with
  | [] => p
  | c :: rest =>
    if isBreak c then ⟨rest, p.index + 1, p.line + 1, 0⟩
    else ⟨rest, p.index + 1, p.line, if c = byteOrderMark then p.column else p.column + 1⟩

def skip (p : Cursor) : Nat → Cursor
  | 0 => p
  | n + 1 => p.next.skip n

def upTo (p : Cursor) (rest : List Char) : Cursor := p.skip (p.rest.length - rest.length)

end Cursor
end StateCheck.Document
