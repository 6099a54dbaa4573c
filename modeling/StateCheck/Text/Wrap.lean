import StateCheck.Text.Blank
import StateCheck.Text.Cluster

/-!
Wrapping lines at a width. A word keeps the blanks after it; one that does not fit starts a new line, and
one wider than a line is cut.
-/

namespace StateCheck.Text

def wordsWithin : Nat → List Char → List (List Char)
  | 0, _ => []
  | fuel + 1, cs =>
    let lead := cs.takeWhile isGap
    let rest := cs.dropWhile isGap
    let core := rest.takeWhile fun c => !isGap c
    let after := rest.dropWhile fun c => !isGap c
    if core.isEmpty then []
    else (lead ++ core ++ after.takeWhile isGap) :: wordsWithin fuel (after.dropWhile isGap)

def words (cs : List Char) : List (List Char) := wordsWithin (cs.length + 1) cs

/-- Cuts clusters into pieces of at most so many cells, behind a piece that takes `used` cells. A cluster
wider than that is a piece of its own. -/
def pieces (width : Nat) : List Char → Nat → List Cluster → List (List Char)
  | piece, _, [] => [piece]
  | piece, used, k :: rest =>
    if width < used + k.cells then piece :: pieces width k.chars k.cells rest
    else pieces width (piece ++ k.chars) (used + k.cells) rest

theorem pieces_flatten (width used : Nat) (piece : List Char) (ks : List Cluster) :
    (pieces width piece used ks).flatten = piece ++ ks.flatMap Cluster.chars := by
  induction ks generalizing piece used with
  | nil => simp [pieces]
  | cons k rest ih =>
    unfold pieces
    split <;> simp [ih]

def arrange (width : Nat) : List (List Char) → List (List Char) → Nat → List (List Char)
  | [], line, _ => [line.reverse.flatten]
  | word :: rest, line, used =>
    let size := cellCount (trimEnd isGap word)
    if used + size ≤ width then arrange width rest (word :: line) (used + cellCount word)
    else if width < size then
      -- A word wider than a line is cut with the blanks after it.
      let cut := pieces width [] 0 (clusters word)
      let done := if line.isEmpty then cut.dropWhile List.isEmpty else line.reverse.flatten :: cut
      let last := done.getLastD []
      done.dropLast ++ arrange width rest [last] (cellCount last)
    else line.reverse.flatten :: arrange width rest [word] (cellCount word)

def dropExcess (width : Nat) (cs : List Char) : List Char :=
  let blanks := (cs.reverse.takeWhile isGap).length
  cs.take (cs.length - min blanks (cs.length - width))

def padTo (width : Nat) (cs : List Char) : List Char :=
  cs ++ List.replicate (width - cellCount cs) ' '

/-- Tabs reach to the next multiple of eight cells. `part` is what stands since the last one, reversed. -/
def expandTabs : Nat → List Char → List Char → List Char
  | _, part, [] => part.reverse
  | used, part, c :: rest =>
    if c = '\t' then
      let shown := (' ' :: part).reverse
      let used := used + cellCount shown
      let gap := (8 - used % 8) % 8
      shown ++ List.replicate gap ' ' ++ expandTabs (used + gap) [] rest
    else expandTabs used (c :: part) rest

def wrapLine (width : Nat) (cs : List Char) : List (List Char) :=
  let cs := expandTabs 0 [] cs
  let lines := match words cs with
    | [] => [cs]
    | ws => arrange width ws [] 0
  lines.map fun line => fit width (dropExcess width line)

def isBell (c : Char) : Bool :=
  let n := c.toNat
  n = 7 || n = 8 || (11 ≤ n && n ≤ 13)

def wrap (width : Nat) (s : String) : List (List Char) :=
  ((s.splitOn "\n").map fun line => wrapLine width (line.toList.filter fun c => !isBell c)).flatten

end StateCheck.Text
