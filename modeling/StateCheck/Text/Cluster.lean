import StateCheck.Text.Cells

/-!
A text as a terminal shows it: characters with the marks that belong to them. Nothing is lost in the
clusters, and a text that is cut to some cells takes no more of them.
-/

namespace StateCheck.Text

def isJoiner (c : Char) : Bool := c = '\u200d'

def isPictureMark (c : Char) : Bool := c = '\ufe0f'

def addedCells (base : Option Char) : Nat :=
  if base.any fun c => within widened c.toNat then 1 else 0

structure Cluster where
  chars : List Char
  cells : Nat
  base : Option Char

namespace Cluster

def ofChar (c : Char) : Cluster := ⟨[c], Text.cells c, if Text.cells c = 0 then none else some c⟩

def joined (k : Cluster) (marks : List Char) : Cluster := { k with chars := k.chars ++ marks }

def asPicture (k : Cluster) (mark : Char) : Cluster :=
  ⟨k.chars ++ [mark], k.cells + addedCells k.base, none⟩

end Cluster

def clustersFrom (k : Cluster) : List Char → List Cluster
  | [] => [k]
  | c :: rest =>
    if isPictureMark c then clustersFrom (k.asPicture c) rest
    else if isJoiner c then
      match rest with
      | [] => [k.joined [c]]
      | next :: rest => clustersFrom (k.joined [c, next]) rest
    else if cells c = 0 then clustersFrom (k.joined [c]) rest
    else k :: clustersFrom (.ofChar c) rest

def clusters : List Char → List Cluster
  | [] => []
  | c :: rest => clustersFrom (.ofChar c) rest

theorem clustersFrom_chars (k : Cluster) (cs : List Char) :
    (clustersFrom k cs).flatMap Cluster.chars = k.chars ++ cs := by
  fun_induction clustersFrom k cs <;> simp_all [Cluster.joined, Cluster.asPicture, Cluster.ofChar]

theorem clusters_chars (cs : List Char) : (clusters cs).flatMap Cluster.chars = cs := by
  cases cs with
  | nil => rfl
  | cons c rest => simp [clusters, clustersFrom_chars, Cluster.ofChar]

def breadth : List Cluster → Nat
  | [] => 0
  | k :: rest => k.cells + breadth rest

/-- A joiner in front hides the character after it. -/
def cellCount : List Char → Nat
  | c :: next :: rest => if isJoiner c then cellCount rest else breadth (clusters (c :: next :: rest))
  | cs => breadth (clusters cs)

def fitting : Nat → List Cluster → List Cluster
  | _, [] => []
  | room, k :: rest =>
    if k.cells ≤ room then k :: fitting (room - k.cells) rest
    else if room = 0 then [] else [.ofChar ' ']

theorem breadth_fitting_le (room : Nat) (ks : List Cluster) : breadth (fitting room ks) ≤ room := by
  induction ks generalizing room with
  | nil => simp [fitting, breadth]
  | cons k rest ih =>
    unfold fitting
    split
    · have := ih (room - k.cells)
      simp only [breadth]
      omega
    · split
      · simp [breadth]
      · have : (Cluster.ofChar ' ').cells = 1 := by decide
        simp only [breadth]
        omega

def fit (room : Nat) (cs : List Char) : List Char :=
  if cellCount cs ≤ room then cs else (fitting room (clusters cs)).flatMap Cluster.chars

end StateCheck.Text
