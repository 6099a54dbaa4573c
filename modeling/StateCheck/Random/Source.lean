import StateCheck.Act
import StateCheck.Numeric.Nearest

/-!
Drawing numbers from a source of 32-bit words. A number from a range is drawn by rejection, so every
member is equally likely whatever the range's size.
-/

namespace StateCheck

class WordSource (ρ : Type) where
  next : ρ → UInt32 × ρ

namespace Random
variable {ρ : Type} [WordSource ρ]

def word : Act ρ UInt32 := .ofMove WordSource.next

def words : Nat → Act ρ Nat
  | 0 => pure 0
  | n + 1 => do
    let low ← word
    let rest ← words n
    pure (low.toNat + rest <<< 32)

/-- A number of `k` bits. The last word drawn gives the top bits, which are its own top bits. -/
def bits (k : Nat) : Act ρ Nat :=
  if k = 0 then pure 0
  else do
    let full := (k - 1) / 32
    let low ← words full
    let top ← word
    pure (low + (top.toNat >>> (32 - (k - 32 * full))) <<< (32 * full))

def belowWithin (n : Nat) : Nat → Act ρ Nat
  | 0 => pure 0
  | tries + 1 => do
    let r ← bits (n.log2 + 1)
    if r < n then pure r else belowWithin n tries

/-- Half of all draws succeed at least, so a draw that needs this many tries does not happen. -/
def maxTries : Nat := Numeric.pow2 20

def below (n : Nat) : Act ρ Nat := belowWithin n maxTries

def between (lo hi : Int) : Act ρ Int := do
  let r ← below (hi - lo + 1).toNat
  pure (lo + r)

def fraction : Act ρ Nat := do
  let a ← word
  let b ← word
  pure ((a.toNat >>> 5) <<< 26 + b.toNat >>> 6)

def sums : Nat → List Nat → List Nat
  | _, [] => []
  | acc, w :: rest => (acc + w) :: sums (acc + w) rest

theorem length_sums (acc : Nat) (weights : List Nat) : (sums acc weights).length = weights.length := by
  induction weights generalizing acc with
  | nil => rfl
  | cons w rest ih => simp [sums, ih]

/-- A position in `weights`, each as likely as its weight. The total weight is rounded to 53 bits, and
so is its product with the fraction drawn. -/
def weighted (weights : List Nat) : Act ρ Nat := do
  let cumulative := sums 0 weights
  let total := Numeric.nearest53 (cumulative.getLastD 0)
  if total ≥ Numeric.pow2 1024 then
    .raise (.ofText .overflow "int too large to convert to float")
  else do
    let m ← fraction
    -- The fraction's unit is moved to the other side, so that both sides are integers.
    let mark := Numeric.nearest53 (m * total)
    pure (cumulative.dropLast.countP fun c => c <<< 53 ≤ mark)

end Random
end StateCheck
