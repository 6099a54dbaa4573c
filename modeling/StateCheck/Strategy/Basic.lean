import StateCheck.Strategy.Amount
import StateCheck.Tree.Filter
import StateCheck.Tree.Search
import StateCheck.Random.MersenneTwister

/-!
A strategy draws value trees. Its trees share one type of states; `shown` is its text in reports.
-/

namespace StateCheck

structure Strategy (α : Type) : Type 1 where
  State : Type
  tree : ValueTree State α
  draw : {ρ : Type} → [WordSource ρ] → Act ρ State
  shown : String

namespace Strategy
variable {α β σ ρ : Type} [WordSource ρ]

def drawn (s : Strategy α) : Act ρ (s.State × α) := do
  let t ← s.draw
  let a ← Act.lift (s.tree.current t)
  pure (t, a)

def sample (s : Strategy α) : Act ρ α := do
  let (_, a) ← s.drawn
  pure a

def just (a : α) (shown : String) : Strategy α where
  State := Unit
  tree := .fixed a
  draw := pure ()
  shown := "just(" ++ shown ++ ")"

def fail (e : Fault) : Strategy α where
  State := Empty
  tree := ⟨nofun, nofun, nofun, nofun⟩
  draw := .raise e
  shown := "fail()"

def held (t : ValueTree σ α) (s : σ) : Strategy α where
  State := σ
  tree := t
  draw := pure s
  shown := "held()"

def seeded (s : Strategy α) (seed : Int) : Strategy α where
  State := s.State
  tree := s.tree
  draw := fun source =>
    let r := s.draw (MersenneTwister.ofSeed seed)
    ⟨r.answer, source, r.notes⟩
  shown := s.shown

def rangeShown (lo hi : Amount) : String := s!"integers({lo.shown}, {hi.shown})"

/-- Integers of an inclusive range. They shrink toward the member nearest to zero. -/
def integers (lo hi : Int) : Strategy Int where
  State := Search
  tree := Search.tree
  draw := do
    let n ← Random.between lo hi
    pure (Search.start n (min (max 0 lo) hi))
  shown := rangeShown lo hi

def integers? (lo hi : Amount) : Except Fault (Strategy Int) :=
  if hi.value < lo.value then .error (.ofText .value ("Empty range: " ++ rangeShown lo hi))
  else .ok { integers lo.value hi.value with shown := rangeShown lo hi }

def map (s : Strategy α) (f : α → Except Fault β) (name : String) : Strategy β where
  State := s.State
  tree := s.tree.map f
  draw := s.draw
  shown := s.shown ++ ".map(" ++ Text.quoted name ++ ")"

def maxRejects : Nat := 1024

def drawUntil (s : Strategy α) (accepts : α → Except Fault Bool) (whence : String) :
    Nat → Act ρ s.State
  | 0 => .raise (.tooManyRejects (.text whence) (.int maxRejects))
  | tries + 1 => do
    let t ← s.draw
    if ← Act.lift (s.tree.current t >>= accepts) then pure t
    else drawUntil s accepts whence tries

def filter (s : Strategy α) (accepts : α → Except Fault Bool) (whence : String) : Strategy α where
  State := s.State
  tree := s.tree.filter accepts whence
  draw := drawUntil s accepts whence maxRejects
  shown := s.shown ++ ".filter(" ++ Text.quoted whence ++ ")"

end Strategy
end StateCheck
