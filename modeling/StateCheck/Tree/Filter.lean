import StateCheck.Tree.Basic

/-!
A tree that shows acceptable values only. A move that lands on an unacceptable value backs off until the
value is acceptable; a tree that cannot back off any further raises.
-/

namespace StateCheck.ValueTree
variable {σ α : Type}

/-- Backs off at most `fuel - 1` times; `rejects` values were refused before. -/
def settle (t : ValueTree σ α) (accepts : α → Except Fault Bool) (whence : String) :
    Nat → Nat → Act σ Unit
  -- Not reached as long as the tree's `slack` is a bound.
  | 0, rejects => .raise (.tooManyRejects (.text whence) (.int rejects))
  | fuel + 1, rejects => do
    if ← Act.ask fun s => t.current s >>= accepts then pure ()
    else if ← t.complicate then settle t accepts whence fuel (rejects + 1)
    else .raise (.tooManyRejects (.text whence) (.int (rejects + 1)))

def settled (t : ValueTree σ α) (accepts : α → Except Fault Bool) (whence : String)
    (move : Act σ Bool) : Act σ Bool := do
  if ← move then
    let s ← Act.get
    settle t accepts whence (t.slack s + 1) 0
    pure true
  else pure false

def filter (t : ValueTree σ α) (accepts : α → Except Fault Bool) (whence : String) :
    ValueTree σ α where
  current := t.current
  simplify := settled t accepts whence t.simplify
  complicate := settled t accepts whence t.complicate
  slack := t.slack

end StateCheck.ValueTree
