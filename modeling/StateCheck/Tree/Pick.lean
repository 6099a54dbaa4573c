import StateCheck.Tree.Basic

/-!
One of several alternatives. The alternative held is simplified first; when it has nothing simpler left,
the one before it is drawn, from the seed kept at generation time, and held instead.
-/

namespace StateCheck

structure Pick (τ : Type) where
  index : Nat
  here : Except Fault τ
  floor : Nat := 0
  undo : Option τ := none
  seed : Nat

namespace Pick
variable {τ α : Type}

def onHere (x : Act τ Bool) : Act (Pick τ) Bool := fun p =>
  match p.here with
  | .error e => ⟨.error e, p, []⟩
  | .ok s =>
    let r := x s
    ⟨r.answer, { p with here := .ok r.state }, r.notes⟩

abbrev Redraw (τ : Type) : Type := (seed index : Nat) → Except Fault τ × List Note

def stepDown (redraw : Redraw τ) : Act (Pick τ) Bool := fun p =>
  if p.index ≤ p.floor then ⟨.ok false, p, []⟩
  else
    let drawn := redraw p.seed (p.index - 1)
    ⟨.ok true, { p with index := p.index - 1, here := drawn.1, undo := p.here.toOption }, drawn.2⟩

def simplify (t : ValueTree τ α) (redraw : Redraw τ) : Act (Pick τ) Bool := do
  if ← onHere t.simplify then
    Act.modify ({ · with undo := none })
    pure true
  else stepDown redraw

def complicate (t : ValueTree τ α) : Act (Pick τ) Bool := fun p =>
  match p.undo with
  | some s =>
    let index := p.index + 1
    ⟨.ok true, { p with index := index, here := .ok s, floor := index, undo := none }, []⟩
  | none => onHere t.complicate p

def slack (t : ValueTree τ α) (p : Pick τ) : Nat :=
  match p.undo, p.here with
  | some s, _ => t.slack s + 1
  | none, .ok s => t.slack s
  | none, .error _ => 0

def tree (t : ValueTree τ α) (redraw : Redraw τ) : ValueTree (Pick τ) α where
  current p := p.here >>= t.current
  simplify := simplify t redraw
  complicate := complicate t
  slack := slack t

end Pick
end StateCheck
