import StateCheck.Act

/-!
A value tree holds one generated value and moves it: `simplify` toward a simpler value, `complicate`
back when that went too far. Either answers whether it moved. A tree is given by its moves on a type of
states, so that a failed move too may change the state.
-/

namespace StateCheck

structure ValueTree (σ α : Type) where
  current : σ → Except Fault α
  simplify : Act σ Bool
  complicate : Act σ Bool
  /-- A bound on how many times in a row `complicate` can move from a state. -/
  slack : σ → Nat

namespace ValueTree
variable {σ α β : Type}

def fixed (a : α) : ValueTree Unit α where
  current _ := .ok a
  simplify := pure false
  complicate := pure false
  slack _ := 0

def map (t : ValueTree σ α) (f : α → Except Fault β) : ValueTree σ β where
  current s := t.current s >>= f
  simplify := t.simplify
  complicate := t.complicate
  slack := t.slack

def tagged {κ : Type} {State : κ → Type} (t : (k : κ) → ValueTree (State k) α) :
    ValueTree ((k : κ) × State k) α where
  current p := (t p.1).current p.2
  simplify := fun p =>
    let r := (t p.1).simplify p.2
    ⟨r.answer, ⟨p.1, r.state⟩, r.notes⟩
  complicate := fun p =>
    let r := (t p.1).complicate p.2
    ⟨r.answer, ⟨p.1, r.state⟩, r.notes⟩
  slack p := (t p.1).slack p.2

end ValueTree

def Act.onItem {τ α : Type} (i : Nat) (outside : α) (x : Act τ α) : Act (List τ) α := fun items =>
  match items[i]? with
  | none => ⟨.ok outside, items, []⟩
  | some item =>
    let r := x item
    ⟨r.answer, items.set i r.state, r.notes⟩

end StateCheck
