import StateCheck.Tree.Basic

/-!
Walks over a tree: moves in order, with what the tree shows after each. A move that raises ends the walk.
-/

namespace StateCheck.Walk
variable {σ β : Type}

inductive Move (σ : Type) where
  | once (x : Act σ Bool)
  | exhaust (x : Act σ Bool)

inductive Stop (β : Type) where
  | once (moved : Bool) (view : β)
  | exhausted (views : List β)
  | raised (fault : Fault)

def maxRepeats : Nat := 300

def repeated (view : σ → Except Fault β) (x : Act σ Bool) : Nat → Act σ (List β)
  | 0 => pure []
  | left + 1 => do
    if ← x then
      let b ← Act.ask view
      let rest ← repeated view x left
      pure (b :: rest)
    else pure []

def move (view : σ → Except Fault β) : Move σ → Act σ (Stop β)
  | .once x => do
    let moved ← x
    let b ← Act.ask view
    pure (.once moved b)
  | .exhaust x => do
    let views ← repeated view x maxRepeats
    pure (.exhausted views)

def walk (view : σ → Except Fault β) : List (Move σ) → Act σ (List (Stop β))
  | [] => pure []
  | m :: rest => do
    match ← Act.attempt (move view m) with
    | .ok stop =>
      let stops ← walk view rest
      pure (stop :: stops)
    | .error e => pure [.raised e]

end StateCheck.Walk
