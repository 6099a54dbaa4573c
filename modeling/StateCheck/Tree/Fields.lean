import StateCheck.Tree.Basic

/-!
A fixed number of trees as one, simplified from the first to the last.
-/

namespace StateCheck

structure Fields (τ : Type) where
  trees : List τ
  cursor : Nat := 0
  moved : Option Nat := none

namespace Fields
variable {τ α : Type}

def onTree (i : Nat) (x : Act τ Bool) : Act (Fields τ) Bool :=
  Act.on trees (fun trees f => { f with trees := trees }) (Act.onItem i false x)

def simplifyFrom (t : ValueTree τ α) : Nat → Act (Fields τ) Bool
  | 0 => pure false
  | left + 1 => do
    let f ← Act.get
    if ← onTree f.cursor t.simplify then
      Act.modify fun f => { f with moved := some f.cursor }
      pure true
    else
      Act.modify fun f => { f with cursor := f.cursor + 1 }
      simplifyFrom t left

def simplify (t : ValueTree τ α) : Act (Fields τ) Bool := fun f =>
  simplifyFrom t (f.trees.length - f.cursor) f

def complicate (t : ValueTree τ α) : Act (Fields τ) Bool := do
  let f ← Act.get
  match f.moved with
  | none => pure false
  | some i =>
    if ← onTree i t.complicate then
      Act.modify fun f => { f with cursor := i }
      pure true
    else
      Act.modify fun f => { f with moved := none }
      pure false

def slack (t : ValueTree τ α) (f : Fields τ) : Nat :=
  match f.moved.bind fun i => f.trees[i]? with
  | none => 0
  | some s => t.slack s

def tree (t : ValueTree τ α) : ValueTree (Fields τ) (List α) where
  current f := f.trees.mapM t.current
  simplify := simplify t
  complicate := complicate t
  slack := slack t

end Fields
end StateCheck
