import StateCheck.Sequence.Basic

/-!
Shrinking a sequence: delete from the back, then simplify each transition, then the initial state. A
reduction becomes the current candidate only if the model accepts it. `complicate` puts back what the
latest reduction replaced.
-/

namespace StateCheck

def Cursor.advance (phase : Phase) (index : Int) : Act Cursor Unit := do
  let c ← Act.get
  Act.log (.phaseEntered c.phase phase)
  Act.set { phase := phase, index := index }

structure Shrinker (S T ι τ : Type) where
  rules : Rules S T
  initial : ValueTree ι S
  transition : ValueTree τ T

namespace ValueTree
variable {σ α : Type}

def propose (t : ValueTree σ α) (untried : Bool) : Act σ (Option α) := do
  let found ← if untried then pure true else t.simplify
  if found then
    let a ← Act.ask t.current
    pure (some a)
  else pure none

def canRetry [BEq α] (t : ValueTree σ α) (restored : α) : Act σ Bool := do
  if ← t.complicate then
    let a ← Act.ask t.current
    pure (a != restored)
  else pure false

end ValueTree

namespace Sequence
variable {S T ι τ : Type}

def onInitial {α : Type} (x : Act ι α) : Act (Sequence S T ι τ) α :=
  .on initialTree (fun tree v => { v with initialTree := tree }) x

def onTree {α : Type} (i : Nat) (outside : α) (x : Act τ α) : Act (Sequence S T ι τ) α :=
  .on entries (fun entries v => { v with entries := entries })
    (.onItem i outside (.on Entry.tree (fun tree entry => { entry with tree := tree }) x))

def setTransition (i : Nat) (t : T) (v : Sequence S T ι τ) : Sequence S T ι τ :=
  { v with entries := v.entries.modify i fun entry => { entry with transition := t } }

def moveTo (phase : Phase) : Act (Sequence S T ι τ) Unit :=
  .on cursor (fun cursor v => { v with cursor := cursor }) (Cursor.advance phase 0)

def takeRetry : Act (Sequence S T ι τ) Bool :=
  .ofMove fun v => (v.retryPending, { v with retryPending := false })

def deleteLast (g : Shrinker S T ι τ) : Act (Sequence S T ι τ) (Option (Edit S T)) := do
  let v ← Act.get
  if v.length ≤ v.minSize then pure none
  else
    let valid ← Act.lift (g.rules.longestValid v.initialState (before (v.length - 1) v.transitions))
    let kept := min (v.length - 1) valid
    if kept < v.minSize then
      Act.log (.deletionRefused v.minSize)
      pure none
    else
      Act.set { v with length := kept }
      Act.log (.deleted kept (v.length - 1))
      pure (some (.deleted kept v.length))

def shrinkTransition (g : Shrinker S T ι τ) (i : Nat) :
    Act (Sequence S T ι τ) (Option (Edit S T)) := do
  let untried ← takeRetry
  let proposed ← onTree i none (g.transition.propose untried)
  let v ← Act.get
  match proposed, v.transitions[i]? with
  | some t, some prior =>
    let changed := (before v.length v.transitions).set i t
    if ← Act.lift (g.rules.isValid v.initialState changed i) then
      Act.set (v.setTransition i t)
      pure (some (.transition i prior))
    else
      Act.log (.transitionRefused i)
      pure none
  | _, _ => pure none

def shrinkInitialState (g : Shrinker S T ι τ) : Act (Sequence S T ι τ) (Option (Edit S T)) := do
  let untried ← takeRetry
  match ← onInitial (g.initial.propose untried) with
  | some s =>
    let v ← Act.get
    if ← Act.lift (g.rules.isValid s (before v.length v.transitions) 0) then
      Act.set { v with initialState := s }
      pure (some (.initialState v.initialState))
    else
      Act.log .initialStateRefused
      pure none
  | none => pure none

def accept (edit : Edit S T) : Act (Sequence S T ι τ) Bool := do
  Act.modify fun v => { v with lastEdit := some edit }
  pure true

def shrinkInitial (g : Shrinker S T ι τ) : Act (Sequence S T ι τ) Bool := do
  match ← shrinkInitialState g with
  | some edit => accept edit
  | none =>
    moveTo .done
    pure false

def shrinkTransitions (g : Shrinker S T ι τ) : Nat → Act (Sequence S T ι τ) Bool
  | 0 => do
    moveTo .shrinkInitialState
    shrinkInitial g
  | left + 1 => do
    let v ← Act.get
    match ← shrinkTransition g v.cursor.index.toNat with
    | some edit => accept edit
    | none =>
      Act.modify fun v => { v with cursor.index := v.cursor.index + 1 }
      shrinkTransitions g left

def delete (g : Shrinker S T ι τ) : Act (Sequence S T ι τ) Bool := do
  match ← deleteLast g with
  | some edit => accept edit
  | none =>
    moveTo .shrinkTransition
    let v ← Act.get
    shrinkTransitions g v.length.toNat

def shrink (g : Shrinker S T ι τ) : Act (Sequence S T ι τ) Bool := do
  Act.modify fun v => { v with lastEdit := none }
  let v ← Act.get
  match v.cursor.phase with
  | .deleteTransition => delete g
  | .shrinkTransition => shrinkTransitions g (v.length - v.cursor.index).toNat
  | .shrinkInitialState => shrinkInitial g
  | .done => pure false

def restore [BEq S] [BEq T] (g : Shrinker S T ι τ) : Edit S T → Act (Sequence S T ι τ) Unit
  | .deleted _ length => do
    -- The first deletion that is undone ends the phase.
    Act.modify fun v => { v with length := length }
    moveTo .shrinkTransition
  | .transition i prior => do
    Act.modify (setTransition i prior)
    if ← onTree i false (g.transition.canRetry prior) then
      Act.modify fun v => { v with retryPending := true }
    else Act.modify fun v => { v with cursor.index := i + 1 }
  | .initialState prior => do
    Act.modify fun v => { v with initialState := prior }
    if ← onInitial (g.initial.canRetry prior) then
      Act.modify fun v => { v with retryPending := true }
    else moveTo .done

/-- Undoes the latest reduction. The cursor moves past it unless the tree has another value to offer. -/
def complicate [BEq S] [BEq T] (g : Shrinker S T ι τ) : Act (Sequence S T ι τ) Bool := do
  let v ← Act.get
  match v.lastEdit with
  | none => pure false
  | some edit =>
    Act.set { v with lastEdit := none }
    restore g edit
    Act.log (.undone edit.phase edit.index)
    pure true

/-- Drops every transition from a length on, but keeps the minimum. Nothing is left to undo then. -/
def truncate (length : Int) : Act (Sequence S T ι τ) Bool := do
  let v ← Act.get
  let length := max length v.minSize
  if v.length ≤ length then pure false
  else
    Act.log (.truncated length (v.length - 1))
    Act.set { v with length := length, lastEdit := none }
    pure true

def tree [BEq S] [BEq T] (g : Shrinker S T ι τ) :
    ValueTree (Sequence S T ι τ) (Candidate S T) where
  current v := .ok v.current
  simplify := shrink g
  complicate := complicate g
  slack v := if v.lastEdit.isSome then 1 else 0

end Sequence
end StateCheck
