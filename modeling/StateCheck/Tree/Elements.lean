import StateCheck.Tree.Basic

/-!
A list that first deletes elements, front to back, as long as more than the minimum are kept, and then
simplifies those it kept.
-/

namespace StateCheck

structure Elements.Slot (τ : Type) where
  tree : τ
  kept : Bool := true

inductive Elements.Undo where
  | restore (index : Nat)
  | retry (index : Nat)
  deriving DecidableEq, Repr

structure Elements (τ : Type) where
  slots : List (Elements.Slot τ)
  minSize : Nat
  deleting : Bool := true
  cursor : Nat := 0
  undo : Option Elements.Undo := none

namespace Elements
variable {τ α : Type}

def start (trees : List τ) (minSize : Nat) : Elements τ :=
  { slots := trees.map fun s => { tree := s }, minSize := minSize }

def kept (e : Elements τ) : List τ := (e.slots.filter (·.kept)).map (·.tree)

theorem kept_start (trees : List τ) (minSize : Nat) : (start trees minSize).kept = trees := by
  have h : (trees.map fun s => ({ tree := s } : Slot τ)).filter (·.kept) =
      trees.map fun s => { tree := s } := by
    rw [List.filter_eq_self]
    simp
  simp only [kept, start, h, List.map_map]
  simp [Function.comp_def]

def setKept (i : Nat) (kept : Bool) (e : Elements τ) : Elements τ :=
  { e with slots := e.slots.modify i fun slot => { slot with kept := kept } }

def onTree (i : Nat) (x : Act τ Bool) : Act (Elements τ) Bool :=
  Act.on slots (fun slots e => { e with slots := slots })
    (Act.onItem i false (Act.on Slot.tree (fun tree slot => { slot with tree := tree }) x))

def simplifyFrom (t : ValueTree τ α) : Nat → Act (Elements τ) Bool
  | 0 => pure false
  | left + 1 => do
    let e ← Act.get
    let next : Act (Elements τ) Bool := do
      Act.modify fun e => { e with cursor := e.cursor + 1 }
      simplifyFrom t left
    if (e.slots[e.cursor]?).any (·.kept) then
      if ← onTree e.cursor t.simplify then
        Act.modify fun e => { e with undo := some (.retry e.cursor) }
        pure true
      else next
    else next

def canDelete (e : Elements τ) : Bool :=
  e.deleting && decide (e.cursor < e.slots.length) && decide (e.minSize < e.kept.length)

def delete (e : Elements τ) : Elements τ :=
  { e.setKept e.cursor false with cursor := e.cursor + 1, undo := some (.restore e.cursor) }

def endDeleting (e : Elements τ) : Elements τ :=
  if e.deleting then { e with deleting := false, cursor := 0 } else e

def simplify (t : ValueTree τ α) : Act (Elements τ) Bool := fun e =>
  if e.canDelete then ⟨.ok true, e.delete, []⟩
  else
    let e := e.endDeleting
    simplifyFrom t (e.slots.length - e.cursor) e

def complicate (t : ValueTree τ α) : Act (Elements τ) Bool := do
  let e ← Act.get
  match e.undo with
  | none => pure false
  | some (.restore i) =>
    Act.modify fun e => { e.setKept i true with undo := none }
    pure true
  | some (.retry i) =>
    if ← onTree i t.complicate then
      Act.modify fun e => { e with cursor := i }
      pure true
    else
      Act.modify fun e => { e with undo := none }
      pure false

def slack (t : ValueTree τ α) (e : Elements τ) : Nat :=
  match e.undo with
  | none => 0
  | some (.restore _) => 1
  | some (.retry i) => (e.slots[i]?).elim 0 fun slot => t.slack slot.tree

def tree (t : ValueTree τ α) : ValueTree (Elements τ) (List α) where
  current e := e.kept.mapM t.current
  simplify := simplify t
  complicate := complicate t
  slack := slack t

end Elements
end StateCheck
