import StateCheck.Tree.Basic

/-!
A tree written out: the value at each position, and where each move leads from there.
-/

namespace StateCheck

structure Table (α : Type) where
  values : List α
  down : List (Option Nat)
  up : List (Option Nat)

namespace Table
variable {α : Type}

def outside : Fault := .ofText .index "list index out of range"

def move (targets : List (Option Nat)) : Act Nat Bool := fun position =>
  match targets[position]? with
  | none => ⟨.error outside, position, []⟩
  | some none => ⟨.ok false, position, []⟩
  | some (some target) => ⟨.ok true, target, []⟩

def tree (table : Table α) : ValueTree Nat α where
  current position := (table.values[position]?).elim (.error outside) .ok
  simplify := move table.down
  complicate := move table.up
  slack _ := table.values.length

end Table
end StateCheck
