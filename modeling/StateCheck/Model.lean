import StateCheck.Strategy.Combinators

/-!
What a user writes: the reference model, with the rules of its transitions and the strategies that draw
them, and the adapter that drives the system under test.
-/

namespace StateCheck

structure Rules (S T : Type) where
  apply : S → T → Except Fault S
  allows : S → T → Except Fault Bool

structure Model (S T : Type) : Type 1 extends Rules S T where
  name : String
  initial : Strategy S
  next : S → Strategy T

/-- States of transition trees: each is tagged with the reference state it was drawn in. -/
abbrev Model.TransitionTree {S T : Type} (model : Model S T) : Type := (s : S) × (model.next s).State

def Model.transitionTree {S T : Type} (model : Model S T) : ValueTree model.TransitionTree T :=
  .tagged fun s => (model.next s).tree

/-- Drives a system with states `U`. Each operation is given the reference state; `apply` is given the
one after the transition. The state of the system is what the operations hand on: nothing outlives a replay. -/
structure Adapter (U S T : Type) where
  init : S → Except Fault U
  apply : U → S → T → Except Fault U
  check : U → S → Except Fault Unit
  teardown : U → S → Except Fault Unit

end StateCheck
