import StateCheck.Scenario.Recipe

/-!
Sequences ready to shrink: written out with a tree per transition, or generated from a seed.
-/

namespace StateCheck.Scenario

inductive SequenceRecipe where
  /-- A transition without a tree of its own does not shrink, and neither does such an initial state. -/
  | explicit (initial : Value) (transitions : List Value) (initialTree : Option TreeRecipe)
      (trees : Option (List (Option TreeRecipe))) (minSize : Int)
  | generated (seed : Int) (config : Settings.Keywords)

structure Prepared : Type 1 where
  ι : Type
  τ : Type
  shrinker : Shrinker Value Value ι τ
  value : Sequence Value Value ι τ

namespace SequenceRecipe

def treeOr (v : Value) : Option TreeRecipe → Strategy Value
  | some t => t.build []
  | none => justValue v

def treesFor : List (Option TreeRecipe) → List Value → List (Strategy Value)
  | [], _ => []
  | t :: rest, [] => treeOr .none t :: treesFor rest []
  | t :: rest, v :: vs => treeOr v t :: treesFor rest vs

def shrinker (model : Model Value Value) (initial : Strategy Value) (parts : List (Strategy Value)) :
    Shrinker Value Value initial.State (Strategy.Field parts) where
  rules := model.toRules
  initial := initial.tree
  transition := .tagged fun i => (parts.get i).tree

def draw {ρ : Type} [WordSource ρ] (initial : Strategy Value) (parts : List (Strategy Value))
    (state : Value) (transitions : List Value) (minSize : Int) :
    Act ρ (Sequence Value Value initial.State (Strategy.Field parts)) := do
  let trees ← Act.each (Strategy.drawField parts) (List.finRange parts.length)
  let initialTree ← initial.draw
  .lift (Sequence.start? initialTree state trees transitions minSize)

def settled {ι τ : Type} (shrinker : Shrinker Value Value ι τ)
    (r : Result MersenneTwister (Sequence Value Value ι τ)) : Except Fault Prepared × List Note :=
  (build r.answer fun value => .ok ⟨ι, τ, shrinker, value⟩, r.notes)

def prepare (model : Model Value Value) : SequenceRecipe → Except Fault Prepared × List Note
  | explicit state transitions initialTree trees minSize =>
    let initial := treeOr state initialTree
    let parts := treesFor (trees.getD (transitions.map fun _ => none)) transitions
    settled (shrinker model initial parts)
      (draw initial parts state transitions minSize (.ofSeed 0))
  | generated seed config =>
    match Settings.ofKeywords {} config with
    | .error e => (.error e, [])
    | .ok settings => settled model.shrinker (model.generate settings (.ofSeed seed))

end SequenceRecipe
end StateCheck.Scenario
