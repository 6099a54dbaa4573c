import StateCheck.Strategy.Basic
import StateCheck.Tree.Elements
import StateCheck.Tree.Fields
import StateCheck.Tree.Pick

/-!
Strategies made of strategies. The drawn tree of a compound strategy holds trees of its parts, each
tagged with the part it belongs to.
-/

namespace StateCheck.Strategy
variable {α β ρ : Type} [WordSource ρ]

def noAlternative : Fault := .ofText .value "one_of() needs at least one alternative"

abbrev Alternative (options : List (Nat × Strategy α)) : Type :=
  (i : Fin options.length) × (options.get i).2.State

def alternatives (options : List (Nat × Strategy α)) : ValueTree (Alternative options) α :=
  .tagged fun i => (options.get i).2.tree

def drawAlternative (options : List (Nat × Strategy α)) (i : Nat) : Act ρ (Alternative options) :=
  if h : i < options.length then do
    let s ← (options.get ⟨i, h⟩).2.draw
    pure ⟨⟨i, h⟩, s⟩
  else .raise noAlternative

/-- An alternative that was not drawn at first has a source of its own: its number is added to the seed. -/
def redraw (options : List (Nat × Strategy α)) : Pick.Redraw (Alternative options) := fun seed i =>
  let r := drawAlternative options i (MersenneTwister.ofSeed (seed + i))
  (r.answer, r.notes)

def optionsShown (options : List (Amount × Strategy α)) : String :=
  "one_of(" ++ Value.commas (options.map fun o => s!"({o.1.shown}, {o.2.shown})") ++ ")"

def oneOf (options : List (Nat × Strategy α)) : Strategy α where
  State := Pick (Alternative options)
  tree := Pick.tree (alternatives options) (redraw options)
  draw := do
    let index ← Random.weighted (options.map (·.1))
    let seed ← Random.bits 64
    let here ← drawAlternative options index
    pure { index := index, here := .ok here, seed := seed }
  shown := optionsShown (options.map fun o => ((o.1 : Int), o.2))

def oneOf? (options : List (Amount × Strategy α)) : Except Fault (Strategy α) :=
  match options with
  | [] => .error noAlternative
  | _ =>
    match options.find? fun o => decide (o.1.value ≤ 0) with
    | some o => .error (.ofText .value s!"Weights must be positive, got {o.1.shown}")
    | none =>
      .ok { oneOf (options.map fun o => (o.1.value.toNat, o.2)) with shown := optionsShown options }

abbrev Field (parts : List (Strategy α)) : Type := (i : Fin parts.length) × (parts.get i).State

def drawField (parts : List (Strategy α)) (i : Fin parts.length) : Act ρ (Field parts) := do
  let s ← (parts.get i).draw
  pure ⟨i, s⟩

def tuples (parts : List (Strategy α)) : Strategy (List α) where
  State := Fields (Field parts)
  tree := Fields.tree (.tagged fun i => (parts.get i).tree)
  draw := do
    let trees ← Act.each (drawField parts) (List.finRange parts.length)
    pure { trees := trees }
  shown := "tuples(" ++ Value.commas (parts.map (·.shown)) ++ ")"

def builds (make : List α → Except Fault β) (parts : List (Strategy α)) : Strategy β :=
  (tuples parts).map make "target"

def lists (element : Strategy α) (minSize maxSize : Nat) : Strategy (List α) where
  State := Elements element.State
  tree := Elements.tree element.tree
  draw := do
    let size ← Random.between minSize maxSize
    let trees ← Act.times element.draw size.toNat
    pure (Elements.start trees minSize)
  shown := s!"lists({element.shown}, {minSize}, {maxSize})"

def lists? (element : Strategy α) (minSize maxSize : Amount) : Except Fault (Strategy (List α)) :=
  if minSize.value < 0 ∨ maxSize.value < minSize.value then
    .error (.ofText .value s!"Invalid size range [{minSize.shown}, {maxSize.shown}]")
  else .ok (lists element minSize.value.toNat maxSize.value.toNat)

def booleans : Strategy Bool := (integers 0 1).map (fun n => .ok (decide (n ≠ 0))) "bool"

def sampledFrom (values : List α) : Strategy α :=
  (integers 0 (values.length - 1)).map
    (fun i => (values[i.toNat]?).elim (.error (.ofText .index "tuple index out of range")) .ok)
    "__getitem__"

def sampledFrom? (values : List α) : Except Fault (Strategy α) :=
  if values.isEmpty then .error (.ofText .value "sampled_from() needs at least one value")
  else .ok (sampledFrom values)

end StateCheck.Strategy
