import StateCheck.Sequence.Shrink
import StateCheck.Settings.Basic

/-!
Generating a sequence: an initial state, then transitions that the model allows in the states folded so
far. A sequence that stays below the minimum is thrown away and drawn anew.
-/

namespace StateCheck

namespace Model
variable {S T ρ : Type} [WordSource ρ]

abbrev Sequence (model : Model S T) : Type :=
  StateCheck.Sequence S T model.initial.State model.TransitionTree

def shrinker (model : Model S T) :
    Shrinker S T model.initial.State model.TransitionTree where
  rules := model.toRules
  initial := model.initial.tree
  transition := model.transitionTree

abbrev Entry (model : Model S T) : Type := Sequence.Entry model.TransitionTree T

def drawTransition (model : Model S T) (s : S) : Nat → Act ρ (Option model.Entry)
  | 0 => pure none
  | tries + 1 => do
    let tree ← (model.next s).draw
    let t ← Act.lift ((model.next s).tree.current tree)
    if ← Act.lift (model.allows s t) then pure (some ⟨⟨s, tree⟩, t⟩)
    else drawTransition model s tries

/-- Fills at most `left` slots, the first of which is number `slot`; the `unfilled` slots just before it
could not be filled. -/
def fill (model : Model S T) (settings : Settings) : Nat → Nat → Nat → S → Act ρ (List model.Entry)
  | 0, _, _, _ => pure []
  | left + 1, slot, unfilled, s => do
    match ← model.drawTransition s settings.maxPreconditionRetries with
    | none =>
      Act.log (.slotUnfillable slot (unfilled + 1))
      if settings.maxUnfillableSlots ≤ unfilled + 1 then pure []
      else fill model settings left (slot + 1) (unfilled + 1) s
    | some entry =>
      let s' ← Act.lift (model.apply s entry.transition)
      let rest ← fill model settings left (slot + 1) 0 s'
      pure (entry :: rest)

def generateWithin (model : Model S T) (settings : Settings) : Nat → Nat → Nat → Act ρ model.Sequence
  | 0, _, longest =>
    .raise (.generationExhausted (.int settings.minSize) (.int longest)
      (.int settings.maxGenerationAttempts))
  | left + 1, attempt, longest => do
    let tree ← model.initial.draw
    let s ← Act.lift (model.initial.tree.current tree)
    let target ← Random.between settings.minSize settings.maxSize
    let entries ← model.fill settings target.toNat 0 0 s
    if settings.minSize ≤ entries.length then
      Act.log (.generated entries.length attempt)
      pure (.start tree s entries settings.minSize)
    else
      Act.log (.attemptTooShort attempt entries.length settings.minSize)
      generateWithin model settings left (attempt + 1) (max longest entries.length)

def generate (model : Model S T) (settings : Settings) : Act ρ model.Sequence :=
  model.generateWithin settings settings.maxGenerationAttempts 1 0

end Model

def Strategy.sequences {S T : Type} [BEq S] [BEq T] (model : Model S T) (settings : Settings) :
    Strategy (Candidate S T) where
  State := model.Sequence
  tree := Sequence.tree model.shrinker
  draw := model.generate settings
  shown := s!"SequentialStrategy({model.name}, {settings.minSize}..={settings.maxSize})"

end StateCheck
