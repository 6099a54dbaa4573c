/-!
The settings of a run. Ranges that every later stage relies on are part of the type.
-/

namespace StateCheck

structure Settings where
  cases : Nat := 256
  minSize : Nat := 1
  maxSize : Nat := 20
  maxPreconditionRetries : Nat := 16
  maxUnfillableSlots : Nat := 3
  maxGenerationAttempts : Nat := 8
  /-- Zero means no limit. -/
  maxShrinkIters : Nat := 4096
  /-- Seconds; zero means no limit. -/
  maxShrinkTime : Float := 0
  verbose : Bool := false
  seed : Option Int := none
  cases_pos : 0 < cases := by decide
  maxPreconditionRetries_pos : 0 < maxPreconditionRetries := by decide
  maxUnfillableSlots_pos : 0 < maxUnfillableSlots := by decide
  maxGenerationAttempts_pos : 0 < maxGenerationAttempts := by decide
  minSize_le_maxSize : minSize ≤ maxSize := by decide

end StateCheck
