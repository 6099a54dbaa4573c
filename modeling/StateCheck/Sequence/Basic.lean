import StateCheck.Candidate

/-!
A generated candidate that can shrink and undo its last shrink. It holds the value tree of the initial
state and one per transition; `length` says how many transitions still count.
-/

namespace StateCheck

inductive Edit (S T : Type) where
  | deleted (index length : Int)
  | transition (index : Nat) (prior : T)
  | initialState (prior : S)

namespace Edit
variable {S T : Type}

def phase : Edit S T → Phase
  | deleted .. => .deleteTransition
  | transition .. => .shrinkTransition
  | initialState _ => .shrinkInitialState

def index : Edit S T → Int
  | deleted index _ => index
  | transition index _ => index
  | initialState _ => 0

def prior [Datum S] [Datum T] : Edit S T → Value
  | deleted _ length => .int length
  | transition _ t => datum t
  | initialState s => datum s

end Edit

structure Sequence.Entry (τ T : Type) where
  tree : τ
  transition : T

structure Sequence (S T ι τ : Type) where
  initialTree : ι
  initialState : S
  entries : List (Sequence.Entry τ T)
  /-- How many transitions count. A negative length leaves that many out at the end. -/
  length : Int
  minSize : Int
  startLength : Nat
  cursor : Cursor := {}
  lastEdit : Option (Edit S T) := none
  /-- The tree at the cursor was left on a value that no shrink has proposed yet. -/
  retryPending : Bool := false

/-- The items before a length; a negative length counts from the end. -/
def before {α : Type} (length : Int) (items : List α) : List α :=
  if 0 ≤ length then items.take length.toNat else items.take (items.length - length.natAbs)

@[simp] theorem before_natCast {α : Type} (n : Nat) (items : List α) :
    before n items = items.take n := by simp [before]

theorem length_before_le {α : Type} (n : Int) (items : List α) :
    (before n items).length ≤ items.length := by
  unfold before
  split
  · rw [List.length_take]
    exact Nat.min_le_right ..
  · rw [List.length_take]
    exact Nat.min_le_right ..

namespace Sequence
variable {S T ι τ : Type}

def start (initialTree : ι) (initialState : S) (entries : List (Entry τ T)) (minSize : Int) :
    Sequence S T ι τ where
  initialTree := initialTree
  initialState := initialState
  entries := entries
  length := entries.length
  minSize := minSize
  startLength := entries.length

def start? (initialTree : ι) (initialState : S) (trees : List τ) (transitions : List T)
    (minSize : Int) : Except Fault (Sequence S T ι τ) :=
  if trees.length = transitions.length then
    .ok (start initialTree initialState (List.zipWith Entry.mk trees transitions) minSize)
  else .error (.ofText .value "Every transition needs its value tree")

def transitions (v : Sequence S T ι τ) : List T := v.entries.map (·.transition)

def current (v : Sequence S T ι τ) : Candidate S T := ⟨v.initialState, before v.length v.transitions⟩

theorem current_start (initialTree : ι) (initialState : S) (entries : List (Entry τ T))
    (minSize : Int) : (start initialTree initialState entries minSize).current =
      ⟨initialState, entries.map (·.transition)⟩ := by
  simp [current, start, transitions, before, List.take_of_length_le]

def size (v : Sequence S T ι τ) : Except Fault Nat :=
  if 0 ≤ v.length then .ok v.length.toNat else .error (.ofText .value "__len__() should return >= 0")

def shown (v : Sequence S T ι τ) : String :=
  s!"SequentialValueTree(length={v.length}, phase={v.cursor.phase.name}, index={v.cursor.index})"

end Sequence
end StateCheck
