import StateCheck.Sequence.Shrink
import StateCheck.Proofs.Accepts

/-! What a sequence shows, apart from its trees and its cursor, and the reductions of it. A reduction is
undone by putting back what its edit names. -/

namespace StateCheck

structure Sequence.Shape (S T : Type) where
  initial : S
  transitions : List T
  length : Int

namespace Sequence
variable {S T ι τ : Type}

def Shape.current (f : Shape S T) : Candidate S T := ⟨f.initial, before f.length f.transitions⟩

def shape (v : Sequence S T ι τ) : Shape S T := ⟨v.initialState, v.transitions, v.length⟩

theorem current_shape (v : Sequence S T ι τ) : v.shape.current = v.current := rfl

@[simp] theorem length_transitions (v : Sequence S T ι τ) : v.transitions.length = v.entries.length :=
  List.length_map ..

theorem transitions_modify (entries : List (Entry τ T)) (i : Nat) (t : T) :
    (entries.modify i fun entry => { entry with transition := t }).map (·.transition) =
      (entries.map (·.transition)).set i t := by
  induction entries generalizing i with
  | nil => simp
  | cons entry rest ih =>
    cases i with
    | zero => rfl
    | succ i =>
      simp only [List.modify_succ_cons, List.map_cons, List.set_cons_succ]
      rw [ih]

@[simp] theorem transitions_setTransition (i : Nat) (t : T) (v : Sequence S T ι τ) :
    (v.setTransition i t).transitions = v.transitions.set i t := transitions_modify ..

theorem shape_setTransition (i : Nat) (t : T) (v : Sequence S T ι τ) : (v.setTransition i t).shape =
    { v.shape with transitions := v.shape.transitions.set i t } := by
  rw [shape, transitions_setTransition]
  rfl

theorem before_take {α : Type} (n : Nat) {length : Int} (hn : (n : Int) ≤ length) (items : List α) :
    (before length items).take n = items.take n := by
  rw [before, if_pos (by omega), List.take_take, Nat.min_eq_left (by omega)]

end Sequence

theorem Rules.Accepts.before {S T : Type} {rules : Rules S T} {s : S} {ts : List T}
    (h : rules.Accepts s ts) (n : Int) : rules.Accepts s (before n ts) := by
  unfold StateCheck.before
  split
  · exact h.take _
  · exact h.take _

def Edit.undo {S T : Type} : Edit S T → Sequence.Shape S T → Sequence.Shape S T
  | deleted _ length, f => { f with length := length }
  | transition i prior, f => { f with transitions := f.transitions.set i prior }
  | initialState prior, f => { f with initial := prior }

namespace Sequence
variable {S T ι τ : Type}

/-- The reductions that the model accepts, with the edits that record them. -/
inductive Reduces (rules : Rules S T) (minSize : Int) : Shape S T → Edit S T → Shape S T → Prop
  | delete {f : Shape S T} {valid : Nat} (hlength : minSize < f.length)
      (hvalid : rules.longestValid f.initial (before (f.length - 1) f.transitions) = .ok valid)
      (hkept : minSize ≤ min (f.length - 1) valid) :
      Reduces rules minSize f (.deleted (min (f.length - 1) valid) f.length)
        { f with length := min (f.length - 1) valid }
  | transition {f : Shape S T} {i : Nat} {prior t : T} (hprior : f.transitions[i]? = some prior)
      (hvalid : rules.isValid f.initial ((before f.length f.transitions).set i t) i = .ok true) :
      Reduces rules minSize f (.transition i prior) { f with transitions := f.transitions.set i t }
  | initialState {f : Shape S T} {s : S}
      (hvalid : rules.isValid s (before f.length f.transitions) 0 = .ok true) :
      Reduces rules minSize f (.initialState f.initial) { f with initial := s }

theorem Reduces.undo {rules : Rules S T} {minSize : Int} {f f' : Shape S T} {edit : Edit S T}
    (h : Reduces rules minSize f edit f') : edit.undo f' = f := by
  cases h with
  | delete => rfl
  | @transition i prior t hprior _ =>
    obtain ⟨hi, rfl⟩ := List.getElem?_eq_some_iff.1 hprior
    simp [Edit.undo]
  | initialState => rfl

end Sequence
end StateCheck
