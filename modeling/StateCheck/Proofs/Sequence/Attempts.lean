import Mathlib.Data.List.Basic
import StateCheck.Proofs.Sequence.Moves

/-! What each attempt makes of the one tree that it moves, and how the latest of them is taken back. -/

namespace StateCheck.Sequence
variable {S T ι τ : Type} {g : Shrinker S T ι τ} {v : Sequence S T ι τ} {i : Nat} {entry : Entry τ T}

theorem yields_accept (edit : Edit S T) {Q : Bool → Sequence S T ι τ → Prop}
    {F : Fault → Sequence S T ι τ → Prop} :
    (accept edit).Yields v Q F ↔ Q true { v with lastEdit := some edit } := Iff.rfl

theorem yields_moveTo (phase : Phase) {Q : Unit → Sequence S T ι τ → Prop} {F : Fault → Sequence S T ι τ → Prop} :
    (moveTo phase).Yields v Q F ↔ Q () { v with cursor := { phase := phase, index := 0 } } := Iff.rfl

theorem yields_onTree {α : Type} (hentry : v.entries[i]? = some entry) (outside : α) (x : Act τ α)
    {Q : α → Sequence S T ι τ → Prop} {F : Fault → Sequence S T ι τ → Prop} : (onTree i outside x).Yields v Q F ↔
      x.Yields entry.tree (fun a tree => Q a { v with entries := v.entries.set i { entry with tree := tree } })
        (fun e tree => F e { v with entries := v.entries.set i { entry with tree := tree } }) := by
  unfold onTree
  rw [Act.yields_on, Act.yields_onItem hentry, Act.yields_on]

theorem transitions_set (hentry : v.entries[i]? = some entry) (tree : τ) :
    (v.entries.set i { entry with tree := tree }).map (·.transition) = v.transitions := by
  obtain ⟨hi, rfl⟩ := List.getElem?_eq_some_iff.1 hentry
  have hbound : i < v.transitions.length := by simpa using hi
  have hself := List.set_getElem_self hbound
  simpa [transitions] using hself

def put (i : Nat) (tree : τ) (t : T) (v : Sequence S T ι τ) : Sequence S T ι τ :=
  { v with entries := v.entries.set i ⟨tree, t⟩, retryPending := false }

theorem setTransition_put (hentry : v.entries[i]? = some entry) (tree : τ) (t : T) :
    (v.put i tree entry.transition).setTransition i t = v.put i tree t := by
  have hi := (List.getElem?_eq_some_iff.1 hentry).1
  have hmodify : (v.entries.set i ⟨tree, entry.transition⟩).modify i (fun entry => { entry with transition := t }) =
      v.entries.set i ⟨tree, t⟩ := by
    rw [List.modify_eq_set_getElem?, List.getElem?_set_self hi]
    exact List.set_set ..
  exact congrArg (fun entries => { v with entries := entries, retryPending := false }) hmodify

theorem yields_shrinkTransition (hentry : v.entries[i]? = some entry)
    {Q : Option (Edit S T) → Sequence S T ι τ → Prop} {F : Fault → Sequence S T ι τ → Prop} :
    (shrinkTransition g i).Yields v Q F ↔ (g.transition.propose v.retryPending).Yields entry.tree
      (fun proposed tree =>
        match proposed with
        | none => Q none (v.put i tree entry.transition)
        | some t =>
          (Act.lift (g.rules.isValid v.initialState ((before v.length v.transitions).set i t) i)).Yields
            (v.put i tree entry.transition)
            (fun valid v' => if valid then Q (some (.transition i entry.transition)) (v.put i tree t) else Q none v') F)
      (fun e tree => F e (v.put i tree entry.transition)) := by
  unfold shrinkTransition takeRetry
  rw [Act.yields_bind, Act.yields_ofMove, Act.yields_bind]
  have hentry' : ({ v with retryPending := false } : Sequence S T ι τ).entries[i]? = some entry := hentry
  rw [yields_onTree hentry']
  refine Act.yields_iff (fun proposed tree => ?_) fun _ _ => Iff.rfl
  have htransitions : (v.put i tree entry.transition).transitions = v.transitions := transitions_set hentry tree
  have hprior : (v.put i tree entry.transition).transitions[i]? = some entry.transition := by
    rw [htransitions, transitions, List.getElem?_map, hentry]
    rfl
  show Act.Yields _ (v.put i tree entry.transition) _ _ ↔ _
  rw [Act.yields_bind, Act.yields_get]
  cases proposed with
  | none => rfl
  | some t =>
    rw [hprior]
    dsimp only
    rw [Act.yields_bind, htransitions, Act.yields_lift, Act.yields_lift]
    refine and_congr (forall₂_congr fun valid _ => ?_) Iff.rfl
    cases valid with
    | true =>
      rw [if_pos rfl, if_pos rfl, Act.yields_bind, Act.yields_set, Act.yields_pure, setTransition_put hentry]
    | false => rfl

def putInitial (tree : ι) (s : S) (v : Sequence S T ι τ) : Sequence S T ι τ :=
  { v with initialTree := tree, initialState := s, retryPending := false }

theorem yields_shrinkInitialState {Q : Option (Edit S T) → Sequence S T ι τ → Prop}
    {F : Fault → Sequence S T ι τ → Prop} :
    (shrinkInitialState g).Yields v Q F ↔ (g.initial.propose v.retryPending).Yields v.initialTree
      (fun proposed tree =>
        match proposed with
        | none => Q none (v.putInitial tree v.initialState)
        | some s =>
          (Act.lift (g.rules.isValid s (before v.length v.transitions) 0)).Yields (v.putInitial tree v.initialState)
            (fun valid v' => if valid then Q (some (.initialState v.initialState)) (v.putInitial tree s) else Q none v')
            F)
      (fun e tree => F e (v.putInitial tree v.initialState)) := by
  unfold shrinkInitialState takeRetry onInitial
  rw [Act.yields_bind, Act.yields_ofMove, Act.yields_bind, Act.yields_on]
  refine Act.yields_iff (fun proposed tree => ?_) fun _ _ => Iff.rfl
  cases proposed with
  | none => rfl
  | some s =>
    dsimp only
    rw [Act.yields_bind, Act.yields_get, Act.yields_bind, Act.yields_lift, Act.yields_lift]
    refine and_congr (forall₂_congr fun valid _ => ?_) Iff.rfl
    cases valid with
    | true => rfl
    | false => rfl

def putBack (i : Nat) (tree : τ) (prior : T) (v : Sequence S T ι τ) : Bool → Sequence S T ι τ
  | true => { v with entries := v.entries.set i ⟨tree, prior⟩, retryPending := true }
  | false => { v with entries := v.entries.set i ⟨tree, prior⟩, cursor.index := i + 1 }

theorem yields_restore_transition [BEq S] [BEq T] (hentry : v.entries[i]? = some entry) (prior : T)
    {Q : Unit → Sequence S T ι τ → Prop} {F : Fault → Sequence S T ι τ → Prop} :
    (restore g (.transition i prior)).Yields v Q F ↔ (g.transition.canRetry prior).Yields entry.tree
      (fun retry tree => Q () (v.putBack i tree prior retry))
      (fun e tree => F e { v with entries := v.entries.set i ⟨tree, prior⟩ }) := by
  have hi := (List.getElem?_eq_some_iff.1 hentry).1
  have hset : (v.setTransition i prior).entries = v.entries.set i { entry with transition := prior } := by
    unfold setTransition
    rw [List.modify_eq_set_getElem?, hentry]
    rfl
  have hentry' : (v.setTransition i prior).entries[i]? = some { entry with transition := prior } := by
    rw [hset, List.getElem?_set_self hi]
  have hput (tree : τ) : (v.setTransition i prior).entries.set i ⟨tree, prior⟩ = v.entries.set i ⟨tree, prior⟩ := by
    rw [hset, List.set_set]
  unfold restore
  rw [Act.yields_bind, Act.yields_modify, Act.yields_bind, yields_onTree hentry']
  refine Act.yields_iff (fun retry tree => ?_) fun e tree => ?_
  · cases retry with
    | true =>
      rw [if_pos rfl, Act.yields_modify]
      dsimp only
      rw [hput]
      rfl
    | false =>
      rw [if_neg Bool.false_ne_true, Act.yields_modify]
      dsimp only
      rw [hput]
      rfl
  · dsimp only
    rw [hput]
    rfl

def putInitialBack (tree : ι) (prior : S) (v : Sequence S T ι τ) : Bool → Sequence S T ι τ
  | true => { v with initialTree := tree, initialState := prior, retryPending := true }
  | false => { v with initialTree := tree, initialState := prior, cursor := { phase := .done, index := 0 } }

theorem yields_restore_initial [BEq S] [BEq T] (prior : S) {Q : Unit → Sequence S T ι τ → Prop}
    {F : Fault → Sequence S T ι τ → Prop} :
    (restore g (.initialState prior)).Yields v Q F ↔ (g.initial.canRetry prior).Yields v.initialTree
      (fun retry tree => Q () (v.putInitialBack tree prior retry))
      (fun e tree => F e { v with initialTree := tree, initialState := prior }) := by
  unfold restore onInitial
  rw [Act.yields_bind, Act.yields_modify, Act.yields_bind, Act.yields_on]
  refine Act.yields_iff (fun retry tree => ?_) fun _ _ => Iff.rfl
  cases retry with
  | true => rfl
  | false => rfl

end StateCheck.Sequence
