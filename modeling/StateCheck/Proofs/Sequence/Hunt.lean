import StateCheck.Proofs.Sequence.Stages
import StateCheck.Proofs.Tree.Threshold

/-! What a sequence goes through while one of its trees searches for a threshold: deletions that move no tree, idle
trees that the cursor passes, and the search. -/

namespace StateCheck

theorem Rules.Accepts.isValid {S T : Type} {rules : Rules S T} {s : S} {ts : List T} (h : rules.Accepts s ts)
    (start : Int) : rules.isValid s ts start = .ok true :=
  isValid_eq_true_iff.2 (firstInvalidFrom_of_accepts h start 0)

theorem Rules.Accepts.longestValid {S T : Type} {rules : Rules S T} {s : S} {ts : List T}
    (h : rules.Accepts s ts) : rules.longestValid s ts = .ok ts.length := by
  rw [Rules.longestValid, firstInvalid_eq_none_iff.2 h]
  rfl

theorem le_length_before {α : Type} {n : Int} {items : List α} (h : n ≤ items.length) :
    n ≤ (before n items).length := by
  unfold before
  split
  · rw [List.length_take]
    omega
  · omega

theorem length_before {α : Type} {length : Int} {items : List α} (hlength : 0 ≤ length)
    (hle : length ≤ items.length) : ((before length items).length : Int) = length := by
  rw [before, if_pos hlength, List.length_take]
  omega

theorem before_set {α : Type} (length : Int) (items : List α) (i : Nat) (a : α) :
    before length (items.set i a) = (before length items).set i a := by
  unfold before
  rw [List.length_set]
  split <;> rw [List.take_set]

theorem getElem?_before {α : Type} {length : Int} {items : List α} {i : Nat} (hi : (i : Int) < length) :
    (before length items)[i]? = items[i]? := by
  have hlength : 0 ≤ length := by omega
  have hlt : i < length.toNat := by omega
  rw [before, if_pos hlength, List.getElem?_take_of_lt hlt]

theorem eq_of_set {α : Type} {items : List α} {i : Nat} {a b : α} (h : (items.set i a)[i]? = some b) : b = a := by
  obtain ⟨hi, rfl⟩ := List.getElem?_eq_some_iff.1 h
  exact List.getElem_set_self hi

namespace Sequence
variable {S T ι τ : Type} {g : Shrinker S T ι τ} {v : Sequence S T ι τ} {i : Nat} {entry : Entry τ T}
  {Q : Bool → Sequence S T ι τ → Prop} {F : Fault → Sequence S T ι τ → Prop}

theorem transitions_put (tree : τ) (t : T) : (v.put i tree t).transitions = v.transitions.set i t := List.map_set ..

def shrinkIn (g : Shrinker S T ι τ) (v : Sequence S T ι τ) : Phase → Act (Sequence S T ι τ) Bool
  | .deleteTransition => delete g
  | .shrinkTransition => shrinkTransitions g (v.length - v.cursor.index).toNat
  | .shrinkInitialState => shrinkInitial g
  | .done => pure false

theorem yields_shrink {phase : Phase} (hphase : v.cursor.phase = phase) : (shrink g).Yields v Q F ↔
    (shrinkIn g v phase).Yields { v with lastEdit := none } Q F := by
  unfold shrink
  cases phase <;> simp only [Act.yields_bind, Act.yields_modify, Act.yields_get, hphase, shrinkIn]

theorem yields_deleteLast (haccepts : g.rules.Accepts v.initialState v.transitions)
    (hle : v.length ≤ v.transitions.length) {Q : Option (Edit S T) → Sequence S T ι τ → Prop} :
    (deleteLast g).Yields v Q F ↔ if v.length ≤ v.minSize then Q none v else
      Q (some (.deleted (v.length - 1) v.length)) { v with length := v.length - 1 } := by
  have hvalid := (haccepts.before (v.length - 1)).longestValid
  have hlength : v.length - 1 ≤ (before (v.length - 1) v.transitions).length := le_length_before (by omega)
  unfold deleteLast
  rw [Act.yields_bind, Act.yields_get]
  split
  · rfl
  · rw [Act.yields_bind, hvalid]
    show (if _ then _ else _ : Act (Sequence S T ι τ) (Option (Edit S T))).Yields v Q F ↔ _
    rw [Int.min_eq_left hlength, if_neg (by omega)]
    rfl

theorem yields_shrinkTransitions {P : Nat → Sequence S T ι τ → Prop}
    (hnext : ∀ left v, P (left + 1) v → (shrinkTransition g v.cursor.index.toNat).Yields v
      (fun edit? v' => edit?.elim (P left { v' with cursor.index := v'.cursor.index + 1 })
        fun edit => Q true { v' with lastEdit := some edit }) F)
    (hend : ∀ v, P 0 v → (shrinkInitial g).Yields { v with cursor := { phase := .shrinkInitialState, index := 0 } } Q F)
    (left : Nat) (hv : P left v) : (shrinkTransitions g left).Yields v Q F := by
  induction left generalizing v with
  | zero =>
    unfold shrinkTransitions
    rw [Act.yields_bind, yields_moveTo]
    exact hend v hv
  | succ left ih =>
    unfold shrinkTransitions
    rw [Act.yields_bind, Act.yields_get, Act.yields_bind]
    refine (hnext left v hv).mono (fun edit? v' h => ?_) fun _ _ h => h
    cases edit? with
    | none => exact ih h
    | some edit => exact h

theorem yields_complicate [BEq S] [BEq T] {edit : Edit S T} (hedit : v.lastEdit = some edit) :
    (complicate g).Yields v Q F ↔ (restore g edit).Yields { v with lastEdit := none } (fun _ v' => Q true v') F := by
  unfold complicate
  rw [Act.yields_bind, Act.yields_get, hedit]
  dsimp only
  rw [Act.yields_bind, Act.yields_set, Act.yields_bind]
  rfl

theorem shrinkTransition_idle {J : τ → Prop} (hidle : g.transition.Idle J) (hentry : v.entries[i]? = some entry)
    (htree : J entry.tree) (hretry : v.retryPending = false) : (shrinkTransition g i).Yields v
      (fun edit? v' => edit? = none ∧ ∃ tree, J tree ∧ v' = v.put i tree entry.transition) fun _ _ => False := by
  rw [yields_shrinkTransition hentry, hretry]
  refine (hidle.propose htree).mono (fun proposed tree h => ?_) fun _ _ h => h
  obtain ⟨rfl, htree'⟩ := h
  exact ⟨rfl, tree, htree', rfl⟩

theorem shrinkInitial_idle {I : ι → Prop} (hidle : g.initial.Idle I) (htree : I v.initialTree)
    (hretry : v.retryPending = false) : (shrinkInitial g).Yields v
      (fun moved v' => moved = false ∧ ∃ tree, I tree ∧
        v' = { v.putInitial tree v.initialState with cursor := { phase := .done, index := 0 } }) fun _ _ => False := by
  unfold shrinkInitial
  rw [Act.yields_bind, yields_shrinkInitialState, hretry]
  refine (hidle.propose htree).mono (fun proposed tree h => ?_) fun _ _ h => h
  obtain ⟨rfl, htree'⟩ := h
  exact ⟨rfl, tree, htree', rfl⟩

/-- The sequence shows the candidate, to beyond the position `k`, and no more after it than the minimum asks for. -/
structure Poses (k : Int) (c : Candidate S T) (v : Sequence S T ι τ) : Prop where
  initialState : v.initialState = c.initial
  transitions : v.transitions = c.transitions
  trimmed : v.length ≤ max (k + 1) v.minSize
  reaches : 0 ≤ k → k < v.length
  le : v.length ≤ c.transitions.length

section Poses
variable {k : Int} {c : Candidate S T}

theorem Poses.current (hv : v.Poses k c) :
    ∃ n : Nat, k < n ∧ v.current = ⟨c.initial, c.transitions.take n⟩ := by
  have hreaches := hv.reaches
  rw [Sequence.current, hv.initialState, hv.transitions, before]
  split
  · exact ⟨v.length.toNat, by omega, rfl⟩
  · exact ⟨c.transitions.length - v.length.natAbs, by omega, rfl⟩

theorem Poses.cut (hv : v.Poses k c) : v.cut (k + 1) = v := if_pos hv.trimmed

theorem Poses.put (hv : v.Poses k c) (i : Nat) (tree : τ) (t : T) :
    (v.put i tree t).Poses k { c with transitions := c.transitions.set i t } where
  initialState := hv.initialState
  transitions := by rw [transitions_put, hv.transitions]
  trimmed := hv.trimmed
  reaches := hv.reaches
  le := by
    rw [List.length_set]
    exact hv.le

theorem Poses.put_same (hv : v.Poses k c) (hentry : v.entries[i]? = some entry) (tree : τ) :
    (v.put i tree entry.transition).Poses k c where
  initialState := hv.initialState
  transitions := (transitions_set hentry tree).trans hv.transitions
  trimmed := hv.trimmed
  reaches := hv.reaches
  le := hv.le

theorem Poses.moved (hv : v.Poses k c) (cursor : Cursor) (lastEdit : Option (Edit S T)) (retry : Bool) :
    ({ v with cursor := cursor, lastEdit := lastEdit, retryPending := retry } : Sequence S T ι τ).Poses k c :=
  ⟨hv.initialState, hv.transitions, hv.trimmed, hv.reaches, hv.le⟩

theorem Poses.entry_at (hv : v.Poses k c) {j : Nat} (hj : (j : Int) < v.length) :
    ∃ entry, v.entries[j]? = some entry ∧ c.transitions[j]? = some entry.transition := by
  have hle := hv.le
  rw [← hv.transitions, length_transitions] at hle
  have hbound : j < v.entries.length := by omega
  refine ⟨v.entries[j], List.getElem?_eq_getElem hbound, ?_⟩
  rw [← hv.transitions, Sequence.transitions, List.getElem?_map, List.getElem?_eq_getElem hbound]
  rfl

end Poses

def Advances (tests : Nat → Nat → Sequence S T ι τ → Prop) (k : Int) (c : Candidate S T) (best : Prop) (n : Nat)
    (x : Act (Sequence S T ι τ) Bool) (v : Sequence S T ι τ) : Prop :=
  x.Yields v (fun moved v' => if moved then ∃ n' < n, ∃ d, tests n' d v' else v'.Poses k c ∧ best) fun _ _ => False

/-- Between rounds the sequence waits with a distance held and so many rounds left; a reduction tests another one. -/
structure Hunt [BEq S] [BEq T] (g : Shrinker S T ι τ) (put : Nat → Candidate S T) (k : Int) (far : Nat)
    (Fails : Nat → Prop) (waits : Nat → Nat → Sequence S T ι τ → Prop)
    (tests : Nat → Nat → Nat → Sequence S T ι τ → Prop) : Prop where
  shrink : ∀ n held v, waits n held v →
    Advances (tests held) k (put held) (∀ d < held, ¬Fails d) n (shrink g) v
  keep : ∀ n d held v, tests held n d v → waits n d v
  undo : ∀ n d held v, tests held n d v → Fails held → ¬Fails d →
    (complicate g).Yields v (fun _ v' => waits n held v') fun _ _ => False
  poses : ∀ n d held v, tests held n d v → v.Poses k (put d)
  le : ∀ n d held v, tests held n d v → d ≤ far

structure Untouched (v value : Sequence S T ι τ) (k : Int) (c : Candidate S T) : Prop where
  poses : v.Poses k c
  cursor : v.cursor = {}
  settled : v.retryPending = false
  initialTree : v.initialTree = value.initialTree
  entries : v.entries = value.entries

structure Shortened (v u value : Sequence S T ι τ) (k : Int) (c : Candidate S T) : Prop where
  start : u.Untouched value k c
  long : u.minSize < u.length
  after : v = { u with length := u.length - 1, lastEdit := some (.deleted (u.length - 1) u.length) }

section deletions
variable {value u : Sequence S T ι τ} {k : Int} {c : Candidate S T}

def entered (v : Sequence S T ι τ) : Sequence S T ι τ :=
  { v with cursor := { phase := .shrinkTransition, index := 0 }, lastEdit := none }

theorem Untouched.shrink (hv : v.Untouched value k c) (haccepts : g.rules.Accepts c.initial c.transitions) :
    (shrink g).Yields v Q F ↔ if v.length ≤ v.minSize then (shrink g).Yields v.entered Q F else
      Q true { v with length := v.length - 1, lastEdit := some (.deleted (v.length - 1) v.length) } := by
  have hphase : v.cursor.phase = .deleteTransition := congrArg Cursor.phase hv.cursor
  have hshown : g.rules.Accepts v.initialState v.transitions := by
    rw [hv.poses.initialState, hv.poses.transitions]
    exact haccepts
  have hle : v.length ≤ v.transitions.length := by
    rw [hv.poses.transitions]
    exact hv.poses.le
  have hindex : (v.entered.length - v.entered.cursor.index).toNat = v.length.toNat :=
    congrArg Int.toNat (Int.sub_zero _)
  rw [yields_shrink hphase, yields_shrink (v := v.entered) rfl]
  unfold shrinkIn
  rw [hindex]
  unfold delete
  rw [Act.yields_bind, yields_deleteLast (v := { v with lastEdit := none }) hshown hle]
  rfl

theorem Shortened.length_eq (hv : v.Shortened u value k c) (hk : 0 ≤ k) : u.length = k + 1 := by
  have htrimmed := hv.start.poses.trimmed
  have hreaches := hv.start.poses.reaches hk
  have hlong := hv.long
  omega

theorem Shortened.current (hv : v.Shortened u value k c) (hk : 0 ≤ k) :
    v.current = ⟨c.initial, c.transitions.take k.toNat⟩ := by
  -- Whatever follows the failing transition was cut off at the start, so a deletion takes that transition itself.
  have hlength := hv.length_eq hk
  have hposes := hv.start.poses
  obtain rfl := hv.after
  show (⟨u.initialState, before (u.length - 1) u.transitions⟩ : Candidate S T) = _
  rw [hposes.initialState, hposes.transitions, hlength, before, if_pos (by omega), Int.add_sub_cancel]

theorem Shortened.untouched (hv : v.Shortened u value k c) (hk : k < 0) : v.Untouched value k c := by
  obtain ⟨hposes, hcursor, hsettled, hinitialTree, hentries⟩ := hv.start
  have htrimmed := hposes.trimmed
  have hle := hposes.le
  obtain rfl := hv.after
  refine ⟨⟨hposes.initialState, hposes.transitions, ?_, fun hnonneg => by omega, ?_⟩, hcursor, hsettled, hinitialTree,
    hentries⟩
  · show u.length - 1 ≤ max (k + 1) u.minSize
    omega
  · show u.length - 1 ≤ c.transitions.length
    omega

theorem Shortened.complicate [BEq S] [BEq T] (hv : v.Shortened u value k c) :
    (complicate g).Yields v Q F ↔ Q true u.entered := by
  obtain rfl := hv.after
  rw [yields_complicate rfl]
  rfl

theorem untouched_cut {initialTree : ι} {s : S} {entries : List (Entry τ T)} {minSize : Int}
    (hk : 0 ≤ k → k < entries.length) :
    ((start initialTree s entries minSize).cut (k + 1)).Untouched
      (start initialTree s entries minSize) k ⟨s, entries.map (·.transition)⟩ := by
  have hcount : (entries.map (·.transition)).length = entries.length := List.length_map ..
  unfold cut
  split
  · refine ⟨⟨rfl, rfl, ‹_›, hk, ?_⟩, rfl, rfl, rfl, rfl⟩
    show (entries.length : Int) ≤ (entries.map (·.transition)).length
    omega
  · rename_i hlong
    have hlong' : ¬(entries.length : Int) ≤ max (k + 1) minSize := hlong
    refine ⟨⟨rfl, rfl, Int.le_refl _, fun _ => ?_, ?_⟩, rfl, rfl, rfl, rfl⟩
    · show k < max (k + 1) minSize
      omega
    · show max (k + 1) minSize ≤ (entries.map (·.transition)).length
      omega

end deletions

end Sequence
end StateCheck
