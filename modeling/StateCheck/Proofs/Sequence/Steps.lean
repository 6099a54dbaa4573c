import StateCheck.Proofs.Sequence.Shape

/-! What `shrink`, `complicate` and `truncate` do to a sequence. The trees are known by an invariant
that their moves keep; the faults of trees and rules are of a given kind. -/

namespace StateCheck

/-- The moves that a sequence makes on a tree keep the invariant, and raise certain faults only. -/
structure ValueTree.Tame {σ α : Type} [BEq α] (t : ValueTree σ α) (I : σ → Prop) (E : Fault → Prop) :
    Prop where
  propose : ∀ untried s, I s → (t.propose untried).Yields s (fun _ s' => I s') fun e _ => E e
  canRetry : ∀ a s, I s → (t.canRetry a).Yields s (fun _ s' => I s') fun e _ => E e

structure Shrinker.Tame {S T ι τ : Type} [BEq S] [BEq T] (g : Shrinker S T ι τ) (I : ι → Prop)
    (J : τ → Prop) (E : Fault → Prop) : Prop where
  rules : g.rules.RaiseOnly E
  initial : g.initial.Tame I E
  transition : g.transition.Tame J E

theorem Shrinker.tame_of_anything {S T ι τ : Type} [BEq S] [BEq T] (g : Shrinker S T ι τ) :
    g.Tame (fun _ => True) (fun _ => True) fun _ => True := by
  have htame {σ α : Type} [BEq α] (t : ValueTree σ α) : t.Tame (fun _ => True) fun _ => True :=
    ⟨fun untried s _ => Act.yields_trivial (t.propose untried) s,
      fun a s _ => Act.yields_trivial (t.canRetry a) s⟩
  exact ⟨⟨fun _ _ _ _ => trivial, fun _ _ _ _ => trivial⟩, htame _, htame _⟩

namespace Sequence
variable {S T ι τ : Type} {g : Shrinker S T ι τ} {I : ι → Prop} {J : τ → Prop} {E : Fault → Prop}
  {v v' v'' : Sequence S T ι τ}

def Trees (I : ι → Prop) (J : τ → Prop) (v : Sequence S T ι τ) : Prop :=
  I v.initialTree ∧ ∀ entry ∈ v.entries, J entry.tree

theorem trees_of_anything (v : Sequence S T ι τ) : v.Trees (fun _ => True) fun _ => True :=
  ⟨trivial, fun _ _ => trivial⟩

/-- Nothing to be seen differs. -/
structure Still (v v' : Sequence S T ι τ) : Prop where
  shape : v'.shape = v.shape
  minSize : v'.minSize = v.minSize
  startLength : v'.startLength = v.startLength

theorem Still.rfl : Still v v := ⟨Eq.refl _, Eq.refl _, Eq.refl _⟩

theorem Still.trans (h : Still v v') (h' : Still v' v'') : Still v v'' :=
  ⟨h'.shape.trans h.shape, h'.minSize.trans h.minSize, h'.startLength.trans h.startLength⟩

/-- Nothing but trees differs, and whether the tree at the cursor was tried. -/
structure Quiet (v v' : Sequence S T ι τ) : Prop extends Still v v' where
  cursor : v'.cursor = v.cursor
  lastEdit : v'.lastEdit = v.lastEdit

theorem Quiet.rfl : Quiet v v := ⟨.rfl, Eq.refl _, Eq.refl _⟩

theorem Quiet.trans (h : Quiet v v') (h' : Quiet v' v'') : Quiet v v'' :=
  ⟨h.toStill.trans h'.toStill, h'.cursor.trans h.cursor, h'.lastEdit.trans h.lastEdit⟩

structure Committed (rules : Rules S T) (phase : Phase) (edit : Edit S T) (v v' : Sequence S T ι τ) :
    Prop where
  phase : edit.phase = phase
  reduces : Reduces rules v.minSize v.shape edit v'.shape
  minSize : v'.minSize = v.minSize
  startLength : v'.startLength = v.startLength
  cursor : v'.cursor = v.cursor

def Attempt (rules : Rules S T) (phase : Phase) (v : Sequence S T ι τ) :
    Option (Edit S T) → Sequence S T ι τ → Prop
  | none, v' => Quiet v v'
  | some edit, v' => Committed rules phase edit v v'

theorem onTree_yields {α : Type} {x : Act τ α} {R : α → Prop} {i : Nat} {outside : α}
    (hx : ∀ tree, J tree → x.Yields tree (fun a tree' => R a ∧ J tree') fun e _ => E e)
    (houtside : R outside) (hv : v.Trees I J) : (onTree i outside x).Yields v
      (fun a v' => R a ∧ v'.Trees I J ∧ Quiet v v') (fun e v' => E e ∧ Quiet v v') := by
  unfold onTree
  rw [Act.yields_on]
  cases hentry : v.entries[i]? with
  | none =>
    rw [Act.yields_onItem_outside hentry]
    exact ⟨houtside, hv, .rfl⟩
  | some entry =>
    have hquiet (tree : τ) :
        Quiet v { v with entries := v.entries.set i { entry with tree := tree } } := by
      refine ⟨⟨?_, rfl, rfl⟩, rfl, rfl⟩
      obtain ⟨hi, rfl⟩ := List.getElem?_eq_some_iff.1 hentry
      have hbound : i < v.transitions.length := by simpa using hi
      have hself := List.set_getElem_self hbound
      simpa [shape, transitions] using hself
    rw [Act.yields_onItem hentry, Act.yields_on]
    have hmem : entry ∈ v.entries := List.mem_of_getElem? hentry
    refine (hx _ (hv.2 entry hmem)).mono (fun a tree ha => ?_) (fun e tree he => ?_)
    · refine ⟨ha.1, ⟨hv.1, fun entry' hentry' => ?_⟩, hquiet tree⟩
      rcases List.mem_or_eq_of_mem_set hentry' with h | rfl
      · exact hv.2 entry' h
      · exact ha.2
    · exact ⟨he, hquiet tree⟩

theorem onInitial_yields {α : Type} {x : Act ι α}
    (hx : ∀ tree, I tree → x.Yields tree (fun _ tree' => I tree') fun e _ => E e) (hv : v.Trees I J) :
    (onInitial x).Yields v (fun _ v' => v'.Trees I J ∧ Quiet v v') (fun e v' => E e ∧ Quiet v v') := by
  unfold onInitial
  rw [Act.yields_on]
  refine (hx _ hv.1).mono (fun a tree ha => ?_) (fun e tree he => ?_)
  · exact ⟨⟨ha, hv.2⟩, ⟨rfl, rfl, rfl⟩, rfl, rfl⟩
  · exact ⟨he, ⟨rfl, rfl, rfl⟩, rfl, rfl⟩

theorem takeRetry_yields (hv : v.Trees I J) {F : Fault → Sequence S T ι τ → Prop} :
    takeRetry.Yields v (fun _ v' => v'.Trees I J ∧ Quiet v v') F :=
  ⟨hv, ⟨rfl, rfl, rfl⟩, rfl, rfl⟩

theorem Trees.setTransition (hv : v.Trees I J) (i : Nat) (t : T) : (v.setTransition i t).Trees I J := by
  refine ⟨hv.1, ?_⟩
  intro entry hentry
  obtain ⟨j, hj⟩ := List.mem_iff_getElem?.1 hentry
  simp only [Sequence.setTransition, List.getElem?_modify, Option.map_eq_map, Option.map_eq_some_iff] at hj
  obtain ⟨entry', hentry', rfl⟩ := hj
  have := hv.2 entry' (List.mem_of_getElem? hentry')
  split <;> exact this

theorem deleteLast_yields (hrules : g.rules.RaiseOnly E) (hv : v.Trees I J) : (deleteLast g).Yields v
    (fun edit? v' => v'.Trees I J ∧ Attempt g.rules .deleteTransition v edit? v')
    (fun e v' => E e ∧ Quiet v v') := by
  unfold deleteLast
  simp only [Act.yields_bind, Act.yields_get, Act.yields_ite, Act.yields_pure, Act.yields_lift,
    Act.yields_log, Act.yields_set]
  refine ⟨fun _ => ⟨hv, .rfl⟩, fun hlength => ⟨fun valid hvalid => ⟨fun _ => ⟨hv, .rfl⟩, fun hkept => ?_⟩,
    fun e he => ⟨hrules.longestValid he, .rfl⟩⟩⟩
  refine ⟨hv, rfl, ?_, rfl, rfl, rfl⟩
  exact .delete (by simpa [shape] using hlength) hvalid (by simpa [shape] using hkept)

theorem shrinkTransition_yields [BEq T] (hrules : g.rules.RaiseOnly E) (htree : g.transition.Tame J E)
    (hv : v.Trees I J) (i : Nat) : (shrinkTransition g i).Yields v
      (fun edit? v' => v'.Trees I J ∧ Attempt g.rules .shrinkTransition v edit? v')
      (fun e v' => E e ∧ Quiet v v') := by
  unfold shrinkTransition
  rw [Act.yields_bind]
  refine (takeRetry_yields hv).mono (fun untried v₁ h₁ => ?_) (fun _ _ h => h)
  rw [Act.yields_bind]
  refine (onTree_yields (R := fun _ => True) (fun tree htree' =>
    (htree.propose _ tree htree').mono (fun _ _ h => ⟨trivial, h⟩) fun _ _ h => h) trivial h₁.1).mono
    ?_ (fun e _ h => ⟨h.1, h₁.2.trans h.2⟩)
  rintro proposed v₂ ⟨-, htrees, hquiet⟩
  replace hquiet := h₁.2.trans hquiet
  rw [Act.yields_bind, Act.yields_get]
  split
  · rename_i t prior hprior
    rw [Act.yields_bind, Act.yields_lift]
    refine ⟨?_, fun e he => ⟨hrules.isValid he, hquiet⟩⟩
    intro valid hvalid
    rw [Act.yields_ite]
    refine ⟨?_, fun _ => ⟨htrees, hquiet⟩⟩
    intro hvalid'
    subst hvalid'
    rw [Act.yields_bind, Act.yields_set, Act.yields_pure]
    refine ⟨htrees.setTransition i t, rfl, ?_, hquiet.minSize, hquiet.startLength, hquiet.cursor⟩
    rw [shape_setTransition, ← hquiet.shape]
    exact .transition hprior hvalid
  · exact ⟨htrees, hquiet⟩

theorem shrinkInitialState_yields [BEq S] (hrules : g.rules.RaiseOnly E) (htree : g.initial.Tame I E)
    (hv : v.Trees I J) : (shrinkInitialState g).Yields v
      (fun edit? v' => v'.Trees I J ∧ Attempt g.rules .shrinkInitialState v edit? v')
      (fun e v' => E e ∧ Quiet v v') := by
  unfold shrinkInitialState
  rw [Act.yields_bind]
  refine (takeRetry_yields hv).mono (fun untried v₁ h₁ => ?_) (fun _ _ h => h)
  rw [Act.yields_bind]
  refine (onInitial_yields (htree.propose untried) h₁.1).mono ?_ (fun e _ h => ⟨h.1, h₁.2.trans h.2⟩)
  rintro proposed v₂ ⟨htrees, hquiet⟩
  replace hquiet := h₁.2.trans hquiet
  cases proposed with
  | none => exact ⟨htrees, hquiet⟩
  | some s =>
    dsimp only
    rw [Act.yields_bind, Act.yields_get, Act.yields_bind, Act.yields_lift]
    refine ⟨?_, fun e he => ⟨hrules.isValid he, hquiet⟩⟩
    intro valid hvalid
    rw [Act.yields_ite]
    refine ⟨?_, fun _ => ⟨htrees, hquiet⟩⟩
    intro hvalid'
    subst hvalid'
    refine ⟨htrees, rfl, ?_, hquiet.minSize, hquiet.startLength, hquiet.cursor⟩
    rw [← hquiet.shape]
    exact .initialState hvalid

structure Shrunk (rules : Rules S T) (v : Sequence S T ι τ) (moved : Bool) (v' : Sequence S T ι τ) :
    Prop where
  minSize : v'.minSize = v.minSize
  startLength : v'.startLength = v.startLength
  rank_le : v.cursor.phase.rank ≤ v'.cursor.phase.rank
  edited : moved = true → ∃ edit, v'.lastEdit = some edit ∧ edit.phase = v'.cursor.phase ∧
    Reduces rules v.minSize v.shape edit v'.shape
  ended : moved = false → v'.lastEdit = none ∧ v'.shape = v.shape ∧ v'.cursor.phase = .done

theorem Shrunk.of_still {rules : Rules S T} {moved : Bool} (h : Shrunk rules v' moved v'')
    (hstill : Still v v') (hrank : v.cursor.phase.rank ≤ v'.cursor.phase.rank) :
    Shrunk rules v moved v'' where
  minSize := h.minSize.trans hstill.minSize
  startLength := h.startLength.trans hstill.startLength
  rank_le := Nat.le_trans hrank h.rank_le
  edited := by
    rw [← hstill.shape, ← hstill.minSize]
    exact h.edited
  ended := by
    rw [← hstill.shape]
    exact h.ended

def Shrinks (rules : Rules S T) (I : ι → Prop) (J : τ → Prop) (E : Fault → Prop) (v : Sequence S T ι τ)
    (x : Act (Sequence S T ι τ) Bool) (v' : Sequence S T ι τ) : Prop :=
  x.Yields v' (fun moved v'' => v''.Trees I J ∧ Shrunk rules v moved v'')
    (fun e v'' => E e ∧ Still v v'' ∧ v''.lastEdit = none)

theorem Shrinks.of_still {rules : Rules S T} {x : Act (Sequence S T ι τ) Bool}
    (h : Shrinks rules I J E v' x v') (hstill : Still v v')
    (hrank : v.cursor.phase.rank ≤ v'.cursor.phase.rank) : Shrinks rules I J E v x v' :=
  h.mono (fun _ _ h => ⟨h.1, h.2.of_still hstill hrank⟩) (fun _ _ h => ⟨h.1, hstill.trans h.2.1, h.2.2⟩)

theorem Shrinks.of_attempt {phase : Phase} {x : Act (Sequence S T ι τ) (Option (Edit S T))}
    {f : Option (Edit S T) → Act (Sequence S T ι τ) Bool}
    (hx : x.Yields v (fun edit? v' => v'.Trees I J ∧ Attempt g.rules phase v edit? v')
      (fun e v' => E e ∧ Quiet v v'))
    (hphase : v.cursor.phase = phase) (hedit : v.lastEdit = none) (hf : ∀ edit, f (some edit) = accept edit)
    (hnone : ∀ v', v'.Trees I J → Quiet v v' → Shrinks g.rules I J E v (f none) v') :
    Shrinks g.rules I J E v (x >>= f) v := by
  unfold Shrinks
  rw [Act.yields_bind]
  refine hx.mono (fun edit? v' h => ?_) (fun e _ h => ⟨h.1, h.2.toStill, h.2.lastEdit.trans hedit⟩)
  cases edit? with
  | none => exact hnone v' h.1 h.2
  | some edit =>
    obtain ⟨htrees, hcommitted⟩ := h
    rw [hf]
    refine ⟨htrees, hcommitted.minSize, hcommitted.startLength, ?_, fun _ => ⟨edit, rfl, ?_,
      hcommitted.reduces⟩, nofun⟩
    · exact Nat.le_of_eq (congrArg (·.phase.rank) hcommitted.cursor.symm)
    · exact (hcommitted.phase.trans hphase.symm).trans (congrArg (·.phase) hcommitted.cursor.symm)

theorem Shrinks.of_moveTo {phase : Phase} {rules : Rules S T} {x : Act (Sequence S T ι τ) Bool}
    (hquiet : Quiet v v') (hrank : v.cursor.phase.rank ≤ phase.rank)
    (h : Shrinks rules I J E { v' with cursor := { phase := phase, index := 0 } } x
      { v' with cursor := { phase := phase, index := 0 } }) :
    Shrinks rules I J E v (moveTo phase >>= fun _ => x) v' := by
  unfold Shrinks
  rw [Act.yields_bind]
  exact h.of_still ⟨hquiet.shape, hquiet.minSize, hquiet.startLength⟩ hrank

theorem shrinkInitial_shrinks [BEq S] (hrules : g.rules.RaiseOnly E) (htree : g.initial.Tame I E)
    (hv : v.Trees I J) (hphase : v.cursor.phase = .shrinkInitialState) (hedit : v.lastEdit = none) :
    Shrinks g.rules I J E v (shrinkInitial g) v := by
  refine .of_attempt (shrinkInitialState_yields hrules htree hv) hphase hedit (fun _ => rfl)
    fun v₁ htrees hquiet => .of_moveTo hquiet ?_ ?_
  · rw [hphase]
    decide
  · exact ⟨htrees, rfl, rfl, Nat.le_refl _, nofun, fun _ => ⟨hquiet.lastEdit.trans hedit, rfl, rfl⟩⟩

theorem shrinkTransitions_shrinks [BEq S] [BEq T] (hg : g.Tame I J E) (left : Nat) (hv : v.Trees I J)
    (hphase : v.cursor.phase = .shrinkTransition) (hedit : v.lastEdit = none) :
    Shrinks g.rules I J E v (shrinkTransitions g left) v := by
  induction left generalizing v with
  | zero =>
    refine .of_moveTo .rfl ?_ (shrinkInitial_shrinks hg.rules hg.initial hv rfl hedit)
    rw [hphase]
    decide
  | succ left ih =>
    unfold shrinkTransitions
    refine .of_attempt (shrinkTransition_yields hg.rules hg.transition hv _) hphase hedit (fun _ => rfl)
      fun v₁ htrees hquiet => ?_
    have hcursor : v₁.cursor.phase = .shrinkTransition := hquiet.cursor ▸ hphase
    have hnext : Shrinks g.rules I J E { v₁ with cursor.index := v₁.cursor.index + 1 }
        (shrinkTransitions g left) { v₁ with cursor.index := v₁.cursor.index + 1 } :=
      ih htrees hcursor (hquiet.lastEdit.trans hedit)
    refine hnext.of_still ⟨hquiet.shape, hquiet.minSize, hquiet.startLength⟩ ?_
    exact Nat.le_of_eq (congrArg Phase.rank (hphase.trans hcursor.symm))

theorem delete_shrinks [BEq S] [BEq T] (hg : g.Tame I J E) (hv : v.Trees I J)
    (hphase : v.cursor.phase = .deleteTransition) (hedit : v.lastEdit = none) :
    Shrinks g.rules I J E v (delete g) v := by
  refine .of_attempt (deleteLast_yields hg.rules hv) hphase hedit (fun _ => rfl)
    fun v₁ htrees hquiet => .of_moveTo hquiet ?_ ?_
  · rw [hphase]
    decide
  · exact shrinkTransitions_shrinks hg _ htrees rfl (hquiet.lastEdit.trans hedit)

theorem shrink_shrinks [BEq S] [BEq T] (hg : g.Tame I J E) (hv : v.Trees I J) :
    Shrinks g.rules I J E v (shrink g) v := by
  unfold Shrinks shrink
  rw [Act.yields_bind, Act.yields_modify, Act.yields_bind, Act.yields_get]
  have hforgot : ({ v with lastEdit := none } : Sequence S T ι τ).Trees I J := hv
  have lower {x : Act (Sequence S T ι τ) Bool}
      (h : Shrinks g.rules I J E { v with lastEdit := none } x { v with lastEdit := none }) :
      Shrinks g.rules I J E v x { v with lastEdit := none } := h.of_still ⟨rfl, rfl, rfl⟩ (Nat.le_refl _)
  apply lower
  -- Each phase ends by trying the next one, so the cases are the phases from their start on.
  split
  · exact delete_shrinks hg hforgot ‹_› rfl
  · exact shrinkTransitions_shrinks hg _ hforgot ‹_› rfl
  · exact shrinkInitial_shrinks hg.rules hg.initial hforgot ‹_› rfl
  · exact ⟨hforgot, rfl, rfl, Nat.le_refl _, nofun, fun _ => ⟨rfl, rfl, ‹_›⟩⟩

/-- The edit's reduction is undone, and forgotten. Undoing a deletion ends the phase of deletions. -/
structure Restored (edit : Edit S T) (v v' : Sequence S T ι τ) : Prop where
  shape : v'.shape = edit.undo v.shape
  minSize : v'.minSize = v.minSize
  startLength : v'.startLength = v.startLength
  lastEdit : v'.lastEdit = none
  rank_le : edit.phase = v.cursor.phase → v.cursor.phase.rank ≤ v'.cursor.phase.rank
  deleted : edit.phase = .deleteTransition → v'.cursor.phase = .shrinkTransition

theorem Restored.of_quiet {edit : Edit S T} (h : Quiet v v') (hshape : v.shape = edit.undo v''.shape)
    (hminSize : v.minSize = v''.minSize) (hstart : v.startLength = v''.startLength)
    (hcursor : v.cursor = v''.cursor) (hlast : v.lastEdit = none)
    (hphase : edit.phase ≠ .deleteTransition) : Restored edit v'' v' where
  shape := h.shape.trans hshape
  minSize := h.minSize.trans hminSize
  startLength := h.startLength.trans hstart
  lastEdit := h.lastEdit.trans hlast
  rank_le _ := Nat.le_of_eq (congrArg (·.phase.rank) (h.cursor.trans hcursor).symm)
  deleted hdeleted := absurd hdeleted hphase

theorem restore_yields [BEq S] [BEq T] (hg : g.Tame I J E) (edit : Edit S T) (hv : v.Trees I J)
    (hlast : v.lastEdit = none) : (restore g edit).Yields v
      (fun _ v' => v'.Trees I J ∧ Restored edit v v') (fun e v' => E e ∧ Restored edit v v') := by
  cases edit with
  | deleted index length =>
    refine ⟨hv, rfl, rfl, rfl, hlast, ?_, fun _ => rfl⟩
    -- Deletions are the first phase.
    intro hphase
    rw [← hphase]
    exact Nat.zero_le _
  | transition i prior =>
    unfold restore
    rw [Act.yields_bind, Act.yields_modify, Act.yields_bind]
    have hset : (v.setTransition i prior).Trees I J := hv.setTransition i prior
    have hrestored {v' : Sequence S T ι τ} (h : Quiet (v.setTransition i prior) v') :
        Restored (.transition i prior) v v' :=
      .of_quiet h (shape_setTransition i prior v) rfl rfl rfl hlast nofun
    refine (onTree_yields (R := fun _ => True) (fun tree htree =>
      (hg.transition.canRetry prior tree htree).mono (fun _ _ h => ⟨trivial, h⟩) fun _ _ h => h)
      trivial hset).mono ?_ (fun e _ h => ⟨h.1, hrestored h.2⟩)
    rintro retry v₁ ⟨-, htrees, hquiet⟩
    have h := hrestored hquiet
    rw [Act.yields_ite]
    exact ⟨fun _ => ⟨htrees, { h with }⟩, fun _ => ⟨htrees, { h with }⟩⟩
  | initialState prior =>
    unfold restore
    rw [Act.yields_bind, Act.yields_modify, Act.yields_bind]
    have hset : ({ v with initialState := prior } : Sequence S T ι τ).Trees I J := hv
    have hrestored {v' : Sequence S T ι τ} (h : Quiet { v with initialState := prior } v') :
        Restored (.initialState prior) v v' := .of_quiet h rfl rfl rfl rfl hlast nofun
    refine (onInitial_yields (hg.initial.canRetry prior) hset).mono ?_
      (fun e _ h => ⟨h.1, hrestored h.2⟩)
    rintro retry v₁ ⟨htrees, hquiet⟩
    have h := hrestored hquiet
    rw [Act.yields_ite]
    refine ⟨fun _ => ⟨htrees, { h with }⟩, fun _ => ⟨htrees, ?_⟩⟩
    refine { h with rank_le := fun hphase => ?_, deleted := nofun }
    rw [← hphase]
    show Phase.shrinkInitialState.rank ≤ Phase.done.rank
    decide

structure Complicated (v : Sequence S T ι τ) (moved : Bool) (v' : Sequence S T ι τ) : Prop where
  none : v.lastEdit = none → moved = false ∧ v' = v
  some : ∀ edit, v.lastEdit = some edit → moved = true ∧ Restored edit v v'

theorem Complicated.minSize {moved : Bool} (h : Complicated v moved v') : v'.minSize = v.minSize := by
  cases hlast : v.lastEdit with
  | none => rw [(h.none hlast).2]
  | some edit => exact (h.some edit hlast).2.minSize

theorem complicate_yields [BEq S] [BEq T] (hg : g.Tame I J E) (hv : v.Trees I J) :
    (complicate g).Yields v (fun moved v' => v'.Trees I J ∧ Complicated v moved v')
      (fun e v' => E e ∧ ∃ edit, v.lastEdit = some edit ∧ Restored edit v v') := by
  unfold complicate
  rw [Act.yields_bind, Act.yields_get]
  split
  · exact ⟨hv, fun _ => ⟨rfl, rfl⟩, fun edit hedit => by simp_all⟩
  · rename_i edit hedit
    have hforgot : ({ v with lastEdit := none } : Sequence S T ι τ).Trees I J := hv
    rw [Act.yields_bind, Act.yields_set, Act.yields_bind]
    refine (restore_yields hg edit hforgot rfl).mono (fun _ v' h => ?_) (fun e v' h => ?_)
    · rw [Act.yields_bind, Act.yields_log, Act.yields_pure]
      refine ⟨h.1, ?_, fun edit' hedit' => ⟨rfl, ?_⟩⟩
      · intro hnone
        rw [hedit] at hnone
        cases hnone
      · rw [hedit] at hedit'
        cases hedit'
        exact { h.2 with }
    · exact ⟨h.1, edit, hedit, { h.2 with }⟩

def cut (length : Int) (v : Sequence S T ι τ) : Sequence S T ι τ :=
  if v.length ≤ max length v.minSize then v
  else { v with length := max length v.minSize, lastEdit := none }

theorem truncate_yields (length : Int) {R : Bool → Sequence S T ι τ → Prop}
    {F : Fault → Sequence S T ι τ → Prop} : (truncate length).Yields v R F ↔
      R (decide (max length v.minSize < v.length)) (cut length v) := by
  unfold truncate cut
  simp only [Act.yields_bind, Act.yields_get, Act.yields_ite, Act.yields_pure, Act.yields_log,
    Act.yields_set]
  by_cases h : v.length ≤ max length v.minSize
  · simp [h, Int.not_lt.2 h]
  · simp [h, Int.not_le.1 h]

theorem minSize_cut (length : Int) (v : Sequence S T ι τ) : (v.cut length).minSize = v.minSize := by
  unfold cut
  split <;> rfl

theorem Trees.cut (hv : v.Trees I J) (length : Int) : (v.cut length).Trees I J := by
  unfold Sequence.cut
  split <;> exact hv

end Sequence
end StateCheck
