import StateCheck.Proofs.Tree.Elements
import StateCheck.Proofs.Tree.Fields
import StateCheck.Proofs.Tree.Pick

/-! How a tree made of trees simplifies: it tries its parts in order. Those that fail show what they showed, and
one that moves is the last to be tried. -/

namespace StateCheck

/-- A part of the kind `I` moves as `M` says, or fails and is left of the kind `G` as well. -/
def ValueTree.Tries {σ α : Type} (t : ValueTree σ α) (I : σ → Prop) (M : σ → σ → Prop) (G : σ → Prop) : Prop :=
  ∀ s, I s → t.simplify.Yields s
    (fun moved s' => if moved then M s s' else I s' ∧ t.current s' = t.current s ∧ G s') fun _ _ => True

namespace Row
variable {τ : Type} {I : Nat → τ → Prop} {trees : List τ} {i : Nat} {s : τ}

def Each (I : Nat → τ → Prop) (trees : List τ) : Prop := ∀ i s, trees[i]? = some s → I i s

theorem Each.set (h : Each I trees) (hs : I i s) : Each I (trees.set i s) := by
  intro j u hu
  by_cases hij : i = j
  · subst hij
    obtain ⟨hi, -⟩ := List.getElem?_eq_some_iff.1 hu
    rw [List.length_set] at hi
    rw [List.getElem?_set_self hi] at hu
    cases hu
    exact hs
  · rw [List.getElem?_set_ne hij] at hu
    exact h j u hu

end Row

namespace Fields
variable {τ α : Type} {t : ValueTree τ α} {I : Nat → τ → Prop} {M : Nat → τ → τ → Prop} {G : τ → Prop}
  {f f' f'' : Fields τ} {s s' : τ}

structure Passed (t : ValueTree τ α) (I : Nat → τ → Prop) (G : τ → Prop) (f f' : Fields τ) : Prop where
  each : Row.Each I f'.trees
  shown : f'.trees.map t.current = f.trees.map t.current
  moved : f'.moved = f.moved
  le : f.cursor ≤ f'.cursor
  before : ∀ i, i < f.cursor → f'.trees[i]? = f.trees[i]?
  failed : ∀ i s, f.cursor ≤ i → i < f'.cursor → f'.trees[i]? = some s → G s

theorem Passed.refl (hf : Row.Each I f.trees) : Passed t I G f f :=
  ⟨hf, rfl, rfl, Nat.le_refl _, fun _ _ => rfl, fun _ _ hle hlt => absurd hlt (Nat.not_lt.2 hle)⟩

theorem Passed.current (h : Passed t I G f f') : (tree t).current f' = (tree t).current f := by
  rw [current_tree, current_tree, h.shown]

theorem Passed.length (h : Passed t I G f f') : f'.trees.length = f.trees.length := by
  simpa using congrArg List.length h.shown

theorem Passed.fail (h : Passed t I G f f') (hs : f'.trees[f'.cursor]? = some s) (hs' : I f'.cursor s')
    (hsame : t.current s' = t.current s) (hG : G s') :
    Passed t I G f { f' with trees := f'.trees.set f'.cursor s', cursor := f'.cursor + 1 } where
  each := h.each.set hs'
  shown := (Row.shown_set hs hsame).trans h.shown
  moved := h.moved
  le := Nat.le_succ_of_le h.le
  before i hi := (List.getElem?_set_ne (Nat.ne_of_gt (Nat.lt_of_lt_of_le hi h.le))).trans (h.before i hi)
  failed i u hle hlt hu := by
    dsimp only at hu
    rcases Nat.lt_or_eq_of_le (Nat.le_of_lt_succ hlt) with hbefore | rfl
    · rw [List.getElem?_set_ne (Nat.ne_of_gt hbefore)] at hu
      exact h.failed i u hle hbefore hu
    · rw [List.getElem?_set_self (List.getElem?_eq_some_iff.1 hs).1] at hu
      cases hu
      exact hG

theorem Passed.beyond (h : Passed t I G f f') (hs : f'.trees[f'.cursor]? = none) :
    Passed t I G f { f' with cursor := f'.cursor + 1 } where
  each := h.each
  shown := h.shown
  moved := h.moved
  le := Nat.le_succ_of_le h.le
  before := h.before
  failed i u hle hlt hu := by
    rcases Nat.lt_or_eq_of_le (Nat.le_of_lt_succ hlt) with hbefore | rfl
    · exact h.failed i u hle hbefore hu
    · cases hs.symm.trans hu

def Simplified (t : ValueTree τ α) (I : Nat → τ → Prop) (M : Nat → τ → τ → Prop) (G : τ → Prop) (f : Fields τ)
    (moved : Bool) (f'' : Fields τ) : Prop :=
  ∃ f', Passed t I G f f' ∧
    if moved then ∃ s s', f'.trees[f'.cursor]? = some s ∧ M f'.cursor s s' ∧
      f'' = { f' with trees := f'.trees.set f'.cursor s', moved := some f'.cursor }
    else f'.trees.length ≤ f'.cursor ∧ f'' = f'

theorem simplifyFrom_tries (ht : ∀ i, t.Tries (I i) (M i) G) (left : Nat) (hf : Row.Each I f.trees)
    (hleft : f.trees.length ≤ f.cursor + left) :
    (simplifyFrom t left).Yields f (Simplified t I M G f) fun _ _ => True := by
  refine simplifyFrom_loop (K := fun left f' => Passed t I G f f' ∧ f'.trees.length ≤ f'.cursor + left)
    (fun f' h => ⟨f', h.1, h.2, rfl⟩) (fun left f' h hs => ⟨h.1.beyond hs, ?_⟩) (fun left f' s h hs => ?_)
    ⟨.refl hf, hleft⟩
  · have hmore := h.2
    dsimp only
    omega
  · obtain ⟨hpassed, hmore⟩ := h
    refine (ht f'.cursor s (hpassed.each _ s hs)).mono (fun moved s' h => ?_) fun _ _ h => h
    cases moved with
    | true => exact ⟨f', hpassed, s, s', hs, h, rfl⟩
    | false =>
      refine ⟨hpassed.fail hs h.1 h.2.1 h.2.2, ?_⟩
      dsimp only
      rw [List.length_set]
      omega

theorem simplify_tries (ht : ∀ i, t.Tries (I i) (M i) G) (hf : Row.Each I f.trees) :
    (tree t).simplify.Yields f (Simplified t I M G f) fun _ _ => True :=
  simplifyFrom_tries ht (f.trees.length - f.cursor) hf (by omega)

end Fields

namespace Elements
variable {τ α : Type} {t : ValueTree τ α} {I : τ → Prop} {M : τ → τ → Prop} {G : τ → Prop}
  {e e' e'' : Elements τ} {slot : Slot τ} {s' : τ}

structure Passed (t : ValueTree τ α) (I : τ → Prop) (G : τ → Prop) (e e' : Elements τ) : Prop where
  each : ∀ s ∈ e'.trees, I s
  shown : e'.trees.map t.current = e.trees.map t.current
  flags : e'.flags = e.flags
  minSize : e'.minSize = e.minSize
  deleting : e'.deleting = e.deleting
  undo : e'.undo = e.undo
  le : e.cursor ≤ e'.cursor
  before : ∀ i, i < e.cursor → e'.slots[i]? = e.slots[i]?
  failed : ∀ i slot, e.cursor ≤ i → i < e'.cursor → e'.slots[i]? = some slot → slot.kept = true → G slot.tree

theorem Passed.refl (he : ∀ s ∈ e.trees, I s) : Passed t I G e e :=
  ⟨he, rfl, rfl, rfl, rfl, rfl, Nat.le_refl _, fun _ _ => rfl, fun _ _ hle hlt => absurd hlt (Nat.not_lt.2 hle)⟩

theorem Passed.current (h : Passed t I G e e') : (tree t).current e' = (tree t).current e := by
  rw [current_tree, current_tree, h.shown, h.flags]

theorem Passed.length (h : Passed t I G e e') : e'.slots.length = e.slots.length := by
  simpa [trees] using congrArg List.length h.shown

theorem Passed.skip (h : Passed t I G e e') (hskip : ∀ slot, e'.slots[e'.cursor]? = some slot → slot.kept ≠ true) :
    Passed t I G e { e' with cursor := e'.cursor + 1 } where
  each := h.each
  shown := h.shown
  flags := h.flags
  minSize := h.minSize
  deleting := h.deleting
  undo := h.undo
  le := Nat.le_succ_of_le h.le
  before := h.before
  failed i slot hle hlt hslot hkept := by
    rcases Nat.lt_or_eq_of_le (Nat.le_of_lt_succ hlt) with hbefore | rfl
    · exact h.failed i slot hle hbefore hslot hkept
    · exact absurd hkept (hskip slot hslot)

theorem each_setTree (he : ∀ s ∈ e.trees, I s) (hs' : I s') (i : Nat) : ∀ s ∈ (e.setTree i slot s').trees, I s := by
  intro s hs
  rw [trees_setTree] at hs
  rcases List.mem_or_eq_of_mem_set hs with hs | rfl
  · exact he s hs
  · exact hs'

theorem Passed.fail (h : Passed t I G e e') (hslot : e'.slots[e'.cursor]? = some slot) (hs' : I s')
    (hsame : t.current s' = t.current slot.tree) (hG : G s') :
    Passed t I G e { e'.setTree e'.cursor slot s' with cursor := e'.cursor + 1 } where
  each := each_setTree h.each hs' e'.cursor
  shown := by
    have hset : (e'.setTree e'.cursor slot s').trees.map t.current = e'.trees.map t.current := by
      rw [trees_setTree, Row.shown_set (tree_of_slot hslot) hsame]
    exact hset.trans h.shown
  flags := (flags_setTree hslot s').trans h.flags
  minSize := h.minSize
  deleting := h.deleting
  undo := h.undo
  le := Nat.le_succ_of_le h.le
  before i hi := (List.getElem?_set_ne (Nat.ne_of_gt (Nat.lt_of_lt_of_le hi h.le))).trans (h.before i hi)
  failed i slot' hle hlt hslot' hkept := by
    have hset : (e'.slots.set e'.cursor { slot with tree := s' })[i]? = some slot' := hslot'
    rcases Nat.lt_or_eq_of_le (Nat.le_of_lt_succ hlt) with hbefore | rfl
    · rw [List.getElem?_set_ne (Nat.ne_of_gt hbefore)] at hset
      exact h.failed i slot' hle hbefore hset hkept
    · rw [List.getElem?_set_self (List.getElem?_eq_some_iff.1 hslot).1] at hset
      cases hset
      exact hG

def Simplified (t : ValueTree τ α) (I : τ → Prop) (M : τ → τ → Prop) (G : τ → Prop) (e : Elements τ)
    (moved : Bool) (e'' : Elements τ) : Prop :=
  ∃ e', Passed t I G e e' ∧
    if moved then ∃ slot s', e'.slots[e'.cursor]? = some slot ∧ slot.kept = true ∧ M slot.tree s' ∧
      e'' = { e'.setTree e'.cursor slot s' with undo := some (.retry e'.cursor) }
    else e'.slots.length ≤ e'.cursor ∧ e'' = e'

theorem simplifyFrom_tries (ht : t.Tries I M G) (left : Nat) (he : ∀ s ∈ e.trees, I s)
    (hleft : e.slots.length ≤ e.cursor + left) :
    (simplifyFrom t left).Yields e (Simplified t I M G e) fun _ _ => True := by
  refine simplifyFrom_loop (K := fun left e' => Passed t I G e e' ∧ e'.slots.length ≤ e'.cursor + left)
    (fun e' h => ⟨e', h.1, h.2, rfl⟩) (fun left e' h hskip => ⟨h.1.skip hskip, ?_⟩)
    (fun left e' slot h hslot hkept => ?_) ⟨.refl he, hleft⟩
  · have hmore := h.2
    dsimp only
    omega
  · obtain ⟨hpassed, hmore⟩ := h
    have hs := hpassed.each _ (List.mem_of_getElem? (tree_of_slot hslot))
    refine (ht slot.tree hs).mono (fun moved s' h => ?_) fun _ _ h => h
    cases moved with
    | true => exact ⟨e', hpassed, slot, s', hslot, hkept, h, rfl⟩
    | false =>
      have hlength : (e'.setTree e'.cursor slot s').slots.length = e'.slots.length := List.length_set ..
      refine ⟨hpassed.fail hslot h.1 h.2.1 h.2.2, ?_⟩
      dsimp only
      omega

theorem simplify_tries (ht : t.Tries I M G) (he : ∀ s ∈ e.trees, I s) (hcan : ¬e.canDelete = true) :
    (tree t).simplify.Yields e (Simplified t I M G e.endDeleting) fun _ _ => True := by
  have htrees : e.endDeleting.trees = e.trees := by
    unfold endDeleting
    split <;> rfl
  show (simplify t).Yields e _ _
  rw [yields_simplify hcan]
  exact simplifyFrom_tries ht _ (htrees ▸ he) (by omega)

end Elements
end StateCheck
