import StateCheck.Proofs.Composed

/-! A tree that has nothing simpler to show stays so, whatever it is made of. -/

namespace StateCheck

namespace ValueTree
variable {σ α β : Type} {t : ValueTree σ α}

def Exhausted (t : ValueTree σ α) (s : σ) : Prop := (t.simplify s).answer = .ok false

theorem exhausted_iff {s : σ} :
    t.Exhausted s ↔ t.simplify.Yields s (fun moved _ => moved = false) fun _ _ => False := by
  unfold Exhausted Act.Yields
  split
  · rename_i moved hmoved
    rw [hmoved]
    exact ⟨Except.ok.inj, congrArg Except.ok⟩
  · rename_i e he
    rw [he]
    exact ⟨(fun h => by cases h), False.elim⟩

structure Rests (t : ValueTree σ α) : Prop where
  stays : ∀ s, t.simplify.Yields s (fun moved s' => moved = false → t.Exhausted s') fun _ _ => True

theorem fixed_rests (a : α) : (fixed a).Rests := ⟨fun _ _ => rfl⟩

theorem Rests.map (ht : t.Rests) (f : α → Except Fault β) : (t.map f).Rests := ⟨ht.stays⟩

theorem Rests.tagged {κ : Type} {State : κ → Type} {trees : (k : κ) → ValueTree (State k) α}
    (h : ∀ k, (trees k).Rests) : (ValueTree.tagged trees).Rests :=
  ⟨fun p => (h p.1).stays p.2⟩

theorem Exhausted.filter {s : σ} (hs : t.Exhausted s) (accepts : α → Except Fault Bool) (whence : String) :
    (t.filter accepts whence).Exhausted s := by
  rw [exhausted_iff] at hs ⊢
  have hstays : t.simplify.Yields s (fun moved _ => moved = false ∧ True) fun _ _ => False :=
    hs.mono (fun _ _ h => ⟨h, trivial⟩) fun _ _ h => h
  exact (settled_of_false hstays).mono (fun _ _ h => h.1) fun _ _ h => h

theorem Rests.filter (ht : t.Rests) (accepts : α → Except Fault Bool) (whence : String) :
    (t.filter accepts whence).Rests := by
  refine ⟨fun s => ?_⟩
  show (t.settled accepts whence t.simplify).Yields s _ _
  unfold settled
  rw [Act.yields_bind]
  refine (ht.stays s).mono (fun moved s' hmoved => ?_) fun _ _ h => h
  cases moved with
  | false => exact fun _ => (hmoved rfl).filter accepts whence
  | true =>
    rw [if_pos rfl]
    exact Act.yields_after fun _ _ => Act.yields_after fun _ _ h => by cases h

end ValueTree

theorem Search.tree_rests : Search.tree.Rests := by
  refine ⟨fun s hmoved => ?_⟩
  have hclosed : s.simplify.2.hi ≤ s.simplify.2.lo := by
    revert hmoved
    show s.simplify.1 = false → _
    unfold Search.simplify
    split
    · exact fun _ => ‹_›
    · rcases Search.reposition_cases { s with hi := s.distance } with ⟨hmiddle, h⟩ | ⟨-, h⟩
      · rw [h]
        dsimp only at hmiddle ⊢
        omega
      · rw [h]
        exact fun h => by cases h
  show Except.ok s.simplify.2.simplify.1 = .ok false
  rw [Search.simplify, if_pos hclosed]

namespace Fields
variable {τ α : Type} {t : ValueTree τ α} {f : Fields τ}

theorem exhausted_of_end (h : f.trees.length ≤ f.cursor) : (tree t).Exhausted f := by
  show (simplifyFrom t (f.trees.length - f.cursor) f).answer = .ok false
  rw [Nat.sub_eq_zero_of_le h]
  rfl

theorem simplifyFrom_ends (left : Nat) (hleft : f.trees.length ≤ f.cursor + left) : (simplifyFrom t left).Yields f
    (fun moved f' => moved = false → f'.trees.length ≤ f'.cursor) fun _ _ => True := by
  refine simplifyFrom_loop (K := fun left f => f.trees.length ≤ f.cursor + left) (fun _ h _ => h)
    (fun left f hmore _ => ?_) (fun left f s hmore _ => ?_) hleft
  · dsimp only
    omega
  · refine (Act.yields_trivial _ s).mono (fun moved s' _ => ?_) fun _ _ h => h
    cases moved with
    | true => exact fun h => by cases h
    | false =>
      dsimp only
      rw [if_neg Bool.false_ne_true, List.length_set]
      omega

theorem tree_rests : (tree t).Rests := by
  refine ⟨fun f => ?_⟩
  have hends : (simplifyFrom t (f.trees.length - f.cursor)).Yields f
      (fun moved f' => moved = false → (tree t).Exhausted f') fun _ _ => True :=
    (simplifyFrom_ends _ (by omega)).mono (fun _ _ h hmoved => exhausted_of_end (h hmoved)) fun _ _ h => h
  exact hends

end Fields

namespace Elements
variable {τ α : Type} {t : ValueTree τ α} {e : Elements τ}

theorem exhausted_of_end (hdeleting : e.deleting = false) (h : e.slots.length ≤ e.cursor) : (tree t).Exhausted e := by
  have hcan : ¬e.canDelete = true := by
    rw [canDelete, hdeleting]
    exact Bool.false_ne_true
  have hended : e.endDeleting = e := by rw [endDeleting, hdeleting, if_neg Bool.false_ne_true]
  rw [ValueTree.exhausted_iff]
  show (simplify t).Yields e _ _
  rw [yields_simplify hcan, hended, Nat.sub_eq_zero_of_le h]
  exact rfl

theorem simplifyFrom_ends (hdeleting : e.deleting = false) (left : Nat) (hleft : e.slots.length ≤ e.cursor + left) :
    (simplifyFrom t left).Yields e
      (fun moved e' => moved = false → e'.deleting = false ∧ e'.slots.length ≤ e'.cursor) fun _ _ => True := by
  refine simplifyFrom_loop (K := fun left e => e.deleting = false ∧ e.slots.length ≤ e.cursor + left)
    (fun _ h _ => h) (fun left e h _ => ⟨h.1, ?_⟩) (fun left e slot h _ _ => ?_) ⟨hdeleting, hleft⟩
  · have hmore := h.2
    dsimp only
    omega
  · refine (Act.yields_trivial _ slot.tree).mono (fun moved s' _ => ?_) fun _ _ h => h
    cases moved with
    | true => exact fun h => by cases h
    | false =>
      have hlength : (e.setTree e.cursor slot s').slots.length = e.slots.length := List.length_set ..
      obtain ⟨hdeleting, hmore⟩ := h
      refine ⟨hdeleting, ?_⟩
      dsimp only
      omega

theorem tree_rests : (tree t).Rests := by
  refine ⟨fun e => ?_⟩
  show (simplify t).Yields e _ _
  by_cases hcan : e.canDelete = true
  · rw [yields_delete hcan]
    exact fun h => by cases h
  · have hdeleting : e.endDeleting.deleting = false := by
      unfold endDeleting
      cases hdeleting : e.deleting with
      | true => rfl
      | false => exact hdeleting
    rw [yields_simplify hcan]
    exact (simplifyFrom_ends hdeleting _ (by omega)).mono
      (fun _ _ h hmoved => exhausted_of_end (h hmoved).1 (h hmoved).2) fun _ _ h => h

end Elements

theorem Pick.tree_rests {τ α : Type} {t : ValueTree τ α} (ht : t.Rests) (redraw : Redraw τ) :
    (Pick.tree t redraw).Rests := by
  refine ⟨fun p => simplify_cases (fun _ _ => trivial) fun s _ => ?_⟩
  refine (ht.stays s).mono (fun moved s' h => ?_) fun _ _ h => h
  cases moved with
  | true => exact fun h => by cases h
  | false =>
    rw [if_neg Bool.false_ne_true, yields_stepDown]
    split
    · rename_i hfloor
      intro _
      have hrest := ValueTree.exhausted_iff.1 (h rfl)
      rw [ValueTree.exhausted_iff, yields_simplify rfl]
      refine hrest.mono (fun moved s'' hmoved => ?_) fun _ _ h => h
      rw [hmoved, if_neg Bool.false_ne_true, yields_stepDown, if_pos hfloor]
    · exact fun h => by cases h

theorem Sequence.tree_rests {S T ι τ : Type} [BEq S] [BEq T] (g : Shrinker S T ι τ) : (tree g).Rests := by
  refine ⟨fun v => ?_⟩
  refine (shrink_shrinks g.tame_of_anything v.trees_of_anything).mono (fun moved v' h hmoved => ?_) fun _ _ _ => trivial
  have hphase := (h.2.ended hmoved).2.2
  rw [ValueTree.exhausted_iff]
  show (shrink g).Yields v' _ _
  unfold shrink
  rw [Act.yields_bind, Act.yields_modify, Act.yields_bind, Act.yields_get]
  dsimp only
  rw [hphase]
  exact rfl

theorem Strategy.Composed.rests {α : Type} {s : Strategy α} (h : s.Composed) : s.tree.Rests := by
  induction h with
  | just a shown => exact ValueTree.fixed_rests a
  | integers lo hi => exact Search.tree_rests
  | map hs f name ih => exact ih.map f
  | filter hs accepts whence ih => exact ih.filter accepts whence
  | oneOf hoptions ih => exact Pick.tree_rests (.tagged fun i => ih _ (List.get_mem _ i)) _
  | tuples hparts ih => exact Fields.tree_rests
  | lists helement minSize maxSize ih => exact Elements.tree_rests
  | sequences hinitial hnext settings ih ih' => exact Sequence.tree_rests _
  | titled hs shown ih => exact ⟨ih.stays⟩

end StateCheck
