import StateCheck.Proofs.Composed
import StateCheck.Proofs.Tree.Keeps

/-! A call that is refused may move bounds and cursors, spend its tries on several trees and forget what could be
undone. What the tree shows stays what it was. -/

namespace StateCheck

def ValueTree.Unmoved {σ α : Type} (t : ValueTree σ α) (move : Act σ Bool) (s : σ) : Prop :=
  move.Yields s (fun moved s' => moved = false → t.current s' = t.current s) fun _ _ => True

structure ValueTree.Candid {σ α : Type} (t : ValueTree σ α) : Prop where
  simplify : ∀ s, t.Unmoved t.simplify s
  complicate : ∀ s, t.Unmoved t.complicate s

namespace ValueTree
variable {σ α β : Type} {t : ValueTree σ α} {s : σ}

theorem Candid.perform (ht : t.Candid) (call : Call) (s : σ) : t.Unmoved (call.perform t) s := by
  cases call with
  | simplify => exact ht.simplify s
  | complicate => exact ht.complicate s

theorem Candid.keeps (ht : t.Candid) : t.Keeps fun _ => True where
  simplify s _ := (ht.simplify s).mono (fun _ _ h => ⟨trivial, h⟩) fun _ _ h => h
  complicate s _ := (ht.complicate s).mono (fun _ _ h => ⟨trivial, h⟩) fun _ _ h => h

theorem Keeps.candid {I : σ → Prop} (ht : t.Keeps I) (hI : ∀ s, I s) : t.Candid where
  simplify s := (ht.simplify s (hI s)).mono (fun _ _ h => h.2) fun _ _ h => h
  complicate s := (ht.complicate s (hI s)).mono (fun _ _ h => h.2) fun _ _ h => h

theorem Candid.map (ht : t.Candid) (f : α → Except Fault β) : (t.map f).Candid :=
  (ht.keeps.map f).candid fun _ => trivial

theorem Candid.tagged {κ : Type} {State : κ → Type} {trees : (k : κ) → ValueTree (State k) α}
    (ht : ∀ k, (trees k).Candid) : (ValueTree.tagged trees).Candid :=
  (Keeps.tagged fun k => (ht k).keeps).candid fun _ => trivial

theorem Unmoved.settled {move : Act σ Bool} (hmove : t.Unmoved move s) (accepts : α → Except Fault Bool)
    (whence : String) : t.Unmoved (t.settled accepts whence move) s := by
  unfold Unmoved ValueTree.settled
  rw [Act.yields_bind]
  refine hmove.mono (fun moved s' hsame => ?_) fun _ _ h => h
  cases moved with
  | false => exact hsame
  | true =>
    have hmoved (b : Unit) (s'' : σ) : (pure true : Act σ Bool).Yields s''
        (fun moved s' => moved = false → t.current s' = t.current s) fun _ _ => True := nofun
    rw [if_pos rfl, Act.yields_bind, Act.yields_get]
    exact Act.yields_after hmoved

theorem Candid.filter (ht : t.Candid) (accepts : α → Except Fault Bool) (whence : String) :
    (t.filter accepts whence).Candid where
  simplify s := (ht.simplify s).settled accepts whence
  complicate s := (ht.complicate s).settled accepts whence

end ValueTree

namespace Search

theorem value_of_reposition {s : Search} (h : s.reposition.1 = false) : s.reposition.2 = s := by
  rcases reposition_cases s with ⟨-, hstays⟩ | ⟨-, hmoves⟩
  · rw [hstays]
  · rw [hmoves] at h
    cases h

theorem tree_candid : tree.Candid where
  simplify s := by
    show s.simplify.1 = false → Except.ok s.simplify.2.value = .ok s.value
    unfold simplify
    split
    · exact fun _ => rfl
    · intro hmoved
      rw [value_of_reposition hmoved]
      rfl
  complicate s := by
    show s.complicate.1 = false → Except.ok s.complicate.2.value = .ok s.value
    unfold complicate
    split
    · exact fun _ => rfl
    · intro hmoved
      rw [value_of_reposition hmoved]
      rfl

end Search

theorem Fields.tree_candid {τ α : Type} {t : ValueTree τ α} (ht : t.Candid) : (tree t).Candid where
  simplify f :=
    have hkeeps := tree_keeps (fun _ => ht.keeps) f.trees.length
    (hkeeps.simplify f ⟨rfl, fun _ _ _ => trivial⟩).mono (fun _ _ h => h.2) fun _ _ h => h
  complicate f :=
    have hkeeps := tree_keeps (fun _ => ht.keeps) f.trees.length
    (hkeeps.complicate f ⟨rfl, fun _ _ _ => trivial⟩).mono (fun _ _ h => h.2) fun _ _ h => h

theorem Elements.tree_candid {τ α : Type} {t : ValueTree τ α} (ht : t.Candid) : (tree t).Candid where
  simplify e := by
    by_cases hcan : e.canDelete = true
    · show (simplify t).Yields e _ _
      rw [yields_delete hcan]
      exact nofun
    · have htries := simplify_tries ht.keeps.tries (fun _ _ => trivial) hcan
      refine htries.mono (fun moved e'' h hmoved => ?_) fun _ _ h => h
      obtain ⟨e', hpassed, hlast⟩ := h
      rw [hmoved, if_neg Bool.false_ne_true] at hlast
      rw [hlast.2, hpassed.current, current_endDeleting]
  complicate e := by
    refine complicate_cases (fun _ _ => rfl) (fun _ _ => nofun) (fun _ _ _ _ => rfl) fun i slot _ hslot => ?_
    refine (ht.complicate slot.tree).mono (fun moved s' hsame => ?_) fun _ _ h => h
    cases moved with
    | true => exact nofun
    | false => exact fun _ => current_setTree hslot (hsame rfl)

theorem Pick.tree_candid {τ α : Type} {t : ValueTree τ α} (ht : t.Candid) (redraw : Redraw τ) :
    (tree t redraw).Candid := by
  have hkeeps (total : Nat) : (tree t redraw).Keeps (InReach (fun _ => True) (fun _ => True) total) :=
    tree_keeps ht.keeps (fun _ _ _ _ _ => trivial) fun _ _ _ _ _ => trivial
  have hreach (p : Pick τ) : InReach (fun _ => True) (fun _ => True) (p.index + 1) p :=
    ⟨⟨fun _ _ => trivial, fun _ _ => trivial⟩, Nat.le_succ _, fun _ _ => trivial, fun _ _ => Nat.le_refl _⟩
  exact ⟨fun p => ((hkeeps _).simplify p (hreach p)).mono (fun _ _ h => h.2) fun _ _ h => h,
    fun p => ((hkeeps _).complicate p (hreach p)).mono (fun _ _ h => h.2) fun _ _ h => h⟩

theorem Sequence.tree_candid {S T ι τ : Type} [BEq S] [BEq T] (g : Shrinker S T ι τ) : (tree g).Candid where
  simplify v := by
    have hshrinks := shrink_shrinks g.tame_of_anything v.trees_of_anything
    refine hshrinks.mono (fun moved v' h hmoved => ?_) fun _ _ _ => trivial
    have hshape : v'.shape = v.shape := (h.2.ended hmoved).2.1
    exact congrArg (fun shape => Except.ok shape.current) hshape
  complicate v := by
    have hcomplicates := complicate_yields g.tame_of_anything v.trees_of_anything
    refine hcomplicates.mono (fun moved v' h hmoved => ?_) fun _ _ _ => trivial
    cases hlast : v.lastEdit with
    | none => rw [(h.2.none hlast).2]
    | some edit =>
      rw [(h.2.some edit hlast).1] at hmoved
      cases hmoved

theorem Strategy.Composed.candid {α : Type} {s : Strategy α} (h : s.Composed) : s.tree.Candid := by
  induction h with
  | just a shown => exact (ValueTree.fixed_keeps a).candid fun _ => trivial
  | integers lo hi => exact Search.tree_candid
  | map hs f name ih => exact ih.map f
  | filter hs accepts whence ih => exact ih.filter accepts whence
  | oneOf hoptions ih => exact Pick.tree_candid (.tagged fun i => ih _ (List.get_mem _ i)) _
  | tuples hparts ih => exact Fields.tree_candid (.tagged fun i => ih _ (List.get_mem _ i))
  | lists helement minSize maxSize ih => exact Elements.tree_candid ih
  | sequences hinitial hnext settings ih ih' => exact Sequence.tree_candid _
  | titled hs shown ih => exact ih

/-- In every state, drawn or reached by calls or not, a call that answers false leaves what the tree shows. -/
theorem Strategy.refused_unchanged {α : Type} {s : Strategy α} (hs : s.Composed) (call : ValueTree.Call)
    (tree : s.State) (hrefused : (call.perform s.tree tree).answer = .ok false) :
    s.tree.current (call.perform s.tree tree).state = s.tree.current tree :=
  (hs.candid.perform call tree).of_ok hrefused rfl

theorem refused_unchanged_at_the_end :
    let tree := Sequence.tree Model.busyPurse.shrinker
    let v : Model.busyPurse.Sequence := .start () 1 [⟨⟨1, .start 0 0⟩, false⟩] 1
    (tree.simplify v).answer = .ok false ∧ (tree.simplify v).state.cursor.phase = .done ∧
      v.cursor.phase = .deleteTransition ∧ tree.current (tree.simplify v).state = tree.current v := by
  have hcomposed : (Strategy.sequences Model.busyPurse Minimiser.purseSettings).Composed :=
    .sequences (.just 1 "1") (fun _ => Strategy.composed_booleans) _
  refine ⟨rfl, rfl, rfl, ?_⟩
  exact Strategy.refused_unchanged hcomposed .simplify (.start () 1 [⟨⟨1, .start 0 0⟩, false⟩] 1) rfl

end StateCheck
