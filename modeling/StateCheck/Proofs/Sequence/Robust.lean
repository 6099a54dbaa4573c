import StateCheck.Proofs.Generation
import StateCheck.Proofs.Sequence.Moves
import StateCheck.Proofs.Tree.Robust

/-! A sequence backs off in one step: complicating puts back all that the last reduction replaced. -/

namespace StateCheck

theorem ValueTree.robust_tame {σ α : Type} [BEq α] (t : ValueTree σ α) (E : Fault → Prop) :
    t.Tame (t.Robust E fun _ => True) E := by
  have hbacks := t.robust_backs E fun _ => True
  have hask {β : Type} {f : α → β} {s : σ} (h : t.Shows E (fun _ => t.Robust E (fun _ => True) s) s) :
      (Act.ask t.current >>= fun a => pure (f a) : Act σ β).Yields s
        (fun _ s' => t.Robust E (fun _ => True) s') fun e _ => E e := by
    rw [Act.yields_bind, Act.yields_ask]
    exact ⟨h.1, h.2⟩
  refine ⟨?_, ?_⟩
  · intro untried s hs
    cases untried with
    | true => exact hask ((hbacks.shows hs).mono fun _ _ _ => hs)
    | false =>
      rw [propose_false, Act.yields_bind]
      refine (hbacks.simplify hs).mono (fun moved s' h => ?_) (fun _ _ h => h)
      cases moved with
      | true => exact hask (Lands.shows h fun _ => trivial)
      | false => exact h.1
  · intro a s hs
    unfold canRetry
    rw [Act.yields_bind]
    refine (hbacks.complicate hs).mono (fun moved s' h => ?_) (fun _ _ h => h)
    cases moved with
    | true => exact hask (Lands.shows h fun _ => trivial)
    | false => exact h.1

namespace Sequence
variable {S T ι τ : Type} {g : Shrinker S T ι τ} {I : ι → Prop} {J : τ → Prop} {E : Fault → Prop}
  {P : Candidate S T → Prop} {v v' : Sequence S T ι τ}

structure Kept (I : ι → Prop) (J : τ → Prop) (P : Candidate S T → Prop) (v : Sequence S T ι τ) : Prop where
  trees : v.Trees I J
  covers : Covers (fun f => P f.current) v

theorem shows [BEq S] [BEq T] (h : P v.current) : (tree g).Shows E P v := by
  refine ⟨?_, nofun⟩
  rintro c ⟨⟩
  exact h

theorem kept_backs [BEq S] [BEq T] (hg : g.Tame I J E) (P : Candidate S T → Prop) :
    (tree g).Backs E P (Kept I J P) where
  shows := fun hv => shows hv.covers.1
  complicate := fun {v} hv => by
    show (complicate g).Yields v _ _
    refine (complicate_yields hg hv.trees).mono (fun moved v' h => ?_) fun _ _ h => h.1
    obtain ⟨htrees, hcomplicated⟩ := h
    have hkept : Kept I J P v' := ⟨htrees, hv.covers.complicated hcomplicated⟩
    cases moved with
    | true => exact .of_shows (shows hkept.covers.1) hkept
    | false =>
      cases hlast : v.lastEdit with
      | none =>
        obtain ⟨-, rfl⟩ := hcomplicated.none hlast
        exact ⟨hkept, rfl⟩
      | some edit => exact absurd (hcomplicated.some edit hlast).1 nofun
  simplify := fun {v} hv => by
    show (shrink g).Yields v _ _
    refine Act.Yields.mono (shrink_shrinks hg hv.trees) (fun moved v' h => ?_) fun _ _ h => h.1
    obtain ⟨htrees, hshrunk⟩ := h
    cases moved with
    | false =>
      obtain ⟨hlast, hshape, -⟩ := hshrunk.ended rfl
      refine ⟨⟨htrees, hshape ▸ hv.covers.1, fun edit hedit => ?_⟩, ?_⟩
      · rw [hlast] at hedit
        cases hedit
      · show Except.ok v'.current = .ok v.current
        rw [← current_shape, hshape, current_shape]
    | true =>
      obtain ⟨edit, hlast, -, hreduces⟩ := hshrunk.edited rfl
      have hundo : ∀ edit', v'.lastEdit = some edit' → P (edit'.undo v'.shape).current := by
        intro edit' hedit'
        rw [hlast] at hedit'
        cases hedit'
        rw [hreduces.undo]
        exact hv.covers.1
      refine .fold ⟨?_, nofun⟩
      rintro c ⟨⟩
      refine ⟨fun hP => ⟨htrees, hP, hundo⟩, fun _ => ?_⟩
      show (complicate g).Yields v' _ _
      refine (complicate_yields hg htrees).mono (fun moved v'' h => ?_) fun _ _ h => h.1
      obtain ⟨hmoved, hrestored⟩ := h.2.some edit hlast
      have hkept : Kept I J P v'' := by
        refine ⟨h.1, hrestored.shape ▸ hundo edit hlast, fun edit' hedit' => ?_⟩
        rw [hrestored.lastEdit] at hedit'
        cases hedit'
      refine ⟨hmoved, ?_, .of_shows (shows hkept.covers.1) hkept⟩
      show (if v''.lastEdit.isSome then 1 else 0) < if v'.lastEdit.isSome then 1 else 0
      rw [hlast, hrestored.lastEdit]
      exact Nat.zero_lt_one

theorem fresh [BEq S] [BEq T] (hg : g.Tame I J E) (hv : v.Trees I J) (hlast : v.lastEdit = none) :
    (tree g).Fresh E v := by
  refine ⟨v.current, rfl, fun P hP => (kept_backs hg P).robust ⟨hv, hP, fun edit hedit => ?_⟩⟩
  rw [hlast] at hedit
  cases hedit

end Sequence

namespace Model
variable {S T : Type} {model : Model S T} {E : Fault → Prop}

theorem robust_tame [BEq S] [BEq T] (hrules : model.toRules.Total) (E : Fault → Prop) :
    model.shrinker.Tame (model.initial.tree.Robust E fun _ => True)
      (model.transitionTree.Robust E fun _ => True) E where
  rules := ⟨fun s t e he => (hrules.apply s t e he).elim, fun s t e he => (hrules.allows s t e he).elim⟩
  initial := ValueTree.robust_tame _ E
  transition := ValueTree.robust_tame _ E

theorem robust_fresh (hinitial : model.initial.Draws (model.initial.tree.Fresh E))
    (hnext : ∀ s, (model.next s).Draws ((model.next s).tree.Fresh E)) :
    model.Fresh (model.initial.tree.Robust E fun _ => True) (model.transitionTree.Robust E fun _ => True) where
  initial source := (hinitial.draw source).mono (fun _ _ h => h.robust_true) fun _ _ h => h
  next s _ _ source := ((hnext s).draw source).mono (fun _ _ h => h.robust_true.tagged) fun _ _ h => h

theorem draws_sequences [BEq S] [BEq T] (hrules : model.toRules.Total)
    (hinitial : model.initial.Draws (model.initial.tree.Fresh E))
    (hnext : ∀ s, (model.next s).Draws ((model.next s).tree.Fresh E)) (settings : Settings) :
    (Strategy.sequences model settings).Draws ((Strategy.sequences model settings).tree.Fresh E) := by
  refine ⟨fun source => (generate_yields (robust_fresh hinitial hnext) source).mono (fun v _ hv => ?_) fun _ _ h => h⟩
  have hlast : v.lastEdit = none := by
    cases hv
    rfl
  exact Sequence.fresh (robust_tame hrules E) hv.trees hlast

end Model
end StateCheck
