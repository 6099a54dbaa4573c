import StateCheck.Proofs.Sequence.Moves

/-! The stages of a tree while a sequence shrinks. At first it shows the value held. A move proposes another one,
which is held from then on or backed off from; in the end the tree is given up. -/

namespace StateCheck

structure Stages (σ α : Type) where
  /-- The tree shows the value held. -/
  held : α → σ → Prop
  /-- It shows a value to be tried in place of the one held. -/
  tried : α → σ → Prop
  /-- It backed off from a value that was tried, and shows the one held again. -/
  back : α → σ → Prop
  spent : α → σ → Prop

structure ValueTree.Staged {σ α : Type} [BEq α] (t : ValueTree σ α) (A : Stages σ α) : Prop where
  simplify : ∀ a s, A.held a s →
    t.simplify.Yields s (fun moved s' => if moved then A.tried a s' else A.spent a s') fun _ _ => True
  keep : ∀ a b s, A.tried a s → t.current s = .ok b → A.held b s
  complicate : ∀ a s, A.tried a s → t.complicate.Yields s
    (fun moved s' =>
      if moved then ∀ b, t.current s' = .ok b → if b == a then A.back a s' else A.tried a s' else A.spent a s')
    fun _ _ => True
  giveUp : ∀ a s, A.back a s → A.spent a s

def Stages.waiting {σ α : Type} (A : Stages σ α) (untried : Bool) (a : α) (s : σ) : Prop :=
  if untried then A.tried a s else A.held a s

theorem Stages.waiting_of_held {σ α : Type} {A : Stages σ α} {untried : Bool} {a : α} {s : σ}
    (huntried : untried = false) (hs : A.held a s) : A.waiting untried a s := by
  rw [waiting, huntried]
  exact hs

namespace ValueTree
variable {σ α : Type} [BEq α] {t : ValueTree σ α} {A : Stages σ α} {a : α} {s : σ}

theorem Staged.propose (ht : t.Staged A) {untried : Bool} (hs : A.waiting untried a s) :
    (t.propose untried).Yields s
      (fun proposed s' => proposed.elim (A.spent a s') fun b => A.tried a s' ∧ t.current s' = .ok b)
      fun _ _ => True := by
  have hask {s' : σ} (hs' : A.tried a s') : (Act.ask t.current >>= fun b => pure (some b) : Act σ (Option α)).Yields s'
      (fun proposed s'' => proposed.elim (A.spent a s'') fun b => A.tried a s'' ∧ t.current s'' = .ok b)
      fun _ _ => True := by
    rw [Act.yields_bind, Act.yields_ask]
    exact ⟨fun b hb => ⟨hs', hb⟩, fun _ _ => trivial⟩
  cases untried with
  | true => exact hask hs
  | false =>
    rw [propose_false, Act.yields_bind]
    refine (ht.simplify a s hs).mono (fun moved s' h => ?_) fun _ _ h => h
    cases moved with
    | true => exact hask h
    | false => exact h

theorem Staged.canRetry (ht : t.Staged A) (hs : A.tried a s) :
    (t.canRetry a).Yields s (fun retry s' => if retry then A.tried a s' else A.spent a s') fun _ _ => True := by
  unfold ValueTree.canRetry
  rw [Act.yields_bind]
  refine (ht.complicate a s hs).mono (fun moved s' h => ?_) fun _ _ h => h
  cases moved with
  | false => exact h
  | true =>
    rw [if_pos rfl, Act.yields_bind, Act.yields_ask]
    refine ⟨fun b hb => ?_, fun _ _ => trivial⟩
    have hstage := h b hb
    rw [Act.yields_pure]
    cases hbeq : b == a with
    | true =>
      rw [if_pos hbeq] at hstage
      rw [bne, hbeq]
      exact ht.giveUp a s' hstage
    | false =>
      rw [if_neg (Bool.eq_false_iff.1 hbeq)] at hstage
      rw [bne, hbeq]
      exact hstage

end ValueTree
end StateCheck
