import StateCheck.Proofs.Sequence.Moves

/-! Trees that never raise, as long as they are in states of a kind that their moves keep. -/

namespace StateCheck

structure ValueTree.Safe {σ α : Type} (t : ValueTree σ α) (I : σ → Prop) : Prop where
  current : ∀ s, I s → ∃ a, t.current s = .ok a
  simplify : ∀ s, I s → t.simplify.Yields s (fun _ s' => I s') fun _ _ => False
  complicate : ∀ s, I s → t.complicate.Yields s (fun _ s' => I s') fun _ _ => False

namespace ValueTree
variable {σ α : Type} {t : ValueTree σ α} {I : σ → Prop}

theorem Safe.tame [BEq α] {E : Fault → Prop} (ht : t.Safe I) : t.Tame I E := by
  have hask {β : Type} (f : α → β) {s : σ} (hs : I s) :
      (Act.ask t.current >>= fun a => pure (f a) : Act σ β).Yields s (fun _ s' => I s') fun e _ => E e := by
    obtain ⟨a, ha⟩ := ht.current s hs
    rw [Act.yields_bind, Act.yields_ask]
    refine ⟨fun _ _ => hs, ?_⟩
    intro e he
    rw [ha] at he
    cases he
  refine ⟨?_, ?_⟩
  · intro untried s hs
    cases untried with
    | true => exact hask some hs
    | false =>
      rw [propose_false, Act.yields_bind]
      refine (ht.simplify s hs).mono (fun moved s' hs' => ?_) (fun _ _ h => h.elim)
      rw [Act.yields_ite]
      exact ⟨fun _ => hask some hs', fun _ => hs'⟩
  · intro a s hs
    unfold canRetry
    rw [Act.yields_bind]
    refine (ht.complicate s hs).mono (fun moved s' hs' => ?_) (fun _ _ h => h.elim)
    rw [Act.yields_ite]
    exact ⟨fun _ => hask (· != a) hs', fun _ => hs'⟩

theorem Total.safe (ht : t.Total) : t.Safe fun _ => True where
  current s _ := by
    cases hs : t.current s with
    | ok a => exact ⟨a, rfl⟩
    | error e => exact absurd hs (ht.current s e)
  simplify s _ := Act.yields_of_never_raises (ht.simplify s)
  complicate s _ := Act.yields_of_never_raises (ht.complicate s)

end ValueTree
end StateCheck
