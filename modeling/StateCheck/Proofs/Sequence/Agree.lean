import StateCheck.Proofs.Agree
import StateCheck.Proofs.Tree.Safe

/-! The moves of a sequence under rules that agree. Only the transitions before the one that changed are folded
without a check, and they are accepted. -/

namespace StateCheck

abbrev Shrinker.withRules {S T ι τ : Type} (g : Shrinker S T ι τ) (rules : Rules S T) : Shrinker S T ι τ :=
  { g with rules := rules }

namespace Sequence
variable {S T ι τ : Type} {g : Shrinker S T ι τ} {rules : Rules S T} {v : Sequence S T ι τ}

theorem deleteLast_agree (h : g.rules.Agree rules) : deleteLast g = deleteLast (g.withRules rules) := by
  simp only [deleteLast, h.longestValid]

theorem shrinkTransition_agree (h : g.rules.Agree rules) (hv : v.shape.Accepted g.rules) (i : Nat) :
    shrinkTransition g i v = shrinkTransition (g.withRules rules) i v := by
  unfold shrinkTransition
  refine Act.bind_eq rfl ((takeRetry_yields v.trees_of_anything).mono (fun untried v₁ h₁ => ?_) fun _ _ h => h)
  refine Act.bind_eq rfl ((onTree_yields (E := fun _ => True) (fun tree _ =>
    (Act.yields_trivial _ tree).mono (fun _ _ _ => ⟨trivial, trivial⟩) fun _ _ h => h) trivial h₁.1).mono
    ?_ fun _ _ _ => trivial)
  rintro proposed v₂ ⟨-, -, hquiet⟩
  have hshape : v₂.shape = v.shape := (h₁.2.trans hquiet).shape
  have haccepted : v₂.shape.Accepted g.rules := hshape ▸ hv
  have hvalid (t : T) : g.rules.isValid v₂.initialState ((before v₂.length v₂.transitions).set i t) i =
      rules.isValid v₂.initialState ((before v₂.length v₂.transitions).set i t) i := by
    refine h.isValid ?_
    rw [List.take_set_of_le (Nat.le_refl i)]
    exact haccepted.take i
  refine Act.bind_eq rfl ?_
  rw [Act.yields_get]
  simp only [hvalid]

theorem shrinkInitial_agree (h : g.rules.Agree rules) : shrinkInitial g = shrinkInitial (g.withRules rules) := by
  simp only [shrinkInitial, shrinkInitialState, h.isValid_zero]

theorem shrinkTransitions_agree [BEq S] [BEq T] (h : g.rules.Agree rules) (hv : v.shape.Accepted g.rules)
    (left : Nat) : shrinkTransitions g left v = shrinkTransitions (g.withRules rules) left v := by
  have htame := g.tame_of_anything
  induction left generalizing v with
  | zero =>
    unfold shrinkTransitions
    rw [shrinkInitial_agree h]
  | succ left ih =>
    unfold shrinkTransitions
    refine Act.bind_eq rfl ?_
    rw [Act.yields_get]
    refine Act.bind_eq (shrinkTransition_agree h hv _) ?_
    refine (shrinkTransition_yields htame.rules htame.transition v.trees_of_anything _).mono
      (fun edit? v' hattempt => ?_) fun _ _ _ => trivial
    cases edit? with
    | some edit => rfl
    | none =>
      refine Act.bind_eq rfl ?_
      rw [Act.yields_modify]
      refine ih ?_
      have hshape : v'.shape = v.shape := hattempt.2.shape
      exact hshape ▸ hv

theorem delete_agree [BEq S] [BEq T] (h : g.rules.Agree rules) (hv : v.shape.Accepted g.rules) :
    delete g v = delete (g.withRules rules) v := by
  have htame := g.tame_of_anything
  unfold delete
  refine Act.bind_eq (congrFun (deleteLast_agree h) v) ?_
  refine (deleteLast_yields htame.rules v.trees_of_anything).mono (fun edit? v' hattempt => ?_)
    fun _ _ _ => trivial
  cases edit? with
  | some edit => rfl
  | none =>
    have hshape : v'.shape = v.shape := hattempt.2.shape
    refine Act.bind_eq rfl (shrinkTransitions_agree h ?_ _)
    exact hshape ▸ hv

theorem shrink_agree [BEq S] [BEq T] (h : g.rules.Agree rules) (hv : v.shape.Accepted g.rules) :
    shrink g v = shrink (g.withRules rules) v := by
  have hforgot : ({ v with lastEdit := none } : Sequence S T ι τ).shape.Accepted g.rules := hv
  unfold shrink
  refine Act.bind_eq rfl ?_
  rw [Act.yields_modify]
  refine Act.bind_eq rfl ?_
  rw [Act.yields_get]
  dsimp only
  cases v.cursor.phase with
  | deleteTransition => exact delete_agree h hforgot
  | shrinkTransition => exact shrinkTransitions_agree h hforgot _
  | shrinkInitialState => exact congrFun (shrinkInitial_agree h) _
  | done => rfl

theorem perform_agree [BEq S] [BEq T] (h : g.rules.Agree rules) (hv : v.shape.Accepted g.rules) (move : Move) :
    move.perform g v = move.perform (g.withRules rules) v := by
  cases move with
  | shrink => exact shrink_agree h hv
  | complicate => rfl
  | truncate length => rfl

theorem Sound.agree {rules rules' : Rules S T} (h : rules.Agree rules') (hv : Sound rules v) : Sound rules' v where
  accepted := ⟨h.accepts_iff.1 hv.accepted.1, fun edit hedit => h.accepts_iff.1 (hv.accepted.2 edit hedit)⟩
  phase := hv.phase
  whole hphase := h.accepts_iff.1 (hv.whole hphase)

end Sequence
end StateCheck
