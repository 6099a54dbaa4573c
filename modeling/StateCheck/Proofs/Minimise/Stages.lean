import StateCheck.Proofs.Minimise.Loop
import StateCheck.Proofs.Sequence.Stages

/-! Minimising takes the trees of a sequence through their stages, and without a limit it stops only when all of them
are spent. -/

namespace StateCheck.Minimiser
variable {U S T ι τ : Type} {m : Minimiser U S T ι τ}

theorem budgetSpent_unlimited (hiters : m.settings.maxShrinkIters = 0) (htime : (m.settings.maxShrinkTime == 0) = true)
    (iterations : Nat) (started : Float) : m.budgetSpent iterations started = pure false := by
  unfold budgetSpent outOfTime
  rw [if_neg (fun h => h.1 hiters), if_pos htime]

variable [Datum T] [BEq S] [BEq T] {A : Stages ι S} {B : Stages τ T} {session : Session S T ι τ} {best : Minimum S T}

theorem loops_staged (hinitial : m.shrinker.initial.Staged A) (htransition : m.shrinker.transition.Staged B)
    (hallows : ∀ s t, m.shrinker.rules.allows s t = .ok true) :
    m.Loops (fun v => v.Sized ∧ v.Between A B) (fun v => v.Sized ∧ v.Reduced m.shrinker A B)
      (fun v => v.Sized ∧ v.Ended A B) fun _ => True where
  undo _ hv := Sequence.complicate_leads hinitial htransition hv.1 hv.2
  keep _ index hv _ := ⟨hv.1.cut _, (hv.2.between hinitial htransition).cut hv.2.settled (index + 1)⟩
  replay _ _ _ _ := trivial
  shrink _ hv := (Sequence.shrink_leads hinitial hallows htransition hv.1 hv.2).mono
    (fun moved _ h => by
      cases moved with
      | true => exact h
      | false => exact h)
    fun _ _ h => h

theorem minimise_spends (hinitial : m.shrinker.initial.Staged A) (htransition : m.shrinker.transition.Staged B)
    (hallows : ∀ s t, m.shrinker.rules.allows s t = .ok true) (hsized : session.value.Sized)
    (hvalue : session.value.Between A B) (hretry : session.value.retryPending = false) {fuel : Nat}
    {failure : Option Outcome} (hanswer : (m.minimise fuel failure session).answer = .ok (some best))
    (hfails : best.reproduced = true) (hintime : best.timedOut = false) :
    let left := (m.minimise fuel failure session).state.value
    (∀ entry ∈ left.kept, entry.Spent B) ∧ A.spent left.initialState left.initialTree := by
  have hloops := loops_staged hinitial htransition hallows
  have hend := (hloops.minimise fuel failure
    (fun index => ⟨hsized.cut _, hvalue.cut hretry (index + 1)⟩) fun _ _ => trivial).of_ok hanswer
  rcases hend with ⟨best', hbest, hpass, -⟩ | hleaves
  · cases hbest
    rw [Minimum.reproduced, hpass] at hfails
    cases hfails
  · rw [Leaves, hintime] at hleaves
    exact ⟨hleaves.2.spent hleaves.1, hleaves.2.initial⟩

theorem reduce_unlimited (hiters : m.settings.maxShrinkIters = 0) (htime : (m.settings.maxShrinkTime == 0) = true)
    (started : Float) (fuel : Nat) : (m.reduce started fuel best).Yields session
      (fun best? _ => ∀ best' ∈ best?, best'.timedOut = best.timedOut) fun _ _ => True := by
  have hjudges : m.Judges (fun _ => True) (fun _ => True) fun _ => True :=
    ⟨fun v _ => Act.yields_trivial _ v, fun _ _ _ _ => trivial, fun _ _ _ _ => trivial⟩
  induction fuel generalizing session best with
  | zero => exact fun _ hbest => by cases hbest
  | succ fuel ih =>
    unfold Minimiser.reduce
    refine Act.yields_after fun moved session' => ?_
    cases moved with
    | false =>
      rintro best' ⟨⟩
      rfl
    | true =>
      rw [if_pos rfl, budgetSpent_unlimited hiters htime, pure_bind, if_neg Bool.false_ne_true, Act.yields_bind]
      refine (hjudges.judge trivial best).mono (fun best' session'' h => ?_) fun _ _ h => h
      exact Act.Yields.mono ih (fun _ _ h' best'' hbest => (h' best'' hbest).trans h.1) fun _ _ h => h

theorem minimise_unlimited (hiters : m.settings.maxShrinkIters = 0) (htime : (m.settings.maxShrinkTime == 0) = true)
    {fuel : Nat} {failure : Option Outcome} (hanswer : (m.minimise fuel failure session).answer = .ok (some best)) :
    best.timedOut = false := by
  have hends : (m.minimise fuel failure).Yields session (fun best? _ => ∀ best ∈ best?, best.timedOut = false)
      fun _ _ => True := by
    rw [minimise_eq, now, current, Act.yields_bind, Act.yields_ofMove, Act.yields_bind, Act.yields_ofMove,
      Act.yields_bind]
    refine (m.settle_value ..).mono (fun outcome session' _ => ?_) fun _ _ _ => trivial
    cases outcome with
    | pass =>
      rintro best ⟨⟩
      rfl
    | fail index cause =>
      show (m.minimiseFailure fuel _ _ (.fail index cause)).Yields _ _ _
      unfold minimiseFailure current
      rw [Act.yields_bind, dropTail_yields, Act.yields_bind, Act.yields_ofMove, Act.yields_bind]
      refine (reduce_unlimited hiters htime _ _).mono (fun best? session'' h => ?_) fun _ _ h => h
      cases best? with
      | none => exact fun _ hbest => by cases hbest
      | some best =>
        dsimp only [now]
        rw [Act.yields_bind, Act.yields_ofMove, Act.yields_bind, Act.yields_log, Act.yields_pure]
        rintro best' ⟨⟩
        exact h best rfl
  exact hends.of_ok hanswer best rfl

end StateCheck.Minimiser
