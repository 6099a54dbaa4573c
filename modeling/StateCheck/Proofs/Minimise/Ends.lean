import StateCheck.Proofs.Minimise.Loop
import StateCheck.Proofs.Sequence.Rank

/-! Minimising ends by itself: a kept reduction and an undone one both leave a sequence of a lower rank, so the
rank is fuel enough. -/

namespace StateCheck

/-- From `n` on, more fuel changes nothing, and it is not fuel that ends the loop. -/
def Act.Settles {σ α : Type} (x : Nat → Act σ (Option α)) (n : Nat) (s : σ) : Prop :=
  ∃ r : Result σ (Option α), r.answer ≠ .ok none ∧ ∀ fuel, n ≤ fuel → x fuel s = r

namespace Act
variable {σ α β : Type} {x : Nat → Act σ (Option α)} {n : Nat} {s : σ}

theorem Settles.of_some {x : Act σ (Option α)} (h : x.Yields s (fun a? _ => a?.isSome) fun _ _ => True) :
    Settles (fun _ => x) n s := by
  refine ⟨x s, fun hnone => ?_, fun _ _ => rfl⟩
  have hsome := h.of_ok hnone
  cases hsome

theorem Settles.bind {y : Act σ β} {f : Nat → β → Act σ (Option α)}
    (h : y.Yields s (fun b s' => Settles (fun fuel => f fuel b) n s') fun _ _ => True) :
    Settles (fun fuel => y >>= f fuel) n s := by
  rcases hy : y s with ⟨_ | b, s', notes⟩
  · refine ⟨_, ?_, fun fuel _ => bind_of_error hy⟩
    nofun
  · unfold Yields at h
    rw [hy] at h
    obtain ⟨r, hr, hfuel⟩ := h
    refine ⟨⟨r.answer, r.state, notes ++ r.notes⟩, hr, fun fuel hn => ?_⟩
    exact (bind_of_ok (f := f fuel) hy).trans (by rw [← hfuel fuel hn])

theorem Settles.then {f : Option α → Act σ (Option β)} (h : Settles x n s)
    (hf : ∀ a s', (f (some a)).Yields s' (fun b? _ => b?.isSome) fun _ _ => True) :
    Settles (fun fuel => x fuel >>= f) n s := by
  obtain ⟨r, hr, hfuel⟩ := h
  refine ⟨(x n >>= f) s, fun hnone => ?_, fun fuel hn => ?_⟩
  · rw [answer_bind, hfuel n (Nat.le_refl n)] at hnone
    cases hanswer : r.answer with
    | error e =>
      rw [hanswer] at hnone
      cases hnone
    | ok a? =>
      rw [hanswer] at hnone
      cases a? with
      | none => exact hr hanswer
      | some a =>
        have hsome := (hf a r.state).of_ok hnone
        cases hsome
  · show (x fuel >>= f) s = (x n >>= f) s
    rw [bind_apply, bind_apply, hfuel fuel hn, hfuel n (Nat.le_refl n)]

end Act

namespace Minimiser
variable {U S T ι τ : Type} [BEq S] [BEq T] {m : Minimiser U S T ι τ} {I : ι → Prop} {J : τ → Prop}
  {rank : ι → Nat} {rank' : τ → Nat} {session : Session S T ι τ} {best : Minimum S T}

theorem stopped_yields (m : Minimiser U S T ι τ) (best : Minimum S T) (session : Session S T ι τ) :
    (onValue (Sequence.complicate m.shrinker) >>= fun _ => Act.log (.budgetSpent best.iterations) >>= fun _ =>
      pure (some { best with timedOut := true })).Yields session (fun best? _ => best?.isSome) fun _ _ => True :=
  Act.yields_after fun _ _ => rfl

variable [Datum T]

theorem judges_ranked (hinitial : m.shrinker.initial.Ranked I rank)
    (htransition : m.shrinker.transition.Ranked J rank') (n : Nat) :
    m.Judges (fun v => Sequence.Tracked I J v ∧ Sequence.rankBy rank rank' v < n)
      (fun v => Sequence.Tracked I J v ∧ Sequence.rankBy rank rank' v < n) fun _ => True where
  undo v hv := Act.Yields.mono (Sequence.complicate_falls hinitial htransition hv.1)
    (fun _ _ h => ⟨h.1, Nat.lt_of_le_of_lt (Nat.le_of_add_right_le h.2) hv.2⟩) fun _ _ h => h
  keep v index hv _ := by
    obtain ⟨htracked, hrank⟩ := hv.1.cut rank rank' (index + 1)
    exact ⟨htracked, Nat.lt_of_le_of_lt hrank hv.2⟩
  replay _ _ _ _ := trivial

theorem reduce_settles (hinitial : m.shrinker.initial.Ranked I rank)
    (htransition : m.shrinker.transition.Ranked J rank') (started : Float) {n : Nat}
    (hv : Sequence.Tracked I J session.value) (hrank : Sequence.rankBy rank rank' session.value < n)
    (best : Minimum S T) : Act.Settles (fun fuel => m.reduce started fuel best) n session := by
  -- A round takes one unit of fuel and leaves a lower rank, whether its reduction is kept or undone.
  induction n generalizing session best with
  | zero => exact absurd hrank (Nat.not_lt_zero _)
  | succ n ih =>
    suffices hround : Act.Settles (fun fuel => m.reduce started (fuel + 1) best) n session by
      obtain ⟨r, hr, hfuel⟩ := hround
      refine ⟨r, hr, fun fuel hn => ?_⟩
      obtain ⟨fuel, rfl⟩ : ∃ k, fuel = k + 1 := ⟨fuel - 1, by omega⟩
      exact hfuel fuel (Nat.le_of_succ_le_succ hn)
    unfold Minimiser.reduce
    refine .bind ?_
    unfold onValue
    rw [Act.yields_on]
    refine Act.Yields.mono (Sequence.shrink_falls hinitial htransition hv.toPlaced) (fun moved v' h => ?_)
      fun _ _ h => h
    cases moved with
    | false => exact .of_some rfl
    | true =>
      rw [Bool.toNat_true] at h
      have hlower : Sequence.rankBy rank rank' v' < n := by
        have := h.2
        omega
      refine .bind ((m.budgetSpent_yields ..).mono (fun spent session' hvalue => ?_) fun _ _ h => h)
      cases spent with
      | true => exact .of_some (m.stopped_yields best session')
      | false =>
        have hkept : Sequence.Tracked I J session'.value ∧ Sequence.rankBy rank rank' session'.value < n := by
          rw [hvalue]
          exact ⟨h.1, hlower⟩
        refine .bind (((judges_ranked hinitial htransition n).judge hkept best).mono
          (fun best' session'' hjudged => ?_) fun _ _ h => h)
        exact ih hjudged.2.1 hjudged.2.2 best'

theorem minimiseFailure_settles (hinitial : m.shrinker.initial.Ranked I rank)
    (htransition : m.shrinker.transition.Ranked J rank') (hiters : m.settings.maxShrinkIters = 0) (started : Float)
    (startLength : Nat) {n : Nat} (hv : Sequence.Tracked I J session.value)
    (hrank : Sequence.rankBy rank rank' session.value < n) (index : Int) (cause : Fault) :
    Act.Settles (fun fuel => m.minimiseFailure fuel started startLength (.fail index cause)) n session := by
  have hfuel (fuel : Nat) : fuelFor m.settings fuel = fuel := if_pos hiters
  obtain ⟨htracked, hcut⟩ := hv.cut rank rank' (index + 1)
  unfold minimiseFailure current
  simp only [hfuel]
  refine .bind ?_
  rw [dropTail_yields]
  refine .bind ?_
  rw [Act.yields_ofMove]
  refine (reduce_settles hinitial htransition started htracked (Nat.lt_of_le_of_lt hcut hrank) _).then ?_
  intro best session'
  exact Act.yields_after fun _ _ => rfl

theorem minimise_settles (hinitial : m.shrinker.initial.Ranked I rank)
    (htransition : m.shrinker.transition.Ranked J rank') (hiters : m.settings.maxShrinkIters = 0)
    (hv : Sequence.Tracked I J session.value) (failure : Option Outcome) :
    Act.Settles (fun fuel => m.minimise fuel failure) (Sequence.rankBy rank rank' session.value + 1) session := by
  simp only [minimise_eq]
  unfold now current
  refine .bind (.bind (.bind ?_))
  refine (m.settle_value ..).mono (fun outcome session' hvalue => ?_) fun _ _ _ => trivial
  cases outcome with
  | pass => exact .of_some rfl
  | fail index cause =>
    have hvalue' : session'.value = session.value := hvalue
    rw [← hvalue'] at hv ⊢
    exact minimiseFailure_settles hinitial htransition hiters _ _ hv (Nat.lt_succ_self _) index cause

theorem reduce_within_limit (hiters : m.settings.maxShrinkIters ≠ 0) (started : Float) {fuel : Nat}
    (hle : best.iterations ≤ m.settings.maxShrinkIters)
    (henough : m.settings.maxShrinkIters < fuel + best.iterations) :
    (m.reduce started fuel best).Yields session (fun best? _ => best?.isSome) fun _ _ => True := by
  induction fuel generalizing session best with
  | zero => omega
  | succ fuel ih =>
    unfold reduce
    refine Act.yields_after fun moved session' => ?_
    cases moved with
    | false => exact rfl
    | true =>
      rw [if_pos rfl]
      by_cases hspent : m.settings.maxShrinkIters ≤ best.iterations
      · rw [budgetSpent, if_pos ⟨hiters, hspent⟩]
        exact m.stopped_yields best session'
      · refine Act.yields_after fun spent session'' => ?_
        cases spent with
        | true => exact m.stopped_yields best session''
        | false =>
          rw [if_neg Bool.false_ne_true, Act.yields_bind]
          refine (judge_counts best session'').mono (fun best' _ hcount => ?_) fun _ _ h => h
          exact ih (by omega) (by omega)

theorem minimise_within_limit (hiters : m.settings.maxShrinkIters ≠ 0) (fuel : Nat) (failure : Option Outcome) :
    (m.minimise fuel failure).Yields session (fun best? _ => best?.isSome) fun _ _ => True := by
  rw [minimise_eq]
  refine Act.yields_after fun started _ => Act.yields_after fun c _ => Act.yields_after fun outcome _ => ?_
  cases outcome with
  | pass => exact rfl
  | fail index cause =>
    have hfuel : fuelFor m.settings fuel = m.settings.maxShrinkIters + 1 := if_neg hiters
    rw [minimiseFrom, minimiseFailure, hfuel]
    refine Act.yields_after fun _ _ => Act.yields_after fun held session' => ?_
    rw [Act.yields_bind]
    refine (reduce_within_limit hiters started (Nat.zero_le _) (Nat.lt_succ_self _)).mono (fun best? session'' h => ?_)
      fun _ _ h => h
    cases best? with
    | none => cases h
    | some best => exact Act.yields_after fun _ _ => rfl

theorem minimise_finishes (hinitial : m.shrinker.initial.Ranked I rank)
    (htransition : m.shrinker.transition.Ranked J rank') (hv : Sequence.Tracked I J session.value)
    (failure : Option Outcome) : ∃ enough, ∀ fuel, enough ≤ fuel →
      (m.minimise fuel failure).Yields session (fun best? _ => best?.isSome) fun _ _ => True := by
  by_cases hiters : m.settings.maxShrinkIters = 0
  · obtain ⟨run, hrun, hfuel⟩ := minimise_settles hinitial htransition hiters hv failure
    refine ⟨Sequence.rankBy rank rank' session.value + 1, fun fuel hn => ?_⟩
    refine (Act.yields_self _ session).mono (fun best? _ h => ?_) fun _ _ _ => trivial
    cases best? with
    | none => exact absurd ((congrArg Result.answer (hfuel fuel hn)).symm.trans h.1) hrun
    | some best => rfl
  · exact ⟨0, fun fuel _ => minimise_within_limit hiters fuel failure⟩

end Minimiser
end StateCheck
