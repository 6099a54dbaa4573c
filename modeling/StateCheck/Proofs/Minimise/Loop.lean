import StateCheck.Proofs.Minimise.Rounds

/-! The loop of minimising, for anything that holds of the sequence between two rounds. A round shrinks the
sequence; what a reduction leads to is then either kept, less its tail, or undone. -/

namespace StateCheck.Minimiser
variable {U S T ι τ : Type} [Datum T] {m : Minimiser U S T ι τ} {P Q R : Sequence S T ι τ → Prop}
  {E : Fault → Prop} {session : Session S T ι τ} {best : Minimum S T}

theorem settle_value (m : Minimiser U S T ι τ) (c : Candidate S T) (failure : Option Outcome)
    (session : Session S T ι τ) : (m.settle c failure).Yields session
      (fun _ session' => session'.value = session.value) fun e _ => m.bench.outcome c = .error e := by
  cases failure with
  | some outcome => exact rfl
  | none => exact (m.replay_yields ..).mono (fun _ _ h => h.2) fun _ _ h => h.1

variable [BEq S] [BEq T]

theorem judge_counts (best : Minimum S T) (session : Session S T ι τ) : (m.judge best).Yields session
    (fun best' _ => best'.iterations = best.iterations + 1) fun _ _ => True := by
  unfold judge
  refine Act.yields_after fun candidate _ => Act.yields_after fun outcome _ => ?_
  dsimp only
  split
  · exact Act.yields_after fun _ _ => rfl
  · exact Act.yields_after fun _ _ => rfl

structure Judges (m : Minimiser U S T ι τ) (P Q : Sequence S T ι τ → Prop) (E : Fault → Prop) : Prop where
  undo : ∀ v, Q v → (Sequence.complicate m.shrinker).Yields v (fun _ v' => P v') fun e _ => E e
  keep : ∀ v index, Q v → -1 ≤ index → P (v.cut (index + 1))
  replay : ∀ v e, Q v → m.bench.outcome v.current = .error e → E e

/-- Between rounds `P` holds, after a reduction `Q`, and `R` when no reduction is left. -/
structure Loops (m : Minimiser U S T ι τ) (P Q R : Sequence S T ι τ → Prop) (E : Fault → Prop) : Prop
    extends m.Judges P Q E where
  shrink : ∀ v, P v → (Sequence.shrink m.shrinker).Yields v (fun moved v' => if moved then Q v' else R v')
    fun e _ => E e

theorem Judges.judge (h : m.Judges P Q E) (hv : Q session.value) (best : Minimum S T) :
    (m.judge best).Yields session
      (fun best' session' => best'.timedOut = best.timedOut ∧ P session'.value) fun e _ => E e := by
  unfold Minimiser.judge current
  rw [Act.yields_bind, Act.yields_ofMove, Act.yields_bind]
  refine (m.replay_yields _ session).mono (fun outcome session' houtcome => ?_) (fun e _ he => h.replay _ e hv he.1)
  obtain ⟨houtcome, hvalue⟩ := houtcome
  dsimp only
  split
  · rename_i index cause hstill
    rw [Act.yields_bind, dropTail_yields, Act.yields_bind, Act.yields_ofMove, Act.yields_bind,
      Act.yields_log, Act.yields_pure]
    dsimp only
    rw [hvalue]
    exact ⟨rfl, h.keep _ index hv (Bench.outcome_fail_bounds houtcome).1⟩
  · unfold onValue
    rw [Act.yields_bind, Act.yields_on, hvalue]
    exact (h.undo _ hv).mono (fun _ v' hv' => ⟨rfl, hv'⟩) fun _ _ h => h

def Leaves (P R : Sequence S T ι τ → Prop) (v : Sequence S T ι τ) : Option (Minimum S T) → Prop
  | none => P v
  | some best => if best.timedOut then P v else R v

theorem Loops.reduce (h : m.Loops P Q R E) (started : Float) (fuel : Nat) (hv : P session.value)
    (hbest : best.timedOut = false) : (m.reduce started fuel best).Yields session
      (fun best? session' => Leaves P R session'.value best?) fun e _ => E e := by
  induction fuel generalizing session best with
  | zero => exact hv
  | succ fuel ih =>
    unfold Minimiser.reduce onValue
    rw [Act.yields_bind, Act.yields_on]
    refine (h.shrink _ hv).mono (fun moved v' hmoved => ?_) (fun _ _ h => h)
    cases moved with
    | false =>
      show Leaves P R v' (some best)
      rw [Leaves, hbest]
      exact hmoved
    | true =>
      rw [if_pos rfl, Act.yields_bind]
      refine (m.budgetSpent_yields ..).mono (fun spent session' hvalue => ?_) (fun _ _ h => h)
      have hreduced : Q session'.value := hvalue ▸ hmoved
      rw [Act.yields_ite]
      refine ⟨fun _ => ?_, fun _ => ?_⟩
      · rw [Act.yields_bind, Act.yields_on]
        exact (h.undo _ hreduced).mono (fun _ _ h => h) fun _ _ h => h
      · rw [Act.yields_bind]
        refine (h.judge hreduced best).mono (fun best' session'' hjudged => ?_) fun _ _ h => h
        exact ih hjudged.2 (hjudged.1.trans hbest)

theorem Loops.minimiseFailure (h : m.Loops P Q R E) (fuel : Nat) (started : Float) (startLength : Nat)
    {index : Int} {cause : Fault} (hv : P (session.value.cut (index + 1))) :
    (m.minimiseFailure fuel started startLength (.fail index cause)).Yields session
      (fun best? session' => Leaves P R session'.value best?) fun e _ => E e := by
  unfold Minimiser.minimiseFailure current
  rw [Act.yields_bind, dropTail_yields, Act.yields_bind, Act.yields_ofMove, Act.yields_bind]
  refine (h.reduce started _ hv rfl).mono (fun best? session' hend => ?_) (fun _ _ h => h)
  cases best? with
  | none => exact hend
  | some best =>
    dsimp only [now]
    rw [Act.yields_bind, Act.yields_ofMove, Act.yields_bind, Act.yields_log, Act.yields_pure]
    exact hend

theorem Loops.minimise (h : m.Loops P Q R E) (fuel : Nat) (failure : Option Outcome)
    (hv : ∀ index, P (session.value.cut (index + 1)))
    (hreplay : ∀ e, m.bench.outcome session.value.current = .error e → E e) :
    (m.minimise fuel failure).Yields session
      (fun best? session' => (∃ best, best? = some best ∧ best.outcome = .pass ∧ session'.value = session.value) ∨
        Leaves P R session'.value best?) fun e _ => E e := by
  rw [minimise_eq, now, current, Act.yields_bind, Act.yields_ofMove, Act.yields_bind, Act.yields_ofMove,
    Act.yields_bind]
  dsimp only
  refine (m.settle_value ..).mono (fun outcome session' hvalue => ?_) fun e _ he => hreplay e he
  cases outcome with
  | pass => exact .inl ⟨_, rfl, rfl, hvalue⟩
  | fail index cause =>
    exact (h.minimiseFailure fuel _ _ (hvalue ▸ hv index)).mono (fun _ _ h => .inr h) fun _ _ h => h

end StateCheck.Minimiser
