import StateCheck.Proofs.Composed
import StateCheck.Proofs.Run.Failure

/-! A run comes to its own end: there is fuel enough for minimising the first sequence that fails, and no other asks for
any. So a failure that was found is reported. -/

namespace StateCheck

theorem Strategy.Built.composed {α : Type} {E : Fault → Prop} {s : Strategy α} (h : s.Built E) : s.Composed := by
  induction h with
  | just a shown => exact .just a shown
  | integers lo hi => exact .integers lo hi
  | map hs hf name ih => exact .map ih _ name
  | filter hs haccepts whence ih => exact .filter ih _ whence
  | oneOf hoptions hredraw ih => exact .oneOf ih
  | tuples hparts ih => exact .tuples ih
  | lists helement minSize maxSize ih => exact .lists ih minSize maxSize
  | titled hs shown ih => exact .titled ih shown

theorem Model.ranked {S T : Type} {model : Model S T} (hinitial : model.initial.Composed)
    (hnext : ∀ s, (model.next s).Composed) : ∃ I rank J rank',
      model.shrinker.initial.Ranked I rank ∧ model.shrinker.transition.Ranked J rank' ∧ model.Fresh I J := by
  obtain ⟨I, rank, hranked, hdraws⟩ := hinitial.ranked
  choose J rank' hranked' hdraws' using fun s => (hnext s).ranked
  have hfresh : model.Fresh I fun tree => J tree.1 tree.2 := ⟨hdraws.draw, fun s {_} _ => (hdraws' s).draw⟩
  exact ⟨I, rank, _, _, hranked, ValueTree.Ranked.tagged hranked', hfresh⟩

theorem Model.Generated.tracked {S T : Type} {model : Model S T} {settings : Settings}
    {I : model.initial.State → Prop} {J : model.TransitionTree → Prop} {v : model.Sequence}
    (h : Model.Generated model settings I J v) : Sequence.Tracked I J v := by
  cases h with
  | start htree hentries => exact Sequence.tracked_start htree _ hentries _

/-- What a step leads to does not depend on the fuel, and so one amount is enough for what follows it. -/
theorem Act.exists_enough_bind {σ α β : Type} {x : Act σ α} {f : Nat → α → Act σ β} {s : σ} {Q : β → σ → Prop}
    (h : x.Yields s (fun a s' => ∃ enough, ∀ fuel, enough ≤ fuel → (f fuel a).Yields s' Q fun _ _ => True)
      fun _ _ => True) :
    ∃ enough, ∀ fuel, enough ≤ fuel → (x >>= f fuel).Yields s Q fun _ _ => True := by
  simp only [yields_bind]
  cases hx : (x s).answer with
  | error e =>
    refine ⟨0, fun _ _ => (yields_self x s).mono (fun a _ ha => ?_) fun _ _ _ => trivial⟩
    cases hx.symm.trans ha.1
  | ok a =>
    obtain ⟨enough, henough⟩ := h.of_ok hx
    exact ⟨enough, fun fuel hfuel => (yields_of_answer hx).2 (henough fuel hfuel)⟩

namespace Runner
variable {U S T ρ : Type} {r : Runner U S T} {I : r.model.initial.State → Prop} {J : r.model.TransitionTree → Prop}
  {rank : r.model.initial.State → Nat} {rank' : r.model.TransitionTree → Nat} {v : r.model.Sequence}
  {state : RunState ρ}

abbrev withFuel (r : Runner U S T) (fuel : Nat) : Runner U S T := { r with fuel := fuel }

variable [Datum S] [Datum T] [BEq S] [BEq T]

theorem conclude_finishes (hinitial : r.model.shrinker.initial.Ranked I rank)
    (htransition : r.model.shrinker.transition.Ranked J rank') (hv : Sequence.Tracked I J v) (seed : Int) (case : Nat)
    (outcome : Outcome) : ∃ enough, ∀ fuel, enough ≤ fuel →
      ((r.withFuel fuel).conclude seed case v outcome).Yields state (fun conclusion _ => conclusion ≠ .unfinished)
        fun _ _ => True := by
  let session : Session S T r.model.initial.State r.model.TransitionTree :=
    { value := v, tally := state.tally }
  have htracked : Sequence.Tracked I J session.value := hv
  obtain ⟨enough, henough⟩ := Minimiser.minimise_finishes (m := r.minimiser) hinitial htransition htracked
    (some outcome)
  refine ⟨enough, fun fuel hfuel => ?_⟩
  unfold conclude
  rw [Act.yields_bind]
  have hminimise : ((r.withFuel fuel).minimise v outcome).Yields state (fun best? _ => best?.isSome) fun _ _ => True :=
    minimise_yields (r := r.withFuel fuel) (Q := fun best? => best?.isSome) (henough fuel hfuel)
  refine hminimise.mono (fun best? state' hsome => ?_) fun _ _ h => h
  cases best? with
  | none => cases hsome
  | some best =>
    refine Act.yields_after fun report _ => Act.yields_after fun _ _ => ?_
    rw [Act.yields_pure]
    split <;> nofun

variable [WordSource ρ]

theorem runCases_finishes (hinitial : r.model.initial.Composed) (hnext : ∀ s, (r.model.next s).Composed) (seed : Int)
    (left case total : Nat) (state : RunState ρ) : ∃ enough, ∀ fuel, enough ≤ fuel →
      ((r.withFuel fuel).runCases seed left case total).Yields state (fun conclusion _ => conclusion ≠ .unfinished)
        fun _ _ => True := by
  obtain ⟨I, rank, J, rank', hranked, hranked', hfresh⟩ := Model.ranked hinitial hnext
  induction left generalizing case total state with
  | zero => exact ⟨0, fun _ _ => nofun⟩
  | succ left ih =>
    have hcases (fuel : Nat) : ((r.withFuel fuel).runCases seed (left + 1) case total : Act (RunState ρ) Conclusion) =
        r.draw >>= fun v => r.replay v.current >>= (r.withFuel fuel).afterReplay seed left case total v :=
      runCases_succ (r.withFuel fuel) ..
    simp only [hcases]
    refine Act.exists_enough_bind (f := fun fuel (v : r.model.Sequence) =>
      r.replay v.current >>= (r.withFuel fuel).afterReplay seed left case total v) ?_
    rw [draw, Act.yields_on]
    refine (Model.generate_yields hfresh _).mono (fun v source hgenerated => ?_) fun _ _ h => h
    refine Act.exists_enough_bind ((Act.yields_trivial _ _).mono (fun outcome state' _ => ?_) fun _ _ h => h)
    cases outcome with
    | pass => exact ih (case + 1) (total + v.current.transitions.length) state'
    | fail index cause =>
      simp only [afterReplay]
      refine Act.exists_enough_bind ?_
      rw [Act.yields_log]
      exact conclude_finishes hranked hranked' hgenerated.tracked seed case _

/-- With fuel enough the run is not left unfinished, whatever the budget and however the replays turn out. -/
theorem runWith_finishes (hinitial : r.model.initial.Composed) (hnext : ∀ s, (r.model.next s).Composed) (seed : Int)
    (state : RunState ρ) : ∃ enough, ∀ fuel, enough ≤ fuel →
      ((r.withFuel fuel).runWith seed state).answer ≠ .ok .unfinished := by
  obtain ⟨enough, henough⟩ := runCases_finishes hinitial hnext seed r.settings.cases 0 0 state
  exact ⟨enough, fun fuel hfuel hanswer => (henough fuel hfuel).of_ok hanswer rfl⟩

/-- A failure that was found is reported, unless drawing an alternative on demand raises. -/
theorem failure_is_reported {E : Fault → Prop} (hmodel : r.model.Built E) (hadapter : r.adapter.Contained)
    (hreporters : ∀ reporter ∈ r.reporters, reporter.Contained) (seed : Int) (state : RunState ρ)
    {passing : List r.model.Sequence} {index : Int} {cause : Fault}
    (hfails : r.FailsFirst state.source passing v index cause) (hlt : passing.length < r.settings.cases) :
    ∃ enough, ∀ fuel, enough ≤ fuel → match ((r.withFuel fuel).runWith seed state).answer with
      | .ok (.failed report) | .ok (.timedOut report) =>
        (r.withFuel fuel).Reports seed passing.length v index report
      | .ok _ => False
      | .error e => E e := by
  obtain ⟨enough, henough⟩ := runWith_finishes hmodel.initial.composed (fun s => (hmodel.next s).composed) seed state
  refine ⟨enough, fun fuel hfuel => ?_⟩
  have hfails' : (r.withFuel fuel).FailsFirst state.source passing v index cause :=
    ⟨hfails.generated, hfails.passing, hfails.fails⟩
  have hrun := runWith_of_failsFirst (r := r.withFuel fuel) hmodel hadapter hreporters seed state hfails' hlt
  cases hanswer : ((r.withFuel fuel).runWith seed state).answer with
  | error e => exact hrun.of_error hanswer
  | ok conclusion =>
    have hblames := hrun.of_ok hanswer
    cases conclusion with
    | passed result => exact hblames
    | failed report => exact hblames.2
    | timedOut report => exact hblames.2
    | unfinished => exact absurd hanswer (henough fuel hfuel)

end Runner
end StateCheck
