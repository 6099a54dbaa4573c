import StateCheck.Proofs.Minimise.Agree
import StateCheck.Proofs.Run.Cases
import StateCheck.Proofs.Steady

/-! Runs of models that apply a transition only where it is allowed: what applying would raise anywhere else is
never seen, in whatever part of the engine. -/

namespace StateCheck

theorem Model.Generated.sound {S T : Type} {model : Model S T} {settings : Settings}
    {I : model.initial.State → Prop} {J : model.TransitionTree → Prop} {v : model.Sequence}
    (h : Model.Generated model settings I J v) : v.Sound model.toRules := by
  cases h with
  | start _ _ haccepts => exact Sequence.start_sound _ _ haccepts

theorem Model.Generated.sure {S T : Type} {model : Model S T} {settings : Settings}
    {I : model.initial.State → Prop} {J : model.TransitionTree → Prop} {v : model.Sequence}
    (h : Model.Generated model settings I J v) : Minimiser.Sure model.shrinker I J settings.minSize v :=
  ⟨h.trees, h.sound, h.minSize_eq⟩

namespace Runner
variable {U S T ρ : Type} {r : Runner U S T} {rules : Rules S T} {I : r.model.initial.State → Prop}
  {J : r.model.TransitionTree → Prop}

abbrev withRules (r : Runner U S T) (rules : Rules S T) : Runner U S T :=
  { r with model := r.model.withRules rules }

theorem conclude_agree [Datum S] [Datum T] [BEq S] [BEq T] (h : r.model.toRules.Agree rules)
    {v : r.model.Sequence} (hv : Minimiser.Sure r.model.shrinker (fun _ => True) (fun _ => True) r.settings.minSize v)
    (seed : Int) (case : Nat) (outcome : Outcome) (state : RunState ρ) :
    r.conclude seed case v outcome state = (r.withRules rules).conclude seed case v outcome state := by
  unfold conclude
  refine Act.bind_eq ?_ ((Act.yields_self _ _).mono (fun _ _ _ => rfl) fun _ _ _ => trivial)
  have hminimise : r.minimiser.minimise r.fuel (some outcome) { value := v, tally := state.tally } =
      (r.withRules rules).minimiser.minimise r.fuel (some outcome) { value := v, tally := state.tally } :=
    Minimiser.minimise_agree h h (Int.natCast_nonneg r.settings.minSize) r.fuel (some outcome) hv
  unfold minimise
  rw [hminimise]

variable [WordSource ρ]

theorem runCases_agree [Datum S] [Datum T] [BEq S] [BEq T] (h : r.model.toRules.Agree rules) (seed : Int)
    (left case total : Nat) (state : RunState ρ) :
    r.runCases seed left case total state = (r.withRules rules).runCases seed left case total state := by
  have hdraw : (r.draw : Act (RunState ρ) _) = (r.withRules rules).draw := by
    unfold draw
    rw [Model.generate_agree r.settings h]
  have hreplay (c : Candidate S T) : (r.replay c : Act (RunState ρ) _) = (r.withRules rules).replay c := by
    unfold replay
    rw [Bench.replayCounted_agree (b := r.bench) h]
    rfl
  induction left generalizing case total state with
  | zero => rfl
  | succ left ih =>
    rw [runCases_succ, runCases_succ]
    refine Act.bind_eq (congrFun hdraw state) ?_
    rw [draw, Act.yields_on]
    refine (Model.generate_yields r.model.fresh_of_anything _).mono (fun v source hgenerated => ?_) fun _ _ h => h
    refine Act.bind_eq (congrFun (hreplay v.current) _) ?_
    refine (Act.yields_self _ _).mono (fun outcome state' _ => ?_) fun _ _ _ => trivial
    cases outcome with
    | pass => exact ih ..
    | fail index cause => exact Act.bind_eq rfl (conclude_agree h hgenerated.sure ..)

theorem runWith_agree [Datum S] [Datum T] [BEq S] [BEq T] (h : r.model.toRules.Agree rules) (seed : Int)
    (state : RunState ρ) : r.runWith seed state = (r.withRules rules).runWith seed state :=
  Act.bind_eq rfl (runCases_agree h ..)

theorem steady_tame [BEq S] [BEq T] {E : Fault → Prop} (hrules : r.model.toRules.Total)
    (hsteady : r.model.Steady I J) : r.model.shrinker.Tame I J E where
  rules := ⟨fun s t e he => (hrules.apply s t e he).elim, fun s t e he => (hrules.allows s t e he).elim⟩
  initial := hsteady.initialTree.tame
  transition := hsteady.transitionTree.tame

theorem runCases_raises [Datum S] [Datum T] [BEq S] [BEq T] (hrules : r.model.toRules.Total)
    (hsteady : r.model.Steady I J) (seed : Int) (left case total : Nat) (state : RunState ρ) :
    (r.runCases seed left case total).Yields state (fun _ _ => True)
      fun e _ => Model.Exhausts r.settings e ∨ r.adapter.Interrupts e ∨ Interrupts r.reporters e := by
  have hreplay (c : Candidate S T) (e : Fault) (haccepts : r.model.Accepts c.initial c.transitions)
      (he : r.bench.outcome c = .error e) : r.adapter.Interrupts e := Bench.outcome_interrupts haccepts he
  induction left generalizing case total state with
  | zero => trivial
  | succ left ih =>
    rw [runCases_succ, Act.yields_bind, draw, Act.yields_on]
    refine ((hsteady.generate_exhausts hrules _).and (Model.generate_yields hsteady.fresh _)).mono
      (fun v source h => ?_) fun e _ h => .inl h.1
    have hgenerated := h.2
    rw [Act.yields_bind]
    refine (replay_yields ..).mono (fun outcome state' houtcome => ?_) fun e _ he => .inr (.inl ?_)
    · cases outcome with
      | pass => exact ih ..
      | fail index cause =>
        rw [afterReplay, Act.yields_bind, Act.yields_log]
        exact (conclude_generated (steady_tame hrules hsteady) hreplay hgenerated seed case houtcome.1).mono
          (fun _ _ _ => trivial) fun _ _ h => .inr h
    · refine hreplay _ e ?_ he
      exact hgenerated.sound.accepted.1

theorem runWith_raises [Datum S] [Datum T] [BEq S] [BEq T] (hrules : r.model.toRules.Total)
    (hsteady : r.model.Steady I J) (seed : Int) (state : RunState ρ) :
    (r.runWith seed).Yields state (fun _ _ => True)
      fun e _ => Model.Exhausts r.settings e ∨ r.adapter.Interrupts e ∨ Interrupts r.reporters e := by
  unfold runWith
  rw [Act.yields_bind, Act.yields_log]
  exact runCases_raises hrules hsteady ..

/-- Applying raises only where it is not allowed, and so it never raises: all that escapes is that no sequence long
enough was generated, and the faults by which the adapter or a reporter ends the run. -/
theorem guarded_apply_never_escapes [Datum S] [Datum T] [BEq S] [BEq T] (hrules : r.model.toRules.Guarded)
    (hsteady : r.model.Steady I J) (source : ρ) :
    (∀ e, (r.model.generate r.settings source).answer = .error e → Model.Exhausts r.settings e) ∧
    (∀ v, (r.model.generate r.settings source).answer = .ok v → ∀ moves,
      let run := Act.each (Sequence.Move.perform r.model.shrinker) moves v
      (∃ answers, run.answer = .ok answers) ∧
      (∀ e, r.bench.outcome run.state.current = .error e → r.adapter.Interrupts e) ∧
      ∀ fuel failure tally readings e,
        (r.minimiser.minimise fuel failure ⟨run.state, tally, readings⟩).answer = .error e →
          r.adapter.Interrupts e) ∧
    ∀ seed (state : RunState ρ),
      r.runWith seed state = (r.withRules r.model.masked).runWith seed state ∧
      ∀ e, (r.runWith seed state).answer = .error e →
        Model.Exhausts r.settings e ∨ r.adapter.Interrupts e ∨ Interrupts r.reporters e := by
  have hagree := r.model.agree_masked
  have hmasked : (r.withRules r.model.masked).model.Steady I J :=
    ⟨hsteady.initial, hsteady.next, hsteady.initialTree, hsteady.transitionTree⟩
  refine ⟨?_, ?_, ?_⟩
  · intro e he
    rw [Model.generate_agree r.settings hagree] at he
    exact (hmasked.generate_exhausts hrules.masked_total source).of_error he
  · intro v hv moves run
    have hgenerated := (Model.generate_yields hsteady.fresh source).of_ok hv
    have hminSize := Int.natCast_nonneg r.settings.minSize
    have hperform (move : Sequence.Move) (_ : move ∈ moves) (v : r.model.Sequence)
        (hv : Minimiser.Sure r.model.shrinker I J r.settings.minSize v) :=
      Minimiser.perform_guarded hrules hsteady.initialTree hsteady.transitionTree hminSize hv move
    obtain ⟨answers, hanswers, hsure⟩ := (Act.yields_each hperform hgenerated.sure).answers
    have hreplay (e : Fault) (he : r.bench.outcome run.state.current = .error e) : r.adapter.Interrupts e := by
      refine Bench.outcome_interrupts (b := r.bench) ?_ he
      exact hsure.2.1.accepted.1
    refine ⟨⟨answers, hanswers⟩, hreplay, ?_⟩
    intro fuel failure tally readings e he
    have hminimise : (r.minimiser.minimise fuel failure).Yields ⟨run.state, tally, readings⟩ (fun _ _ => True)
        fun e _ => r.adapter.Interrupts e :=
      Minimiser.minimise_guarded rfl hrules hsteady.initialTree hsteady.transitionTree hminSize fuel failure hsure
    exact hminimise.of_error he
  · intro seed state
    have hrun := runWith_agree hagree seed state
    refine ⟨hrun, ?_⟩
    intro e he
    rw [hrun] at he
    exact (runWith_raises hrules.masked_total hmasked seed state).of_error he

def overdrawn : Fault := .ofText .value "overdrawn"

def strictPurse : Rules Nat Bool where
  apply coins t := if t then .ok (coins + 1) else if coins = 0 then .error overdrawn else .ok (coins - 1)
  allows coins t := .ok (t || decide (0 < coins))

theorem strictPurse_guarded : strictPurse.Guarded := by
  refine ⟨nofun, ?_⟩
  intro coins t e he
  cases t with
  | true => cases he
  | false =>
    by_cases hcoins : coins = 0
    · subst hcoins
      rfl
    · have happly : strictPurse.apply coins false = .ok (coins - 1) := if_neg hcoins
      rw [happly] at he
      cases he

def strictRunner : Runner Nat Nat Bool where
  model := { strictPurse with name := "Purse", initial := .just 1 "1", next := fun _ => .booleans }
  adapter := Minimiser.purseMinimiser.bench.adapter
  settings := Minimiser.purseSettings
  clock _ := 0
  fuel := 8

theorem strictRunner_steady : strictRunner.model.Steady (fun _ => True) fun _ => True where
  initial _ := trivial
  next s _ _ source := by
    have hdraw : (Random.between 0 1 >>= fun n => pure (Search.start n (min (max 0 0) 1)) : Act _ Search).Yields source
        (fun _ _ => True) fun _ _ => False := by
      rw [Act.yields_bind]
      exact (Random.between_answers 0 1 source).mono (fun _ _ _ => trivial) fun _ _ h => h
    exact hdraw
  initialTree := ValueTree.Total.safe ⟨nofun, nofun, nofun⟩
  transitionTree := ValueTree.Total.safe ⟨nofun, nofun, nofun⟩

theorem strict_purse_never_overdrawn :
    strictPurse.apply 0 false = .error overdrawn ∧ (strictRunner.run 7).answer ≠ .error overdrawn := by
  refine ⟨rfl, ?_⟩
  intro he
  have hfaults := (guarded_apply_never_escapes strictPurse_guarded strictRunner_steady
    (MersenneTwister.ofSeed 7)).2.2 7 { source := .ofSeed 7, notebooks := [] }
  rcases hfaults.2 overdrawn he with ⟨longest, hexhausted⟩ | ⟨hescapes, -⟩ | ⟨hescapes, -⟩
  · cases hexhausted
  · cases hescapes
  · cases hescapes

end Runner
end StateCheck
