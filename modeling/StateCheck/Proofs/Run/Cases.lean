import Mathlib.Algebra.Ring.Nat
import StateCheck.Proofs.Minimise.Failure
import StateCheck.Proofs.Run.Conclude

/-! The cases of a run, which end with the first that fails. -/

namespace StateCheck.Runner
variable {U S T ρ : Type} {r : Runner U S T} {I : r.model.initial.State → Prop}
  {J : r.model.TransitionTree → Prop} {E : Fault → Prop} {v : r.model.Sequence} {state : RunState ρ}

def Shaped (r : Runner U S T) (v : r.model.Sequence) (f : Sequence.Shape S T) : Prop :=
  f.Accepted r.model.toRules ∧ f.Within r.settings.minSize v.entries.length v.entries.length

theorem Shaped.sized {f : Sequence.Shape S T} (hf : r.Shaped v f)
    (hv : Model.Generated r.model r.settings I J v) :
    r.settings.minSize ≤ f.current.transitions.length ∧
      f.current.transitions.length ≤ v.current.transitions.length := by
  have hmin := hv.minSize_le
  have hcurrent := hf.2.current
  rw [hv.current_transitions, Sequence.length_transitions]
  omega

theorem keeps_shaped [Datum T] [BEq S] [BEq T] (htame : r.model.shrinker.Tame I J E)
    (hreplay : ∀ c e, r.model.Accepts c.initial c.transitions → r.bench.outcome c = .error e → E e)
    (v : r.model.Sequence) : r.minimiser.Keeps I J E r.settings.minSize (r.Shaped v) where
  tame := htame
  reduces h hreduces := ⟨hreduces.accepted_of_nonneg (Int.natCast_nonneg _) h.1, h.2.reduces hreduces⟩
  cut h hnonneg hmin hlt := ⟨h.1.cut hnonneg (Int.le_of_lt hlt), h.2.cut hmin hlt⟩
  replay h he := hreplay (Sequence.Shape.current _) _ h.1 he

theorem conclude_generated [Datum S] [Datum T] [BEq S] [BEq T] (htame : r.model.shrinker.Tame I J E)
    (hreplay : ∀ c e, r.model.Accepts c.initial c.transitions → r.bench.outcome c = .error e → E e)
    (hv : Model.Generated r.model r.settings I J v) (seed : Int) (case : Nat) {index : Int} {cause : Fault}
    (hfail : r.bench.outcome v.current = .ok (.fail index cause)) :
    (r.conclude seed case v (.fail index cause)).Yields state
      (fun conclusion _ => r.Blames seed case v index conclusion)
      (fun e _ => E e ∨ Interrupts r.reporters e) :=
  conclude_yields (keeps_shaped htame hreplay v) hv.trees hv.minSize_eq
    ⟨hv.accepts.before _, Sequence.length_transitions _, .inl hv.length_eq⟩ (fun _ hf => hf.sized hv)
    seed case hfail

theorem replay_yields [Datum T] (c : Candidate S T) (state : RunState ρ) : (r.replay c).Yields state
    (fun outcome state' => r.bench.outcome c = .ok outcome ∧ state'.source = state.source)
    (fun e _ => r.bench.outcome c = .error e) := by
  refine (Act.yields_self (r.replay c) state).mono (fun outcome state' h => ?_) (fun e state' h => h.1)
  obtain ⟨hanswer, rfl⟩ := h
  exact ⟨hanswer, rfl⟩

variable [WordSource ρ]

def afterReplay [Datum S] [Datum T] [BEq S] [BEq T] (r : Runner U S T) (seed : Int) (left case total : Nat)
    (v : r.model.Sequence) : Outcome → Act (RunState ρ) Conclusion
  | .pass => r.runCases seed left (case + 1) (total + v.current.transitions.length)
  | .fail index cause => do
    Act.log (.caseFailed case index cause v.current.transitions.length)
    r.conclude seed case v (.fail index cause)

theorem runCases_succ [Datum S] [Datum T] [BEq S] [BEq T] (r : Runner U S T) (seed : Int)
    (left case total : Nat) : (r.runCases seed (left + 1) case total : Act (RunState ρ) Conclusion) =
      r.draw >>= fun v => r.replay v.current >>= r.afterReplay seed left case total v := by
  rw [runCases]
  congr 1
  funext v
  dsimp only
  congr 1
  funext outcome
  cases outcome with
  | pass => rfl
  | fail index cause => rfl

def generated (r : Runner U S T) (source : ρ) (n : Nat) : Except Fault (List r.model.Sequence) :=
  (Act.times (r.model.generate r.settings) n source).answer

/-- Of the sequences drawn from the source, `v` is the first that fails; those before it are `passing`. -/
structure FailsFirst [Datum T] (r : Runner U S T) (source : ρ) (passing : List r.model.Sequence)
    (v : r.model.Sequence) (index : Int) (cause : Fault) : Prop where
  generated : r.generated source (passing.length + 1) = .ok (passing ++ [v])
  passing : ∀ w ∈ passing, r.bench.outcome w.current = .ok .pass
  fails : r.bench.outcome v.current = .ok (.fail index cause)

def Concludes [Datum S] [Datum T] (r : Runner U S T) (source : ρ) (seed : Int) (left case total : Nat) :
    Conclusion → Prop
  | .passed result => ∃ values, r.generated source left = .ok values ∧
      (∀ v ∈ values, r.bench.outcome v.current = .ok .pass) ∧ result.seed = seed ∧
      result.cases = (case + left : Nat) ∧
      result.transitions = (total + (values.map fun v => v.current.transitions.length).sum : Nat)
  | conclusion => ∃ passing v index cause, passing.length < left ∧
      r.FailsFirst source passing v index cause ∧ r.Blames seed (case + passing.length) v index conclusion

theorem FailsFirst.cons [Datum T] {source : ρ} {w : r.model.Sequence} {passing : List r.model.Sequence}
    {index : Int} {cause : Fault} (hdraw : (r.model.generate r.settings source).answer = .ok w)
    (hpass : r.bench.outcome w.current = .ok .pass)
    (h : r.FailsFirst (r.model.generate r.settings source).state passing v index cause) :
    r.FailsFirst source (w :: passing) v index cause where
  generated := by
    rw [Runner.generated, List.length_cons, Act.answer_times_succ]
    exact ⟨w, passing ++ [v], hdraw, h.generated, rfl⟩
  passing := List.forall_mem_cons.2 ⟨hpass, h.passing⟩
  fails := h.fails

theorem Concludes.cons [Datum S] [Datum T] {source : ρ} {w : r.model.Sequence} {seed : Int}
    {left case total : Nat} {conclusion : Conclusion}
    (hdraw : (r.model.generate r.settings source).answer = .ok w)
    (hpass : r.bench.outcome w.current = .ok .pass)
    (h : r.Concludes (r.model.generate r.settings source).state seed left (case + 1)
      (total + w.current.transitions.length) conclusion) :
    r.Concludes source seed (left + 1) case total conclusion := by
  have hblames (passing : List r.model.Sequence) : case + 1 + passing.length = case + (w :: passing).length := by
    rw [List.length_cons]
    omega
  have hfails (h : ∃ passing v index cause, passing.length < left ∧
      r.FailsFirst (r.model.generate r.settings source).state passing v index cause ∧
      r.Blames seed (case + 1 + passing.length) v index conclusion) :
      ∃ passing v index cause, passing.length < left + 1 ∧ r.FailsFirst source passing v index cause ∧
        r.Blames seed (case + passing.length) v index conclusion := by
    obtain ⟨passing, v, index, cause, hlt, hfirst, hend⟩ := h
    exact ⟨w :: passing, v, index, cause, Nat.succ_lt_succ hlt, hfirst.cons hdraw hpass, hblames passing ▸ hend⟩
  cases conclusion with
  | passed result =>
    obtain ⟨values, hvalues, hall, hseed, hcases, htotal⟩ := h
    refine ⟨w :: values, ?_, List.forall_mem_cons.2 ⟨hpass, hall⟩, hseed, ?_, ?_⟩
    · rw [Runner.generated, Act.answer_times_succ]
      exact ⟨w, values, hdraw, hvalues, rfl⟩
    · rw [hcases]
      omega
    · rw [htotal, List.map_cons, List.sum_cons, Nat.add_assoc]
  | failed report => exact hfails h
  | timedOut report => exact hfails h
  | unfinished => exact hfails h

theorem runCases_yields [Datum S] [Datum T] [BEq S] [BEq T] (r : Runner U S T) (seed : Int)
    (left case total : Nat) (state : RunState ρ) : (r.runCases seed left case total).Yields state
      (fun conclusion _ => r.Concludes state.source seed left case total conclusion) fun _ _ => True := by
  have htame := r.model.shrinker.tame_of_anything
  have hfresh := r.model.fresh_of_anything
  -- On the cases left, each of which draws from where the one before left the source.
  induction left generalizing case total state with
  | zero => exact ⟨[], rfl, nofun, rfl, rfl, rfl⟩
  | succ left ih =>
    rw [runCases_succ, Act.yields_bind, draw, Act.yields_on]
    refine ((Act.yields_self _ _).and (Model.generate_yields hfresh _)).mono
      (fun v source' h => ?_) (fun _ _ _ => trivial)
    obtain ⟨⟨hdraw, rfl⟩, hgenerated⟩ := h
    rw [Act.yields_bind]
    refine (replay_yields ..).mono (fun outcome state' h => ?_) (fun _ _ _ => trivial)
    obtain ⟨houtcome, hstate'⟩ := h
    cases outcome with
    | pass =>
      refine (ih ..).mono (fun conclusion _ h => ?_) (fun _ _ h => h)
      rw [hstate'] at h
      exact h.cons hdraw houtcome
    | fail index cause =>
      rw [afterReplay, Act.yields_bind, Act.yields_log]
      refine (conclude_generated htame (fun _ _ _ _ => trivial) hgenerated seed case houtcome).mono
        (fun conclusion _ h => ?_) (fun _ _ _ => trivial)
      have hfirst : r.FailsFirst state.source [] v index cause := by
        refine ⟨?_, nofun, houtcome⟩
        rw [Runner.generated, Act.answer_times_succ]
        exact ⟨v, [], hdraw, rfl, rfl⟩
      cases conclusion with
      | passed result => exact h.elim
      | failed report => exact ⟨[], v, index, cause, Nat.zero_lt_succ _, hfirst, h⟩
      | timedOut report => exact ⟨[], v, index, cause, Nat.zero_lt_succ _, hfirst, h⟩
      | unfinished => exact ⟨[], v, index, cause, Nat.zero_lt_succ _, hfirst, h⟩

/-- A run that passes replayed all of the sequences generated from its seed, and all of them passed; any
other conclusion is about the first of them that fails. -/
theorem run_sound [Datum S] [Datum T] [BEq S] [BEq T] (r : Runner U S T) (seed : Int) :
    match (r.run seed).answer with
    | .ok (.passed result) =>
      ∃ values, r.generated (MersenneTwister.ofSeed seed) r.settings.cases = .ok values ∧
        (∀ v ∈ values, r.bench.outcome v.current = .ok .pass) ∧ result.seed = seed ∧
        result.cases = r.settings.cases ∧
        result.transitions = (values.map fun v => v.current.transitions.length).sum
    | .ok conclusion =>
      ∃ passing v index cause, passing.length < r.settings.cases ∧
        r.FailsFirst (MersenneTwister.ofSeed seed) passing v index cause ∧
        r.Blames seed passing.length v index conclusion
    | .error _ => True := by
  have hrun := r.runCases_yields seed r.settings.cases 0 0
    { source := MersenneTwister.ofSeed seed, notebooks := r.reporters.map fun _ => [] }
  split
  · rename_i result hanswer
    obtain ⟨values, hvalues, hpass, hseed, hcases, htotal⟩ := hrun.of_ok hanswer
    exact ⟨values, hvalues, hpass, hseed, by simpa using hcases, by simpa using htotal⟩
  · rename_i conclusion hnot hanswer
    have hend := hrun.of_ok hanswer
    cases conclusion with
    | passed result => exact absurd rfl (hnot result)
    | failed report => simpa [Concludes] using hend
    | timedOut report => simpa [Concludes] using hend
    | unfinished => simpa [Concludes] using hend
  · trivial

end StateCheck.Runner
