import StateCheck.Proofs.Run.Cases
import StateCheck.Proofs.Strategy

/-! A failure that was found is reported: nothing that the library itself does to the failing sequence
raises, except that alternatives are drawn on demand. -/

namespace StateCheck

/-- The rules do not raise, and the strategies are built by the combinators. -/
structure Model.Built {S T : Type} (model : Model S T) (E : Fault → Prop) : Prop where
  rules : model.toRules.Total
  initial : Strategy.Built E model.initial
  next : ∀ s, Strategy.Built E (model.next s)

theorem Model.Built.tame {S T : Type} [BEq S] [BEq T] {model : Model S T} {E : Fault → Prop}
    (h : model.Built E) : model.shrinker.Tame (model.initial.tree.Robust E fun _ => True)
      (model.transitionTree.Robust E fun _ => True) E := robust_tame h.rules E

theorem Model.Built.fresh {S T : Type} {model : Model S T} {E : Fault → Prop} (h : model.Built E) :
    model.Fresh (model.initial.tree.Robust E fun _ => True) (model.transitionTree.Robust E fun _ => True) :=
  robust_fresh h.initial.drawsFresh fun s => (h.next s).drawsFresh

def Reporter.Contained (reporter : Reporter) : Prop :=
  ∀ report notes e, (reporter.report report notes).answer = .error e → e.escapes = false

namespace Runner
variable {U S T ρ : Type} [WordSource ρ] {r : Runner U S T} {E : Fault → Prop}

theorem not_interrupts {reporters : List Reporter} (h : ∀ reporter ∈ reporters, reporter.Contained) (e : Fault) :
    ¬Interrupts reporters e := by
  rintro ⟨hescapes, reporter, hmem, report, notes, he⟩
  rw [h reporter hmem report notes e he] at hescapes
  cases hescapes

theorem FailsFirst.uncons [Datum T] {source : ρ} {w v : r.model.Sequence} {passing : List r.model.Sequence}
    {index : Int} {cause : Fault} (h : r.FailsFirst source (w :: passing) v index cause) :
    (r.model.generate r.settings source).answer = .ok w ∧
      r.FailsFirst (r.model.generate r.settings source).state passing v index cause := by
  have hgenerated := h.generated
  rw [Runner.generated, List.length_cons, Act.answer_times_succ] at hgenerated
  obtain ⟨w', rest, hdraw, hrest, heq⟩ := hgenerated
  cases heq
  exact ⟨hdraw, hrest, fun u hu => h.passing u (List.mem_cons_of_mem _ hu), h.fails⟩

theorem FailsFirst.draw [Datum T] {source : ρ} {v : r.model.Sequence} {index : Int} {cause : Fault}
    (h : r.FailsFirst source [] v index cause) : (r.model.generate r.settings source).answer = .ok v := by
  have hgenerated := h.generated
  rw [Runner.generated, List.length_nil, Act.answer_times_succ] at hgenerated
  obtain ⟨w', rest, hdraw, -, heq⟩ := hgenerated
  cases heq
  exact hdraw

theorem case_yields [Datum S] [Datum T] [BEq S] [BEq T] {seed : Int} {left case total : Nat}
    {state : RunState ρ} {v : r.model.Sequence} {outcome : Outcome} {Q : Conclusion → RunState ρ → Prop}
    (hdraw : (r.model.generate r.settings state.source).answer = .ok v)
    (houtcome : r.bench.outcome v.current = .ok outcome)
    (hrest : ∀ state' : RunState ρ, state'.source = (r.model.generate r.settings state.source).state →
      (r.afterReplay seed left case total v outcome).Yields state' Q fun e _ => E e) :
    (r.runCases seed (left + 1) case total).Yields state Q fun e _ => E e := by
  rw [runCases_succ, Act.yields_bind, draw, Act.yields_on, Act.yields_of_answer hdraw, Act.yields_bind]
  refine (replay_yields v.current _).mono (fun outcome' state' h => ?_) (fun e _ h => ?_)
  · obtain ⟨houtcome', hsource⟩ := h
    have heq := houtcome.symm.trans houtcome'
    cases heq
    exact hrest state' hsource
  · have hraised := houtcome.symm.trans h
    cases hraised

theorem runCases_of_failsFirst [Datum S] [Datum T] [BEq S] [BEq T] (hmodel : r.model.Built E)
    (hadapter : r.adapter.Contained) (hreporters : ∀ reporter ∈ r.reporters, reporter.Contained)
    (seed : Int) {passing : List r.model.Sequence} {v : r.model.Sequence} {index : Int} {cause : Fault}
    {left : Nat} (hlt : passing.length < left) (case total : Nat) {state : RunState ρ}
    (hfails : r.FailsFirst state.source passing v index cause) :
    (r.runCases seed left case total).Yields state
      (fun conclusion _ => r.Blames seed (case + passing.length) v index conclusion) fun e _ => E e := by
  have hreplay (c : Candidate S T) (e : Fault) (haccepts : r.model.Accepts c.initial c.transitions)
      (he : r.bench.outcome c = .error e) : E e := by
    obtain ⟨outcome, houtcome⟩ := Bench.outcome_contained (b := r.bench) hadapter haccepts
    have hraised := houtcome.symm.trans he
    cases hraised
  -- On the cases that passed: the run is known to get past each of them.
  induction passing generalizing left case total state with
  | nil =>
    cases left with
    | zero => exact absurd hlt (Nat.not_lt_zero _)
    | succ left =>
      refine case_yields hfails.draw hfails.fails fun state' _ => ?_
      have hgenerated := (Model.generate_yields hmodel.fresh state.source).of_ok hfails.draw
      rw [afterReplay, Act.yields_bind, Act.yields_log]
      refine (conclude_generated hmodel.tame hreplay hgenerated seed case hfails.fails).mono (fun _ _ h => h)
        fun e _ h => ?_
      exact h.resolve_right (not_interrupts hreporters e)
  | cons w passing ih =>
    cases left with
    | zero => exact absurd hlt (Nat.not_lt_zero _)
    | succ left =>
      obtain ⟨hdraw, hrest⟩ := hfails.uncons
      refine case_yields hdraw (hfails.passing w List.mem_cons_self) fun state' hsource => ?_
      have hcase : case + (w :: passing).length = case + 1 + passing.length := by
        rw [List.length_cons]
        omega
      rw [hcase]
      exact ih (Nat.lt_of_succ_lt_succ hlt) _ _ (hsource ▸ hrest)

theorem runWith_of_failsFirst [Datum S] [Datum T] [BEq S] [BEq T] (hmodel : r.model.Built E)
    (hadapter : r.adapter.Contained) (hreporters : ∀ reporter ∈ r.reporters, reporter.Contained)
    (seed : Int) (state : RunState ρ) {passing : List r.model.Sequence} {v : r.model.Sequence} {index : Int}
    {cause : Fault} (hfails : r.FailsFirst state.source passing v index cause)
    (hlt : passing.length < r.settings.cases) :
    (r.runWith seed).Yields state (fun conclusion _ => r.Blames seed passing.length v index conclusion)
      fun e _ => E e := by
  have hcases := runCases_of_failsFirst hmodel hadapter hreporters seed hlt 0 0 hfails
  rw [Nat.zero_add] at hcases
  unfold runWith
  rw [Act.yields_bind, Act.yields_log]
  exact hcases

/-- Once a case was found to fail, the run ends with a report of it, or runs out of fuel. A fault can
end it only if drawing an alternative on demand raises that fault. -/
theorem run_reports_failure [Datum S] [Datum T] [BEq S] [BEq T] (hmodel : r.model.Built E)
    (hadapter : r.adapter.Contained) (hreporters : ∀ reporter ∈ r.reporters, reporter.Contained)
    (seed : Int) (state : RunState ρ) {passing : List r.model.Sequence} {v : r.model.Sequence} {index : Int}
    {cause : Fault} (hfails : r.FailsFirst state.source passing v index cause)
    (hlt : passing.length < r.settings.cases) :
    match (r.runWith seed state).answer with
    | .ok conclusion => r.Blames seed passing.length v index conclusion
    | .error e => E e := by
  have hrun := runWith_of_failsFirst hmodel hadapter hreporters seed state hfails hlt
  split
  · exact hrun.of_ok ‹_›
  · exact hrun.of_error ‹_›

def purseRunner (next : Strategy Bool) : Runner Nat Nat Bool where
  model := { Sequence.purse with name := "Purse", initial := .just 1 "1", next := fun _ => next }
  adapter := Minimiser.purseMinimiser.bench.adapter
  settings := Minimiser.purseSettings
  reporters := [⟨"full", fun _ => .raise (.ofText .os "disk full")⟩]
  clock _ := 0
  fuel := 8

theorem purse_contained (next : Strategy Bool) : (purseRunner next).adapter.Contained :=
  Minimiser.purse_adapter_contained

theorem purse_reporter_contained (next : Strategy Bool) :
    ∀ reporter ∈ (purseRunner next).reporters, reporter.Contained := by
  intro reporter hmem report notes e he
  rw [List.mem_singleton.1 hmem] at he
  cases he
  rfl

theorem run_reports_purse_failure : ∃ v cause report,
    (purseRunner (.just true "True")).FailsFirst ([] : List UInt32) [] v 0 cause ∧
    ((purseRunner (.just true "True")).runWith 7 { source := ([] : List UInt32) }).answer = .ok (.failed report) ∧
    (purseRunner (.just true "True")).Blames 7 0 v 0 (.failed report) := by
  have hfails : ∃ v cause, (purseRunner (.just true "True")).FailsFirst ([] : List UInt32) [] v 0 cause :=
    ⟨_, _, rfl, nofun, rfl⟩
  obtain ⟨v, cause, hfails⟩ := hfails
  have hbuilt : (purseRunner (.just true "True")).model.Built fun _ => False :=
    ⟨⟨nofun, nofun⟩, .just 1 "1", fun _ => .just true "True"⟩
  obtain ⟨report, hanswer⟩ : ∃ report, ((purseRunner (.just true "True")).runWith 7
      { source := ([] : List UInt32) }).answer = .ok (.failed report) := ⟨_, rfl⟩
  have hreports := run_reports_failure hbuilt (purse_contained _) (purse_reporter_contained _) 7
    { source := ([] : List UInt32) } hfails Nat.zero_lt_one
  rw [hanswer] at hreports
  exact ⟨v, cause, report, hfails, hanswer, hreports⟩

def unlucky : Strategy Bool :=
  .oneOf [(1, (Strategy.just false "False").filter (fun _ => .ok false) "never"), (1, .just true "True")]

theorem unlucky_built : Strategy.Built (fun _ => True) unlucky := by
  refine .oneOf (fun option hoption => ?_) fun _ _ _ _ _ => trivial
  simp only [List.mem_cons, List.not_mem_nil, or_false] at hoption
  rcases hoption with rfl | rfl
  · exact .filter (.just false "False") (fun _ => ⟨false, rfl⟩) "never"
  · exact .just true "True"

theorem unlucky_model_built : (purseRunner unlucky).model.Built fun _ => True where
  rules := ⟨nofun, nofun⟩
  initial := .just 1 "1"
  next _ := unlucky_built

def failsAt [Datum T] (r : Runner U S T) (index : Int) (v : r.model.Sequence) : Bool :=
  match r.bench.outcome v.current with
  | .ok (.fail index' _) => decide (index' = index)
  | _ => false

def firstFails [Datum T] (r : Runner U S T) (source : ρ) (index : Int) : Bool :=
  match r.generated source 1 with
  | .ok [v] => r.failsAt index v
  | _ => false

theorem failsFirst_of_firstFails [Datum T] {source : ρ} {index : Int} (h : r.firstFails source index = true) :
    ∃ v cause, r.FailsFirst source [] v index cause := by
  unfold firstFails at h
  split at h
  · rename_i v hgenerated
    unfold failsAt at h
    split at h
    · rename_i index' cause houtcome
      rw [of_decide_eq_true h] at houtcome
      exact ⟨v, cause, hgenerated, nofun, houtcome⟩
    · cases h
  · cases h

def rejected {α : Type} : Except Fault α → Bool
  | .error (.tooManyRejects ..) => true
  | _ => false

theorem eq_of_rejected {α : Type} {answer : Except Fault α} (h : rejected answer = true) :
    ∃ whence rejects, answer = .error (.tooManyRejects whence rejects) := by
  unfold rejected at h
  split at h
  · exact ⟨_, _, rfl⟩
  · cases h

/-- The second alternative is drawn. Shrinking it draws the first one, and the failure is lost. -/
theorem redraw_hides_failure :
    (purseRunner unlucky).model.Built (fun _ => True) ∧ (purseRunner unlucky).adapter.Contained ∧
    (∀ reporter ∈ (purseRunner unlucky).reporters, reporter.Contained) ∧
    (∃ v cause, (purseRunner unlucky).FailsFirst ([0, 0xFFFFFFFF, 0xFFFFFFFF] : List UInt32) [] v 0 cause) ∧
    ∃ whence rejects, ((purseRunner unlucky).runWith 7
      { source := ([0, 0xFFFFFFFF, 0xFFFFFFFF] : List UInt32) }).answer = .error (.tooManyRejects whence rejects) := by
  refine ⟨unlucky_model_built, purse_contained _, purse_reporter_contained _, ?_, ?_⟩
  · exact failsFirst_of_firstFails (by decide +kernel)
  · exact eq_of_rejected (by decide +kernel)

end Runner
end StateCheck
