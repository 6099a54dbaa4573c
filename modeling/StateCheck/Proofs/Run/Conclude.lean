import StateCheck.Run
import StateCheck.Proofs.Generation
import StateCheck.Proofs.Minimise.Rounds

/-! What a run makes of the first case that fails. -/

namespace StateCheck.Runner
variable {U S T ρ : Type} {r : Runner U S T} {E : Fault → Prop} {state : RunState ρ}

structure Reports [Datum S] [Datum T] (r : Runner U S T) (seed : Int) (case : Nat) (v : r.model.Sequence)
    (index : Int) (report : FailureReport) : Prop where
  seed : report.seed = some seed
  case : report.case = case
  startLength : report.startLength = v.current.transitions.length
  index_le : report.index ≤ index
  candidate : ∃ c : Candidate S T,
    report.initial = datum c.initial ∧ report.transitions = c.transitions.map datum ∧
    r.model.Accepts c.initial c.transitions ∧
    r.settings.minSize ≤ c.transitions.length ∧ c.transitions.length ≤ v.current.transitions.length ∧
    r.bench.outcome c = .ok (.fail report.index report.cause)

def Blames [Datum S] [Datum T] (r : Runner U S T) (seed : Int) (case : Nat) (v : r.model.Sequence)
    (index : Int) : Conclusion → Prop
  | .passed _ => False
  | .failed report => report.timedOut = false ∧ r.Reports seed case v index report
  | .timedOut report => report.timedOut = true ∧ r.Reports seed case v index report
  | .unfinished => True

def Interrupts (reporters : List Reporter) (e : Fault) : Prop :=
  e.escapes = true ∧ ∃ reporter ∈ reporters, ∃ report notes, (reporter.report report notes).answer = .error e

theorem tell_yields (report : FailureReport) (i : Nat) (reporter : Reporter) (notebooks : List (List String)) :
    (tell report i reporter).Yields notebooks (fun _ _ => True) fun e _ => Interrupts [reporter] e := by
  unfold tell
  rw [Act.yields_bind, Act.yields_attempt]
  refine (Act.yields_self _ _).mono (fun _ _ _ => trivial) (fun e notebooks' he => ?_)
  dsimp only
  rw [Act.yields_ite]
  refine ⟨fun hescapes => ⟨hescapes, reporter, List.mem_singleton_self _, report, ?_⟩, fun _ => trivial⟩
  replace he := he.1
  unfold Act.onItem at he
  split at he
  · cases he
  · exact ⟨_, he⟩

theorem tellAll_yields (report : FailureReport) (i : Nat) (reporters : List Reporter)
    (notebooks : List (List String)) : (tellAll report i reporters).Yields notebooks (fun _ _ => True)
      fun e _ => Interrupts reporters e := by
  induction reporters generalizing i notebooks with
  | nil => trivial
  | cons reporter rest ih =>
    unfold tellAll
    rw [Act.yields_bind]
    refine (tell_yields report i reporter notebooks).mono (fun _ notebooks' _ => ?_) (fun e _ h => ?_)
    · refine (ih (i + 1) notebooks').mono (fun _ _ h => h) (fun e _ h => ?_)
      obtain ⟨hescapes, reporter', hmem, hraised⟩ := h
      exact ⟨hescapes, reporter', List.mem_cons_of_mem _ hmem, hraised⟩
    · obtain ⟨hescapes, reporter', hmem, hraised⟩ := h
      rw [List.mem_singleton.1 hmem] at hraised
      exact ⟨hescapes, reporter, List.mem_cons_self, hraised⟩

variable {I : r.model.initial.State → Prop}
  {J : r.model.TransitionTree → Prop} {P : Sequence.Shape S T → Prop} {v : r.model.Sequence}

theorem minimise_yields [Datum T] [BEq S] [BEq T] {Q : Option (Minimum S T) → Prop} {outcome : Outcome}
    (h : (r.minimiser.minimise r.fuel (some outcome)).Yields { value := v, tally := state.tally }
      (fun best? _ => Q best?) fun e _ => E e) :
    (r.minimise v outcome).Yields state (fun best? _ => Q best?) fun e _ => E e := h

theorem reports_of_minimum [Datum S] [Datum T] {best : Minimum S T} {seed : Int} {case : Nat} {index : Int}
    {after : r.model.Sequence}
    (hbest : r.minimiser.Held I J r.settings.minSize P index v.current.transitions.length after best)
    (hsized : ∀ f, P f → r.settings.minSize ≤ f.current.transitions.length ∧
      f.current.transitions.length ≤ v.current.transitions.length) :
    ∃ report, FailureReport.ofMinimum best (some seed) case = .ok report ∧
      report.timedOut = best.timedOut ∧ r.Reports seed case v index report := by
  obtain ⟨index', cause, hfail, hindex⟩ := hbest.fails
  have houtcome := hbest.outcome
  rw [hfail] at houtcome
  let report : FailureReport :=
    { initial := datum best.candidate.initial
      transitions := best.candidate.transitions.map datum
      index := index'
      cause := cause
      seed := some seed
      case := case
      startLength := best.startLength
      shrinkIterations := best.iterations
      timedOut := best.timedOut }
  refine ⟨report, ?_, rfl, ?_⟩
  · rw [FailureReport.ofMinimum, hfail]
    rfl
  · have hlength := hsized _ hbest.shape
    rw [Sequence.current_shape, hbest.shown] at hlength
    exact ⟨rfl, rfl, congrArg Nat.cast hbest.startLength, hindex, best.candidate, rfl, rfl,
      Bench.accepts_of_outcome houtcome, hlength.1, hlength.2, houtcome⟩

theorem conclude_yields [Datum S] [Datum T] [BEq S] [BEq T] (hkeeps : r.minimiser.Keeps I J E r.settings.minSize P)
    (htrees : v.Trees I J) (hminSize : v.minSize = r.settings.minSize) (hshape : P v.shape)
    (hsized : ∀ f, P f → r.settings.minSize ≤ f.current.transitions.length ∧
      f.current.transitions.length ≤ v.current.transitions.length)
    (seed : Int) (case : Nat) {index : Int} {cause : Fault}
    (hfail : r.bench.outcome v.current = .ok (.fail index cause)) :
    (r.conclude seed case v (.fail index cause)).Yields state
      (fun conclusion _ => r.Blames seed case v index conclusion)
      (fun e _ => E e ∨ Interrupts r.reporters e) := by
  unfold conclude
  rw [Act.yields_bind]
  let session : Session S T r.model.initial.State r.model.TransitionTree :=
    { value := v, tally := state.tally }
  have hfailure : ∀ outcome ∈ some (Outcome.fail index cause),
      r.minimiser.bench.outcome session.value.current = .ok outcome := by
    rintro outcome ⟨⟩
    exact hfail
  have hminimise := Minimiser.minimise_yields (m := r.minimiser) hkeeps r.fuel htrees hminSize hshape hfailure
  refine (minimise_yields (Q := fun best? => ∀ best ∈ best?, ∃ after,
    r.minimiser.Held I J r.settings.minSize P index v.current.transitions.length after best)
    (hminimise.mono (fun best? session h best hbest => ?_) fun _ _ h => h)).mono
    (fun best? state' hbest => ?_) (fun _ _ h => .inl h)
  · obtain ⟨outcome, houtcome, hend⟩ := h best hbest
    have heq : (.ok (.fail index cause) : Except Fault Outcome) = .ok outcome := hfail.symm.trans houtcome
    cases heq
    exact ⟨session.value, hend⟩
  · cases best? with
    | none => exact trivial
    | some best =>
      obtain ⟨after, hheld⟩ := hbest best rfl
      obtain ⟨report, hreport, htimedOut, hreports⟩ := reports_of_minimum hheld hsized
      dsimp only
      rw [hreport, Act.yields_bind, Act.yields_lift]
      refine ⟨?_, nofun⟩
      intro report' hreport'
      cases hreport'
      rw [Act.yields_bind, Act.yields_on]
      refine (tellAll_yields ..).mono (fun _ notebooks _ => ?_) (fun _ _ h => .inr h)
      cases htimed : best.timedOut with
      | true => exact ⟨htimedOut.trans htimed, hreports⟩
      | false => exact ⟨htimedOut.trans htimed, hreports⟩

end StateCheck.Runner
