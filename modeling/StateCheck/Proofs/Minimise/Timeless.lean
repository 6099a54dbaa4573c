import StateCheck.Proofs.Minimise.Stages

/-! Without a limit on the time, nothing but the duration depends on the clock. Minimising is then to look at the
sequence as it is, to drop what lies after the failure, and to reduce the rest. -/

namespace StateCheck

theorem Act.answer_bind_congr {σ α β γ : Type} {x : Act σ α} {f g : α → Act σ β} {φ : β → γ} {s : σ}
    (h : x.Yields s (fun a s' => (f a s').answer.map φ = (g a s').answer.map φ) fun _ _ => True) :
    ((x >>= f) s).answer.map φ = ((x >>= g) s).answer.map φ := by
  rw [answer_bind, answer_bind]
  cases hanswer : (x s).answer with
  | error e => rfl
  | ok a => exact h.of_ok hanswer

def Minimum.timeless {S T : Type} (best : Minimum S T) : Minimum S T := { best with durationMs := 0 }

theorem exists_of_map_timeless {S T : Type} {answer : Except Fault (Option (Minimum S T))} {best : Minimum S T}
    (h : answer.map (Option.map Minimum.timeless) = .ok (some best)) :
    ∃ found, answer = .ok (some found) ∧ found.timeless = best := by
  cases answer with
  | error e => cases h
  | ok found? =>
    cases found? with
    | none => cases h
    | some found => exact ⟨found, rfl, Option.some.inj (Except.ok.inj h)⟩

namespace Minimiser
variable {U S T ι τ : Type} {m : Minimiser U S T ι τ} {session : Session S T ι τ} {best : Minimum S T}

theorem budgetSpent_timeless (htime : (m.settings.maxShrinkTime == 0) = true) (iterations : Nat) (started : Float) :
    m.budgetSpent iterations started =
      pure (decide (m.settings.maxShrinkIters ≠ 0 ∧ m.settings.maxShrinkIters ≤ iterations)) := by
  unfold budgetSpent outOfTime
  rw [if_pos htime]
  split
  · rename_i h
    rw [decide_eq_true h]
  · rename_i h
    rw [decide_eq_false h]

variable [Datum T]

def opened (m : Minimiser U S T ι τ) (failure : Option Outcome) : Act (Session S T ι τ) (Minimum S T) := do
  let _ ← m.now
  let c ← current
  let outcome ← m.settle c failure
  dropTail outcome
  let smaller ← current
  pure { candidate := smaller, outcome := outcome, startLength := c.transitions.length }

variable [BEq S] [BEq T]

def search (m : Minimiser U S T ι τ) (fuel : Nat) (best : Minimum S T) :
    Act (Session S T ι τ) (Option (Minimum S T)) :=
  if best.reproduced then m.reduce 0 (fuelFor m.settings fuel) best else pure (some best)

theorem reduce_timeless (htime : (m.settings.maxShrinkTime == 0) = true) (started started' : Float) (fuel : Nat)
    (best : Minimum S T) : m.reduce started fuel best = m.reduce started' fuel best := by
  induction fuel generalizing best with
  | zero => rfl
  | succ fuel ih =>
    unfold reduce
    simp only [budgetSpent_timeless htime, ih]

theorem minimiseFailure_timeless (htime : (m.settings.maxShrinkTime == 0) = true) (fuel : Nat) (started : Float)
    (startLength : Nat) (failure : Outcome) (session : Session S T ι τ) :
    (m.minimiseFailure fuel started startLength failure session).answer.map (Option.map Minimum.timeless) =
      ((dropTail failure >>= fun _ => current >>= fun best => m.reduce 0 (fuelFor m.settings fuel)
        { candidate := best, outcome := failure, startLength := startLength }) session).answer.map
          (Option.map Minimum.timeless) := by
  unfold minimiseFailure
  refine Act.answer_bind_congr ((Act.yields_trivial _ _).mono (fun _ session' _ => ?_) fun _ _ _ => trivial)
  refine Act.answer_bind_congr ((Act.yields_trivial _ _).mono (fun best session'' _ => ?_) fun _ _ _ => trivial)
  rw [m.reduce_timeless htime started 0, Act.answer_bind]
  generalize m.reduce 0 (fuelFor m.settings fuel) _ session'' = r
  cases r.answer with
  | error e => rfl
  | ok best? => cases best? <;> rfl

theorem minimise_timeless (htime : (m.settings.maxShrinkTime == 0) = true) (fuel : Nat) (failure : Option Outcome)
    (session : Session S T ι τ) :
    (m.minimise fuel failure session).answer.map (Option.map Minimum.timeless) =
      ((m.opened failure >>= m.search fuel) session).answer.map (Option.map Minimum.timeless) := by
  rw [minimise_eq, opened]
  simp only [bind_assoc, pure_bind]
  rw [now, current]
  refine Act.answer_bind_congr ?_
  rw [Act.yields_ofMove]
  refine Act.answer_bind_congr ?_
  rw [Act.yields_ofMove]
  refine Act.answer_bind_congr ((m.settle_value ..).mono (fun outcome session' hvalue => ?_) fun _ _ _ => trivial)
  cases outcome with
  | pass =>
    have hcurrent : session'.value.current = session.value.current := congrArg Sequence.current hvalue
    let best (c : Candidate S T) : Minimum S T :=
      { candidate := c, outcome := .pass, startLength := session.value.current.transitions.length }
    show Except.ok (some (best session.value.current).timeless) =
      Except.ok (some (best session'.value.current).timeless)
    rw [hcurrent]
  | fail index cause => exact minimiseFailure_timeless htime fuel _ _ _ session'

end Minimiser
end StateCheck
