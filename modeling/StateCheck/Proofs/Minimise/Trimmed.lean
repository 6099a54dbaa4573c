import StateCheck.Proofs.Minimise.Failure
import StateCheck.Proofs.Minimise.Tail
import StateCheck.Proofs.Replay.Prefixes

/-! What is left after the failing transition is what the minimum asks for, since every failure that is kept loses
its tail at once and every other reduction is taken back as a whole. -/

namespace StateCheck
variable {U S T ι τ : Type}

def Bench.TornDown (b : Bench U S T) (c : Candidate S T) (cause : Fault) : Prop :=
  ∃ u s, b.reached c.initial c.transitions = .through u s ∧ b.adapter.teardown u s = .error cause

theorem Bench.torn_down [Datum T] {b : Bench U S T} {c : Candidate S T} {cause : Fault}
    (h : b.outcome c = .ok (.fail c.transitions.length cause)) : b.TornDown c cause := by
  obtain ⟨u, s, hthrough⟩ := through_of_outcome h (.inr ⟨cause, rfl⟩)
  refine ⟨u, s, hthrough, ?_⟩
  rw [outcome_of_accepts (accepts_of_outcome h), hthrough, concluded] at h
  split at h
  · cases h
  · split at h
    · cases h
    · cases h
      assumption

namespace Sequence
variable {f : Shape S T} {minSize start : Int} {total : Nat}

theorem Sized.length_current {v : Sequence S T ι τ} (hv : v.Sized) : (v.current.transitions.length : Int) = v.length := by
  have hnonneg := hv.nonneg
  have hle := hv.le
  have hcount := v.length_transitions
  show ((before v.length v.transitions).length : Int) = v.length
  rw [before, if_pos hnonneg, List.length_take]
  omega

namespace Shape.Within

theorem length_current (h : f.Within minSize total start) (hmin : 0 ≤ minSize) (hstart : 0 ≤ start ∧ start ≤ total) :
    (f.current.transitions.length : Int) = f.length := by
  have hcount := h.count
  have hrange := h.range
  show ((before f.length f.transitions).length : Int) = f.length
  rw [before, if_pos (by omega), List.length_take]
  omega

theorem trimmed (h : f.Within minSize total start) (hmin : 0 ≤ minSize) (hstart : 0 ≤ start ∧ start ≤ total)
    {index : Int} (hindex : index < f.current.transitions.length) (htrimmed : f.length ≤ max (index + 1) minSize) :
    (f.current.transitions.length : Int) = max (index + 1) (min minSize start) := by
  have hlength := h.length_current hmin hstart
  have hrange := h.range
  omega

end Shape.Within
end Sequence

namespace Minimiser
variable [Datum T] [BEq S] [BEq T] {m : Minimiser U S T ι τ} {session : Session S T ι τ} {best : Minimum S T}

/-- Whatever the budget: the failure that is found either is one of the teardown, at the end, or is followed by no
transition that the minimum does not ask for. -/
theorem minimise_trims (hsized : session.value.Sized) {fuel : Nat} {failure : Option Outcome}
    (hfailure : ∀ outcome ∈ failure, m.bench.outcome session.value.current = .ok outcome)
    (hfails : ∃ index cause, m.bench.outcome session.value.current = .ok (.fail index cause))
    (hanswer : (m.minimise fuel failure session).answer = .ok (some best)) :
    ∃ index cause, best.outcome = .fail index cause ∧
      let length : Int := best.candidate.transitions.length
      (index = length ∧ m.bench.TornDown best.candidate cause ∨
        index < length ∧ length = max (index + 1) (min session.value.minSize best.startLength)) := by
  obtain ⟨first, cause, hfirst⟩ := hfails
  obtain ⟨outcome, houtcome, hend⟩ := ends_of_minimise hfailure hanswer
  rw [hfirst] at houtcome
  cases houtcome
  obtain ⟨index, cause, hbest, -⟩ := hend.fails
  refine ⟨index, cause, hbest, ?_⟩
  have hreplayed : m.bench.outcome best.candidate = .ok (.fail index cause) := hbest ▸ hend.outcome
  have hbounds := Bench.outcome_fail_bounds hreplayed
  rcases Int.lt_or_eq_of_le hbounds.2 with hlt | hend'
  · right
    refine ⟨hlt, ?_⟩
    have hstart : (best.startLength : Int) = session.value.length := by
      rw [hend.startLength, hsized.length_current]
    have htrimmed := hend.trimmed index cause hbest
    rw [hend.minSize] at htrimmed
    have hcurrent := (Sequence.current_shape _).trans hend.shown
    rw [← hcurrent] at hlt ⊢
    rw [hstart]
    exact hend.shape.trimmed hsized.minSize ⟨hsized.nonneg, hsized.le⟩ hlt htrimmed
  · left
    refine ⟨hend', ?_⟩
    rw [hend'] at hreplayed
    exact Bench.torn_down hreplayed

theorem minimise_pads_purse :
    let session : Session Nat Bool Unit Search :=
      { value := .start () 1 [⟨.start 1 0, true⟩, ⟨.start 0 0, false⟩, ⟨.start 0 0, false⟩] 2 }
    ∃ best : Minimum Nat Bool, (purseMinimiser.minimise 8 none session).answer = .ok (some best) ∧
      best.candidate = ⟨1, [true, false]⟩ ∧
      ∃ index cause, best.outcome = .fail index cause ∧ (2 : Int) = max (index + 1) (min 2 best.startLength) := by
  intro session
  have hsized : session.value.Sized := ⟨by decide, by decide, by decide⟩
  have hfailure : ∀ outcome ∈ (none : Option Outcome),
      purseMinimiser.bench.outcome session.value.current = .ok outcome := nofun
  have hfails : ∃ index cause, purseMinimiser.bench.outcome session.value.current = .ok (.fail index cause) :=
    ⟨0, _, rfl⟩
  have hanswer : (purseMinimiser.minimise 8 none session).answer = .ok (some _) := rfl
  obtain ⟨index, cause, hbest, hend⟩ := minimise_trims hsized hfailure hfails hanswer
  refine ⟨_, rfl, rfl, index, cause, hbest, ?_⟩
  rcases hend with ⟨hindex, -⟩ | ⟨-, hlength⟩
  · cases hbest
    cases hindex
  · exact hlength

/-- Under a negative minimum a deletion counts from the end and shows a coin again that was dropped before. -/
theorem padding_below_zero :
    let session : Session Nat Bool Unit Search :=
      { value := .start () 1 [⟨.start 0 0, true⟩, ⟨.start 0 0, true⟩] (-1) }
    (∃ cause, brokenMinimiser.bench.outcome session.value.current = .ok (.fail (-1) cause)) ∧
    ∃ best : Minimum Nat Bool, (brokenMinimiser.minimise 8 none session).answer = .ok (some best) ∧
      (∃ cause, best.outcome = .fail (-1) cause) ∧
      let length : Int := best.candidate.transitions.length
      ¬(-1 = length ∨ -1 < length ∧ length = max (-1 + 1) (min (-1) (best.startLength : Int))) := by
  refine ⟨⟨_, rfl⟩, _, rfl, ⟨_, rfl⟩, ?_⟩
  decide

end Minimiser
end StateCheck
