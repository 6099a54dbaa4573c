import StateCheck.Proofs.Minimise.Rounds
import StateCheck.Proofs.Sequence.Moves

/-! A failure is not lost by minimising it, whatever the trees, the budget and the clock. -/

namespace StateCheck
variable {U S T ι τ : Type}

theorem Sequence.Shape.Within.current_le {minSize start : Int} {total : Nat} {f : Shape S T}
    (h : f.Within minSize total start) {ts : List T} (hts : ts.length = total)
    (hstart : 0 ≤ minSize ∨ total ≤ start) :
    f.current.transitions.length ≤ (before start ts).length := by
  have hcount := h.count
  have hbefore := length_before_le f.length f.transitions
  rcases h.range with hlength | ⟨hmin, hlt⟩
  · simp only [Shape.current, before, hlength]
    split <;> simp [hts, hcount]
  · rcases hstart with hmin' | hfull
    · simp only [Shape.current, before, if_pos (show 0 ≤ f.length by omega),
        if_pos (show 0 ≤ start by omega), List.length_take]
      omega
    · have htake : (before start ts).length = total := by
        rw [before, if_pos (by omega), List.length_take]
        omega
      rw [htake, ← hcount]
      exact hbefore

/-- The minimum of a sequence that failed at `index`, and that minimising made `after` of: its candidate is
accepted and fails no later, just as was found. -/
structure Minimum.Reproduces [Datum T] (best : Minimum S T) (b : Bench U S T) (index : Int)
    (first after : Sequence S T ι τ) : Prop where
  valid : b.rules.Accepts best.candidate.initial best.candidate.transitions
  replayed : b.outcome best.candidate = .ok best.outcome
  fails : ∃ index' cause, best.outcome = .fail index' cause ∧ index' ≤ index
  shown : after.current = best.candidate
  counted : best.iterations = best.accepted + best.rejected
  start : best.startLength = first.current.transitions.length
  length_le : best.candidate.transitions.length ≤ first.entries.length
  /-- A negative minimum lets deletions show transitions that an earlier truncation had dropped. -/
  shorter : 0 ≤ first.minSize ∨ first.entries.length ≤ first.length →
    best.candidate.transitions.length ≤ best.startLength

namespace Minimiser
variable {m : Minimiser U S T ι τ} {session : Session S T ι τ} {best : Minimum S T}

theorem keeps_within [Datum T] [BEq S] [BEq T] (m : Minimiser U S T ι τ) (minSize : Int) (total : Nat)
    (start : Int) : m.Keeps (fun _ => True) (fun _ => True) (fun _ => True) minSize
      (Sequence.Shape.Within minSize total start) where
  tame := m.shrinker.tame_of_anything
  reduces h hreduces := h.reduces hreduces
  cut h _ hmin hlt := h.cut hmin hlt
  replay _ _ := trivial

theorem ends_of_minimise [Datum T] [BEq S] [BEq T] {fuel : Nat} {failure : Option Outcome}
    (hfailure : ∀ outcome ∈ failure, m.bench.outcome session.value.current = .ok outcome)
    (hanswer : (m.minimise fuel failure session).answer = .ok (some best)) :
    ∃ outcome, m.bench.outcome session.value.current = .ok outcome ∧
      Ends m (fun _ => True) (fun _ => True) session.value.minSize
        (Sequence.Shape.Within session.value.minSize session.value.entries.length session.value.length) session.value
        (m.minimise fuel failure session).state.value best outcome := by
  have hkeeps := m.keeps_within session.value.minSize session.value.entries.length session.value.length
  have hends := minimise_yields hkeeps fuel ⟨trivial, fun _ _ => trivial⟩ rfl
    ⟨Sequence.length_transitions _, .inl rfl⟩ hfailure
  exact hends.of_ok hanswer best rfl

/-- Minimising ends with a candidate that reproduces the failure it was given, and with the sequence showing
it; a sequence that passes is left alone. -/
theorem minimise_keeps_failure [Datum T] [BEq S] [BEq T] {fuel : Nat} {failure : Option Outcome}
    (hfailure : ∀ outcome ∈ failure, m.bench.outcome session.value.current = .ok outcome)
    (hanswer : (m.minimise fuel failure session).answer = .ok (some best)) :
    ∃ outcome, m.bench.outcome session.value.current = .ok outcome ∧
      let after := (m.minimise fuel failure session).state.value
      match outcome with
      | .pass => best.candidate = session.value.current ∧ best.outcome = .pass ∧ best.iterations = 0 ∧
          after = session.value
      | .fail index _ => best.Reproduces m.bench index session.value after := by
  obtain ⟨outcome, houtcome, hend⟩ := ends_of_minimise hfailure hanswer
  refine ⟨outcome, houtcome, ?_⟩
  cases outcome with
  | pass => exact hend
  | fail index cause =>
    have hcurrent := Sequence.current_shape _ |>.trans hend.shown
    refine ⟨Bench.accepts_of_outcome hend.outcome, hend.outcome, hend.fails, hend.shown, hend.counted,
      hend.startLength, ?_, fun hstart => ?_⟩
    · rw [← hcurrent, ← hend.shape.count]
      exact length_before_le _ _
    · rw [hend.startLength, ← hcurrent]
      exact hend.shape.current_le (Sequence.length_transitions _) hstart

def purseSettings : Settings where
  cases := 1
  minSize := 1
  maxSize := 1
  maxPreconditionRetries := 1
  maxUnfillableSlots := 1
  maxGenerationAttempts := 1
  cases_pos := Nat.one_pos
  maxPreconditionRetries_pos := Nat.one_pos
  maxUnfillableSlots_pos := Nat.one_pos
  maxGenerationAttempts_pos := Nat.one_pos
  minSize_le_maxSize := Nat.one_pos

def purseMinimiser : Minimiser Nat Nat Bool Unit Search where
  bench :=
    { rules := Sequence.purse
      adapter :=
        { init := .ok
          apply := fun _ coins _ => .ok coins
          check := fun coins _ => if 2 ≤ coins then .error (.ofText .assertion "torn") else .ok ()
          teardown := fun _ _ => .ok () } }
  shrinker := Sequence.purseShrinker
  settings := purseSettings
  clock _ := 0

theorem purse_adapter_contained : purseMinimiser.bench.adapter.Contained where
  init := nofun
  apply := nofun
  check u s e he := by
    by_cases htorn : 2 ≤ u
    · have hcheck : purseMinimiser.bench.adapter.check u s = .error (.ofText .assertion "torn") := if_pos htorn
      rw [hcheck] at he
      cases he
      rfl
    · have hcheck : purseMinimiser.bench.adapter.check u s = .ok () := if_neg htorn
      rw [hcheck] at he
      cases he
  teardown := nofun

def sumMinimiser : Minimiser Int Int Int Unit Search where
  bench :=
    { rules := Sequence.adder
      adapter :=
        { init := .ok
          apply := fun sum _ n => .ok (sum + n)
          check := fun sum _ => if 11 ≤ sum then .error (.ofText .assertion "broken") else .ok ()
          teardown := fun _ _ => .ok () } }
  shrinker := ⟨Sequence.adder, .fixed 0, Search.tree⟩
  settings := { purseSettings with maxShrinkIters := 4 }
  clock _ := 0

def sums : Session Int Int Unit Search where
  value := .start () 0 [⟨.start 8 0, 8⟩, ⟨.start 5 0, 5⟩, ⟨.start 7 0, 7⟩] 1

/-- The seven is dropped. Leaving the five out is undone, and so is halving the eight, which is retried as a six and
kept; a five in its place is undone. The limit is reached when the other five was halved, and not replayed yet. -/
theorem minimise_keeps_sum_failure : ∃ best : Minimum Int Int,
    (sumMinimiser.minimise 8 none sums).answer = .ok (some best) ∧ best.candidate = ⟨0, [6, 5]⟩ ∧
    best.accepted = 1 ∧ best.rejected = 3 ∧ best.timedOut = true ∧
    best.Reproduces sumMinimiser.bench 1 sums.value (sumMinimiser.minimise 8 none sums).state.value := by
  have hfailure : ∀ outcome ∈ (none : Option Outcome), sumMinimiser.bench.outcome sums.value.current = .ok outcome :=
    nofun
  have hends : (sumMinimiser.minimise 8 none sums).answer.toOption.join.map (fun best =>
      (best.candidate.initial, best.candidate.transitions, best.accepted, best.rejected, best.timedOut)) =
      some (0, [6, 5], 1, 3, true) := by decide +kernel
  obtain ⟨best, hanswer, hbest⟩ := exists_of_found hends
  obtain ⟨hinitial, htransitions, haccepted, hrejected, htimedOut⟩ := by simpa only [Prod.mk.injEq] using hbest
  obtain ⟨outcome, houtcome, hend⟩ := minimise_keeps_failure hfailure hanswer
  obtain rfl : .fail 1 (.ofText .assertion "broken") = outcome := Except.ok.inj houtcome
  have hcandidate : best.candidate = ⟨0, [6, 5]⟩ := by rw [← hinitial, ← htransitions]
  exact ⟨best, hanswer, hcandidate, haccepted, hrejected, htimedOut, hend⟩

def brokenMinimiser : Minimiser Nat Nat Bool Unit Search :=
  { purseMinimiser with bench.adapter.check := fun _ _ => .error (.ofText .assertion "broken") }

/-- Both coins were dropped before. Under a negative minimum a deletion counts from the end and shows one again. -/
theorem candidate_grows_below_zero :
    let dropped := Act.each (Sequence.Move.perform Sequence.purseShrinker) [.truncate 0]
      (.start () 1 [⟨.start 0 0, true⟩, ⟨.start 0 0, true⟩] (-1))
    let session : Session Nat Bool Unit Search := { value := dropped.state }
    brokenMinimiser.shrinker.Total ∧
    (∃ cause, brokenMinimiser.bench.outcome session.value.current = .ok (.fail (-1) cause)) ∧
    ∃ best : Minimum Nat Bool, (brokenMinimiser.minimise 8 none session).answer = .ok (some best) ∧
      ¬best.candidate.transitions.length ≤ best.startLength := by
  refine ⟨Sequence.purseShrinker_total, ⟨_, rfl⟩, _, rfl, ?_⟩
  decide

end Minimiser
end StateCheck
