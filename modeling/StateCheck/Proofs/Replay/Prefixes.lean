import StateCheck.Proofs.Minimise.Failure

/-! Replays of the prefixes of one candidate. The steps up to the teardown decide at which transition a replay
stops, so it stops there in every prefix that is long enough, whatever the teardown does. -/

namespace StateCheck.Bench
variable {U S T : Type} {b b' : Bench U S T} {c : Candidate S T}

/-- Nothing differs but the teardown, and what is logged. -/
structure SameUntilTeardown (b b' : Bench U S T) : Prop where
  rules : b'.rules = b.rules
  init : b'.adapter.init = b.adapter.init
  apply : b'.adapter.apply = b.adapter.apply
  check : b'.adapter.check = b.adapter.check

theorem SameUntilTeardown.advanced (h : b.SameUntilTeardown b') (position : Nat) (u : U) (s : S) (ts : List T) :
    b'.advanced position u s ts = b.advanced position u s ts := by
  induction ts generalizing position u s with
  | nil => rfl
  | cons t rest ih => simp only [Bench.advanced, h.rules, h.apply, h.check, ih]

theorem SameUntilTeardown.reached (h : b.SameUntilTeardown b') (s : S) (ts : List T) :
    b'.reached s ts = b.reached s ts := by
  simp only [Bench.reached, h.init, h.check, h.advanced]

theorem advanced_of_take {position n : Nat} {u : U} {s : S} {ts : List T} {index : Int} {u' : Option U} {s' : S}
    {e : Fault} (h : b.advanced position u s (ts.take n) = .stopped index u' s' e) :
    b.advanced position u s ts = .stopped index u' s' e := by
  have happend := b.advanced_append position u s (ts.take n) (ts.drop n)
  rw [List.take_append_drop, h] at happend
  exact happend

theorem reached_of_take {n : Nat} {s : S} {ts : List T} {index : Int} {u' : Option U} {s' : S} {e : Fault}
    (h : b.reached s (ts.take n) = .stopped index u' s' e) : b.reached s ts = .stopped index u' s' e := by
  unfold Bench.reached at h ⊢
  split at h
  · exact h
  · split at h
    · exact h
    · exact advanced_of_take h

theorem reached_through_before {s : S} {ts : List T} {index : Int} {u' : Option U} {s' : S} {e : Fault}
    (h : b.reached s ts = .stopped index u' s' e) {k : Nat} (hk : k ≤ index) :
    ∃ u s'', b.reached s (ts.take k) = .through u s'' := by
  cases hfront : b.reached s (ts.take k) with
  | through u s'' => exact ⟨u, s'', rfl⟩
  | stopped index' u'' s'' e' =>
    have hwhole := reached_of_take hfront
    rw [h] at hwhole
    cases hwhole
    have hbounds := reached_stopped hfront
    rw [List.length_take] at hbounds
    omega

theorem reached_through_take {s : S} {ts : List T} {u : U} {s' : S} (h : b.reached s ts = .through u s')
    (k : Nat) : ∃ u' s'', b.reached s (ts.take k) = .through u' s'' := by
  cases hfront : b.reached s (ts.take k) with
  | through u' s'' => exact ⟨u', s'', rfl⟩
  | stopped index u'' s'' e' =>
    rw [reached_of_take hfront] at h
    cases h

theorem concluded_through (hcontained : b.adapter.Contained) (total : Nat) (u : U) (s : S) :
    b.concluded total (.through u s) = match b.adapter.teardown u s with
      | .ok () => .ok .pass
      | .error e => .ok (.fail total e) := by
  rw [concluded]
  cases hteardown : b.adapter.teardown u s with
  | ok _ => rfl
  | error e =>
    have hstays := hcontained.teardown u s e hteardown
    simp [hstays]

theorem concluded_stopped (hcontained : b.adapter.Contained) (total : Nat) (index : Int) (u : Option U) (s : S)
    {e : Fault} (he : e.escapes = false) : b.concluded total (.stopped index u s e) = .ok (.fail index e) := by
  rw [concluded, he, if_neg Bool.false_ne_true, keptBy]
  cases u with
  | none => rfl
  | some u =>
    dsimp only [Option.map_some]
    cases hteardown : b.adapter.teardown u s with
    | ok _ => rfl
    | error e' =>
      have hstays := hcontained.teardown u s e' hteardown
      simp [hstays]

theorem outcome_of_stopped {total : Nat} {index : Int} {u : Option U} {s : S} {e : Fault} {outcome : Outcome}
    (h : b.concluded total (.stopped index u s e) = .ok outcome) : e.escapes = false ∧ outcome = .fail index e := by
  rw [concluded] at h
  cases hescapes : e.escapes with
  | true =>
    rw [hescapes] at h
    cases h
  | false =>
    rw [hescapes, if_neg Bool.false_ne_true, keptBy] at h
    split at h
    · split at h
      · cases h
      · cases h
        exact ⟨rfl, rfl⟩
    · cases h
      exact ⟨rfl, rfl⟩

variable [Datum T]

theorem stopped_of_fail {i : Int} {e : Fault} (h : b.outcome c = .ok (.fail i e)) (hi : i < c.transitions.length) :
    e.escapes = false ∧ ∃ u s, b.reached c.initial c.transitions = .stopped i u s e := by
  rw [outcome_of_accepts (accepts_of_outcome h)] at h
  rcases concluded_fail h with ⟨u, s, hstopped⟩ | ⟨rfl, -⟩
  · rw [hstopped] at h
    exact ⟨(outcome_of_stopped h).1, u, s, hstopped⟩
  · exact absurd hi (Int.lt_irrefl _)

theorem through_of_outcome {outcome : Outcome} (h : b.outcome c = .ok outcome)
    (hend : outcome = .pass ∨ ∃ e, outcome = .fail c.transitions.length e) :
    ∃ u s, b.reached c.initial c.transitions = .through u s := by
  rw [outcome_of_accepts (accepts_of_outcome h)] at h
  cases hreached : b.reached c.initial c.transitions with
  | through u s => exact ⟨u, s, rfl⟩
  | stopped index u s e =>
    have hbounds := reached_stopped hreached
    rw [hreached] at h
    obtain ⟨-, rfl⟩ := outcome_of_stopped h
    rcases hend with hpass | ⟨e', hfail⟩
    · cases hpass
    · cases hfail
      omega

def EndsWithTeardown (b : Bench U S T) (c : Candidate S T) (k : Nat) : Prop :=
  ∃ u s, b.reached c.initial (c.transitions.take k) = .through u s ∧
    b.outcome ⟨c.initial, c.transitions.take k⟩ = match b.adapter.teardown u s with
      | .ok () => .ok .pass
      | .error e => .ok (.fail k e)

theorem ends_with_teardown (hcontained : b.adapter.Contained)
    (haccepts : b.rules.Accepts c.initial c.transitions) {k : Nat} (hk : k ≤ c.transitions.length)
    (hthrough : ∃ u s, b.reached c.initial (c.transitions.take k) = .through u s) : b.EndsWithTeardown c k := by
  obtain ⟨u, s, hthrough⟩ := hthrough
  have houtcome := outcome_of_accepts (b := b) (c := ⟨c.initial, c.transitions.take k⟩) (haccepts.take k)
  rw [hthrough, concluded_through hcontained, List.length_take, Nat.min_eq_left hk] at houtcome
  exact ⟨u, s, hthrough, houtcome⟩

/-- A step that fails under one teardown fails under any other, in all prefixes that reach it and in none before
it. If no step fails, only the teardown can make a prefix fail. -/
theorem replays_of_prefixes_agree (hsame : b.SameUntilTeardown b') (hcontained : b.adapter.Contained)
    (hcontained' : b'.adapter.Contained) (haccepts : b.rules.Accepts c.initial c.transitions) :
    (∃ outcome, b.outcome c = .ok outcome) ∧
    (∀ i e, b.outcome c = .ok (.fail i e) → i < c.transitions.length → ∀ k ≤ c.transitions.length,
      (i < k → b'.outcome ⟨c.initial, c.transitions.take k⟩ = .ok (.fail i e)) ∧
      (k ≤ i → b'.EndsWithTeardown c k)) ∧
    (∀ outcome, b.outcome c = .ok outcome → (outcome = .pass ∨ ∃ e, outcome = .fail c.transitions.length e) →
      ∀ k ≤ c.transitions.length, b'.EndsWithTeardown c k) := by
  have haccepts' : b'.rules.Accepts c.initial c.transitions := hsame.rules ▸ haccepts
  refine ⟨outcome_contained hcontained haccepts, ?_, ?_⟩
  · intro i e hfails hi k hk
    obtain ⟨hstays, u, s, hstopped⟩ := stopped_of_fail hfails hi
    rw [← hsame.reached] at hstopped
    constructor
    · intro hik
      have hpart := outcome_of_accepts (b := b') (c := ⟨c.initial, c.transitions.take k⟩) (haccepts'.take k)
      rw [hpart, reached_take hstopped hik]
      exact concluded_stopped hcontained' _ _ _ _ hstays
    · intro hki
      exact ends_with_teardown hcontained' haccepts' hk (reached_through_before hstopped hki)
  · intro outcome houtcome hend k hk
    obtain ⟨u, s, hthrough⟩ := through_of_outcome houtcome hend
    rw [← hsame.reached] at hthrough
    exact ends_with_teardown hcontained' haccepts' hk (reached_through_take hthrough k)

def stuckBench : Bench Nat Nat Bool :=
  { Minimiser.purseMinimiser.bench with
    adapter := { Minimiser.purseMinimiser.bench.adapter with
      teardown := fun _ _ => .error (.ofText .runtime "stuck") } }

theorem stuck_adapter_contained : stuckBench.adapter.Contained where
  init := Minimiser.purse_adapter_contained.init
  apply := Minimiser.purse_adapter_contained.apply
  check := Minimiser.purse_adapter_contained.check
  teardown u s e he := by
    cases he
    rfl

theorem replays_of_purse_prefixes_agree :
    Minimiser.purseMinimiser.bench.outcome ⟨1, [false, true, true]⟩ =
      .ok (.fail 2 (.ofText .assertion "torn")) ∧
    stuckBench.outcome ⟨1, [false, true, true]⟩ = .ok (.fail 2 (.ofText .assertion "torn")) ∧
    stuckBench.outcome ⟨1, [false]⟩ = .ok (.fail 1 (.ofText .runtime "stuck")) := by
  have hsame : Minimiser.purseMinimiser.bench.SameUntilTeardown stuckBench := ⟨rfl, rfl, rfl, rfl⟩
  have haccepts : Minimiser.purseMinimiser.bench.rules.Accepts 1 [false, true, true] :=
    ⟨rfl, _, rfl, rfl, _, rfl, rfl, _, rfl, trivial⟩
  have hfails : Minimiser.purseMinimiser.bench.outcome ⟨1, [false, true, true]⟩ =
      .ok (.fail 2 (.ofText .assertion "torn")) := rfl
  have hparts := replays_of_prefixes_agree hsame Minimiser.purse_adapter_contained stuck_adapter_contained
    (c := ⟨1, [false, true, true]⟩) haccepts
  have hstops := hparts.2.1 2 _ hfails (by decide)
  obtain ⟨u, s, hthrough, hends⟩ := (hstops 1 (by decide)).2 (by decide)
  exact ⟨hfails, (hstops 3 (by decide)).1 (by decide), hends⟩

end StateCheck.Bench
