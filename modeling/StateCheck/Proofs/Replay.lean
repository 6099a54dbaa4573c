import StateCheck.Replay
import StateCheck.Proofs.Accepts

/-! The outcome of a replay as a function of the candidate. How far a replay gets depends on the
transitions it runs only, so the transitions after a failing one may be dropped. -/

namespace StateCheck

namespace Adapter
variable {U S T : Type} {adapter : Adapter U S T}

structure Contained (adapter : Adapter U S T) : Prop where
  init : ∀ s e, adapter.init s = .error e → e.escapes = false
  apply : ∀ u s t e, adapter.apply u s t = .error e → e.escapes = false
  check : ∀ u s e, adapter.check u s = .error e → e.escapes = false
  teardown : ∀ u s e, adapter.teardown u s = .error e → e.escapes = false

inductive Raises (adapter : Adapter U S T) (e : Fault) : Prop
  | init {s : S} (h : adapter.init s = .error e)
  | apply {u : U} {s : S} {t : T} (h : adapter.apply u s t = .error e)
  | check {u : U} {s : S} (h : adapter.check u s = .error e)
  | teardown {u : U} {s : S} (h : adapter.teardown u s = .error e)

def Interrupts (adapter : Adapter U S T) (e : Fault) : Prop := e.escapes = true ∧ adapter.Raises e

theorem Contained.not_interrupts (h : adapter.Contained) (e : Fault) : ¬adapter.Interrupts e := by
  rintro ⟨hescapes, hraises⟩
  have hnot : e.escapes = false := by
    cases hraises with
    | init he => exact h.init _ _ he
    | apply he => exact h.apply _ _ _ _ he
    | check he => exact h.check _ _ _ he
    | teardown he => exact h.teardown _ _ _ he
  rw [hnot] at hescapes
  cases hescapes

end Adapter

namespace Bench
variable {U S T : Type} {b : Bench U S T}

/-- What a replay answers; it starts anew each time. -/
def outcome [Datum T] (b : Bench U S T) (c : Candidate S T) : Except Fault Outcome := (b.replay c []).answer

def advanced (b : Bench U S T) : Nat → U → S → List T → Progress U S
  | _, u, s, [] => .through u s
  | position, u, s, t :: rest =>
    match b.rules.apply s t with
    | .error e => .stopped position (some u) s e
    | .ok s' =>
      match b.adapter.apply u s' t with
      | .error e => .stopped position (some u) s' e
      | .ok u' =>
        match b.adapter.check u' s' with
        | .error e => .stopped position (some u') s' e
        | .ok () => advanced b (position + 1) u' s' rest

def reached (b : Bench U S T) (s : S) (ts : List T) : Progress U S :=
  match b.adapter.init s with
  | .error e => .stopped (-1) none s e
  | .ok u =>
    match b.adapter.check u s with
    | .error e => .stopped (-1) (some u) s e
    | .ok () => b.advanced 0 u s ts

theorem answer_logIf (note : Note) (calls : Calls S T) : (b.logIf note calls).answer = .ok () := by
  unfold logIf
  split <;> rfl

theorem answer_call {α : Type} (c : Call S T) (given : Except Fault α) (calls : Calls S T) :
    (call c given calls).answer = .ok given := rfl

theorem answer_advance [Datum T] (total position : Nat) (u : U) (s : S) (ts : List T)
    (calls : Calls S T) :
    (b.advance total position u s ts calls).answer = .ok (b.advanced position u s ts) := by
  induction ts generalizing position u s calls with
  | nil => rfl
  | cons t rest ih =>
    unfold advance advanced
    rw [Act.answer_bind, answer_logIf]
    cases b.rules.apply s t with
    | error e => rfl
    | ok s' =>
      dsimp only
      rw [Act.answer_bind, answer_call]
      cases b.adapter.apply u s' t with
      | error e => rfl
      | ok u' =>
        dsimp only
        rw [Act.answer_bind, answer_call]
        cases b.adapter.check u' s' with
        | error e => rfl
        | ok _ => exact ih ..

theorem answer_progress [Datum T] (c : Candidate S T) (calls : Calls S T) :
    (b.progress c calls).answer = .ok (b.reached c.initial c.transitions) := by
  unfold progress reached
  rw [Act.answer_bind, answer_call]
  cases b.adapter.init c.initial with
  | error e => rfl
  | ok u =>
    dsimp only
    rw [Act.answer_bind, answer_call]
    cases b.adapter.check u c.initial with
    | error e => rfl
    | ok _ => exact answer_advance ..

def keptBy (b : Bench U S T) (u : Option U) (s : S) (failure : Outcome) : Except Fault Outcome :=
  match u.map fun u => b.adapter.teardown u s with
  | some (.error e) => if e.escapes then .error e else .ok failure
  | _ => .ok failure

def concluded (b : Bench U S T) (total : Nat) : Progress U S → Except Fault Outcome
  | .through u s =>
    match b.adapter.teardown u s with
    | .ok () => .ok .pass
    | .error e => if e.escapes then .error e else .ok (.fail total e)
  | .stopped index u s e => if e.escapes then .error e else b.keptBy u s (.fail index e)

theorem answer_teardownAfter (u : U) (s : S) (calls : Calls S T) : (b.teardownAfter u s calls).answer =
    match b.adapter.teardown u s with
    | .ok () => .ok ()
    | .error e => if e.escapes then .error e else .ok () := by
  unfold teardownAfter
  rw [Act.answer_bind, answer_call]
  cases b.adapter.teardown u s with
  | ok _ => rfl
  | error e =>
    dsimp only
    split <;> rfl

theorem answer_finish (total : Nat) (p : Progress U S) (calls : Calls S T) :
    (b.finish total p calls).answer = b.concluded total p := by
  cases p with
  | through u s =>
    rw [finish, concluded, Act.answer_bind, answer_call]
    cases b.adapter.teardown u s with
    | ok _ => rfl
    | error e =>
      dsimp only
      split <;> rfl
  | stopped index u s e =>
    rw [finish, concluded]
    split
    · rfl
    · rw [Act.answer_bind, answer_logIf]
      cases u with
      | none => rfl
      | some u =>
        dsimp only [keptBy, Option.map_some]
        rw [Act.answer_bind, answer_teardownAfter]
        cases b.adapter.teardown u s with
        | ok _ => rfl
        | error e' =>
          dsimp only
          cases e'.escapes <;> rfl

theorem outcome_eq [Datum T] (c : Candidate S T) : b.outcome c =
    match b.rules.firstInvalid c.initial c.transitions 0 with
    | .error e => .error e
    | .ok (some position) =>
      .error (.preconditionViolated (.int position) ((c.transitions[position]?).elim .none datum))
    | .ok none => b.concluded c.transitions.length (b.reached c.initial c.transitions) := by
  unfold outcome replay
  rw [Act.answer_bind, Act.lift_apply]
  cases b.rules.firstInvalid c.initial c.transitions 0 with
  | error e => rfl
  | ok found =>
    cases found with
    | some position => rfl
    | none =>
      dsimp only
      rw [Act.answer_bind, answer_logIf]
      dsimp only
      rw [Act.answer_bind, answer_progress]
      exact answer_finish ..

theorem accepts_of_outcome [Datum T] {c : Candidate S T} {o : Outcome} (h : b.outcome c = .ok o) :
    b.rules.Accepts c.initial c.transitions := by
  rw [outcome_eq] at h
  split at h
  · cases h
  · cases h
  · exact Rules.firstInvalid_eq_none_iff.1 ‹_›

theorem outcome_of_accepts [Datum T] {c : Candidate S T}
    (h : b.rules.Accepts c.initial c.transitions) :
    b.outcome c = b.concluded c.transitions.length (b.reached c.initial c.transitions) := by
  rw [outcome_eq, Rules.firstInvalid_eq_none_iff.2 h]

theorem advanced_append (position : Nat) (u : U) (s : S) (ts rest : List T) :
    b.advanced position u s (ts ++ rest) =
      match b.advanced position u s ts with
      | .through u' s' => b.advanced (position + ts.length) u' s' rest
      | stopped => stopped := by
  induction ts generalizing position u s with
  | nil => rfl
  | cons t ts ih =>
    rw [List.cons_append, advanced, advanced]
    cases b.rules.apply s t with
    | error e => rfl
    | ok s' =>
      dsimp only
      cases b.adapter.apply u s' t with
      | error e => rfl
      | ok u' =>
        dsimp only
        cases b.adapter.check u' s' with
        | error e => rfl
        | ok _ =>
          dsimp only
          rw [ih, List.length_cons, show position + 1 + ts.length = position + (ts.length + 1) by omega]

theorem advanced_stopped {position : Nat} {u : U} {s : S} {ts : List T} {index : Int} {u' : Option U}
    {s' : S} {e : Fault} (h : b.advanced position u s ts = .stopped index u' s' e) :
    (position : Int) ≤ index ∧ index < position + ts.length := by
  induction ts generalizing position u s with
  | nil => cases h
  | cons t rest ih =>
    rw [advanced] at h
    rw [List.length_cons]
    split at h
    · cases h
      omega
    · split at h
      · cases h
        omega
      · split at h
        · cases h
          omega
        · have := ih h
          omega

theorem advanced_take {position : Nat} {u : U} {s : S} {ts : List T} {index : Int} {u' : Option U}
    {s' : S} {e : Fault} (h : b.advanced position u s ts = .stopped index u' s' e) {n : Nat}
    (hn : index < position + n) : b.advanced position u s (ts.take n) = .stopped index u' s' e := by
  rw [← List.take_append_drop n ts, advanced_append] at h
  cases hfront : b.advanced position u s (ts.take n) with
  | stopped => rwa [hfront] at h
  | through u'' s'' =>
    -- It would have stopped among the transitions after the first `n`.
    rw [hfront] at h
    have hindex := advanced_stopped h
    rw [List.length_take] at hindex
    have hdrop := List.length_drop (i := n) (l := ts)
    omega

theorem reached_stopped {s : S} {ts : List T} {index : Int} {u' : Option U} {s' : S} {e : Fault}
    (h : b.reached s ts = .stopped index u' s' e) : -1 ≤ index ∧ index < ts.length := by
  unfold reached at h
  split at h
  · cases h
    omega
  · split at h
    · cases h
      omega
    · have := advanced_stopped h
      omega

theorem reached_take {s : S} {ts : List T} {index : Int} {u' : Option U} {s' : S} {e : Fault}
    (h : b.reached s ts = .stopped index u' s' e) {n : Nat} (hn : index < n) :
    b.reached s (ts.take n) = .stopped index u' s' e := by
  unfold reached at h ⊢
  split at h
  · exact h
  · split at h
    · exact h
    · exact advanced_take h (by omega)

theorem concluded_fail {total : Nat} {p : Progress U S} {index : Int} {e : Fault}
    (h : b.concluded total p = .ok (.fail index e)) :
    (∃ u s, p = .stopped index u s e) ∨ index = total ∧ ∃ u s, p = .through u s := by
  cases p with
  | through u s =>
    rw [concluded] at h
    split at h
    · cases h
    · split at h
      · cases h
      · cases h
        exact .inr ⟨rfl, u, s, rfl⟩
  | stopped index' u s e' =>
    rw [concluded] at h
    split at h
    · cases h
    · unfold keptBy at h
      split at h
      · split at h
        · cases h
        · cases h
          exact .inl ⟨u, s, rfl⟩
      · cases h
        exact .inl ⟨u, s, rfl⟩

theorem outcome_fail_bounds [Datum T] {c : Candidate S T} {index : Int} {e : Fault}
    (h : b.outcome c = .ok (.fail index e)) : -1 ≤ index ∧ index ≤ c.transitions.length := by
  have hconcluded := outcome_of_accepts (accepts_of_outcome h) ▸ h
  rcases concluded_fail hconcluded with ⟨u, s, hstopped⟩ | ⟨rfl, -⟩
  · have := reached_stopped hstopped
    omega
  · omega

theorem outcome_take [Datum T] {c : Candidate S T} {index : Int} {e : Fault}
    (h : b.outcome c = .ok (.fail index e)) {n : Nat} (hn : index < n) :
    b.outcome ⟨c.initial, c.transitions.take n⟩ = .ok (.fail index e) := by
  have haccepts := accepts_of_outcome h
  have hconcluded := outcome_of_accepts haccepts ▸ h
  rcases concluded_fail hconcluded with ⟨u, s, hstopped⟩ | ⟨rfl, -⟩
  · rw [hstopped] at hconcluded
    rw [outcome_of_accepts (haccepts.take n)]
    dsimp only
    rw [reached_take hstopped hn]
    exact hconcluded
  · -- Only the teardown failed, so nothing is dropped.
    rw [List.take_of_length_le (by omega)]
    exact h

theorem advanced_raises {position : Nat} {u : U} {s : S} {ts : List T} {index : Int} {u' : Option U}
    {s' : S} {e : Fault} (haccepts : b.rules.Accepts s ts)
    (h : b.advanced position u s ts = .stopped index u' s' e) : b.adapter.Raises e := by
  induction ts generalizing position u s with
  | nil => cases h
  | cons t rest ih =>
    obtain ⟨-, s'', hs'', hrest⟩ := haccepts
    rw [advanced, hs''] at h
    dsimp only at h
    split at h
    · cases h
      exact .apply ‹_›
    · split at h
      · cases h
        exact .check ‹_›
      · exact ih hrest h

theorem reached_raises {s : S} {ts : List T} {index : Int} {u' : Option U} {s' : S} {e : Fault}
    (haccepts : b.rules.Accepts s ts) (h : b.reached s ts = .stopped index u' s' e) : b.adapter.Raises e := by
  unfold reached at h
  split at h
  · cases h
    exact .init ‹_›
  · split at h
    · cases h
      exact .check ‹_›
    · exact advanced_raises haccepts h

theorem concluded_error {total : Nat} {p : Progress U S} {e : Fault} (h : b.concluded total p = .error e) :
    e.escapes = true ∧ ((∃ index u s, p = .stopped index u s e) ∨ b.adapter.Raises e) := by
  cases p with
  | through u s =>
    rw [concluded] at h
    split at h
    · cases h
    · split at h
      · cases h
        exact ⟨‹_›, .inr (.teardown ‹_›)⟩
      · cases h
  | stopped index u s e' =>
    rw [concluded] at h
    split at h
    · cases h
      exact ⟨‹_›, .inl ⟨index, u, s, rfl⟩⟩
    · unfold keptBy at h
      split at h
      · rename_i e'' hteardown
        obtain ⟨u', -, hteardown⟩ := Option.map_eq_some_iff.1 hteardown
        split at h
        · cases h
          exact ⟨‹_›, .inr (.teardown hteardown)⟩
        · cases h
      · cases h

theorem outcome_interrupts [Datum T] {c : Candidate S T} (haccepts : b.rules.Accepts c.initial c.transitions)
    {e : Fault} (h : b.outcome c = .error e) : b.adapter.Interrupts e := by
  rw [outcome_of_accepts haccepts] at h
  obtain ⟨hescapes, ⟨index, u, s, hstopped⟩ | hraises⟩ := concluded_error h
  · exact ⟨hescapes, reached_raises haccepts hstopped⟩
  · exact ⟨hescapes, hraises⟩

theorem outcome_contained [Datum T] (hadapter : b.adapter.Contained) {c : Candidate S T}
    (haccepts : b.rules.Accepts c.initial c.transitions) : ∃ o, b.outcome c = .ok o := by
  cases h : b.outcome c with
  | ok o => exact ⟨o, rfl⟩
  | error e => exact absurd (outcome_interrupts haccepts h) (hadapter.not_interrupts e)

end Bench
end StateCheck
