import StateCheck.Proofs.Replay.Prefixes

/-! What flies out of a replay. The candidate is folded twice: first to check it, and what a transition raises
there is not caught; then step by step with the system, where the same fault would have become the failure. -/

namespace StateCheck

namespace Rules
variable {S T : Type} {rules : Rules S T} {s s' : S} {t : T} {ts : List T} {i : Nat} {e : Fault}

inductive Meets (rules : Rules S T) : S → List T → Nat → S → T → Prop
  | here (s : S) (t : T) (rest : List T) : Meets rules s (t :: rest) 0 s t
  | later {s s' s'' : S} {t t' : T} {rest : List T} {i : Nat} (hallows : rules.allows s t = .ok true)
      (happly : rules.apply s t = .ok s') (hrest : Meets rules s' rest i s'' t') :
      Meets rules s (t :: rest) (i + 1) s'' t'

def Refuses (rules : Rules S T) (s : S) (ts : List T) (i : Nat) (t : T) : Prop :=
  ∃ s', rules.Meets s ts i s' t ∧ rules.allows s' t = .ok false

def Breaks (rules : Rules S T) (s : S) (ts : List T) (i : Nat) (e : Fault) : Prop :=
  ∃ s' t, rules.Meets s ts i s' t ∧ rules.allows s' t = .ok true ∧ rules.apply s' t = .error e

theorem Meets.getElem? (h : rules.Meets s ts i s' t) : ts[i]? = some t := by
  induction h with
  | here s t rest => rfl
  | later hallows happly hrest ih => simpa using ih

theorem Meets.firstInvalidFrom (h : rules.Meets s ts i s' t) {start : Int} {position : Nat} :
    rules.firstInvalidFrom start position s ts =
      rules.firstInvalidFrom start (position + i) s' (t :: ts.drop (i + 1)) := by
  induction h generalizing position with
  | here s t rest => rfl
  | @later s s' s'' t t' rest i hallows happly hrest ih =>
    have hguard : rules.guard start position s t = .ok true := guard_of_allows hallows
    rw [firstInvalidFrom_cons, hguard]
    show (rules.apply s t >>= fun s' => rules.firstInvalidFrom start (position + 1) s' rest) = _
    rw [happly]
    show rules.firstInvalidFrom start (position + 1) s' rest = _
    rw [ih, Nat.add_assoc, Nat.add_comm 1 i]
    rfl

theorem Refuses.firstInvalid (h : rules.Refuses s ts i t) : rules.firstInvalid s ts 0 = .ok (some i) := by
  obtain ⟨s', hmeets, hrefused⟩ := h
  have hguard : rules.guard 0 (0 + i) s' t = .ok false := by simp [guard, hrefused]
  unfold Rules.firstInvalid
  rw [hmeets.firstInvalidFrom, firstInvalidFrom_cons, hguard, Nat.zero_add]
  rfl

theorem Breaks.firstInvalid (h : rules.Breaks s ts i e) : rules.firstInvalid s ts 0 = .error e := by
  obtain ⟨s', t, hmeets, hallowed, happly⟩ := h
  have hguard : rules.guard 0 (0 + i) s' t = .ok true := guard_of_allows hallowed
  unfold Rules.firstInvalid
  rw [hmeets.firstInvalidFrom, firstInvalidFrom_cons, hguard]
  show (rules.apply s' t >>= _) = _
  rw [happly]
  rfl

theorem fold_cases (hallows : ∀ s t e, rules.allows s t ≠ .error e) (s : S) (ts : List T) :
    rules.Accepts s ts ∨ (∃ i t, rules.Refuses s ts i t) ∨ ∃ i e, rules.Breaks s ts i e := by
  induction ts generalizing s with
  | nil => exact .inl trivial
  | cons t rest ih =>
    rcases hallowed : rules.allows s t with e | _ | _
    · exact absurd hallowed (hallows s t e)
    · exact .inr (.inl ⟨0, t, s, .here s t rest, hallowed⟩)
    · rcases happly : rules.apply s t with e | s'
      · exact .inr (.inr ⟨0, e, s, t, .here s t rest, hallowed, happly⟩)
      · rcases ih s' with haccepts | ⟨i, t', s'', hmeets, hrefused⟩ | ⟨i, e, s'', t', hmeets, hbroken⟩
        · exact .inl ⟨hallowed, s', happly, haccepts⟩
        · exact .inr (.inl ⟨i + 1, t', s'', .later hallowed happly hmeets, hrefused⟩)
        · exact .inr (.inr ⟨i + 1, e, s'', t', .later hallowed happly hmeets, hbroken⟩)

end Rules

namespace Bench
variable {U S T : Type} {b : Bench U S T} {i : Nat} {e : Fault}

theorem advanced_of_breaks (hcontained : b.adapter.Contained) (he : e.escapes = false) {s : S} {ts : List T}
    (hbreaks : b.rules.Breaks s ts i e) (position : Nat) (u : U) : ∃ index u' s' cause,
      b.advanced position u s ts = .stopped index u' s' cause ∧ index ≤ position + i ∧ cause.escapes = false := by
  obtain ⟨s', t, hmeets, -, hbroken⟩ := hbreaks
  induction hmeets generalizing position u with
  | here s t rest =>
    have hstops : b.advanced position u s (t :: rest) = .stopped position (some u) s e := by
      simp [advanced, hbroken]
    exact ⟨position, some u, s, e, hstops, by omega, he⟩
  | @later s s' s'' t t' rest i hallows happly hrest ih =>
    rw [advanced, happly]
    dsimp only
    rcases hsystem : b.adapter.apply u s' t with cause | u'
    · exact ⟨position, some u, s', cause, rfl, by omega, hcontained.apply _ _ _ _ hsystem⟩
    · dsimp only
      rcases hcheck : b.adapter.check u' s' with cause | _
      · exact ⟨position, some u', s', cause, rfl, by omega, hcontained.check _ _ _ hcheck⟩
      · obtain ⟨index, u'', s₁, cause, hstops, hindex, hcause⟩ := ih (position + 1) u' hbroken
        exact ⟨index, u'', s₁, cause, hstops, by omega, hcause⟩

theorem reached_of_breaks (hcontained : b.adapter.Contained) (he : e.escapes = false) {s : S} {ts : List T}
    (hbreaks : b.rules.Breaks s ts i e) : ∃ index u s' cause,
      b.reached s ts = .stopped index u s' cause ∧ index ≤ i ∧ cause.escapes = false := by
  unfold reached
  rcases hinit : b.adapter.init s with cause | u
  · exact ⟨-1, none, s, cause, rfl, by omega, hcontained.init _ _ hinit⟩
  · dsimp only
    rcases hcheck : b.adapter.check u s with cause | _
    · exact ⟨-1, some u, s, cause, rfl, by omega, hcontained.check _ _ _ hcheck⟩
    · obtain ⟨index, u', s', cause, hstops, hindex, hcause⟩ := advanced_of_breaks hcontained he hbreaks 0 u
      exact ⟨index, u', s', cause, hstops, by omega, hcause⟩

variable [Datum T]

def unchecked (b : Bench U S T) (c : Candidate S T) : Act (Calls S T) Outcome :=
  b.progress c >>= b.finish c.transitions.length

theorem answer_unchecked (c : Candidate S T) (calls : Calls S T) : (b.unchecked c calls).answer =
    b.concluded c.transitions.length (b.reached c.initial c.transitions) := by
  unfold unchecked
  rw [Act.answer_bind, answer_progress]
  exact answer_finish ..

theorem outcome_of_refuses {c : Candidate S T} {t : T} (h : b.rules.Refuses c.initial c.transitions i t) :
    b.outcome c = .error (.preconditionViolated (.int i) (datum t)) := by
  obtain ⟨s', hmeets, -⟩ := id h
  rw [outcome_eq, h.firstInvalid]
  dsimp only
  rw [hmeets.getElem?]
  rfl

theorem replay_of_breaks {c : Candidate S T} (h : b.rules.Breaks c.initial c.transitions i e) (calls : Calls S T) :
    b.replay c calls = ⟨.error e, calls, []⟩ := by
  have hcheck : Act.lift (b.rules.firstInvalid c.initial c.transitions 0) calls = ⟨.error e, calls, []⟩ := by
    rw [Act.lift_apply, h.firstInvalid]
  exact Act.bind_of_error hcheck

/-- A replay raises what the check of the candidate names or lets out, and nothing else; what it lets out would have
been caught at the transition that raised it or before. -/
theorem replay_raises_iff (hallows : ∀ s t e, b.rules.allows s t ≠ .error e) (hcontained : b.adapter.Contained)
    (c : Candidate S T) :
    (b.rules.Accepts c.initial c.transitions → ∃ outcome, b.outcome c = .ok outcome) ∧
    (∀ outcome, b.outcome c = .ok outcome ↔
      b.rules.Accepts c.initial c.transitions ∧ (b.unchecked c []).answer = .ok outcome) ∧
    (∀ e, b.outcome c = .error e ↔
      (∃ i t, b.rules.Refuses c.initial c.transitions i t ∧ e = .preconditionViolated (.int i) (datum t)) ∨
      ∃ i, b.rules.Breaks c.initial c.transitions i e) ∧
    ∀ i e, b.rules.Breaks c.initial c.transitions i e → e.escapes = false → ∀ calls,
      (b.replay c calls).state = calls ∧
      ∃ (index : Int) (cause : Fault), index ≤ i ∧ (b.unchecked c calls).answer = .ok (.fail index cause) := by
  have hbroken {i : Nat} {e : Fault} (h : b.rules.Breaks c.initial c.transitions i e) : b.outcome c = .error e :=
    congrArg Result.answer (replay_of_breaks h [])
  refine ⟨outcome_contained hcontained, fun outcome => ⟨fun h => ?_, ?_⟩, fun e => ⟨fun h => ?_, ?_⟩, ?_⟩
  · have haccepts := accepts_of_outcome h
    rw [outcome_of_accepts haccepts] at h
    exact ⟨haccepts, (answer_unchecked c []).trans h⟩
  · rintro ⟨haccepts, h⟩
    rw [answer_unchecked] at h
    exact (outcome_of_accepts haccepts).trans h
  · rcases b.rules.fold_cases hallows c.initial c.transitions with haccepts | ⟨i, t, hrefuses⟩ | ⟨i, e', hbreaks⟩
    · obtain ⟨outcome, houtcome⟩ := outcome_contained hcontained haccepts
      rw [h] at houtcome
      cases houtcome
    · have hrefused := outcome_of_refuses hrefuses
      rw [h] at hrefused
      exact .inl ⟨i, t, hrefuses, Except.error.inj hrefused⟩
    · have hraised := hbroken hbreaks
      rw [h] at hraised
      cases hraised
      exact .inr ⟨i, hbreaks⟩
  · rintro (⟨i, t, hrefuses, rfl⟩ | ⟨i, hbreaks⟩)
    · exact outcome_of_refuses hrefuses
    · exact hbroken hbreaks
  · intro i e hbreaks he calls
    obtain ⟨index, u, s, cause, hstops, hindex, hcause⟩ := reached_of_breaks hcontained he hbreaks
    refine ⟨congrArg Result.state (replay_of_breaks hbreaks calls), index, cause, hindex, ?_⟩
    rw [answer_unchecked, hstops]
    exact concluded_stopped hcontained _ _ _ _ hcause

def openPurse : Rules Nat Bool where
  apply coins t := if t then .ok (coins + 1) else if coins = 0 then .error (.ofText .value "empty") else .ok (coins - 1)
  allows _ _ := .ok true

def openBench : Bench Nat Nat Bool := { Minimiser.purseMinimiser.bench with rules := openPurse }

theorem openPurse_breaks : openPurse.Breaks 1 [false, false] 1 (.ofText .value "empty") :=
  ⟨0, false, .later rfl rfl (.here 0 false []), rfl, rfl⟩

theorem replay_of_open_purse_raises :
    openBench.outcome ⟨1, [false, false]⟩ = .error (.ofText .value "empty") ∧
    ∃ (index : Int) (cause : Fault), index ≤ 1 ∧
      (openBench.unchecked ⟨1, [false, false]⟩ []).answer = .ok (.fail index cause) := by
  have hraises := replay_raises_iff (b := openBench) nofun Minimiser.purse_adapter_contained ⟨1, [false, false]⟩
  have hout := (hraises.2.2.1 (.ofText .value "empty")).2 (.inr ⟨1, openPurse_breaks⟩)
  exact ⟨hout, (hraises.2.2.2 1 _ openPurse_breaks rfl []).2⟩

/-- Taking from the empty purse ends a replay with neither a failure nor a violated precondition. -/
theorem open_purse_fault_escapes :
    (∀ s t e, openBench.rules.allows s t ≠ .error e) ∧ openBench.adapter.Contained ∧
    openBench.rules.Breaks 1 [false, false] 1 (.ofText .value "empty") ∧
    (Fault.ofText .value "empty").escapes = false ∧
    (∀ outcome, openBench.outcome ⟨1, [false, false]⟩ ≠ .ok outcome) ∧
    ∀ index t, openBench.outcome ⟨1, [false, false]⟩ ≠ .error (.preconditionViolated index t) :=
  ⟨nofun, Minimiser.purse_adapter_contained, openPurse_breaks, rfl, nofun, nofun⟩

end Bench
end StateCheck
