import StateCheck.Proofs.Generation
import StateCheck.Proofs.Replay

/-! Rules that agree wherever they allow a transition. Every fold checks a transition before it applies it, or
is known to have done so, and so nothing tells such rules apart. -/

namespace StateCheck.Rules
variable {S T : Type} {rules rules' : Rules S T} {s : S} {ts : List T}

structure Agree (rules rules' : Rules S T) : Prop where
  allows : ∀ s t, rules.allows s t = rules'.allows s t
  apply : ∀ s t, rules.allows s t = .ok true → rules.apply s t = rules'.apply s t

/-- Applying raises only where it is not allowed. -/
structure Guarded (rules : Rules S T) : Prop where
  allows : ∀ s t e, rules.allows s t ≠ .error e
  apply : ∀ s t e, rules.apply s t = .error e → rules.allows s t = .ok false

/-- The rules with every transition that is not allowed left without an effect. -/
def masked (rules : Rules S T) : Rules S T where
  apply s t :=
    match rules.allows s t with
    | .ok true => rules.apply s t
    | _ => .ok s
  allows := rules.allows

theorem agree_masked (rules : Rules S T) : rules.Agree rules.masked := by
  refine ⟨fun _ _ => rfl, ?_⟩
  intro s t hallowed
  simp only [masked, hallowed]

theorem Guarded.masked_total (h : rules.Guarded) : rules.masked.Total := by
  refine ⟨?_, fun s t e he => h.allows s t e he⟩
  intro s t e he
  simp only [masked] at he
  split at he
  · rename_i hallowed
    rw [h.apply s t e he] at hallowed
    cases hallowed
  · cases he

namespace Agree

theorem symm (h : rules.Agree rules') : rules'.Agree rules := by
  refine ⟨fun s t => (h.allows s t).symm, ?_⟩
  intro s t hallowed
  exact (h.apply s t ((h.allows s t).trans hallowed)).symm

theorem firstInvalidFrom (h : rules.Agree rules') {start : Int} {position : Nat}
    (hbefore : rules.Accepts s (ts.take (start - position).toNat)) :
    rules.firstInvalidFrom start position s ts = rules'.firstInvalidFrom start position s ts := by
  induction ts generalizing s position with
  | nil => rfl
  | cons t rest ih =>
    have hguard : rules.guard start position s t = rules'.guard start position s t := by
      unfold guard
      rw [h.allows]
    rw [firstInvalidFrom_cons, firstInvalidFrom_cons, ← hguard]
    rcases hallowed : rules.guard start position s t with e | _ | _
    · rfl
    · rfl
    · show (rules.apply s t >>= _) = (rules'.apply s t >>= _)
      by_cases hstart : start ≤ position
      · rw [guard, if_pos hstart] at hallowed
        rw [← h.apply s t hallowed]
        cases rules.apply s t with
        | error e => rfl
        | ok s' =>
          refine ih ?_
          rw [show (start - ((position + 1 : Nat) : Int)).toNat = 0 by omega]
          exact trivial
      · rw [show (start - position).toNat = (start - ((position + 1 : Nat) : Int)).toNat + 1 by omega]
          at hbefore
        obtain ⟨hallowed, s', hs', hrest⟩ := hbefore
        rw [← h.apply s t hallowed, hs']
        exact ih hrest

theorem firstInvalid (h : rules.Agree rules') (s : S) (ts : List T) :
    rules.firstInvalid s ts 0 = rules'.firstInvalid s ts 0 := h.firstInvalidFrom trivial

theorem accepts_iff (h : rules.Agree rules') : rules.Accepts s ts ↔ rules'.Accepts s ts := by
  rw [← firstInvalid_eq_none_iff, ← firstInvalid_eq_none_iff, h.firstInvalid]

theorem isValid (h : rules.Agree rules') {start : Nat} (hbefore : rules.Accepts s (ts.take start)) :
    rules.isValid s ts start = rules'.isValid s ts start := by
  have hfirst : rules.firstInvalid s ts start = rules'.firstInvalid s ts start :=
    h.firstInvalidFrom (by simpa using hbefore)
  rw [Rules.isValid, Rules.isValid, hfirst]

theorem isValid_zero (h : rules.Agree rules') (s : S) (ts : List T) :
    rules.isValid s ts 0 = rules'.isValid s ts 0 := by
  rw [Rules.isValid, Rules.isValid, h.firstInvalid]

theorem longestValid (h : rules.Agree rules') : rules.longestValid = rules'.longestValid := by
  funext s ts
  rw [Rules.longestValid, Rules.longestValid, h.firstInvalid]

end Agree
end StateCheck.Rules

namespace StateCheck

namespace Bench
variable {U S T : Type} {b : Bench U S T} {rules : Rules S T}

theorem advance_agree [Datum T] (h : b.rules.Agree rules) (total position : Nat) (u : U) {s : S} {ts : List T}
    (haccepts : b.rules.Accepts s ts) :
    b.advance total position u s ts = { b with rules := rules }.advance total position u s ts := by
  induction ts generalizing position u s with
  | nil => rfl
  | cons t rest ih =>
    obtain ⟨hallowed, s', hs', hrest⟩ := haccepts
    have hs'' : rules.apply s t = .ok s' := (h.apply s t hallowed).symm.trans hs'
    simp only [advance, hs', hs'', ih _ _ hrest]
    rfl

theorem replay_agree [Datum T] (h : b.rules.Agree rules) (c : Candidate S T) :
    b.replay c = { b with rules := rules }.replay c := by
  unfold replay
  rw [← h.firstInvalid]
  cases hfirst : b.rules.firstInvalid c.initial c.transitions 0 with
  | error e => rfl
  | ok found =>
    cases found with
    | some position => rfl
    | none =>
      have haccepts := Rules.firstInvalid_eq_none_iff.1 hfirst
      have hprogress : b.progress c = { b with rules := rules }.progress c := by
        unfold progress
        simp only [advance_agree h _ _ _ haccepts]
      rw [hprogress]
      rfl

theorem replayCounted_agree [Datum T] (h : b.rules.Agree rules) (c : Candidate S T) :
    b.replayCounted c = { b with rules := rules }.replayCounted c := by
  funext tally
  unfold replayCounted
  rw [replay_agree h]

end Bench

namespace Model
variable {S T ρ : Type} [WordSource ρ] {model : Model S T} {rules : Rules S T}

abbrev withRules (model : Model S T) (rules : Rules S T) : Model S T := { model with toRules := rules }

theorem drawTransition_agree (h : model.toRules.Agree rules) (s : S) (tries : Nat) :
    (model.drawTransition s tries : Act ρ _) = (model.withRules rules).drawTransition s tries := by
  induction tries with
  | zero => rfl
  | succ tries ih =>
    simp only [drawTransition, h.allows, ih]

theorem fill_agree {settings : Settings} (h : model.toRules.Agree rules) (left slot unfilled : Nat) (s : S)
    (source : ρ) : model.fill settings left slot unfilled s source =
      (model.withRules rules).fill settings left slot unfilled s source := by
  induction left generalizing slot unfilled s source with
  | zero => rfl
  | succ left ih =>
    unfold fill
    refine Act.bind_eq (congrFun (drawTransition_agree h s _) source) ?_
    refine (drawTransition_yields model.fresh_of_anything s _ source).mono (fun entry? source' hdrawn => ?_)
      fun _ _ h => h
    cases entry? with
    | none =>
      dsimp only
      refine Act.bind_eq rfl ?_
      rw [Act.yields_log]
      split
      · rfl
      · exact ih ..
    | some entry =>
      have happly := h.apply s entry.transition (hdrawn entry rfl).2.1
      dsimp only
      rw [happly]
      refine Act.bind_eq rfl ?_
      rw [Act.yields_lift]
      refine ⟨fun s' _ => Act.bind_eq (ih ..) ?_, fun _ _ => trivial⟩
      exact (Act.yields_self _ _).mono (fun _ _ _ => rfl) fun _ _ _ => trivial

theorem generateWithin_agree {settings : Settings} (h : model.toRules.Agree rules)
    (left attempt longest : Nat) : (model.generateWithin settings left attempt longest : Act ρ _) =
      (model.withRules rules).generateWithin settings left attempt longest := by
  have hfill (left slot unfilled : Nat) (s : S) : (model.fill settings left slot unfilled s : Act ρ _) =
      (model.withRules rules).fill settings left slot unfilled s := funext (fill_agree h left slot unfilled s)
  induction left generalizing attempt longest with
  | zero => rfl
  | succ left ih =>
    simp only [generateWithin, hfill, ih]

theorem generate_agree (settings : Settings) (h : model.toRules.Agree rules) :
    (model.generate settings : Act ρ _) = (model.withRules rules).generate settings :=
  generateWithin_agree h _ _ _

end Model
end StateCheck
