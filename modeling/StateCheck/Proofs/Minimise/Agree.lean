import StateCheck.Proofs.Minimise.Loop
import StateCheck.Proofs.Sequence.Agree

/-! Minimising under rules that agree: what is reduced, replayed and undone is accepted all along. -/

namespace StateCheck.Minimiser
variable {U S T ι τ : Type} {m : Minimiser U S T ι τ} {rules : Rules S T} {I : ι → Prop}
  {J : τ → Prop} {E : Fault → Prop} {minSize : Int} {session : Session S T ι τ} {best : Minimum S T}

def Sure (g : Shrinker S T ι τ) (I : ι → Prop) (J : τ → Prop) (minSize : Int) (v : Sequence S T ι τ) : Prop :=
  v.Trees I J ∧ v.Sound g.rules ∧ v.minSize = minSize

theorem perform_sure [BEq S] [BEq T] {g : Shrinker S T ι τ} {v : Sequence S T ι τ} (hg : g.Tame I J E)
    (hminSize : 0 ≤ minSize) (hv : Sure g I J minSize v) (move : Sequence.Move) :
    (move.perform g).Yields v (fun _ v' => Sure g I J minSize v') fun e _ => E e :=
  Sequence.perform_tame hg (fun _ _ => by omega) hv.1 hv.2

theorem sure_cut {g : Shrinker S T ι τ} {v : Sequence S T ι τ} (hminSize : 0 ≤ minSize)
    (hv : Sure g I J minSize v) (length : Int) : Sure g I J minSize (v.cut length) := by
  obtain ⟨htrees, hsound, rfl⟩ := hv
  exact ⟨htrees.cut length, hsound.cut (by omega), v.minSize_cut length⟩

theorem loops_sure [Datum T] [BEq S] [BEq T] (hg : m.shrinker.Tame I J E) (hminSize : 0 ≤ minSize)
    (hreplay : ∀ c e, m.shrinker.rules.Accepts c.initial c.transitions → m.bench.outcome c = .error e → E e) :
    m.Loops (Sure m.shrinker I J minSize) (Sure m.shrinker I J minSize) (Sure m.shrinker I J minSize) E where
  undo _ hv := perform_sure hg hminSize hv .complicate
  keep _ index hv _ := sure_cut hminSize hv (index + 1)
  replay v e hv := hreplay v.current e hv.2.1.accepted.1
  shrink _ hv := (perform_sure hg hminSize hv .shrink).mono
    (fun moved _ h => by cases moved <;> exact h) fun _ _ h => h

theorem Sure.agree {g : Shrinker S T ι τ} {v : Sequence S T ι τ} (h : g.rules.Agree rules)
    (hv : Sure g I J minSize v) : Sure (g.withRules rules) I J minSize v := ⟨hv.1, hv.2.1.agree h, hv.2.2⟩

theorem perform_guarded [BEq S] [BEq T] {g : Shrinker S T ι τ} {v : Sequence S T ι τ} (hrules : g.rules.Guarded)
    (hinitial : g.initial.Safe I) (htransition : g.transition.Safe J) (hminSize : 0 ≤ minSize)
    (hv : Sure g I J minSize v) (move : Sequence.Move) :
    (move.perform g).Yields v (fun _ v' => Sure g I J minSize v') fun _ _ => False := by
  have hagree := g.rules.agree_masked
  have htame : (g.withRules g.rules.masked).Tame I J fun _ => False :=
    ⟨hrules.masked_total, hinitial.tame, htransition.tame⟩
  rw [Act.yields_congr (Sequence.perform_agree hagree hv.2.1.accepted.1 move)]
  refine (perform_sure htame hminSize (hv.agree hagree) move).mono (fun _ v' h => ?_) fun _ _ h => h
  exact h.agree (g := g.withRules g.rules.masked) hagree.symm

abbrev withRules (m : Minimiser U S T ι τ) (rules : Rules S T) : Minimiser U S T ι τ :=
  { m with bench.rules := rules, shrinker.rules := rules }

variable [Datum T]

theorem replayed_agree (h : m.bench.rules.Agree rules) (c : Candidate S T) :
    m.replay c = (m.withRules rules).replay c := by
  unfold replay
  rw [Bench.replayCounted_agree h]

variable [BEq S] [BEq T]

theorem judge_agree (h : m.bench.rules.Agree rules) (best : Minimum S T) :
    m.judge best = (m.withRules rules).judge best := by
  simp only [judge, replayed_agree h]
  rfl

theorem reduce_agree (hbench : m.bench.rules.Agree rules) (hshrinker : m.shrinker.rules.Agree rules)
    (hminSize : 0 ≤ minSize) (started : Float) (fuel : Nat)
    (hv : Sure m.shrinker (fun _ => True) (fun _ => True) minSize session.value) :
    m.reduce started fuel best session = (m.withRules rules).reduce started fuel best session := by
  have hloops := loops_sure (m := m) m.shrinker.tame_of_anything hminSize fun _ _ _ _ => trivial
  induction fuel generalizing session best with
  | zero => rfl
  | succ fuel ih =>
    have hshrink := Sequence.shrink_agree hshrinker hv.2.1.accepted.1
    unfold reduce
    refine Act.bind_eq ?_ ?_
    · simp only [onValue, Act.on, hshrink]
    · unfold onValue
      rw [Act.yields_on]
      refine (hloops.shrink _ hv).mono (fun moved v' hmoved => ?_) fun _ _ h => h
      cases moved with
      | false => rfl
      | true =>
        refine Act.bind_eq rfl ((m.budgetSpent_yields ..).mono (fun spent session' hvalue => ?_) fun _ _ h => h)
        cases spent with
        | true => rfl
        | false =>
          refine Act.bind_eq (congrFun (judge_agree hbench best) session') ?_
          have hreduced : Sure m.shrinker (fun _ => True) (fun _ => True) minSize session'.value := hvalue ▸ hmoved
          exact (hloops.judge hreduced best).mono (fun _ _ h => ih h.2) fun _ _ h => h

theorem minimise_agree (hbench : m.bench.rules.Agree rules) (hshrinker : m.shrinker.rules.Agree rules)
    (hminSize : 0 ≤ minSize) (fuel : Nat) (failure : Option Outcome)
    (hv : Sure m.shrinker (fun _ => True) (fun _ => True) minSize session.value) :
    m.minimise fuel failure session = (m.withRules rules).minimise fuel failure session := by
  have hsettle (c : Candidate S T) : m.settle c failure = (m.withRules rules).settle c failure := by
    cases failure with
    | none => exact replayed_agree hbench c
    | some outcome => rfl
  rw [minimise_eq, minimise_eq]
  refine Act.bind_eq rfl ?_
  rw [now, Act.yields_ofMove]
  refine Act.bind_eq rfl ?_
  rw [current, Act.yields_ofMove]
  refine Act.bind_eq (congrFun (hsettle _) _) ?_
  refine (m.settle_value ..).mono (fun outcome session' hvalue => ?_) fun _ _ _ => trivial
  cases outcome with
  | pass => rfl
  | fail index cause =>
    refine Act.bind_eq rfl ?_
    rw [dropTail_yields]
    refine Act.bind_eq rfl ?_
    rw [current, Act.yields_ofMove]
    refine Act.bind_eq (reduce_agree hbench hshrinker hminSize _ _ ?_) ?_
    · exact sure_cut hminSize (hvalue ▸ hv) _
    · exact (Act.yields_self _ _).mono (fun _ _ _ => rfl) fun _ _ _ => trivial

theorem minimise_guarded (hbench : m.bench.rules = m.shrinker.rules) (hrules : m.shrinker.rules.Guarded)
    (hinitial : m.shrinker.initial.Safe I) (htransition : m.shrinker.transition.Safe J) (hminSize : 0 ≤ minSize)
    (fuel : Nat) (failure : Option Outcome) (hv : Sure m.shrinker I J minSize session.value) :
    (m.minimise fuel failure).Yields session (fun _ _ => True) fun e _ => m.bench.adapter.Interrupts e := by
  have hagree := m.shrinker.rules.agree_masked
  let m' := m.withRules m.shrinker.rules.masked
  have hreplay (c : Candidate S T) (e : Fault) (haccepts : m'.shrinker.rules.Accepts c.initial c.transitions)
      (he : m'.bench.outcome c = .error e) : m.bench.adapter.Interrupts e :=
    Bench.outcome_interrupts (b := m'.bench) haccepts he
  have htame : m'.shrinker.Tame I J m.bench.adapter.Interrupts := by
    have htotal := hrules.masked_total
    exact ⟨⟨fun s t e he => (htotal.apply s t e he).elim, fun s t e he => (htotal.allows s t e he).elim⟩,
      hinitial.tame, htransition.tame⟩
  have hsure : Sure m'.shrinker I J minSize session.value := hv.agree hagree
  rw [Act.yields_congr (minimise_agree (hbench ▸ hagree) hagree hminSize fuel failure
    ⟨session.value.trees_of_anything, hv.2⟩)]
  refine ((loops_sure htame hminSize hreplay).minimise fuel _ (fun index => sure_cut hminSize hsure _) ?_).mono
    (fun _ _ _ => trivial) fun _ _ h => h
  exact fun e he => hreplay session.value.current e hsure.2.1.accepted.1 he

end StateCheck.Minimiser
