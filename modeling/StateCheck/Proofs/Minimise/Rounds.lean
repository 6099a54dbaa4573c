import StateCheck.Minimise
import StateCheck.Proofs.Replay
import StateCheck.Proofs.Sequence.Steps

/-! Minimising a failing sequence. Between two rounds the sequence shows the smallest failure so far,
since a reduction that does not fail is undone exactly and dropping a tail leaves the failure as it is. -/

namespace StateCheck
open Sequence (Shape Reduces Complicated Shrunk)
variable {U S T ι τ : Type} {m : Minimiser U S T ι τ} {I : ι → Prop} {J : τ → Prop} {E : Fault → Prop}
  {P : Shape S T → Prop} {minSize bound : Int} {startLength : Nat} {v v' : Sequence S T ι τ}
  {session : Session S T ι τ} {best : Minimum S T}

theorem Sequence.current_cut {length : Int} (hlength : 0 ≤ length) (v : Sequence S T ι τ) :
    ∃ n : Nat, length ≤ n ∧ (v.cut length).current = ⟨v.current.initial, v.current.transitions.take n⟩ := by
  unfold cut
  split
  · refine ⟨max length.toNat v.current.transitions.length, by omega, ?_⟩
    rw [List.take_of_length_le (Nat.le_max_right ..)]
  · rename_i hlt
    refine ⟨(max length v.minSize).toNat, by omega, ?_⟩
    have hle : ((max length v.minSize).toNat : Int) ≤ v.length := by omega
    have htake := before_take _ hle v.transitions
    show (⟨v.initialState, before (max length v.minSize) v.transitions⟩ : Candidate S T) = _
    rw [before, if_pos (by omega), ← htake]
    rfl

theorem Sequence.length_cut_le (length : Int) (v : Sequence S T ι τ) :
    (v.cut length).length ≤ max length v.minSize := by
  unfold cut
  split
  · assumption
  · exact Int.le_refl _

theorem Bench.outcome_cut [Datum T] {b : Bench U S T} {index : Int} {e : Fault}
    (h : b.outcome v.current = .ok (.fail index e)) :
    b.outcome (v.cut (index + 1)).current = .ok (.fail index e) := by
  have hindex := (outcome_fail_bounds h).1
  have hnonneg : 0 ≤ index + 1 := by omega
  obtain ⟨n, hn, hcurrent⟩ := v.current_cut hnonneg
  rw [hcurrent]
  exact outcome_take h (by omega)

namespace Minimiser

/-- What the reductions of a sequence and the replays of what it shows are known to keep: `P` of its shape, and
`I` and `J` of its trees. They raise faults of the kind `E` only. -/
structure Keeps [Datum T] [BEq S] [BEq T] (m : Minimiser U S T ι τ) (I : ι → Prop) (J : τ → Prop)
    (E : Fault → Prop) (minSize : Int) (P : Shape S T → Prop) : Prop where
  tame : m.shrinker.Tame I J E
  reduces : ∀ {f edit f'}, P f → Reduces m.shrinker.rules minSize f edit f' → P f'
  cut : ∀ {f : Shape S T} {n : Int}, P f → 0 ≤ n → minSize ≤ n → n < f.length → P { f with length := n }
  replay : ∀ {f : Shape S T} {e}, P f → m.bench.outcome f.current = .error e → E e

/-- Between two rounds the sequence shows the best candidate, which was seen to fail. -/
structure Held [Datum T] (m : Minimiser U S T ι τ) (I : ι → Prop) (J : τ → Prop) (minSize : Int)
    (P : Shape S T → Prop) (bound : Int) (startLength : Nat) (v : Sequence S T ι τ) (best : Minimum S T) :
    Prop where
  trees : v.Trees I J
  minSize : v.minSize = minSize
  shape : P v.shape
  shown : v.current = best.candidate
  outcome : m.bench.outcome best.candidate = .ok best.outcome
  fails : ∃ index cause, best.outcome = .fail index cause ∧ index ≤ bound
  trimmed : ∀ index cause, best.outcome = .fail index cause → v.length ≤ max (index + 1) v.minSize
  counted : best.iterations = best.accepted + best.rejected
  startLength : best.startLength = startLength

/-- A reduction was made that was not judged yet. Undone, it gives back `held`. -/
structure Reduced (m : Minimiser U S T ι τ) (I : ι → Prop) (J : τ → Prop) (P : Shape S T → Prop)
    (held v : Sequence S T ι τ) : Prop where
  trees : v.Trees I J
  minSize : v.minSize = held.minSize
  shape : P v.shape
  undone : ∃ edit, v.lastEdit = some edit ∧ edit.undo v.shape = held.shape

theorem budgetSpent_yields (iterations : Nat) (started : Float) {F : Fault → Session S T ι τ → Prop} :
    (m.budgetSpent iterations started).Yields session
      (fun _ session' => session'.value = session.value) F := by
  unfold budgetSpent outOfTime
  rw [Act.yields_ite, Act.yields_ite]
  exact ⟨fun _ => rfl, fun _ => ⟨fun _ => rfl, fun _ => rfl⟩⟩

theorem replay_yields [Datum T] (c : Candidate S T) (session : Session S T ι τ) :
    (m.replay c).Yields session
      (fun outcome session' => m.bench.outcome c = .ok outcome ∧ session'.value = session.value)
      (fun e session' => m.bench.outcome c = .error e ∧ session'.value = session.value) := by
  refine (Act.yields_self (m.replay c) session).mono (fun outcome session' h => ?_) (fun e session' h => ?_)
  · obtain ⟨hanswer, rfl⟩ := h
    exact ⟨hanswer, rfl⟩
  · obtain ⟨hanswer, rfl⟩ := h
    exact ⟨hanswer, rfl⟩

theorem dropTail_yields {index : Int} {cause : Fault} {Q : Unit → Session S T ι τ → Prop}
    {F : Fault → Session S T ι τ → Prop} : (dropTail (.fail index cause)).Yields session Q F ↔
      Q () { session with value := session.value.cut (index + 1) } := by
  unfold dropTail onValue
  rw [Act.yields_bind, Act.yields_on, Sequence.truncate_yields]
  rfl

theorem Held.of_shape [Datum T] (h : Held m I J minSize P bound startLength v best) (htrees : v'.Trees I J)
    (hminSize : v'.minSize = minSize) (hshape : v'.shape = v.shape) :
    Held m I J minSize P bound startLength v' best := by
  have hlength : v'.length = v.length := congrArg Shape.length hshape
  have hsame : v'.minSize = v.minSize := hminSize.trans h.minSize.symm
  exact { h with
    trees := htrees
    minSize := hminSize
    shape := hshape ▸ h.shape
    shown := (congrArg Shape.current hshape).trans h.shown
    trimmed := by
      rw [hlength, hsame]
      exact h.trimmed }

variable [Datum T] [BEq S] [BEq T]

theorem Keeps.cut_shape (hm : m.Keeps I J E minSize P) (hv : P v.shape) (hminSize : v.minSize = minSize)
    {length : Int} (hlength : 0 ≤ length) : P (v.cut length).shape := by
  unfold Sequence.cut
  split
  · exact hv
  · rename_i hlt
    exact hm.cut (n := max length v.minSize) hv (by omega) (by omega) (Int.not_le.1 hlt)

theorem Held.cut (hm : m.Keeps I J E minSize P) (htrees : v.Trees I J) (hminSize : v.minSize = minSize)
    (hshape : P v.shape) {index : Int} {cause : Fault}
    (hfails : m.bench.outcome v.current = .ok (.fail index cause)) (hindex : index ≤ bound)
    (hcandidate : best.candidate = (v.cut (index + 1)).current) (houtcome : best.outcome = .fail index cause)
    (hcounted : best.iterations = best.accepted + best.rejected) (hstart : best.startLength = startLength) :
    Held m I J minSize P bound startLength (v.cut (index + 1)) best where
  trees := htrees.cut _
  minSize := (Sequence.minSize_cut _ v).trans hminSize
  shape := hm.cut_shape hshape hminSize (by have := (Bench.outcome_fail_bounds hfails).1; omega)
  shown := hcandidate.symm
  outcome := by
    rw [hcandidate, houtcome]
    exact Bench.outcome_cut hfails
  fails := ⟨index, cause, houtcome, hindex⟩
  trimmed index' cause' houtcome' := by
    obtain ⟨rfl, rfl⟩ := Outcome.fail.inj (houtcome.symm.trans houtcome')
    exact (Sequence.minSize_cut (index + 1) v).symm ▸ Sequence.length_cut_le (index + 1) v
  counted := hcounted
  startLength := hstart

theorem shrink_yields (hm : m.Keeps I J E minSize P) (htrees : v.Trees I J) (hminSize : v.minSize = minSize)
    (hshape : P v.shape) : (Sequence.shrink m.shrinker).Yields v
      (fun moved v' => if moved then Reduced m I J P v v' else
        v'.Trees I J ∧ v'.minSize = minSize ∧ v'.shape = v.shape) (fun e _ => E e) := by
  refine (Sequence.shrink_shrinks hm.tame htrees).mono (fun moved v' h => ?_) (fun _ _ h => h.1)
  obtain ⟨htrees', hshrunk⟩ := h
  cases moved with
  | true =>
    obtain ⟨edit, hlast, -, hreduces⟩ := hshrunk.edited rfl
    exact ⟨htrees', hshrunk.minSize, hm.reduces hshape (hminSize ▸ hreduces), edit, hlast, hreduces.undo⟩
  | false => exact ⟨htrees', hshrunk.minSize.trans hminSize, (hshrunk.ended rfl).2.1⟩

theorem Reduced.complicate_yields {held : Sequence S T ι τ} (hm : m.Keeps I J E minSize P)
    (hheld : Held m I J minSize P bound startLength held best) (hv : Reduced m I J P held v) :
    (Sequence.complicate m.shrinker).Yields v
      (fun _ v' => Held m I J minSize P bound startLength v' best) (fun e _ => E e) := by
  refine (Sequence.complicate_yields hm.tame hv.trees).mono (fun moved v' h => ?_) (fun _ _ h => h.1)
  obtain ⟨htrees, hcomplicated⟩ := h
  obtain ⟨edit, hlast, hundo⟩ := hv.undone
  have hshape : v'.shape = held.shape := (hcomplicated.some edit hlast).2.shape.trans hundo
  exact hheld.of_shape htrees (hcomplicated.minSize.trans (hv.minSize.trans hheld.minSize)) hshape

theorem judge_yields {held : Sequence S T ι τ} (hm : m.Keeps I J E minSize P)
    (hheld : Held m I J minSize P bound startLength held best) (hv : Reduced m I J P held session.value) :
    (m.judge best).Yields session
      (fun best session' => Held m I J minSize P bound startLength session'.value best)
      (fun e _ => E e) := by
  unfold judge current
  rw [Act.yields_bind, Act.yields_ofMove, Act.yields_bind]
  refine (m.replay_yields _ session).mono (fun outcome session' h => ?_) (fun e session' h => ?_)
  · obtain ⟨houtcome, hvalue⟩ := h
    dsimp only
    split
    · rename_i index cause hstill
      obtain ⟨index', cause', hbest, hbound⟩ := hheld.fails
      rw [hbest, Outcome.stillFails, decide_eq_true_eq] at hstill
      rw [Act.yields_bind, dropTail_yields, Act.yields_bind, Act.yields_ofMove, Act.yields_bind,
        Act.yields_log, Act.yields_pure]
      dsimp only
      rw [hvalue]
      -- The outcome is that of the reduction before its tail is dropped.
      refine .cut hm hv.trees (hv.minSize.trans hheld.minSize) hv.shape houtcome (by omega) rfl rfl ?_
        hheld.startLength
      have := hheld.counted
      dsimp only
      omega
    · unfold onValue
      rw [Act.yields_bind, Act.yields_on, hvalue]
      refine (hv.complicate_yields hm hheld).mono (fun _ v' h => ?_) (fun _ _ h => h)
      refine { h with counted := ?_ }
      have := h.counted
      dsimp only
      omega
  · exact hm.replay hv.shape h.1

theorem reduce_yields (hm : m.Keeps I J E minSize P) (started : Float) (fuel : Nat)
    (hheld : Held m I J minSize P bound startLength session.value best) :
    (m.reduce started fuel best).Yields session
      (fun best? session' => ∀ best ∈ best?, Held m I J minSize P bound startLength session'.value best)
      (fun e _ => E e) := by
  -- On the fuel: `Held` is what one round hands to the next.
  induction fuel generalizing session best with
  | zero => exact nofun
  | succ fuel ih =>
    unfold reduce onValue
    rw [Act.yields_bind, Act.yields_on]
    refine (shrink_yields hm hheld.trees hheld.minSize hheld.shape).mono (fun moved v h => ?_)
      (fun _ _ h => h)
    cases moved with
    | false =>
      obtain ⟨htrees, hminSize, hshape⟩ := h
      rintro best ⟨⟩
      exact hheld.of_shape htrees hminSize hshape
    | true =>
      rw [if_pos rfl] at h ⊢
      rw [Act.yields_bind]
      refine (m.budgetSpent_yields ..).mono (fun spent session' hvalue => ?_) (fun _ _ h => h)
      rw [Act.yields_ite]
      refine ⟨?_, ?_⟩
      · intro _
        rw [Act.yields_bind, Act.yields_on, hvalue]
        refine (h.complicate_yields hm hheld).mono (fun _ v' h => ?_) (fun _ _ h => h)
        rw [Act.yields_bind, Act.yields_log, Act.yields_pure]
        rintro best ⟨⟩
        exact { h with }
      · intro _
        rw [Act.yields_bind]
        exact (judge_yields hm hheld (hvalue ▸ h)).mono (fun best session'' h => ih h) (fun _ _ h => h)

def Ends (m : Minimiser U S T ι τ) (I : ι → Prop) (J : τ → Prop) (minSize : Int) (P : Shape S T → Prop)
    (v v' : Sequence S T ι τ) (best : Minimum S T) : Outcome → Prop
  | .pass => best.candidate = v.current ∧ best.outcome = .pass ∧ best.iterations = 0 ∧ v' = v
  | .fail index _ => Held m I J minSize P index v.current.transitions.length v' best

theorem minimiseFailure_yields (hm : m.Keeps I J E minSize P) (fuel : Nat) (started : Float)
    (htrees : session.value.Trees I J) (hminSize : session.value.minSize = minSize)
    (hshape : P session.value.shape) {index : Int} {cause : Fault}
    (hfails : m.bench.outcome session.value.current = .ok (.fail index cause)) :
    (m.minimiseFailure fuel started startLength (.fail index cause)).Yields session
      (fun best? session' => ∀ best ∈ best?, Held m I J minSize P index startLength session'.value best)
      (fun e _ => E e) := by
  unfold minimiseFailure current
  rw [Act.yields_bind, dropTail_yields, Act.yields_bind, Act.yields_ofMove, Act.yields_bind]
  have hheld : Held m I J minSize P index startLength (session.value.cut (index + 1))
      { candidate := (session.value.cut (index + 1)).current
        outcome := .fail index cause
        startLength := startLength } :=
    .cut hm htrees hminSize hshape hfails (Int.le_refl index) rfl rfl rfl rfl
  refine (reduce_yields hm started _ hheld).mono (fun best? session' h => ?_) (fun _ _ h => h)
  cases best? with
  | none => exact nofun
  | some best =>
    dsimp only [now]
    rw [Act.yields_bind, Act.yields_ofMove, Act.yields_bind, Act.yields_log, Act.yields_pure]
    rintro best' ⟨⟩
    exact { h best rfl with }

def settle (m : Minimiser U S T ι τ) (c : Candidate S T) : Option Outcome → Act (Session S T ι τ) Outcome
  | none => m.replay c
  | some outcome => pure outcome

def minimiseFrom (m : Minimiser U S T ι τ) (fuel : Nat) (started : Float) (c : Candidate S T)
    (outcome : Outcome) : Act (Session S T ι τ) (Option (Minimum S T)) :=
  match outcome with
  | .pass => do
    Act.log .nothingToMinimise
    pure (some { candidate := c, outcome := .pass, startLength := c.transitions.length })
  | .fail .. => m.minimiseFailure fuel started c.transitions.length outcome

theorem minimise_eq (m : Minimiser U S T ι τ) (fuel : Nat) (failure : Option Outcome) :
    m.minimise fuel failure = m.now >>= fun started => current >>= fun c =>
      m.settle c failure >>= m.minimiseFrom fuel started c := by
  cases failure <;> rfl

theorem settle_yields (hm : m.Keeps I J E minSize P) (hshape : P v.shape) {failure : Option Outcome}
    (hfailure : ∀ outcome ∈ failure, m.bench.outcome v.current = .ok outcome) (hvalue : session.value = v) :
    (m.settle v.current failure).Yields session
      (fun outcome session' => m.bench.outcome v.current = .ok outcome ∧ session'.value = v)
      (fun e _ => E e) := by
  cases failure with
  | some outcome => exact ⟨hfailure outcome rfl, hvalue⟩
  | none =>
    exact (m.replay_yields v.current session).mono (fun _ _ h => ⟨h.1, h.2.trans hvalue⟩)
      fun _ _ h => hm.replay hshape h.1

theorem minimise_yields (hm : m.Keeps I J E minSize P) (fuel : Nat) {failure : Option Outcome}
    (htrees : session.value.Trees I J) (hminSize : session.value.minSize = minSize)
    (hshape : P session.value.shape)
    (hfailure : ∀ outcome ∈ failure, m.bench.outcome session.value.current = .ok outcome) :
    (m.minimise fuel failure).Yields session
      (fun best? session' => ∀ best ∈ best?, ∃ outcome,
        m.bench.outcome session.value.current = .ok outcome ∧
        Ends m I J minSize P session.value session'.value best outcome)
      (fun e _ => E e) := by
  rw [minimise_eq, now, current, Act.yields_bind, Act.yields_ofMove, Act.yields_bind, Act.yields_ofMove,
    Act.yields_bind]
  dsimp only
  refine Act.Yields.mono (settle_yields hm hshape hfailure ?_) (fun outcome session' h => ?_)
    (fun _ _ h => h)
  · rfl
  obtain ⟨houtcome, hvalue⟩ := h
  cases outcome with
  | pass =>
    rintro best ⟨⟩
    exact ⟨.pass, houtcome, rfl, rfl, rfl, hvalue⟩
  | fail index cause =>
    rw [minimiseFrom]
    refine (minimiseFailure_yields hm fuel _ (hvalue ▸ htrees) (hvalue ▸ hminSize) (hvalue ▸ hshape)
      (hvalue ▸ houtcome)).mono (fun best? session'' h best hbest => ?_) (fun _ _ h => h)
    exact ⟨.fail index cause, houtcome, h best hbest⟩

end Minimiser
end StateCheck
