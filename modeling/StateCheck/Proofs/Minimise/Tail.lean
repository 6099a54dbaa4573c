import StateCheck.Proofs.Minimise.Budget
import StateCheck.Proofs.Sequence.Padded

/-! Transitions after the failing one. Minimising drops them at first, and nothing that it does from then on sees
them. -/

namespace StateCheck
open Sequence (Entry Pads Upright)
variable {U S T ι τ : Type}

def Minimum.startedAt (best : Minimum S T) (startLength : Nat) : Minimum S T := { best with startLength := startLength }

theorem map_startedAt (answer : Except Fault (Option (Minimum S T))) (n : Nat) :
    answer.map (Option.map fun best => (best.startedAt n).timeless) =
      (answer.map (Option.map Minimum.timeless)).map (Option.map (·.startedAt n)) := by
  cases answer with
  | error e => rfl
  | ok best? => cases best? <;> rfl

namespace Minimiser
variable {m : Minimiser U S T ι τ} {session session' : Session S T ι τ} {rest : List (Entry τ T)}

def Behind (rest : List (Entry τ T)) (session session' : Session S T ι τ) : Prop :=
  session'.value = session.value.padded rest

def clocked (m : Minimiser U S T ι τ) (clock : Nat → Float) : Minimiser U S T ι τ := { m with clock := clock }

theorem onValue_behind {α : Type} {x : Act (Sequence S T ι τ) α} (h : Behind rest session session')
    (hx : Act.Coupled (Pads rest) x x session.value (session.value.padded rest)) :
    Act.Coupled (Behind rest) (onValue x) (onValue x) session session' := by
  unfold Behind at h
  refine Act.coupled_on ?_ fun _ _ h' => h'
  rw [h]
  exact hx

theorem current_behind (h : Behind rest session session') (hv : Upright session.value) :
    Act.Coupled (Behind rest) current current session session' := by
  refine Act.coupled_of_eq ?_ h
  have hcurrent : session'.value.current = session.value.current := by
    rw [h]
    exact Sequence.current_padded hv.nonneg.1 hv.aligned.le
  exact congrArg Except.ok hcurrent

theorem dropTail_behind (h : Behind rest session session') (index : Int) (cause : Fault) :
    Act.Coupled (Behind rest) (dropTail (.fail index cause)) (dropTail (.fail index cause)) session session' := by
  unfold dropTail
  have htruncate := onValue_behind h (Sequence.truncate_padded (index + 1) session.value)
  exact htruncate.andThen fun _ _ _ h' => Act.coupled_pure () h'

variable [Datum T]

theorem replay_behind (h : Behind rest session session') (c : Candidate S T) :
    Act.Coupled (Behind rest) (m.replay c) (m.replay c) session session' := Act.coupled_of_eq rfl h

theorem settle_known {c : Candidate S T} {outcome : Outcome} {failure : Option Outcome}
    (houtcome : m.bench.outcome c = .ok outcome) (hfailure : ∀ given ∈ failure, given = outcome) :
    (m.settle c failure).Yields session (fun given session' => given = outcome ∧ session'.value = session.value)
      fun _ _ => False := by
  cases failure with
  | some given => exact ⟨hfailure given rfl, rfl⟩
  | none =>
    refine (m.replay_yields c session).mono (fun given session' h => ?_) fun e _ h => ?_
    · obtain ⟨hgiven, hvalue⟩ := h
      exact ⟨Except.ok.inj (hgiven.symm.trans houtcome), hvalue⟩
    · cases houtcome.symm.trans h.1

theorem opened_known {index : Int} {cause : Fault} {failure : Option Outcome}
    (houtcome : m.bench.outcome session.value.current = .ok (.fail index cause))
    (hfailure : ∀ given ∈ failure, given = .fail index cause) : (m.opened failure).Yields session
      (fun best session' => session'.value = session.value.cut (index + 1) ∧
        best = { candidate := (session.value.cut (index + 1)).current, outcome := .fail index cause,
                 startLength := session.value.current.transitions.length })
      fun _ _ => False := by
  unfold opened now current
  rw [Act.yields_bind, Act.yields_ofMove, Act.yields_bind, Act.yields_ofMove, Act.yields_bind]
  refine Act.Yields.mono (settle_known houtcome hfailure) (fun given session' h => ?_) fun _ _ h => h
  obtain ⟨rfl, hvalue⟩ := h
  rw [Act.yields_bind, dropTail_yields, Act.yields_bind, Act.yields_ofMove, Act.yields_pure, hvalue]
  exact ⟨rfl, rfl⟩

variable [BEq S] [BEq T]

theorem loops_upright (m : Minimiser U S T ι τ) : m.Loops Upright Upright Upright fun _ => True where
  undo _ hv := Sequence.complicate_upright hv
  keep _ index hv _ := hv.cut (index + 1)
  replay _ _ _ _ := trivial
  shrink _ hv := (Sequence.shrink_upright hv).mono (fun moved _ h => by cases moved <;> exact h) fun _ _ h => h

theorem judge_behind (h : Behind rest session session') (hv : Upright session.value) (best : Minimum S T) :
    Act.Coupled (Behind rest) (m.judge best) (m.judge best) session session' := by
  unfold judge
  refine (current_behind h hv).bind ?_
  rw [current, Act.yields_ofMove]
  intro session₁ h₁
  refine (replay_behind h₁ _).bind ((m.replay_yields _ session).mono (fun outcome session₂ h₂ => ?_) fun _ _ _ => trivial)
  intro session₃ h₃
  have hv₂ : Upright session₂.value := by
    rw [h₂.2]
    exact hv
  dsimp only
  split
  · rename_i index cause hstill
    refine (dropTail_behind h₃ index cause).bind ?_
    rw [dropTail_yields]
    intro session₄ h₄
    refine (current_behind h₄ (hv₂.cut (index + 1))).bind ?_
    rw [current, Act.yields_ofMove]
    intro session₅ h₅
    exact (Act.coupled_log _ h₅).andThen fun _ _ _ h₆ => Act.coupled_pure _ h₆
  · have hundo := onValue_behind h₃ (Sequence.complicate_padded (g := m.shrinker) hv₂.aligned)
    exact hundo.andThen fun _ _ _ h₄ => Act.coupled_pure _ h₄

theorem reduce_behind (htime : (m.settings.maxShrinkTime == 0) = true) (started : Float) (fuel : Nat)
    (h : Behind rest session session') (hv : Upright session.value) (best : Minimum S T) :
    Act.Coupled (Behind rest) (m.reduce started fuel best) (m.reduce started fuel best) session session' := by
  have hloops := loops_upright m
  -- On the fuel: a round leaves the sessions as it found them, one behind the other.
  induction fuel generalizing session session' best with
  | zero => exact Act.coupled_pure none h
  | succ fuel ih =>
    unfold reduce
    refine (onValue_behind h (Sequence.shrink_padded hv.forward)).bind ?_
    unfold onValue
    rw [Act.yields_on]
    refine (hloops.shrink _ hv).mono (fun moved v hmoved => ?_) fun _ _ h => h
    intro session₁ h₁
    cases moved with
    | false => exact Act.coupled_pure _ h₁
    | true =>
      have hv₁ : Upright v := hmoved
      rw [if_pos rfl, budgetSpent_timeless htime, pure_bind]
      split
      · have hundo := onValue_behind h₁ (Sequence.complicate_padded (g := m.shrinker) hv₁.aligned)
        refine hundo.andThen fun _ _ _ h₂ => ?_
        exact (Act.coupled_log _ h₂).andThen fun _ _ _ h₃ => Act.coupled_pure _ h₃
      · refine (judge_behind h₁ hv₁ best).bind ?_
        refine (hloops.judge hv₁ best).mono (fun best' session₂ hjudged => ?_) fun _ _ h => h
        exact fun session₃ h₃ => ih h₃ hjudged.2 best'

theorem judge_startedAt (best : Minimum S T) (n : Nat) :
    m.judge (best.startedAt n) = m.judge best >>= fun best => pure (best.startedAt n) := by
  unfold judge
  simp only [bind_assoc]
  refine bind_congr fun candidate => bind_congr fun outcome => ?_
  have hheld : (best.startedAt n).outcome = best.outcome := rfl
  rw [hheld]
  split
  · simp only [bind_assoc, pure_bind]
    rfl
  · simp only [bind_assoc, pure_bind]
    rfl

theorem reduce_startedAt (started : Float) (fuel : Nat) (best : Minimum S T) (n : Nat) :
    m.reduce started fuel (best.startedAt n) =
      m.reduce started fuel best >>= fun best? => pure (best?.map (·.startedAt n)) := by
  induction fuel generalizing best with
  | zero => rfl
  | succ fuel ih =>
    unfold reduce
    simp only [bind_assoc]
    refine bind_congr fun moved => ?_
    cases moved with
    | false => rfl
    | true =>
      rw [if_pos rfl, if_pos rfl, bind_assoc]
      refine bind_congr fun spent => ?_
      cases spent with
      | true =>
        rw [if_pos rfl, if_pos rfl]
        simp only [bind_assoc, pure_bind]
        rfl
      | false =>
        rw [if_neg Bool.false_ne_true, if_neg Bool.false_ne_true, judge_startedAt, bind_assoc, bind_assoc]
        refine bind_congr fun best => ?_
        rw [pure_bind]
        exact ih best

theorem search_startedAt (fuel : Nat) (best : Minimum S T) (n : Nat) :
    m.search fuel (best.startedAt n) = m.search fuel best >>= fun best? => pure (best?.map (·.startedAt n)) := by
  unfold search
  have hfails : (best.startedAt n).reproduced = best.reproduced := rfl
  rw [hfails]
  split
  · exact reduce_startedAt 0 _ best n
  · rfl

theorem search_clocked (htime : (m.settings.maxShrinkTime == 0) = true) (clock : Nat → Float) (fuel : Nat)
    (best : Minimum S T) : (m.clocked clock).search fuel best = m.search fuel best := by
  have hshrinker : (m.clocked clock).shrinker = m.shrinker := rfl
  have hsettings : (m.clocked clock).settings = m.settings := rfl
  have hjudge (best : Minimum S T) : (m.clocked clock).judge best = m.judge best := rfl
  have hspent (iterations : Nat) : (m.clocked clock).budgetSpent iterations 0 = m.budgetSpent iterations 0 := by
    rw [budgetSpent_timeless htime, budgetSpent_timeless (m := m.clocked clock) htime, hsettings]
  have hreduce (n : Nat) (best : Minimum S T) : (m.clocked clock).reduce 0 n best = m.reduce 0 n best := by
    induction n generalizing best with
    | zero => rfl
    | succ n ih =>
      unfold reduce
      simp only [hshrinker, hspent, hjudge, ih]
  unfold search
  rw [hsettings, hreduce]

theorem minimise_clocked (htime : (m.settings.maxShrinkTime == 0) = true) (clock : Nat → Float) (fuel : Nat)
    (failure : Option Outcome) (session : Session S T ι τ) :
    ((m.clocked clock).minimise fuel failure session).answer.map (Option.map Minimum.timeless) =
      (m.minimise fuel failure session).answer.map (Option.map Minimum.timeless) := by
  have hopened : (m.clocked clock).opened failure = m.opened failure := rfl
  have hsearch : (m.clocked clock).search fuel = m.search fuel := funext (search_clocked htime clock fuel)
  rw [minimise_timeless htime, minimise_timeless (m := m.clocked clock) htime, hopened, hsearch]

theorem search_behind (htime : (m.settings.maxShrinkTime == 0) = true) (h : Behind rest session session')
    (hv : Upright session.value) (fuel : Nat) (best : Minimum S T) :
    (m.search fuel best session').answer = (m.search fuel best session).answer := by
  unfold search
  split
  · exact (reduce_behind htime 0 _ h hv best).answer
  · rfl

end Minimiser

namespace Sequence
variable {initialTree : ι} {initialState : S} {minSize : Int}

theorem start_upright (initialTree : ι) (initialState : S) (entries : List (Entry τ T)) (hmin : 0 ≤ minSize) :
    Upright (start initialTree initialState entries minSize) where
  aligned := tracked_start trivial initialState (fun _ _ => trivial) minSize
  minSize := hmin
  nonneg := ⟨Int.natCast_nonneg _, nofun⟩

theorem cut_start {xs : List (Entry τ T)} :
    (start initialTree initialState xs minSize).cut xs.length = start initialTree initialState xs minSize :=
  if_pos (Int.le_max_left ..)

theorem cut_start_append {xs : List (Entry τ T)} (hmin : minSize ≤ xs.length) (ys : List (Entry τ T)) :
    (start initialTree initialState (xs ++ ys) minSize).cut xs.length =
      (start initialTree initialState xs minSize).padded ys := by
  have hmax : max (xs.length : Int) minSize = xs.length := Int.max_eq_left hmin
  have hcount : ((xs ++ ys).length : Int) = xs.length + ys.length := by simp
  unfold cut
  split
  · rename_i hle
    have hnil : ys = [] := by
      have hall : ((xs ++ ys).length : Int) ≤ max (xs.length : Int) minSize := hle
      exact List.eq_nil_of_length_eq_zero (by omega)
    subst hnil
    simp [padded, start]
  · show ({ start initialTree initialState (xs ++ ys) minSize with
      length := max (xs.length : Int) minSize, lastEdit := none } : Sequence S T ι τ) = _
    rw [hmax]
    simp [padded, start]

end Sequence

namespace Minimiser
variable [Datum T] {m : Minimiser U S T ι τ} {session session' : Session S T ι τ}

theorem opened_behind {initialTree : ι} {initialState : S} {xs ys : List (Entry τ T)} {minSize : Int}
    (hmin : 0 ≤ minSize) (hkept : minSize ≤ xs.length) {cause : Fault}
    (hfails : m.bench.outcome ⟨initialState, (xs ++ ys).map (·.transition)⟩ = .ok (.fail (xs.length - 1) cause))
    (hsession : session.value = .start initialTree initialState (xs ++ ys) minSize)
    (hsession' : session'.value = .start initialTree initialState xs minSize) {failure failure' : Option Outcome}
    (hfailure : ∀ given ∈ failure, given = .fail (xs.length - 1) cause)
    (hfailure' : ∀ given ∈ failure', given = .fail (xs.length - 1) cause) :
    ∃ first, (m.opened failure session).answer = .ok (first.startedAt (xs ++ ys).length) ∧
      (m.opened failure' session').answer = .ok first ∧ Upright (m.opened failure' session').state.value ∧
      Behind ys (m.opened failure' session').state (m.opened failure session).state := by
  have hlast : (xs.length : Int) - 1 + 1 = xs.length := Int.sub_add_cancel ..
  have houtcome : m.bench.outcome session.value.current = .ok (.fail (xs.length - 1) cause) := by
    rw [hsession, Sequence.current_start]
    exact hfails
  have houtcome' : m.bench.outcome session'.value.current = .ok (.fail (xs.length - 1) cause) := by
    have htake : ((xs ++ ys).map (·.transition)).take xs.length = xs.map (·.transition) := by simp
    have hshort := Bench.outcome_take hfails (show (xs.length : Int) - 1 < (xs.length : Nat) by omega)
    rw [hsession', Sequence.current_start, ← htake]
    exact hshort
  obtain ⟨first, hfirst, hvalue, hbest⟩ := (opened_known houtcome hfailure).answers
  obtain ⟨first', hfirst', hvalue', hbest'⟩ := (opened_known houtcome' hfailure').answers
  have hcut' : session'.value.cut (xs.length - 1 + 1) = .start initialTree initialState xs minSize := by
    rw [hsession', hlast, Sequence.cut_start]
  have hcut : session.value.cut (xs.length - 1 + 1) = (session'.value.cut (xs.length - 1 + 1)).padded ys := by
    rw [hcut', hsession, hlast, Sequence.cut_start_append hkept ys]
  have hupright : Upright (session'.value.cut (xs.length - 1 + 1)) := by
    rw [hcut']
    exact Sequence.start_upright initialTree initialState xs hmin
  have hcurrent : (session.value.cut (xs.length - 1 + 1)).current =
      (session'.value.cut (xs.length - 1 + 1)).current := by
    rw [hcut]
    exact Sequence.current_padded hupright.nonneg.1 hupright.aligned.le
  have hcount : session.value.current.transitions.length = (xs ++ ys).length := by
    rw [hsession, Sequence.current_start, List.length_map]
  refine ⟨first', ?_, hfirst', hvalue' ▸ hupright, ?_⟩
  · rw [hfirst, hbest, hbest', hcurrent, hcount]
    rfl
  · unfold Behind
    rw [hvalue, hvalue', hcut]

variable [BEq S] [BEq T]

/-- What lies after the failing transition makes no difference but to the length that is reported at the start. -/
theorem minimise_ignores_tail (htime : (m.settings.maxShrinkTime == 0) = true) {initialTree : ι} {initialState : S}
    {xs ys : List (Entry τ T)} {minSize : Int} (hmin : 0 ≤ minSize) (hkept : minSize ≤ xs.length) {cause : Fault}
    (hfails : m.bench.outcome ⟨initialState, (xs ++ ys).map (·.transition)⟩ = .ok (.fail (xs.length - 1) cause))
    (hsession : session.value = .start initialTree initialState (xs ++ ys) minSize)
    (hsession' : session'.value = .start initialTree initialState xs minSize) {failure failure' : Option Outcome}
    (hfailure : ∀ given ∈ failure, given = .fail (xs.length - 1) cause)
    (hfailure' : ∀ given ∈ failure', given = .fail (xs.length - 1) cause) (clock : Nat → Float) (fuel : Nat) :
    (m.minimise fuel failure session).answer.map (Option.map Minimum.timeless) =
      ((m.clocked clock).minimise fuel failure' session').answer.map
        (Option.map fun best => (best.startedAt (xs ++ ys).length).timeless) := by
  obtain ⟨first, hfirst, hfirst', hupright, hbehind⟩ :=
    opened_behind hmin hkept hfails hsession hsession' hfailure hfailure'
  have hminimise : (m.minimise fuel failure session).answer.map (Option.map Minimum.timeless) =
      (m.search fuel (first.startedAt (xs ++ ys).length) (m.opened failure session).state).answer.map
        (Option.map Minimum.timeless) := by
    rw [minimise_timeless htime, Act.answer_bind, hfirst]
  have hminimise' : ((m.clocked clock).minimise fuel failure' session').answer.map (Option.map Minimum.timeless) =
      (m.search fuel first (m.opened failure' session').state).answer.map (Option.map Minimum.timeless) := by
    rw [minimise_clocked htime, minimise_timeless htime, Act.answer_bind, hfirst']
  rw [hminimise, map_startedAt, hminimise', ← map_startedAt, search_startedAt, Act.answer_bind,
    search_behind htime hbehind hupright]
  cases (m.search fuel first (m.opened failure' session').state).answer with
  | error e => rfl
  | ok best? => cases best? <;> rfl

def tornEarly : Session Nat Bool Unit Search where
  value := .start () 1 ([⟨.start 1 0, true⟩] ++ [⟨.start 0 0, false⟩]) 0

theorem purse_tail_ignored :
    (purseMinimiser.minimise 8 none tornEarly).answer.toOption.join.map (·.candidate.transitions) = some [true] ∧
    (purseMinimiser.minimise 8 none tornEarly).answer.map (Option.map Minimum.timeless) =
      ((purseMinimiser.clocked fun _ => 1).minimise 8 none tornPurse).answer.map
        (Option.map fun best => (best.startedAt 2).timeless) := by
  have htime : (purseMinimiser.settings.maxShrinkTime == 0) = true := by decide +kernel
  have hfails : purseMinimiser.bench.outcome ⟨1, ([⟨.start 1 0, true⟩] ++ [⟨.start 0 0, false⟩] :
      List (Entry Search Bool)).map (·.transition)⟩ = .ok (.fail 0 (.ofText .assertion "torn")) := rfl
  have hearly : tornEarly.value = .start () 1 ([⟨.start 1 0, true⟩] ++ [⟨.start 0 0, false⟩]) 0 := rfl
  have halone : tornPurse.value = .start () 1 [⟨.start 1 0, true⟩] 0 := rfl
  have hnone : ∀ given ∈ (none : Option Outcome), given = .fail 0 (.ofText .assertion "torn") := nofun
  have hsame := minimise_ignores_tail htime (Int.le_refl 0) (by decide) hfails hearly halone hnone hnone (fun _ => 1) 8
  exact ⟨by decide +kernel, hsame⟩

/-- Under a negative minimum the first deletion shows one of the two coins that were dropped. -/
theorem tail_seen_below_zero :
    let xs : List (Entry Search Bool) := []
    let ys : List (Entry Search Bool) := [⟨.start 0 0, true⟩, ⟨.start 0 0, true⟩]
    (∃ cause, brokenMinimiser.bench.outcome ⟨1, (xs ++ ys).map (·.transition)⟩ =
      .ok (.fail (xs.length - 1) cause)) ∧ (-1 : Int) ≤ xs.length ∧
    (brokenMinimiser.minimise 8 none { value := .start () 1 (xs ++ ys) (-1) }).answer.toOption.join.map
      (·.candidate.transitions) = some [true] ∧
    (brokenMinimiser.minimise 8 none { value := .start () 1 xs (-1) }).answer.toOption.join.map
      (·.candidate.transitions) = some [] := by
  refine ⟨⟨_, rfl⟩, by decide, ?_, ?_⟩
  all_goals decide +kernel

end Minimiser
end StateCheck
