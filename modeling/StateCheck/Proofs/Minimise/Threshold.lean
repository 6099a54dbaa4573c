import Mathlib.Data.Nat.Find
import StateCheck.Proofs.Leftover
import StateCheck.Proofs.Minimise.Stages
import StateCheck.Proofs.Replay.Prefixes
import StateCheck.Proofs.Sequence.InitialQuest
import StateCheck.Proofs.Sequence.TransitionQuest

/-! Minimising finds a threshold. Every round tells the search whether the distance that it tries fails, and the rounds
are as many as there are deletions and distances to try at most. -/

namespace StateCheck
variable {U S T ι τ : Type}

namespace Sequence
variable {g : Shrinker S T ι τ} {v : Sequence S T ι τ}

/-- One sub-value of the sequence has a tree that searches from `first`, where it is positioned, and no other tree
shrinks: `put d` has that sub-value at distance `d`. It is the initial state or a transition that comes no later than
the position `k`. -/
inductive Hunted [BEq S] [BEq T] (v : Sequence S T ι τ) (g : Shrinker S T ι τ) (first : Search) (k : Int) :
    (Nat → Candidate S T) → Prop
  | initialState {f : Int → Except Fault S} {place : Search → ι} {shown : Nat → S} {J : τ → Prop}
      (hseeks : g.initial.Seeks f place first shown) (htree : v.initialTree = place first)
      (hshown : v.initialState = shown first.distance) (hothers : g.transition.Idle J)
      (hentries : ∀ entry ∈ v.entries, J entry.tree) : Hunted v g first k fun d => ⟨shown d, v.transitions⟩
  | transition {f : Int → Except Fault T} {place : Search → τ} {shown : Nat → T} {I : ι → Prop} {J : τ → Prop} {i : Nat}
      {entry : Entry τ T} (hseeks : g.transition.Seeks f place first shown) (hk : (i : Int) ≤ k)
      (hentry : v.entries[i]? = some entry) (htree : entry.tree = place first)
      (hshown : entry.transition = shown first.distance) (hinitials : g.initial.Idle I) (hinitial : I v.initialTree)
      (hothers : g.transition.Idle J) (hentries : ∀ j entry, v.entries[j]? = some entry → j ≠ i → J entry.tree) :
      Hunted v g first k fun d => ⟨v.initialState, v.transitions.set i (shown d)⟩

theorem Hunted.current [BEq S] [BEq T] {first : Search} {k : Int} {put : Nat → Candidate S T}
    (h : v.Hunted g first k put) : put first.distance = ⟨v.initialState, v.transitions⟩ := by
  cases h with
  | initialState hseeks htree hshown => exact congrArg (Candidate.mk · v.transitions) hshown.symm
  | @transition f place shown I J i entry hseeks hk hentry htree hshown =>
    have hat : v.transitions[i]? = some entry.transition := by
      rw [transitions, List.getElem?_map, hentry]
      rfl
    obtain ⟨hi, heq⟩ := List.getElem?_eq_some_iff.1 hat
    show (⟨v.initialState, v.transitions.set i (shown first.distance)⟩ : Candidate S T) = _
    rw [← hshown, ← heq, List.set_getElem_self]

theorem Hunted.hunt [BEq S] [BEq T] {first : Search} {k : Int} {put : Nat → Candidate S T} {Fails : Nat → Prop}
    {value : Sequence S T ι τ} (h : value.Hunted g first k put) (hlo : first.lo = 0)
    (hstart : first.distance = first.hi) (hup : ∀ d d', d ≤ d' → d' ≤ first.hi → Fails d → Fails d')
    (haccepts : ∀ d ≤ first.hi, g.rules.Accepts (put d).initial (put d).transitions) :
    ∃ (waits : Nat → Nat → Sequence S T ι τ → Prop) (tests : Nat → Nat → Nat → Sequence S T ι τ → Prop),
      Hunt g put k first.hi Fails waits tests ∧ ∀ (n : Nat) (v : Sequence S T ι τ),
        v.Untouched value k (put first.hi) → first.hi < n → waits n first.hi v.entered := by
  cases h with
  | @initialState f place shown J hseeks htree hshown hothers hentries =>
    let q : InitialQuest S T ι τ :=
      { place := place, first := first, Fails := Fails, shown := shown, transitions := value.transitions, Others := J }
    have hq : q.Lawful g f := ⟨hseeks, hothers, hup, haccepts⟩
    refine ⟨q.Waiting k, q.Testing k, hq.hunt, fun n v hv hn => ?_⟩
    have hframed : q.Framed k first.hi v := ⟨hv.poses, hv.entries ▸ hentries⟩
    refine ⟨hframed.moved _ _ _, .transitions 0 rfl hv.settled ?_⟩
    exact Quest.rests_first (q := q.toQuest) (hv.initialTree.trans htree) hlo hstart hn
  | @transition f place shown I J i entry hseeks hk hentry htree hshown hinitials hinitial hothers hentries =>
    let q : TransitionQuest S T ι τ :=
      { place := place, first := first, Fails := Fails, shown := shown, initialState := value.initialState
        transitions := value.transitions, position := i, Initials := I, Others := J }
    have hq : q.Lawful g f := ⟨hseeks, hinitials, hothers, hup, haccepts⟩
    refine ⟨q.Waiting k, q.Testing k, hq.hunt hk, fun n v hv hn => ?_⟩
    have hframed : q.Framed k first.hi v := ⟨hv.poses, hv.initialTree ▸ hinitial, hv.entries ▸ hentries⟩
    have hsettled : v.entered.retryPending = false := hv.settled
    refine ⟨hframed.moved _ _ _, 0, rfl, .ahead (Nat.zero_le _) (fun hpending => ?_) fun entry' hentry' => ?_⟩
    · cases hsettled.symm.trans hpending
    · have hat : value.entries[i]? = some entry' := hv.entries ▸ hentry'
      obtain rfl := Option.some.inj (hentry.symm.trans hat)
      rw [hsettled]
      exact Quest.rests_first (q := q.toQuest) htree hlo hstart hn

end Sequence

namespace Bench
variable [Datum T] {b : Bench U S T} {c : Candidate S T} {k : Int} {e : Fault} {n : Nat}

theorem outcome_of_through (hteardown : ∀ u s, b.adapter.teardown u s = .ok ())
    (haccepts : b.rules.Accepts c.initial c.transitions)
    (hthrough : ∃ u s, b.reached c.initial c.transitions = .through u s) : b.outcome c = .ok .pass := by
  obtain ⟨u, s, hthrough⟩ := hthrough
  rw [outcome_of_accepts haccepts, hthrough, concluded, hteardown]

theorem outcome_take_of_pass (hteardown : ∀ u s, b.adapter.teardown u s = .ok ()) (h : b.outcome c = .ok .pass)
    (n : Nat) : b.outcome ⟨c.initial, c.transitions.take n⟩ = .ok .pass := by
  obtain ⟨u, s, hthrough⟩ := through_of_outcome h (.inl rfl)
  exact outcome_of_through hteardown ((accepts_of_outcome h).take n) (reached_through_take hthrough n)

theorem stopped_of_failure (hteardown : ∀ u s, b.adapter.teardown u s = .ok ()) (h : b.outcome c = .ok (.fail k e)) :
    ∃ u s, b.reached c.initial c.transitions = .stopped k u s e := by
  have hconcluded := outcome_of_accepts (accepts_of_outcome h) ▸ h
  rcases concluded_fail hconcluded with ⟨u, s, hstopped⟩ | ⟨-, hthrough⟩
  · exact ⟨u, s, hstopped⟩
  · rw [outcome_of_through hteardown (accepts_of_outcome h) hthrough] at h
    cases h

theorem outcome_take_before (hteardown : ∀ u s, b.adapter.teardown u s = .ok ()) (h : b.outcome c = .ok (.fail k e))
    (hn : n ≤ k) : b.outcome ⟨c.initial, c.transitions.take n⟩ = .ok .pass := by
  obtain ⟨u, s, hstopped⟩ := stopped_of_failure hteardown h
  exact outcome_of_through hteardown ((accepts_of_outcome h).take n) (reached_through_before hstopped hn)

variable {v : Sequence S T ι τ}

theorem fails_of_poses (hv : v.Poses k c) (h : b.outcome c = .ok (.fail k e)) :
    b.outcome v.current = .ok (.fail k e) := by
  obtain ⟨n, hn, hcurrent⟩ := hv.current
  rw [hcurrent]
  exact outcome_take h hn

theorem passes_of_poses (hteardown : ∀ u s, b.adapter.teardown u s = .ok ()) (hv : v.Poses k c)
    (h : b.outcome c = .ok .pass) : b.outcome v.current = .ok .pass := by
  obtain ⟨n, -, hcurrent⟩ := hv.current
  rw [hcurrent]
  exact outcome_take_of_pass hteardown h n

end Bench

namespace Minimiser
variable [Datum T] {m : Minimiser U S T ι τ} {k : Int} {P Q : Nat → Sequence S T ι τ → Prop}
  {R : Sequence S T ι τ → Prop} {session : Session S T ι τ} {best : Minimum S T} {n : Nat} {cause : Fault}

def FailsAt (m : Minimiser U S T ι τ) (put : Nat → Candidate S T) (k : Int) (d : Nat) : Prop :=
  ∃ e, m.bench.outcome (put d) = .ok (.fail k e)

def Found (m : Minimiser U S T ι τ) (put : Nat → Candidate S T) (k : Int) (far : Nat) (v : Sequence S T ι τ) : Prop :=
  ∃ held ≤ far, m.FailsAt put k held ∧ (∀ d < held, ¬m.FailsAt put k d) ∧ v.Poses k (put held)

theorem Found.poses {put : Nat → Candidate S T} {far nearest : Nat} {v : Sequence S T ι τ} (h : m.Found put k far v)
    (hfails : m.FailsAt put k nearest) (hbelow : ∀ d < nearest, ¬m.FailsAt put k d) : v.Poses k (put nearest) := by
  obtain ⟨held, -, hheld, hleast, hposes⟩ := h
  rcases Nat.lt_trichotomy held nearest with hlt | rfl | hlt
  · exact absurd hheld (hbelow held hlt)
  · exact hposes
  · exact absurd hfails (hleast nearest hlt)

variable [BEq S] [BEq T]

/-- A reduction fails at `k` again and nothing is to be cut off, or it passes and is undone; `P` holds then. -/
def Judged (m : Minimiser U S T ι τ) (k : Int) (P : Sequence S T ι τ → Prop) (v : Sequence S T ι τ) : Prop :=
  (∃ e, m.bench.outcome v.current = .ok (.fail k e) ∧ P (v.cut (k + 1))) ∨
    m.bench.outcome v.current = .ok .pass ∧
      (Sequence.complicate m.shrinker).Yields v (fun _ v' => P v') fun _ _ => False

structure Closes (m : Minimiser U S T ι τ) (k : Int) (P Q : Nat → Sequence S T ι τ → Prop)
    (R : Sequence S T ι τ → Prop) : Prop where
  shrink : ∀ n v, P n v → (Sequence.shrink m.shrinker).Yields v
    (fun moved v' => if moved then ∃ n' < n, Q n' v' else R v') fun _ _ => False
  judge : ∀ n v, Q n v → m.Judged k (P n) v

theorem Closes.judged (h : m.Closes k P Q R) (hv : Q n session.value) (hbest : best.outcome = .fail k cause) :
    (m.judge best).Yields session (fun best' session' => P n session'.value ∧ best'.timedOut = best.timedOut ∧
      ∃ cause', best'.outcome = .fail k cause') fun _ _ => False := by
  unfold Minimiser.judge current
  rw [Act.yields_bind, Act.yields_ofMove, Act.yields_bind]
  refine (m.replay_yields _ session).mono (fun outcome session' houtcome => ?_) fun e session' he => ?_
  · obtain ⟨houtcome, hvalue⟩ := houtcome
    dsimp only at houtcome ⊢
    rcases h.judge n _ hv with ⟨e, hfails, hkept⟩ | ⟨hpass, hundone⟩
    · obtain rfl := Except.ok.inj (hfails.symm.trans houtcome)
      have hstill : Outcome.stillFails (.fail k e) best.outcome = true := by
        rw [hbest]
        exact decide_eq_true (Int.le_refl k)
      rw [hstill]
      dsimp only
      rw [Act.yields_bind, dropTail_yields, Act.yields_bind, Act.yields_ofMove, Act.yields_bind, Act.yields_log,
        Act.yields_pure]
      dsimp only
      rw [hvalue]
      exact ⟨hkept, rfl, e, rfl⟩
    · obtain rfl := Except.ok.inj (hpass.symm.trans houtcome)
      unfold onValue
      dsimp only [Outcome.stillFails]
      rw [Act.yields_bind, Act.yields_on, hvalue]
      exact hundone.mono (fun _ _ hv' => ⟨hv', rfl, cause, hbest⟩) fun _ _ h => h
  · obtain ⟨hraises, -⟩ := he
    rcases h.judge n _ hv with ⟨e', hfails, -⟩ | ⟨hpass, -⟩
    · cases hfails.symm.trans hraises
    · cases hpass.symm.trans hraises

variable (hiters : m.settings.maxShrinkIters = 0) (htime : (m.settings.maxShrinkTime == 0) = true)

include hiters htime in
theorem Closes.reduce (h : m.Closes k P Q R) (started : Float) {fuel : Nat} (hfuel : n < fuel)
    (hv : P n session.value) (hbest : best.outcome = .fail k cause) (hintime : best.timedOut = false) :
    (m.reduce started fuel best).Yields session (fun best? session' => ∃ best, best? = some best ∧
      best.timedOut = false ∧ R session'.value) fun _ _ => False := by
  -- On the fuel, which stays above the number of rounds left.
  induction fuel generalizing session best n cause with
  | zero => exact absurd hfuel (Nat.not_lt_zero n)
  | succ fuel ih =>
    unfold Minimiser.reduce onValue
    rw [Act.yields_bind, Act.yields_on]
    refine (h.shrink n _ hv).mono (fun moved v' hmoved => ?_) fun _ _ h => h
    cases moved with
    | false => exact ⟨best, rfl, hintime, hmoved⟩
    | true =>
      obtain ⟨n', hn, hreduced⟩ := hmoved
      rw [if_pos rfl, budgetSpent_unlimited hiters htime, pure_bind, if_neg Bool.false_ne_true, Act.yields_bind]
      refine (h.judged hreduced hbest).mono (fun best' session'' hjudged => ?_) fun _ _ h => h
      obtain ⟨hv', hintime', cause', hbest'⟩ := hjudged
      exact ih (Nat.lt_of_lt_of_le hn (Nat.le_of_lt_succ hfuel)) hv' hbest' (hintime'.trans hintime)

include hiters htime in
theorem Closes.minimise (h : m.Closes k P Q R) {fuel : Nat} (hfuel : n < fuel)
    (hfails : m.bench.outcome session.value.current = .ok (.fail k cause)) (hv : P n (session.value.cut (k + 1)))
    {failure : Option Outcome} (hfailure : ∀ outcome ∈ failure, m.bench.outcome session.value.current = .ok outcome) :
    (m.minimise fuel failure).Yields session (fun best? session' => ∃ best, best? = some best ∧
      best.timedOut = false ∧ R session'.value) fun _ _ => False := by
  rw [minimise_eq, now, current, Act.yields_bind, Act.yields_ofMove, Act.yields_bind, Act.yields_ofMove,
    Act.yields_bind]
  dsimp only
  have hsettle : (m.settle session.value.current failure).Yields { session with readings := session.readings + 1 }
      (fun outcome session' => outcome = .fail k cause ∧ session'.value = session.value) fun _ _ => False := by
    cases failure with
    | some outcome => exact ⟨Except.ok.inj ((hfailure outcome rfl).symm.trans hfails), rfl⟩
    | none =>
      refine (m.replay_yields _ _).mono (fun outcome session' houtcome => ?_) fun e session' he => ?_
      · exact ⟨Except.ok.inj (houtcome.1.symm.trans hfails), houtcome.2⟩
      · cases he.1.symm.trans hfails
  refine hsettle.mono (fun outcome session' houtcome => ?_) fun _ _ h => h
  obtain ⟨rfl, hvalue⟩ := houtcome
  show (m.minimiseFailure fuel _ _ (.fail k cause)).Yields session' _ _
  unfold minimiseFailure current
  rw [Act.yields_bind, dropTail_yields, Act.yields_bind, Act.yields_ofMove, Act.yields_bind]
  have hfuel' : n < fuelFor m.settings fuel := by
    rw [fuelFor, if_pos hiters]
    exact hfuel
  have hstart : P n (session'.value.cut (k + 1)) := hvalue ▸ hv
  refine (h.reduce hiters htime _ hfuel' hstart rfl rfl).mono (fun best? session'' hend => ?_) fun _ _ h => h
  obtain ⟨best, rfl, hintime, hleft⟩ := hend
  dsimp only [now]
  rw [Act.yields_bind, Act.yields_ofMove, Act.yields_bind, Act.yields_log, Act.yields_pure]
  exact ⟨_, rfl, hintime, hleft⟩

open Sequence (Hunt)

section hunting
variable {put : Nat → Candidate S T} {far : Nat} {value : Sequence S T ι τ}
  {waits : Nat → Nat → Sequence S T ι τ → Prop} {tests : Nat → Nat → Nat → Sequence S T ι τ → Prop}

inductive Hunting (m : Minimiser U S T ι τ) (put : Nat → Candidate S T) (k : Int) (far : Nat)
    (value : Sequence S T ι τ) (waits : Nat → Nat → Sequence S T ι τ → Prop) (n : Nat) (v : Sequence S T ι τ) : Prop
  | deleting (hv : v.Untouched value k (put far)) (hn : (v.length - v.minSize).toNat + far < n)
  | searching {held : Nat} (hheld : held ≤ far) (hfails : m.FailsAt put k held) (hv : waits n held v)

inductive Trying (m : Minimiser U S T ι τ) (put : Nat → Candidate S T) (k : Int) (far : Nat)
    (value : Sequence S T ι τ) (tests : Nat → Nat → Nat → Sequence S T ι τ → Prop) (n : Nat) (v : Sequence S T ι τ) :
    Prop
  | deleted {u : Sequence S T ι τ} (hv : v.Shortened u value k (put far))
      (hn : (v.length - v.minSize).toNat + far < n)
  | tested {d held : Nat} (hheld : held ≤ far) (hfails : m.FailsAt put k held) (hv : tests held n d v)

theorem search_shrinks (hhunt : Hunt m.shrinker put k far (m.FailsAt put k) waits tests) {held : Nat} (hheld : held ≤ far)
    (hfails : m.FailsAt put k held) {v : Sequence S T ι τ} (hv : waits n held v) :
    (Sequence.shrink m.shrinker).Yields v (fun moved v' =>
      if moved then ∃ n' < n, m.Trying put k far value tests n' v' else m.Found put k far v') fun _ _ => False := by
  refine (hhunt.shrink n held v hv).mono (fun moved v' h => ?_) fun _ _ h => h
  cases moved with
  | true =>
    obtain ⟨n', hn, d, htests⟩ := h
    exact ⟨n', hn, .tested hheld hfails htests⟩
  | false => exact ⟨held, hheld, hfails, h.2, h.1⟩

variable (hhunt : Hunt m.shrinker put k far (m.FailsAt put k) waits tests)
  (henter : ∀ (n : Nat) (v : Sequence S T ι τ), v.Untouched value k (put far) → far < n → waits n far v.entered)
  (hteardown : ∀ u s, m.bench.adapter.teardown u s = .ok ()) {u v : Sequence S T ι τ}

include henter hteardown in
theorem deletion_judged (hfar : m.FailsAt put k far) (hv : v.Shortened u value k (put far))
    (hn : (v.length - v.minSize).toNat + far < n) : m.Judged k (m.Hunting put k far value waits n) v := by
  obtain ⟨e, hfails⟩ := hfar
  -- Below zero the initial state fails already, and no deletion makes that pass.
  rcases Int.lt_or_le k 0 with hk | hk
  · have huntouched := hv.untouched hk
    have hstill := Bench.fails_of_poses huntouched.poses hfails
    refine .inl ⟨e, hstill, ?_⟩
    rw [huntouched.poses.cut]
    exact .deleting huntouched hn
  · have hpass : m.bench.outcome v.current = .ok .pass := by
      rw [hv.current hk]
      exact Bench.outcome_take_before hteardown hfails (by omega)
    refine .inr ⟨hpass, ?_⟩
    rw [hv.complicate]
    exact .searching (Nat.le_refl far) ⟨e, hfails⟩ (henter n u hv.start (by omega))

include hhunt hteardown in
theorem test_judged (houtcome : ∀ d ≤ far, m.bench.outcome (put d) = .ok .pass ∨ m.FailsAt put k d) {d held : Nat}
    (hheld : held ≤ far) (hfails : m.FailsAt put k held) (hv : tests held n d v) :
    m.Judged k (m.Hunting put k far value waits n) v := by
  have hposes := hhunt.poses n d held v hv
  have hd := hhunt.le n d held v hv
  rcases houtcome d hd with hpass | ⟨e, hfails'⟩
  · have hnot : ¬m.FailsAt put k d := by
      rintro ⟨e, he⟩
      cases hpass.symm.trans he
    refine .inr ⟨Bench.passes_of_poses hteardown hposes hpass, ?_⟩
    refine (hhunt.undo n d held v hv hfails hnot).mono (fun _ v' hv' => ?_) fun _ _ h => h
    exact .searching hheld hfails hv'
  · have hstill := Bench.fails_of_poses hposes hfails'
    refine .inl ⟨e, hstill, ?_⟩
    rw [hposes.cut]
    exact .searching hd ⟨e, hfails'⟩ (hhunt.keep n d held v hv)

include hhunt henter hteardown in
theorem hunt_closes (haccepts : ∀ d ≤ far, m.shrinker.rules.Accepts (put d).initial (put d).transitions)
    (houtcome : ∀ d ≤ far, m.bench.outcome (put d) = .ok .pass ∨ m.FailsAt put k d) (hfar : m.FailsAt put k far) :
    m.Closes k (m.Hunting put k far value waits) (m.Trying put k far value tests) (m.Found put k far) where
  shrink n v hv := by
    cases hv with
    | searching hheld hfails hv => exact search_shrinks hhunt hheld hfails hv
    | deleting hv hn =>
      rw [hv.shrink (haccepts far (Nat.le_refl far))]
      split
      · exact search_shrinks hhunt (Nat.le_refl far) hfar (henter n v hv (by omega))
      · have hlong : v.minSize < v.length := by omega
        refine ⟨n - 1, by omega, .deleted (u := v) ⟨hv, hlong, rfl⟩ ?_⟩
        show (v.length - 1 - v.minSize).toNat + far < n - 1
        omega
  judge n v hv := by
    cases hv with
    | deleted hv hn => exact deletion_judged henter hteardown hfar hv hn
    | tested hheld hfails hv => exact test_judged hhunt hteardown houtcome hheld hfails hv

end hunting

theorem closes_of_hunted (hbench : m.bench.rules = m.shrinker.rules)
    (hteardown : ∀ u s, m.bench.adapter.teardown u s = .ok ()) {initialTree : ι} {s : S}
    {entries : List (Sequence.Entry τ T)} {minSize start target : Int} {put : Nat → Candidate S T}
    {value : Sequence S T ι τ} (hvalue : value = .start initialTree s entries minSize)
    (hhunted : value.Hunted m.shrinker (.start start target) k put)
    (houtcome : ∀ d ≤ (start - target).natAbs, m.bench.outcome (put d) = .ok .pass ∨ m.FailsAt put k d)
    (hfar : m.FailsAt put k (start - target).natAbs)
    (hup : ∀ d d', d ≤ d' → d' ≤ (start - target).natAbs → m.FailsAt put k d → m.FailsAt put k d') :
    ∃ P Q n, m.Closes k P Q (m.Found put k (start - target).natAbs) ∧ P n (value.cut (k + 1)) := by
  have haccepts : ∀ d ≤ (start - target).natAbs, m.shrinker.rules.Accepts (put d).initial (put d).transitions := by
    intro d hd
    rw [← hbench]
    rcases houtcome d hd with hpass | ⟨e, hfails⟩
    · exact Bench.accepts_of_outcome hpass
    · exact Bench.accepts_of_outcome hfails
  obtain ⟨waits, tests, hhunt, henter⟩ := hhunted.hunt rfl rfl hup haccepts
  have hcloses := hunt_closes hhunt henter hteardown haccepts houtcome hfar
  have hshown : put (start - target).natAbs = ⟨value.initialState, value.transitions⟩ := hhunted.current
  have huntouched : (value.cut (k + 1)).Untouched value k (put (start - target).natAbs) := by
    obtain ⟨e, hfails⟩ := hfar
    obtain ⟨u, s', hstopped⟩ := Bench.stopped_of_failure hteardown hfails
    have hposition := (Bench.reached_stopped hstopped).2
    rw [hshown, Sequence.length_transitions, hvalue] at hposition
    rw [hshown, hvalue]
    exact Sequence.untouched_cut fun _ => hposition
  exact ⟨_, _, _, hcloses, .deleting huntouched (Nat.lt_succ_self _)⟩

/-- Without a budget minimising ends, with the sub-value at the nearest distance from the target that fails: what is
left is the candidate with that distance, less some transitions after the failing one. Candidates that are replayed were
accepted, so nothing else need be known of the model. -/
theorem minimise_finds_threshold (hbench : m.bench.rules = m.shrinker.rules)
    (hteardown : ∀ u s, m.bench.adapter.teardown u s = .ok ()) (hiters : m.settings.maxShrinkIters = 0)
    (htime : (m.settings.maxShrinkTime == 0) = true) {initialTree : ι} {s : S} {entries : List (Sequence.Entry τ T)}
    {minSize start target : Int} {put : Nat → Candidate S T}
    (hvalue : session.value = .start initialTree s entries minSize)
    (hhunted : session.value.Hunted m.shrinker (.start start target) k put)
    (houtcome : ∀ d ≤ (start - target).natAbs, m.bench.outcome (put d) = .ok .pass ∨ m.FailsAt put k d)
    (hfar : m.FailsAt put k (start - target).natAbs)
    (hup : ∀ d d', d ≤ d' → d' ≤ (start - target).natAbs → m.FailsAt put k d → m.FailsAt put k d')
    {failure : Option Outcome} (hfailure : ∀ outcome ∈ failure, m.bench.outcome session.value.current = .ok outcome) :
    ∃ nearest ≤ (start - target).natAbs,
      m.FailsAt put k nearest ∧ (∀ d < nearest, m.bench.outcome (put d) = .ok .pass) ∧
      ∃ enough, ∀ fuel ≥ enough, ∃ best : Minimum S T,
        (m.minimise fuel failure session).answer = .ok (some best) ∧ best.timedOut = false ∧
        ∃ n : Nat, k < n ∧ best.candidate = ⟨(put nearest).initial, (put nearest).transitions.take n⟩ := by
  obtain ⟨P, Q, rounds, hcloses, hrounds⟩ := closes_of_hunted hbench hteardown hvalue hhunted houtcome hfar hup
  -- The nearest distance is named before any run, so that every amount of fuel ends at the same one.
  obtain ⟨nearest, hnearest, hbelow⟩ : ∃ nearest, m.FailsAt put k nearest ∧ ∀ d < nearest, ¬m.FailsAt put k d := by
    classical
    have hsome : ∃ d, m.FailsAt put k d := ⟨_, hfar⟩
    exact ⟨Nat.find hsome, Nat.find_spec hsome, fun d hd => Nat.find_min hsome hd⟩
  have hle : nearest ≤ (start - target).natAbs := Nat.le_of_not_lt fun hlt => hbelow _ hlt hfar
  have hpasses (d : Nat) (hd : d < nearest) : m.bench.outcome (put d) = .ok .pass :=
    (houtcome d (by omega)).resolve_right (hbelow d hd)
  obtain ⟨e, hfails⟩ := hfar
  have hstarts : m.bench.outcome session.value.current = .ok (.fail k e) := by
    have hshown : put (start - target).natAbs = ⟨session.value.initialState, session.value.transitions⟩ :=
      hhunted.current
    rw [hshown] at hfails
    rw [hvalue] at hfails ⊢
    rwa [Sequence.current_start]
  refine ⟨nearest, hle, hnearest, hpasses, rounds + 1, fun fuel hfuel => ?_⟩
  obtain ⟨best?, hanswer, best, rfl, hintime, hfound⟩ :=
    (hcloses.minimise hiters htime hfuel hstarts hrounds hfailure).answers
  obtain ⟨n, hn, hleft⟩ := (hfound.poses hnearest hbelow).current
  obtain ⟨outcome, houtcome', hends⟩ := ends_of_minimise hfailure hanswer
  obtain rfl := Except.ok.inj (hstarts.symm.trans houtcome')
  exact ⟨best, hanswer, hintime, n, hn, hends.shown.symm.trans hleft⟩

open Model (tank tankMinimiser)

def topped : Session Int Int tank.initial.State tank.TransitionTree where
  value := .start (.start 3 3) 3 [⟨⟨3, .start 7 0⟩, 7⟩] 1

theorem topped_outcome (litres : Int) : tankMinimiser.bench.outcome ⟨3, [litres]⟩ =
    if 5 ≤ 3 + litres then .ok (.fail 0 (.ofText .assertion "leak")) else .ok .pass := by
  have haccepts : tank.Accepts 3 [litres] := ⟨rfl, _, rfl, trivial⟩
  rw [Bench.outcome_of_accepts haccepts]
  by_cases hleaks : 5 ≤ 3 + litres
  · have hstopped : tankMinimiser.bench.reached 3 [litres] =
        .stopped 0 (some (3 + litres)) (3 + litres) (.ofText .assertion "leak") := by
      simp [Bench.reached, Bench.advanced, tankMinimiser, tank, hleaks]
    rw [if_pos hleaks, hstopped]
    rfl
  · have hthrough : tankMinimiser.bench.reached 3 [litres] = .through (3 + litres) (3 + litres) := by
      simp [Bench.reached, Bench.advanced, tankMinimiser, tank, hleaks]
    rw [if_neg hleaks, hthrough]
    rfl

theorem topped_hunted : topped.value.Hunted tankMinimiser.shrinker (.start 7 0) 0
    fun d => ⟨3, [(Search.start 7 0).valueAt d]⟩ := by
  have hseeks := Search.seeks (ValueTree.tagged_mirrors (fun level => (tank.next level).tree) 3) (.start 7 0)
  have hnone : tank.transitionTree.Idle fun _ => False := fun _ h => h.elim
  refine .transition (i := 0) hseeks (Int.le_refl 0) rfl rfl rfl Search.narrow_idle (Nat.le_refl 0) hnone ?_
  intro j entry hentry hne
  obtain ⟨hj, -⟩ := List.getElem?_eq_some_iff.1 hentry
  exact hne (Nat.lt_one_iff.1 hj)

theorem topped_fails (d : Nat) :
    tankMinimiser.FailsAt (fun d => ⟨3, [(Search.start 7 0).valueAt d]⟩) 0 d ↔ 2 ≤ d := by
  have hvalue : (Search.start 7 0).valueAt d = d := Int.zero_add _
  unfold FailsAt
  rw [topped_outcome, hvalue]
  split
  · refine ⟨fun _ => by omega, fun _ => ⟨_, rfl⟩⟩
  · refine ⟨?_, fun _ => by omega⟩
    rintro ⟨e, he⟩
    cases he

theorem minimise_finds_leak : ∃ enough, ∀ fuel ≥ enough, ∃ best : Minimum Int Int,
    (tankMinimiser.minimise fuel none topped).answer = .ok (some best) ∧ best.candidate = ⟨3, [2]⟩ := by
  have htime : (tankMinimiser.settings.maxShrinkTime == 0) = true := by decide +kernel
  have houtcome (d : Nat) : tankMinimiser.bench.outcome ⟨3, [(Search.start 7 0).valueAt d]⟩ = .ok .pass ∨
      tankMinimiser.FailsAt (fun d => ⟨3, [(Search.start 7 0).valueAt d]⟩) 0 d := by
    unfold FailsAt
    rw [topped_outcome]
    split
    · exact .inr ⟨_, rfl⟩
    · exact .inl rfl
  have hup (d d' : Nat) (hd : d ≤ d') (_ : d' ≤ 7)
      (h : tankMinimiser.FailsAt (fun d => ⟨3, [(Search.start 7 0).valueAt d]⟩) 0 d) :
      tankMinimiser.FailsAt (fun d => ⟨3, [(Search.start 7 0).valueAt d]⟩) 0 d' :=
    (topped_fails d').2 (Nat.le_trans ((topped_fails d).1 h) hd)
  have hfailure : ∀ outcome ∈ (none : Option Outcome),
      tankMinimiser.bench.outcome topped.value.current = .ok outcome := fun _ h => by cases h
  obtain ⟨nearest, -, hfails, hbelow, enough, hends⟩ := minimise_finds_threshold rfl (fun _ _ => rfl) rfl htime rfl
    topped_hunted (fun d _ => houtcome d) ((topped_fails 7).2 (by decide)) hup hfailure
  have hnearest : nearest = 2 := by
    have hle := (topped_fails nearest).1 hfails
    by_contra hne
    obtain ⟨e, he⟩ := (topped_fails 2).2 (Nat.le_refl 2)
    cases (hbelow 2 (by omega)).symm.trans he
  subst hnearest
  refine ⟨enough, fun fuel hfuel => ?_⟩
  obtain ⟨best, hanswer, -, n, hn, hbest⟩ := hends fuel hfuel
  refine ⟨best, hanswer, ?_⟩
  rw [hbest, List.take_of_length_le]
  · rfl
  · show 1 ≤ n
    omega

end Minimiser
end StateCheck
