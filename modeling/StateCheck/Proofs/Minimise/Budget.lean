import StateCheck.Proofs.Minimise.Failure
import StateCheck.Proofs.Minimise.Limit
import StateCheck.Proofs.Sequence.Undo

/-! What a limit on the iterations costs. A larger one finds nothing worse, and any of them finds what the loop without
a limit holds at that point. -/

namespace StateCheck
open Sequence (Shape Reduces)
variable {U S T ι τ : Type}

theorem length_before_mono {α : Type} {n n' : Int} (hn : 0 ≤ n) (h : n ≤ n') (items : List α) :
    (before n items).length ≤ (before n' items).length := by
  rw [before, before, if_pos hn, if_pos (Int.le_trans hn h), List.length_take, List.length_take]
  omega

/-- Fails no later and, unless the minimum is negative, shows no more. -/
structure Minimum.NoWorse (best' best : Minimum S T) (minSize : Int) : Prop where
  noLater : best'.outcome = best.outcome ∨ best'.outcome.stillFails best.outcome = true
  noLonger : 0 ≤ minSize → best'.candidate.transitions.length ≤ best.candidate.transitions.length

theorem Minimum.NoWorse.rfl {best : Minimum S T} {minSize : Int} : best.NoWorse best minSize :=
  ⟨.inl (Eq.refl _), fun _ => Nat.le_refl _⟩

theorem Minimum.NoWorse.of_shows {best best' found found' : Minimum S T} {minSize : Int}
    (h : best'.NoWorse best minSize) (hbest : best.Shows found) (hbest' : best'.Shows found') :
    found'.NoWorse found minSize := by
  obtain ⟨hcandidate, houtcome⟩ := hbest
  obtain ⟨hcandidate', houtcome'⟩ := hbest'
  obtain ⟨hlater, hlonger⟩ := h
  rw [houtcome, houtcome'] at hlater
  rw [hcandidate, hcandidate'] at hlonger
  exact ⟨hlater, hlonger⟩

namespace Minimiser
variable [Datum T] {m : Minimiser U S T ι τ} {session : Session S T ι τ} {best : Minimum S T} {I : ι → Prop}
  {J : τ → Prop} {E : Fault → Prop} {P : Shape S T → Prop} {minSize bound : Int} {startLength : Nat}
  {failure : Option Outcome}

theorem Held.fresh (h : Held m I J minSize P bound startLength session.value best) :
    ∃ index cause, best.outcome = .fail index cause ∧
      Held m (fun _ => True) (fun _ => True) minSize
        (fun f => 0 ≤ minSize → f.current.transitions.length ≤ best.candidate.transitions.length) index startLength
        session.value best := by
  obtain ⟨index, cause, houtcome, -⟩ := h.fails
  have hshown := congrArg (·.transitions.length) h.shown
  refine ⟨index, cause, houtcome, { h with
    trees := session.value.trees_of_anything
    shape := fun _ => Nat.le_of_eq hshown
    fails := ⟨index, cause, houtcome, Int.le_refl index⟩ }⟩

variable [BEq S] [BEq T]

theorem opened_yields (hm : m.Keeps I J E minSize P) (htrees : session.value.Trees I J)
    (hminSize : session.value.minSize = minSize) (hshape : P session.value.shape)
    (hfailure : ∀ outcome ∈ failure, m.bench.outcome session.value.current = .ok outcome) :
    (m.opened failure).Yields session (fun best session' => best.reproduced = true →
      ∃ bound, Held m I J minSize P bound session.value.current.transitions.length session'.value best)
      fun e _ => E e := by
  unfold opened now current
  rw [Act.yields_bind, Act.yields_ofMove, Act.yields_bind, Act.yields_ofMove, Act.yields_bind]
  refine Act.Yields.mono (settle_yields hm hshape hfailure rfl) (fun outcome session' h => ?_) fun _ _ h => h
  obtain ⟨houtcome, hvalue⟩ := h
  cases outcome with
  | pass => exact nofun
  | fail index cause =>
    rw [Act.yields_bind, dropTail_yields]
    refine fun _ => ⟨index, ?_⟩
    rw [hvalue]
    exact .cut hm htrees hminSize hshape houtcome (Int.le_refl index) rfl rfl rfl rfl

theorem rounds_yields (hm : m.Keeps I J E minSize P) (n : Nat)
    (hheld : Held m I J minSize P bound startLength session.value best) : (m.rounds n best).Yields session
      (fun held session' => Held m I J minSize P bound startLength session'.value held.2) fun e _ => E e := by
  induction n generalizing session best with
  | zero => exact hheld
  | succ n ih =>
    unfold rounds onValue
    rw [Act.yields_bind, Act.yields_on]
    refine (shrink_yields hm hheld.trees hheld.minSize hheld.shape).mono (fun moved v h => ?_) fun _ _ h => h
    cases moved with
    | false =>
      obtain ⟨htrees, hminSize, hshape⟩ := h
      exact hheld.of_shape htrees hminSize hshape
    | true =>
      rw [if_pos rfl] at h ⊢
      rw [Act.yields_bind]
      exact (judge_yields hm hheld h).mono (fun _ _ h => ih h) fun _ _ h => h

theorem keeps_shown (m : Minimiser U S T ι τ) (minSize : Int) (shown : Nat) :
    m.Keeps (fun _ => True) (fun _ => True) (fun _ => True) minSize
      fun f => 0 ≤ minSize → f.current.transitions.length ≤ shown where
  tame := m.shrinker.tame_of_anything
  reduces hf hreduces hmin := by
    refine Nat.le_trans ?_ (hf hmin)
    cases hreduces with
    | delete hlength _ hkept => exact length_before_mono (by dsimp only; omega) (by dsimp only; omega) _
    | transition =>
      simp only [Shape.current, before]
      split <;> simp
    | initialState => exact Nat.le_refl _
  cut hf hn _ hlt hmin := Nat.le_trans (length_before_mono hn (Int.le_of_lt hlt) _) (hf hmin)
  replay _ _ := trivial

theorem keeps_trees (hinitial : m.shrinker.initial.Safe I) (htransition : m.shrinker.transition.Safe J)
    (minSize : Int) : m.Keeps I J (fun _ => True) minSize fun _ => True where
  tame := ⟨⟨fun _ _ _ _ => trivial, fun _ _ _ _ => trivial⟩, hinitial.tame, htransition.tame⟩
  reduces _ _ := trivial
  cut _ _ _ _ := trivial
  replay _ _ := trivial

theorem undoneAfter_answers (hiters : m.settings.maxShrinkIters = 0)
    (htime : (m.settings.maxShrinkTime == 0) = true) {fuel : Nat}
    (hfailure : ∀ outcome ∈ failure, m.bench.outcome session.value.current = .ok outcome)
    (hanswer : (m.minimise fuel failure session).answer = .ok (some best)) {limit : Nat} (hlimit : 0 < limit)
    (hlt : limit < best.iterations) (hinitial : m.shrinker.initial.Safe I)
    (htransition : m.shrinker.transition.Safe J) (htrees : session.value.Trees I J) :
    ∃ undone, (m.undoneAfter failure limit session).answer = .ok undone := by
  obtain ⟨first, final, hfirst, hsearch, hfinal⟩ := search_of_minimise htime hanswer
  have hcount : final.iterations = best.iterations := congrArg (·.iterations) hfinal
  have hstarts := (opened_starts m failure session).of_ok hfirst
  have hkeeps := keeps_trees hinitial htransition session.value.minSize
  have hopened := (opened_yields hkeeps htrees rfl trivial hfailure).of_ok hfirst
  obtain ⟨bound, hheld⟩ := hopened (reproduced_of_search (by omega) hsearch)
  obtain ⟨held, hafter, -, hshrink, -⟩ := limited_beyond hiters htime hanswer hlimit hlt (fun _ => 0) 0
  have htrees' : (m.heldAfter failure limit).Yields session (fun _ session' => session'.value.Trees I J)
      fun _ _ => True := by
    unfold heldAfter
    rw [Act.yields_bind, Act.yields_of_answer hfirst]
    exact (rounds_yields hkeeps limit hheld).mono (fun _ _ h => h.trees) fun _ _ h => h
  obtain ⟨hreduced, -⟩ := Sequence.shrink_edits hinitial htransition (htrees'.of_ok hafter) hshrink
  obtain ⟨undone, hundone, -⟩ := Sequence.complicate_answers hinitial htransition hreduced
  refine ⟨undone, ?_⟩
  rw [undoneAfter, Act.answer_bind, hafter]
  dsimp only
  rw [Act.answer_bind, hshrink]
  exact hundone

theorem rounds_improve {P : Shape S T → Prop} {minSize bound : Int} {startLength : Nat} {best : Minimum S T}
    (hheld : Held m (fun _ => True) (fun _ => True) minSize P bound startLength session.value best) (n : Nat) :
    (m.rounds n best).Yields session (fun held _ => held.2.NoWorse best minSize) fun _ _ => True := by
  obtain ⟨index, cause, houtcome, hfresh⟩ := hheld.fresh
  have hkeeps := m.keeps_shown minSize best.candidate.transitions.length
  refine (rounds_yields hkeeps n hfresh).mono (fun held session' h => ?_) fun _ _ h => h
  obtain ⟨index', cause', houtcome', hle⟩ := h.fails
  refine ⟨.inr ?_, fun hmin => ?_⟩
  · rw [houtcome, houtcome', Outcome.stillFails]
    exact decide_eq_true hle
  · rw [← h.shown]
    exact h.shape hmin

theorem shows_of_limited (htime : (m.settings.maxShrinkTime == 0) = true) {limit : Nat} (hlimit : 0 < limit)
    {clock : Nat → Float} {fuel : Nat} {found : Minimum S T}
    (h : ((m.limited limit clock).minimise fuel failure session).answer = .ok (some found)) :
    (m.opened failure >>= m.searchWithin limit).Yields session
      (fun best? _ => ∃ best, best? = some best ∧ best.Shows found) fun _ _ => False := by
  have hlimited := limited_answer htime hlimit clock fuel failure session
  rw [h] at hlimited
  obtain ⟨best, hanswer, hfound⟩ := exists_of_map_timeless hlimited.symm
  have hshows : best.Shows found := ⟨congrArg (·.candidate) hfound, congrArg (·.outcome) hfound⟩
  exact (Act.yields_of_answer hanswer).2 ⟨best, rfl, hshows⟩

theorem limited_noWorse (htime : (m.settings.maxShrinkTime == 0) = true)
    (hfailure : ∀ outcome ∈ failure, m.bench.outcome session.value.current = .ok outcome) {limit limit' : Nat}
    (hlimit : 0 < limit) (hle : limit ≤ limit') {clock clock' : Nat → Float} {fuel fuel' : Nat}
    {found found' : Minimum S T}
    (h : ((m.limited limit clock).minimise fuel failure session).answer = .ok (some found))
    (h' : ((m.limited limit' clock').minimise fuel' failure session).answer = .ok (some found')) :
    found'.NoWorse found session.value.minSize := by
  obtain ⟨n, rfl⟩ := Nat.exists_eq_add_of_le hle
  have hshows := shows_of_limited htime hlimit h
  have hshows' := shows_of_limited htime (Nat.lt_of_lt_of_le hlimit hle) h'
  rw [Act.yields_bind] at hshows hshows'
  obtain ⟨first, hfirst, hsearch⟩ := hshows.answers
  rw [Act.yields_of_answer hfirst] at hshows'
  unfold searchWithin at hsearch hshows'
  cases hreproduced : first.reproduced with
  | false =>
    rw [if_neg (by rw [hreproduced]; nofun)] at hsearch hshows'
    obtain ⟨best, hbest, hfound⟩ := hsearch
    obtain ⟨best', hbest', hfound'⟩ := hshows'
    cases hbest
    cases hbest'
    exact Minimum.NoWorse.rfl.of_shows hfound hfound'
  | true =>
    have hkeeps := m.keeps_shown session.value.minSize session.value.current.transitions.length
    have hopened := (opened_yields hkeeps session.value.trees_of_anything rfl (fun _ => Nat.le_refl _) hfailure).of_ok
      hfirst
    obtain ⟨bound, hheld⟩ := hopened hreproduced
    rw [if_pos hreproduced, Act.yields_bind] at hsearch hshows'
    obtain ⟨held, hafter, hclose⟩ := hsearch.answers
    have hfound := shows_of_close hclose
    -- The run with more iterations goes on from where the other one stopped.
    rw [rounds_add, Act.yields_bind, Act.yields_of_answer hafter] at hshows'
    cases hgoing : held.1 with
    | false =>
      rw [if_neg (by rw [hgoing]; nofun), Act.yields_pure] at hshows'
      have hfound' : (false, held.2).2.Shows found' := shows_of_close hshows'
      exact Minimum.NoWorse.rfl.of_shows hfound hfound'
    | true =>
      rw [if_pos hgoing] at hshows'
      obtain ⟨held', hlater, hclose'⟩ := hshows'.answers
      have hheld' := (rounds_yields hkeeps limit hheld).of_ok hafter
      exact ((rounds_improve hheld' n).of_ok hlater).of_shows hfound (shows_of_close hclose')

/-- Minimising with a limit on the iterations is minimising without one, up to the limit. -/
theorem limit_cuts_short {fuel : Nat} {best : Minimum S T} (hiters : m.settings.maxShrinkIters = 0)
    (htime : (m.settings.maxShrinkTime == 0) = true)
    (hfailure : ∀ outcome ∈ failure, m.bench.outcome session.value.current = .ok outcome)
    (hanswer : (m.minimise fuel failure session).answer = .ok (some best)) :
    best.timedOut = false ∧
    (∀ limit clock fuel', 0 < limit → best.iterations ≤ limit →
      ((m.limited limit clock).minimise fuel' failure session).answer.map (Option.map Minimum.timeless) =
        .ok (some best.timeless)) ∧
    (∀ limit clock fuel', 0 < limit → limit < best.iterations → ∃ held,
      (m.heldAfter failure limit session).answer = .ok (true, held) ∧ held.iterations = limit ∧
      ((m.heldAfter failure limit >>= fun held => m.reduce 0 (fuel - limit) held.2) session).answer.map
        (Option.map Minimum.timeless) = .ok (some best.timeless) ∧
      ((m.limited limit clock).minimise fuel' failure session).answer.map (Option.map Minimum.timeless) =
        (m.undoneAfter failure limit session).answer.map
          (fun _ => some ({ held with timedOut := true } : Minimum S T).timeless) ∧
      ∀ I J, m.shrinker.initial.Safe I → m.shrinker.transition.Safe J → session.value.Trees I J →
        ∃ undone, (m.undoneAfter failure limit session).answer = .ok undone) ∧
    ∀ limit limit' clock clock' fuel₁ fuel₂ found found', 0 < limit → limit ≤ limit' →
      ((m.limited limit clock).minimise fuel₁ failure session).answer = .ok (some found) →
      ((m.limited limit' clock').minimise fuel₂ failure session).answer = .ok (some found') →
      found'.NoWorse found session.value.minSize := by
  refine ⟨minimise_unlimited hiters htime hanswer, ?_, ?_, ?_⟩
  · intro limit clock fuel' hlimit hle
    exact limited_within hiters htime hanswer hlimit hle clock fuel'
  · intro limit clock fuel' hlimit hlt
    obtain ⟨held, hheld, hcount, -, hgoesOn, hlimited⟩ := limited_beyond hiters htime hanswer hlimit hlt clock fuel'
    refine ⟨held, hheld, hcount, hgoesOn, hlimited, ?_⟩
    intro I J hinitial htransition htrees
    exact undoneAfter_answers hiters htime hfailure hanswer hlimit hlt hinitial htransition htrees
  · intro limit limit' clock clock' fuel₁ fuel₂ found found' hlimit hle h h'
    exact limited_noWorse htime hfailure hlimit hle h h'

def patientMinimiser : Minimiser Nat Nat Bool Unit Search :=
  { purseMinimiser with settings := { purseSettings with maxShrinkIters := 0 } }

def tornPurse : Session Nat Bool Unit Search where
  value := .start () 1 [⟨.start 1 0, true⟩] 0

theorem limit_cuts_torn_purse_short : ∃ best found : Minimum Nat Bool,
    (patientMinimiser.minimise 8 none tornPurse).answer = .ok (some best) ∧ best.iterations = 2 ∧
    ((patientMinimiser.limited 1 fun _ => 0).minimise 8 none tornPurse).answer.map (Option.map Minimum.timeless) =
      .ok (some found.timeless) ∧ found.timedOut = true ∧ found.iterations = 1 ∧
    ((patientMinimiser.limited 2 fun _ => 0).minimise 8 none tornPurse).answer.map (Option.map Minimum.timeless) =
      .ok (some best.timeless) := by
  obtain ⟨best, hbest, hcount⟩ : ∃ best, (patientMinimiser.minimise 8 none tornPurse).answer = .ok (some best) ∧
      best.iterations = 2 := ⟨_, rfl, rfl⟩
  have htime : (patientMinimiser.settings.maxShrinkTime == 0) = true := by decide +kernel
  have hfailure : ∀ outcome ∈ (none : Option Outcome),
      patientMinimiser.bench.outcome tornPurse.value.current = .ok outcome := nofun
  obtain ⟨-, hwithin, hbeyond, -⟩ := limit_cuts_short rfl htime hfailure hbest
  obtain ⟨held, -, hheld, -, hlimited, hundone⟩ := hbeyond 1 (fun _ => 0) 8 (by decide) (by rw [hcount]; decide)
  have hpurse := Sequence.purseShrinker_total
  obtain ⟨undone, hanswer⟩ := hundone _ _ hpurse.initial.safe hpurse.transition.safe ⟨trivial, fun _ _ => trivial⟩
  refine ⟨best, { held with timedOut := true }, hbest, hcount, ?_, rfl, hheld, ?_⟩
  · rw [hlimited, hanswer]
    rfl
  · exact hwithin 2 (fun _ => 0) 8 (by decide) (Nat.le_of_eq hcount)

def stuckMinimiser : Minimiser Nat Nat Bool Unit Search :=
  { patientMinimiser with bench.adapter.teardown := fun _ _ => .error (.ofText .assertion "stuck") }

def hoardMinimiser : Minimiser Nat Nat Bool Search Search where
  bench.rules := Sequence.purse
  bench.adapter :=
    { patientMinimiser.bench.adapter with
      check := fun coins _ => if 1 ≤ coins then .error (.ofText .assertion "torn") else .ok () }
  shrinker.rules := Sequence.purse
  shrinker.initial := Search.tree.map fun n => if n = 2 then .error (.ofText .value "two") else .ok n.toNat
  shrinker.transition := Sequence.purseShrinker.transition
  settings := patientMinimiser.settings
  clock _ := 0

/-- A negative minimum lets the second deletion show two coins again that the first one had left out; and undoing what
is found at the limit can raise, where there is nothing to undo without one. -/
theorem limits_disagree :
    let session : Session Nat Bool Unit Search :=
      { value := .start () 1 [⟨.start 0 0, true⟩, ⟨.start 0 0, true⟩, ⟨.start 0 0, true⟩] (-1) }
    let hoard : Session Nat Bool Search Search := { value := .start (.start 6 0) 6 [] 0 }
    (stuckMinimiser.minimise 8 none session).answer.toOption.join.map (·.iterations) = some 2 ∧
    ((stuckMinimiser.limited 1 fun _ => 0).minimise 8 none session).answer.toOption.join.map
      (·.candidate.transitions) = some [] ∧
    ((stuckMinimiser.limited 2 fun _ => 0).minimise 8 none session).answer.toOption.join.map
      (·.candidate.transitions) = some [true, true] ∧
    (hoardMinimiser.minimise 8 none hoard).answer.toOption.join.map (·.iterations) = some 3 ∧
    ∃ e, ((hoardMinimiser.limited 1 fun _ => 0).minimise 8 none hoard).answer = .error e := by
  refine ⟨?_, ?_, ?_, ?_, _, rfl⟩
  all_goals decide +kernel

end Minimiser
end StateCheck
