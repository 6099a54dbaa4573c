import StateCheck.Proofs.Minimise.Loop
import StateCheck.Proofs.Minimise.Timeless

/-! A limit on the iterations cuts the loop of minimising short: up to the limit it runs as it does without one, and
the reduction that it finds there is undone. -/

namespace StateCheck

def Minimum.Shows {S T : Type} (best found : Minimum S T) : Prop :=
  best.candidate = found.candidate ∧ best.outcome = found.outcome

namespace Minimiser
variable {U S T ι τ : Type} {m : Minimiser U S T ι τ} {session : Session S T ι τ} {best final : Minimum S T}
  {failure : Option Outcome}

def limited (m : Minimiser U S T ι τ) (limit : Nat) (clock : Nat → Float) : Minimiser U S T ι τ :=
  { m with settings := { m.settings with maxShrinkIters := limit }, clock := clock }

section
variable [BEq S] [BEq T]

def stop (m : Minimiser U S T ι τ) (best : Minimum S T) : Act (Session S T ι τ) (Option (Minimum S T)) := do
  if ← onValue (Sequence.shrink m.shrinker) then
    let _ ← onValue (Sequence.complicate m.shrinker)
    Act.log (.budgetSpent best.iterations)
    pure (some { best with timedOut := true })
  else pure (some best)

def close (m : Minimiser U S T ι τ) (held : Bool × Minimum S T) : Act (Session S T ι τ) (Option (Minimum S T)) :=
  if held.1 then m.stop held.2 else pure (some held.2)

theorem close_shows (held : Bool × Minimum S T) (session : Session S T ι τ) : (m.close held).Yields session
    (fun best? _ => ∃ best, best? = some best ∧ best.Shows held.2) fun _ _ => True := by
  unfold close stop
  rw [Act.yields_ite]
  refine ⟨fun _ => ?_, fun _ => ⟨_, rfl, rfl, rfl⟩⟩
  refine Act.yields_after fun moved session' => ?_
  rw [Act.yields_ite]
  refine ⟨fun _ => Act.yields_after fun _ _ => ?_, fun _ => ⟨_, rfl, rfl, rfl⟩⟩
  exact ⟨_, rfl, rfl, rfl⟩

theorem shows_of_close {held : Bool × Minimum S T} {found : Minimum S T}
    (h : (m.close held).Yields session (fun best? _ => ∃ best, best? = some best ∧ best.Shows found)
      fun _ _ => False) : held.2.Shows found := by
  obtain ⟨best?, hanswer, best, rfl, hcandidate, houtcome⟩ := h.answers
  obtain ⟨best', hbest, hcandidate', houtcome'⟩ := (close_shows held session).of_ok hanswer
  cases hbest
  exact ⟨hcandidate'.symm.trans hcandidate, houtcome'.symm.trans houtcome⟩

end

variable [Datum T]

theorem opened_starts (m : Minimiser U S T ι τ) (failure : Option Outcome) (session : Session S T ι τ) :
    (m.opened failure).Yields session (fun best _ => best.iterations = 0) fun _ _ => True := by
  unfold opened now current
  rw [Act.yields_bind, Act.yields_ofMove, Act.yields_bind, Act.yields_ofMove]
  exact Act.yields_after fun outcome _ => Act.yields_after fun _ _ => rfl

variable [BEq S] [BEq T]

/-- So many reductions, each replayed and judged, and whether there were as many. -/
def rounds (m : Minimiser U S T ι τ) : Nat → Minimum S T → Act (Session S T ι τ) (Bool × Minimum S T)
  | 0, best => pure (true, best)
  | n + 1, best => do
    if ← onValue (Sequence.shrink m.shrinker) then
      let best ← m.judge best
      rounds m n best
    else pure (false, best)

def heldAfter (m : Minimiser U S T ι τ) (failure : Option Outcome) (n : Nat) :
    Act (Session S T ι τ) (Bool × Minimum S T) := m.opened failure >>= m.rounds n

def undoneAfter (m : Minimiser U S T ι τ) (failure : Option Outcome) (n : Nat) : Act (Session S T ι τ) Bool := do
  let _ ← m.heldAfter failure n
  let _ ← onValue (Sequence.shrink m.shrinker)
  onValue (Sequence.complicate m.shrinker)

theorem rounds_add (n k : Nat) (best : Minimum S T) : m.rounds (n + k) best =
    m.rounds n best >>= fun held => if held.1 then m.rounds k held.2 else pure (false, held.2) := by
  induction n generalizing best with
  | zero => rw [Nat.zero_add, rounds, pure_bind, if_pos rfl]
  | succ n ih =>
    rw [Nat.succ_add, rounds, rounds, bind_assoc]
    refine bind_congr fun moved => ?_
    cases moved with
    | false => rw [if_neg Bool.false_ne_true, if_neg Bool.false_ne_true, pure_bind, if_neg Bool.false_ne_true]
    | true =>
      rw [if_pos rfl, if_pos rfl, bind_assoc]
      exact bind_congr ih

theorem reduce_limited (htime : (m.settings.maxShrinkTime == 0) = true) {limit : Nat} (hlimit : 0 < limit)
    (clock : Nat → Float) (started : Float) (n : Nat) (hn : best.iterations + n = limit) :
    (m.limited limit clock).reduce started (n + 1) best session =
      (m.rounds n best >>= m.close) session := by
  have hspent (iterations : Nat) : (m.limited limit clock).budgetSpent iterations started =
      pure (decide (limit ≠ 0 ∧ limit ≤ iterations)) :=
    budgetSpent_timeless (m := m.limited limit clock) htime iterations started
  induction n generalizing session best with
  | zero =>
    unfold reduce
    rw [hspent, decide_eq_true (by omega)]
    rfl
  | succ n ih =>
    unfold reduce
    rw [rounds, hspent, decide_eq_false (by omega), bind_assoc]
    refine Act.bind_eq rfl ((Act.yields_trivial _ session).mono (fun moved session' _ => ?_) fun _ _ h => h)
    cases moved with
    | false => rfl
    | true =>
      rw [if_pos rfl, if_pos rfl, pure_bind, if_neg Bool.false_ne_true, bind_assoc]
      refine Act.bind_eq rfl ((judge_counts best session').mono (fun best' session'' h => ?_) fun _ _ h => h)
      exact ih (by omega)

theorem reduce_unlimited_succ (hiters : m.settings.maxShrinkIters = 0)
    (htime : (m.settings.maxShrinkTime == 0) = true) (started : Float) (fuel : Nat) (best : Minimum S T) :
    m.reduce started (fuel + 1) best = onValue (Sequence.shrink m.shrinker) >>= fun moved =>
      if moved then m.judge best >>= m.reduce started fuel else pure (some best) := by
  unfold reduce
  simp only [budgetSpent_unlimited hiters htime, pure_bind, if_neg Bool.false_ne_true]

def EndsWith (m : Minimiser U S T ι τ) (started : Float) (fuel : Nat) (best : Minimum S T)
    (session : Session S T ι τ) (final : Minimum S T) : Prop :=
  (m.reduce started fuel best).Yields session (fun best? _ => best? = some final) fun _ _ => False

theorem EndsWith.next (hiters : m.settings.maxShrinkIters = 0) (htime : (m.settings.maxShrinkTime == 0) = true)
    {started : Float} {fuel : Nat} (h : m.EndsWith started (fuel + 1) best session final) :
    (onValue (Sequence.shrink m.shrinker)).Yields session (fun moved session' =>
      if moved then (m.judge best).Yields session' (fun best' session'' =>
        best'.iterations = best.iterations + 1 ∧ m.EndsWith started fuel best' session'' final) fun _ _ => False
      else best = final) fun _ _ => False := by
  unfold EndsWith at h
  rw [reduce_unlimited_succ hiters htime, Act.yields_bind] at h
  refine h.mono (fun moved session' h => ?_) fun _ _ h => h
  cases moved with
  | false => exact Option.some.inj h
  | true =>
    rw [if_pos rfl, Act.yields_bind] at h
    rw [if_pos rfl]
    exact ((judge_counts best session').and h).mono (fun _ _ h => h) fun _ _ h => h.2

theorem EndsWith.iterations_le (hiters : m.settings.maxShrinkIters = 0)
    (htime : (m.settings.maxShrinkTime == 0) = true) {started : Float} {fuel : Nat}
    (h : m.EndsWith started fuel best session final) : best.iterations ≤ final.iterations := by
  induction fuel generalizing session best with
  | zero => cases h
  | succ fuel ih =>
    obtain ⟨moved, -, h⟩ := (h.next hiters htime).answers
    cases moved with
    | false => exact Nat.le_of_eq (congrArg Minimum.iterations h)
    | true =>
      rw [if_pos rfl] at h
      obtain ⟨best', -, hcounts, h⟩ := h.answers
      have hle := ih h
      omega

theorem EndsWith.shrinks (hiters : m.settings.maxShrinkIters = 0) (htime : (m.settings.maxShrinkTime == 0) = true)
    {started : Float} {fuel : Nat} (h : m.EndsWith started fuel best session final) :
    (onValue (Sequence.shrink m.shrinker)).Yields session (fun moved _ =>
      moved = decide (best.iterations < final.iterations) ∧ (moved = false → best = final)) fun _ _ => False := by
  cases fuel with
  | zero => cases h
  | succ fuel =>
    refine (h.next hiters htime).mono (fun moved session' h => ?_) fun _ _ h => h
    cases moved with
    | false =>
      have hfinal : best = final := h
      rw [hfinal, decide_eq_false (Nat.lt_irrefl _)]
      exact ⟨rfl, fun _ => rfl⟩
    | true =>
      rw [if_pos rfl] at h
      obtain ⟨best', -, hcounts, h⟩ := h.answers
      have hle := h.iterations_le hiters htime
      rw [decide_eq_true (by omega)]
      exact ⟨rfl, nofun⟩

theorem EndsWith.rounds (hiters : m.settings.maxShrinkIters = 0) (htime : (m.settings.maxShrinkTime == 0) = true)
    {started : Float} {fuel : Nat} (h : m.EndsWith started fuel best session final) (n : Nat) :
    (m.rounds n best).Yields session (fun held session' =>
      held.1 = true ∧ held.2.iterations = best.iterations + n ∧
        m.EndsWith started (fuel - n) held.2 session' final ∨
      held = (false, final) ∧ final.iterations < best.iterations + n) fun _ _ => False := by
  induction n generalizing session best fuel with
  | zero => exact .inl ⟨rfl, rfl, h⟩
  | succ n ih =>
    cases fuel with
    | zero => cases h
    | succ fuel =>
      unfold Minimiser.rounds
      rw [Act.yields_bind]
      refine (h.next hiters htime).mono (fun moved session' h => ?_) fun _ _ h => h
      cases moved with
      | false =>
        have hfinal : best = final := h
        subst hfinal
        exact .inr ⟨rfl, by omega⟩
      | true =>
        rw [if_pos rfl] at h ⊢
        rw [Act.yields_bind]
        refine h.mono (fun best' session'' h => ?_) fun _ _ h => h
        obtain ⟨hcounts, h⟩ := h
        rw [Nat.succ_sub_succ, ← Nat.add_assoc, Nat.add_right_comm, ← hcounts]
        exact ih h

def searchWithin (m : Minimiser U S T ι τ) (limit : Nat) (best : Minimum S T) :
    Act (Session S T ι τ) (Option (Minimum S T)) :=
  if best.reproduced then m.rounds limit best >>= m.close else pure (some best)

theorem limited_answer (htime : (m.settings.maxShrinkTime == 0) = true) {limit : Nat} (hlimit : 0 < limit)
    (clock : Nat → Float) (fuel : Nat) (failure : Option Outcome) (session : Session S T ι τ) :
    ((m.limited limit clock).minimise fuel failure session).answer.map (Option.map Minimum.timeless) =
      ((m.opened failure >>= m.searchWithin limit) session).answer.map (Option.map Minimum.timeless) := by
  have hopened : (m.limited limit clock).opened failure = m.opened failure := rfl
  have hfuel : fuelFor (m.limited limit clock).settings fuel = limit + 1 := if_neg (Nat.ne_of_gt hlimit)
  rw [minimise_timeless (m := m.limited limit clock) htime, hopened]
  refine Act.answer_bind_congr ((opened_starts m failure session).mono (fun first session' h => ?_) fun _ _ h => h)
  unfold search searchWithin
  split
  · rw [hfuel, reduce_limited htime hlimit clock 0 limit (by omega)]
  · rfl

theorem EndsWith.within (hiters : m.settings.maxShrinkIters = 0) (htime : (m.settings.maxShrinkTime == 0) = true)
    {fuel limit : Nat} (h : m.EndsWith 0 fuel best session final) (hbest : best.iterations = 0)
    (hlimit : final.iterations ≤ limit) :
    (m.rounds limit best >>= m.close).Yields session (fun best? _ => best? = some final) fun _ _ => False := by
  rw [Act.yields_bind]
  refine (h.rounds hiters htime limit).mono (fun held session' h => ?_) fun _ _ h => h
  rcases h with ⟨hgoing, hcounts, h⟩ | ⟨rfl, -⟩
  · have hle := h.iterations_le hiters htime
    unfold close stop
    rw [if_pos hgoing, Act.yields_bind]
    refine (h.shrinks hiters htime).mono (fun moved session'' h => ?_) fun _ _ h => h
    obtain ⟨rfl, hlast⟩ := h
    rw [decide_eq_false (by omega)] at hlast ⊢
    exact congrArg some (hlast rfl)
  · rfl

theorem search_of_minimise (htime : (m.settings.maxShrinkTime == 0) = true) {fuel : Nat}
    (hanswer : (m.minimise fuel failure session).answer = .ok (some best)) :
    ∃ first final, (m.opened failure session).answer = .ok first ∧
      (m.search fuel first (m.opened failure session).state).answer = .ok (some final) ∧
      final.timeless = best.timeless := by
  have hopened := minimise_timeless htime fuel failure session
  rw [hanswer] at hopened
  obtain ⟨final, hfound, hfinal⟩ := exists_of_map_timeless hopened.symm
  have hyields : (m.opened failure >>= m.search fuel).Yields session (fun final? _ => final? = some final)
      fun _ _ => False := (Act.yields_of_answer hfound).2 rfl
  rw [Act.yields_bind] at hyields
  obtain ⟨first, hfirst, hsearch⟩ := hyields.answers
  obtain ⟨_, hsearched, rfl⟩ := hsearch.answers
  exact ⟨first, final, hfirst, hsearched, hfinal⟩

theorem endsWith_of_search (hiters : m.settings.maxShrinkIters = 0) {fuel : Nat} (hbest : best.reproduced = true)
    (hsearch : (m.search fuel best session).answer = .ok (some final)) : m.EndsWith 0 fuel best session final := by
  unfold search fuelFor at hsearch
  rw [if_pos hbest, if_pos hiters] at hsearch
  exact (Act.yields_of_answer hsearch).2 rfl

theorem reproduced_of_search {fuel : Nat} (hlt : best.iterations < final.iterations)
    (hsearch : (m.search fuel best session).answer = .ok (some final)) : best.reproduced = true := by
  by_contra hpasses
  unfold search at hsearch
  rw [if_neg hpasses] at hsearch
  cases hsearch
  exact Nat.lt_irrefl _ hlt

theorem limited_within (hiters : m.settings.maxShrinkIters = 0) (htime : (m.settings.maxShrinkTime == 0) = true)
    {fuel : Nat} (hanswer : (m.minimise fuel failure session).answer = .ok (some best)) {limit : Nat}
    (hlimit : 0 < limit) (hle : best.iterations ≤ limit) (clock : Nat → Float) (fuel' : Nat) :
    ((m.limited limit clock).minimise fuel' failure session).answer.map (Option.map Minimum.timeless) =
      .ok (some best.timeless) := by
  obtain ⟨first, final, hfirst, hsearch, hfinal⟩ := search_of_minimise htime hanswer
  have hcount : final.iterations = best.iterations := congrArg (·.iterations) hfinal
  rw [limited_answer htime hlimit, Act.answer_bind, hfirst, ← hfinal]
  dsimp only
  cases hreproduced : first.reproduced with
  | false =>
    unfold search at hsearch
    unfold searchWithin
    rw [if_neg (by rw [hreproduced]; nofun)] at hsearch ⊢
    rw [hsearch]
    rfl
  | true =>
    have hends := endsWith_of_search hiters hreproduced hsearch
    have hstarts := (opened_starts m failure session).of_ok hfirst
    obtain ⟨final?, hclosed, rfl⟩ := (hends.within hiters htime hstarts (hcount ▸ hle)).answers
    unfold searchWithin
    rw [if_pos hreproduced, hclosed]
    rfl

theorem limited_beyond (hiters : m.settings.maxShrinkIters = 0) (htime : (m.settings.maxShrinkTime == 0) = true)
    {fuel : Nat} (hanswer : (m.minimise fuel failure session).answer = .ok (some best)) {limit : Nat}
    (hlimit : 0 < limit) (hlt : limit < best.iterations) (clock : Nat → Float) (fuel' : Nat) :
    ∃ held, (m.heldAfter failure limit session).answer = .ok (true, held) ∧ held.iterations = limit ∧
      (onValue (Sequence.shrink m.shrinker) (m.heldAfter failure limit session).state).answer = .ok true ∧
      ((m.heldAfter failure limit >>= fun held => m.reduce 0 (fuel - limit) held.2) session).answer.map
        (Option.map Minimum.timeless) = .ok (some best.timeless) ∧
      ((m.limited limit clock).minimise fuel' failure session).answer.map (Option.map Minimum.timeless) =
        (m.undoneAfter failure limit session).answer.map
          fun _ => some ({ held with timedOut := true } : Minimum S T).timeless := by
  obtain ⟨first, final, hfirst, hsearch, hfinal⟩ := search_of_minimise htime hanswer
  have hcount : final.iterations = best.iterations := congrArg (·.iterations) hfinal
  have hstarts := (opened_starts m failure session).of_ok hfirst
  have hreproduced := reproduced_of_search (by omega) hsearch
  have hends := endsWith_of_search hiters hreproduced hsearch
  have hheld : (m.heldAfter failure limit).Yields session (fun held session' => held.1 = true ∧
      held.2.iterations = limit ∧ m.EndsWith 0 (fuel - limit) held.2 session' final) fun _ _ => False := by
    unfold heldAfter
    rw [Act.yields_bind, Act.yields_of_answer hfirst]
    refine (hends.rounds hiters htime limit).mono (fun held session' h => ?_) fun _ _ h => h
    rcases h with ⟨hgoing, hcounts, h⟩ | ⟨-, hend⟩
    · exact ⟨hgoing, by omega, h⟩
    · omega
  obtain ⟨⟨going, held⟩, hanswer', hgoing, hcounts, hgoesOn⟩ := hheld.answers
  obtain rfl : going = true := hgoing
  obtain ⟨moved, hmoved, hshrinks, -⟩ := (hgoesOn.shrinks hiters htime).answers
  rw [decide_eq_true (by dsimp only at hcounts ⊢; omega)] at hshrinks
  subst hshrinks
  refine ⟨held, hanswer', hcounts, hmoved, ?_, ?_⟩
  · obtain ⟨final?, hreduced, rfl⟩ := hgoesOn.answers
    rw [Act.answer_bind, hanswer']
    dsimp only
    rw [hreduced, ← hfinal]
    rfl
  · have hlimited : ((m.opened failure >>= m.searchWithin limit) session).answer =
        ((m.heldAfter failure limit >>= m.close) session).answer := by
      unfold heldAfter searchWithin
      rw [bind_assoc, Act.answer_bind, Act.answer_bind, hfirst]
      dsimp only
      rw [if_pos hreproduced]
    rw [limited_answer htime hlimit, hlimited, undoneAfter, Act.answer_bind, Act.answer_bind, hanswer']
    dsimp only
    rw [close, if_pos rfl, stop, Act.answer_bind, Act.answer_bind, hmoved]
    dsimp only
    rw [if_pos rfl, Act.answer_bind]
    generalize onValue (Sequence.complicate m.shrinker) _ = r
    cases r.answer <;> rfl

end Minimiser
end StateCheck
