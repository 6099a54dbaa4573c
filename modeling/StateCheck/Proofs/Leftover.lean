import StateCheck.Proofs.Minimise.Stages
import StateCheck.Proofs.Plain
import StateCheck.Proofs.Tree.Rests

/-! What minimising without a limit leaves. A tree that still counts has nothing simpler to show, or it was given up
when a back-off led to the value held; a plain tree has nothing left even then. -/

namespace StateCheck

namespace ValueTree
variable {σ α : Type} [BEq α] {t : ValueTree σ α} {A : Stages σ α} {R : α → α → Prop} {a : α} {s : σ}

/-- The tree shows a value to be tried in place of the one held: a simplification led to it, or a back-off from
another such value. -/
inductive Tried (t : ValueTree σ α) : α → σ → Prop
  | simplified {a : α} {s : σ} (ha : t.current s = .ok a) (hmoved : (t.simplify s).answer = .ok true) :
      Tried t a (t.simplify s).state
  | again {a b : α} {s : σ} (hs : Tried t a s) (hmoved : (t.complicate s).answer = .ok true)
      (hb : t.current (t.complicate s).state = .ok b) (hother : (b == a) = false) : Tried t a (t.complicate s).state

/-- A back-off from such a value failed, or it led to the value held. -/
inductive GivenUp (t : ValueTree σ α) : α → σ → Prop
  | failed {a : α} {s : σ} (hs : t.Tried a s) (hfailed : (t.complicate s).answer = .ok false) :
      GivenUp t a (t.complicate s).state
  | restored {a b : α} {s : σ} (hs : t.Tried a s) (hmoved : (t.complicate s).answer = .ok true)
      (hb : t.current (t.complicate s).state = .ok b) (hsame : (b == a) = true) : GivenUp t a (t.complicate s).state

def anyStages (t : ValueTree σ α) : Stages σ α where
  held a s := t.current s = .ok a
  tried := t.Tried
  back := t.GivenUp
  spent a s := t.Exhausted s ∨ t.GivenUp a s

theorem Rests.staged (ht : t.Rests) : t.Staged t.anyStages where
  simplify a s ha := by
    refine ((t.simplify.yields_self s).and (ht.stays s)).mono (fun moved s' h => ?_) fun _ _ _ => trivial
    obtain ⟨⟨hanswer, rfl⟩, hrests⟩ := h
    cases moved with
    | true => exact .simplified ha hanswer
    | false => exact .inl (hrests rfl)
  keep _ _ _ _ hb := hb
  complicate a s hs := by
    refine (t.complicate.yields_self s).mono (fun moved s' h => ?_) fun _ _ _ => trivial
    obtain ⟨hanswer, rfl⟩ := h
    cases moved with
    | false => exact .inr (.failed hs hanswer)
    | true =>
      intro b hb
      split
      · exact .restored hs hanswer hb ‹_›
      · exact .again hs hanswer hb (Bool.eq_false_iff.2 ‹_›)
  giveUp _ _ hs := .inr hs

theorem Plain.exhausted (ht : t.Plain A R) (hs : A.spent a s) : t.Exhausted s :=
  exhausted_iff.2 ((ht.rest a s hs).mono (fun _ _ h => h.1) fun _ _ h => h)

end ValueTree

def Stages.HoldsAll {σ α : Type} (A : Stages σ α) (t : ValueTree σ α) (I : σ → Prop) : Prop :=
  ∀ s, I s → ∀ a, t.current s = .ok a → A.held a s

namespace Model
variable {U S T : Type} {model : Model S T}

def TransitionDrawn (model : Model S T) (tree : model.TransitionTree) : Prop := (model.next tree.1).Drawn tree.2

inductive Drawn (model : Model S T) : model.Sequence → Prop
  | start {tree : model.initial.State} {s : S} {entries : List model.Entry} {minSize : Int}
      (htree : model.initial.Drawn tree) (hshown : model.initial.tree.current tree = .ok s)
      (hentries : ∀ entry ∈ entries, model.TransitionDrawn entry.tree)
      (hentriesShown : ∀ entry ∈ entries, model.transitionTree.current entry.tree = .ok entry.transition)
      (hminSize : 0 ≤ minSize) : Drawn model (.start tree s entries minSize)

theorem draws_drawn [BEq S] [BEq T] (model : Model S T) (settings : Settings) :
    (Strategy.sequences model settings).Draws model.Drawn := by
  have hfresh : model.Fresh model.initial.Drawn model.TransitionDrawn :=
    ⟨(Strategy.draws_drawn _).draw, fun s {_} _ => (Strategy.draws_drawn _).draw⟩
  refine ⟨fun source => (generate_yields hfresh source).mono (fun v _ hv => ?_) fun _ _ h => h⟩
  cases hv with
  | start htree hentries _ _ hshown hentriesShown =>
    exact .start htree hshown hentries hentriesShown (Int.natCast_nonneg _)

section stages
variable {v : model.Sequence} {A : Stages model.initial.State S} {B : Stages model.TransitionTree T}

theorem Drawn.sized (hv : model.Drawn v) : v.Sized := by
  cases hv with
  | start _ _ _ _ hminSize => exact ⟨hminSize, Int.natCast_nonneg _, Int.le_refl _⟩

theorem Drawn.between (hv : model.Drawn v) (hA : A.HoldsAll model.initial.tree model.initial.Drawn)
    (hB : B.HoldsAll model.transitionTree model.TransitionDrawn) : v.Between A B ∧ v.retryPending = false := by
  cases hv with
  | start htree hshown hentries hentriesShown _ =>
    exact ⟨Sequence.between_start _ (hA _ htree _ hshown) fun entry hentry =>
      hB _ (hentries entry hentry) _ (hentriesShown entry hentry), rfl⟩

end stages

theorem plain_transitionTree [BEq T] (hplain : ∀ s, ∃ R, (model.next s).Plain R) :
    ∃ B, model.transitionTree.Plain B (fun _ _ => True) ∧ B.HoldsAll model.transitionTree model.TransitionDrawn := by
  choose R hR using hplain
  choose B hB using fun s => (hR s).drawsHeld
  exact ⟨_, .tagged fun s => (hB s).plain.mono fun _ _ _ => trivial,
    fun tree htree => (hB tree.1).draws.of_drawn htree⟩

section minimise
variable [Datum T] [BEq S] [BEq T] (m : Minimiser U S T model.initial.State model.TransitionTree)
  (session : Session S T model.initial.State model.TransitionTree) {fuel : Nat} {failure : Option Outcome}
  {best : Minimum S T}

theorem minimise_spends_drawn (hallows : ∀ s t, model.allows s t = .ok true) (hshrinker : m.shrinker = model.shrinker)
    (hiters : m.settings.maxShrinkIters = 0) (htime : (m.settings.maxShrinkTime == 0) = true)
    (hvalue : model.Drawn session.value) (hanswer : (m.minimise fuel failure session).answer = .ok (some best))
    (hfails : best.reproduced = true) {A : Stages model.initial.State S} {B : Stages model.TransitionTree T}
    (hA : model.initial.tree.Staged A) (hA' : A.HoldsAll model.initial.tree model.initial.Drawn)
    (hB : model.transitionTree.Staged B) (hB' : B.HoldsAll model.transitionTree model.TransitionDrawn) :
    let left := (m.minimise fuel failure session).state.value
    (∀ entry ∈ left.kept, entry.Spent B) ∧ A.spent left.initialState left.initialTree := by
  obtain ⟨hbetween, hretry⟩ := hvalue.between hA' hB'
  refine Minimiser.minimise_spends ?_ ?_ ?_ hvalue.sized hbetween hretry hanswer hfails
    (Minimiser.minimise_unlimited hiters htime hanswer)
  · exact hshrinker ▸ hA
  · exact hshrinker ▸ hB
  · exact hshrinker ▸ hallows

/-- Without a limit, a failing sequence of drawn trees is left with trees that have nothing simpler to show or that
were given up. Where the trees drawn are plain they have nothing simpler to show. -/
theorem reductions_left (hinitial : model.initial.Composed) (hnext : ∀ s, (model.next s).Composed)
    (hallows : ∀ s t, model.allows s t = .ok true) (hshrinker : m.shrinker = model.shrinker)
    (hiters : m.settings.maxShrinkIters = 0) (htime : (m.settings.maxShrinkTime == 0) = true)
    (hvalue : model.Drawn session.value) {index : Int} {cause : Fault}
    (hfails : m.bench.outcome session.value.current = .ok (.fail index cause))
    (hfailure : ∀ outcome ∈ failure, m.bench.outcome session.value.current = .ok outcome)
    (hanswer : (m.minimise fuel failure session).answer = .ok (some best)) :
    let left := (m.minimise fuel failure session).state.value
    best.candidate = ⟨left.initialState, left.kept.map (·.transition)⟩ ∧
    (∀ entry ∈ left.kept, model.transitionTree.Exhausted entry.tree ∨
      model.transitionTree.GivenUp entry.transition entry.tree) ∧
    (model.initial.tree.Exhausted left.initialTree ∨ model.initial.tree.GivenUp left.initialState left.initialTree) ∧
    ((∀ s, ∃ R, (model.next s).Plain R) → ∀ entry ∈ left.kept, model.transitionTree.Exhausted entry.tree) ∧
    ((∃ R, model.initial.Plain R) → model.initial.tree.Exhausted left.initialTree) := by
  obtain ⟨outcome, houtcome, hend⟩ := Minimiser.ends_of_minimise hfailure hanswer
  obtain rfl := Except.ok.inj (houtcome.symm.trans hfails)
  have hreproduced : best.reproduced = true := by
    obtain ⟨index', cause', hbest, -⟩ := hend.fails
    rw [Minimum.reproduced, hbest]
    rfl
  -- Where one tree is not known to be plain, its stages are those of any tree.
  have hinitialStaged := hinitial.rests.staged
  have hnextStaged : model.transitionTree.Staged model.transitionTree.anyStages :=
    (ValueTree.Rests.tagged fun s => (hnext s).rests).staged
  have hspends {A : Stages model.initial.State S} {B : Stages model.TransitionTree T} :=
    minimise_spends_drawn m session hallows hshrinker hiters htime hvalue hanswer hreproduced (A := A) (B := B)
  obtain ⟨hentries, hleft⟩ := hspends hinitialStaged (fun _ _ _ hs => hs) hnextStaged fun _ _ _ ht => ht
  refine ⟨hend.shown.symm.trans ?_, hentries, hleft, fun hplain entry hentry => ?_, fun hplain => ?_⟩
  · rw [← Sequence.current_transitions]
    rfl
  · obtain ⟨B, hB, hB'⟩ := plain_transitionTree hplain
    exact hB.exhausted ((hspends hinitialStaged (fun _ _ _ hs => hs) hB.toStaged hB').1 entry hentry)
  · obtain ⟨R, hR⟩ := hplain
    obtain ⟨A, hA⟩ := hR.drawsHeld
    exact hA.plain.exhausted (hspends hA.plain.toStaged (fun _ htree => hA.draws.of_drawn htree) hnextStaged
      fun _ _ _ ht => ht).2

end minimise

theorem drawn_integers {lo hi n target : Int} (words : List UInt32)
    (h : (Random.between lo hi words).answer.toOption = some n) (htarget : min (max 0 lo) hi = target) :
    (Strategy.integers lo hi).Drawn (Search.start n target) := by
  have hdraw : ((Random.between lo hi >>= fun n => pure (Search.start n target) : Act (List UInt32) Search)
      words).answer = .ok (Search.start n target) := by
    rw [Act.answer_bind]
    generalize Random.between lo hi words = r at h ⊢
    obtain ⟨_ | n', words', notes⟩ := r
    · cases h
    · cases h
      rfl
  subst htarget
  exact ⟨List UInt32, writtenWords, words, hdraw⟩

def tank : Model Int Int where
  apply level litres := .ok (level + litres)
  allows _ _ := .ok true
  name := "Tank"
  initial := .integers 0 9
  next _ := .integers 0 9

def tankMinimiser : Minimiser Int Int Int tank.initial.State tank.TransitionTree where
  bench :=
    { rules := tank.toRules
      adapter :=
        { init := .ok
          apply := fun level _ litres => .ok (level + litres)
          check := fun level _ => if 5 ≤ level then .error (.ofText .assertion "leak") else .ok ()
          teardown := fun _ _ => .ok () } }
  shrinker := tank.shrinker
  settings := { Minimiser.purseSettings with maxShrinkIters := 0 }
  clock _ := 0

def filled : Session Int Int tank.initial.State tank.TransitionTree where
  value := .start (.start 3 0) 3 [⟨⟨3, .start 7 0⟩, 7⟩] 1

theorem filled_drawn : tank.Drawn filled.value := by
  have hthree : (Strategy.integers 0 9).Drawn (Search.start 3 0) :=
    drawn_integers [0x30000000] (by decide +kernel) rfl
  have hseven : (Strategy.integers 0 9).Drawn (Search.start 7 0) :=
    drawn_integers [0x70000000] (by decide +kernel) rfl
  have hentries : ∀ entry ∈ filled.value.entries, tank.TransitionDrawn entry.tree ∧
      tank.transitionTree.current entry.tree = .ok entry.transition := by
    intro entry hentry
    obtain rfl := List.mem_singleton.1 hentry
    exact ⟨hseven, rfl⟩
  have hshown : tank.initial.tree.current (Search.start 3 0) = .ok 3 := rfl
  exact .start hthree hshown (fun entry hentry => (hentries entry hentry).1)
    (fun entry hentry => (hentries entry hentry).2) Int.one_nonneg

theorem filled_fails : tankMinimiser.bench.outcome filled.value.current = .ok (.fail 0 (.ofText .assertion "leak")) :=
  rfl

theorem reductions_left_tank : ∃ best : Minimum Int Int,
    (tankMinimiser.minimise 20 none filled).answer = .ok (some best) ∧
    let left := (tankMinimiser.minimise 20 none filled).state.value
    (∀ entry ∈ left.kept, tank.transitionTree.Exhausted entry.tree) ∧
      tank.initial.tree.Exhausted left.initialTree := by
  have hends : (tankMinimiser.minimise 20 none filled).answer.toOption.join.map (·.iterations) = some 5 := by
    decide +kernel
  obtain ⟨best, hbest, -⟩ := exists_of_found hends
  have hfailure : ∀ outcome ∈ (none : Option Outcome),
      tankMinimiser.bench.outcome filled.value.current = .ok outcome := nofun
  have hcomposed : (Strategy.integers 0 9).Composed := .integers 0 9
  have hallows : ∀ s t, tank.allows s t = .ok true := fun _ _ => rfl
  have htime : (tankMinimiser.settings.maxShrinkTime == 0) = true := by decide +kernel
  have hleft := reductions_left tankMinimiser filled hcomposed (fun _ => hcomposed) hallows rfl rfl htime filled_drawn
    filled_fails hfailure hbest
  have hplain : ∃ R, (Strategy.integers 0 9).Plain R := ⟨_, .integers (by decide)⟩
  exact ⟨best, hbest, hleft.2.2.2.1 fun _ => hplain, hleft.2.2.2.2 hplain⟩

def valves : Model Int (List Int) where
  apply level _ := .ok level
  allows _ _ := .ok true
  name := "Valves"
  initial := .just 0 "0"
  next _ := .builds .ok [.integers 0 1, .integers 0 1]

def valvesMinimiser : Minimiser Int Int (List Int) valves.initial.State valves.TransitionTree where
  bench :=
    { rules := valves.toRules
      adapter :=
        { init := .ok
          apply := fun _ _ settings => .ok (settings.headD 0)
          check := fun first _ => if 1 ≤ first then .error (.ofText .assertion "broken") else .ok ()
          teardown := fun _ _ => .ok () } }
  shrinker := valves.shrinker
  settings := { Minimiser.purseSettings with maxShrinkIters := 0 }
  clock _ := 0

def opened : Session Int (List Int) valves.initial.State valves.TransitionTree where
  value := .start () 0 [⟨⟨0, { trees := [⟨0, .start 1 0⟩, ⟨1, .start 1 0⟩] }⟩, [1, 1]⟩] 1

theorem opened_drawn : valves.Drawn opened.value := by
  have hentries : ∀ entry ∈ opened.value.entries, valves.TransitionDrawn entry.tree ∧
      valves.transitionTree.current entry.tree = .ok entry.transition := by
    intro entry hentry
    obtain rfl := List.mem_singleton.1 hentry
    exact ⟨⟨List UInt32, writtenWords, [0x40000000, 0x40000000], rfl⟩, rfl⟩
  exact .start ⟨List UInt32, writtenWords, [], rfl⟩ rfl (fun entry hentry => (hentries entry hentry).1)
    (fun entry hentry => (hentries entry hentry).2) Int.one_nonneg

theorem valves_composed (s : Int) : (valves.next s).Composed := by
  refine Strategy.composed_builds .ok fun part hpart => ?_
  simp only [List.mem_cons, List.not_mem_nil, or_false, or_self] at hpart
  obtain rfl := hpart
  exact .integers 0 1

/-- Once the first valve cannot be closed, the second one is left open: closing it is never tried, though it fails
too. -/
theorem second_valve_left_open :
    valves.initial.Composed ∧ (∀ s, (valves.next s).Composed) ∧ (∀ s t, valves.allows s t = .ok true) ∧
    valvesMinimiser.shrinker = valves.shrinker ∧ valvesMinimiser.settings.maxShrinkIters = 0 ∧
    (valvesMinimiser.settings.maxShrinkTime == 0) = true ∧ valves.Drawn opened.value ∧
    ∃ best : Minimum Int (List Int), (valvesMinimiser.minimise 9 none opened).answer = .ok (some best) ∧
      best.reproduced = true ∧ best.candidate = ⟨0, [[1, 1]]⟩ ∧
      valvesMinimiser.bench.outcome ⟨0, [[1, 0]]⟩ = .ok best.outcome ∧
      ¬∀ entry ∈ (valvesMinimiser.minimise 9 none opened).state.value.kept,
        valves.transitionTree.Exhausted entry.tree := by
  refine ⟨.just 0 "0", valves_composed, fun _ _ => rfl, rfl, rfl, by decide +kernel, opened_drawn, _, rfl, rfl, rfl,
    rfl, fun hexhausted => ?_⟩
  have hclosed := hexhausted _ List.mem_cons_self
  cases hclosed

end Model
end StateCheck
