import StateCheck.Proofs.Draws
import StateCheck.Proofs.Generation
import StateCheck.Proofs.Minimise.Ends
import StateCheck.Proofs.Minimise.Failure
import StateCheck.Proofs.Sequence.Rounds

/-! Shrinking ends for every tree that the combinators draw, also when sequences of a model are drawn as values.
Each combinator ranks its trees by the ranks of its parts'. -/

namespace StateCheck

namespace Strategy
variable {α : Type}

/-- Made by the combinators, from functions and filters of any kind. -/
inductive Composed : {α : Type} → Strategy α → Prop
  | just {α : Type} (a : α) (shown : String) : Composed (just a shown)
  | integers (lo hi : Int) : Composed (integers lo hi)
  | map {α β : Type} {s : Strategy α} (hs : Composed s) (f : α → Except Fault β) (name : String) :
      Composed (s.map f name)
  | filter {α : Type} {s : Strategy α} (hs : Composed s) (accepts : α → Except Fault Bool) (whence : String) :
      Composed (s.filter accepts whence)
  | oneOf {α : Type} {options : List (Nat × Strategy α)} (hoptions : ∀ o ∈ options, Composed o.2) :
      Composed (oneOf options)
  | tuples {α : Type} {parts : List (Strategy α)} (hparts : ∀ s ∈ parts, Composed s) : Composed (tuples parts)
  | lists {α : Type} {element : Strategy α} (helement : Composed element) (minSize maxSize : Nat) :
      Composed (lists element minSize maxSize)
  | sequences {S T : Type} [BEq S] [BEq T] {model : Model S T} (hinitial : Composed model.initial)
      (hnext : ∀ s, Composed (model.next s)) (settings : Settings) : Composed (sequences model settings)
  | titled {α : Type} {s : Strategy α} (hs : Composed s) (shown : String) : Composed { s with shown := shown }

theorem composed_booleans : booleans.Composed := .map (.integers 0 1) _ _

theorem composed_sampledFrom (values : List α) : (sampledFrom values).Composed := .map (.integers _ _) _ _

theorem composed_builds {β : Type} (make : List α → Except Fault β) {parts : List (Strategy α)}
    (hparts : ∀ s ∈ parts, s.Composed) : (builds make parts).Composed := .map (.tuples hparts) _ _

theorem Composed.ranked {s : Strategy α} (h : s.Composed) : ∃ I rank, s.tree.Ranked I rank ∧ s.Draws I := by
  induction h with
  | just a shown => exact ⟨_, _, ValueTree.fixed_ranked a, ⟨fun _ => trivial⟩⟩
  | integers lo hi => exact ⟨_, _, Search.tree_ranked, draws_integers fun n _ => Search.start_ranged n _⟩
  | map hs f name ih =>
    obtain ⟨I, rank, hranked, hdraws⟩ := ih
    exact ⟨I, rank, hranked.map f, ⟨hdraws.draw⟩⟩
  | filter hs accepts whence ih =>
    obtain ⟨I, rank, hranked, hdraws⟩ := ih
    refine ⟨I, rank, hranked.filter accepts whence, ⟨fun source => ?_⟩⟩
    exact ((hdraws.filter accepts whence).draw source).mono (fun _ _ h => h.1) fun _ _ h => h
  | @oneOf _ options hoptions ih =>
    have hparts (i : Fin options.length) := ih _ (List.get_mem options i)
    choose I rank hranked hdraws using hparts
    -- The seed of a pick is any number, so an alternative that it draws again was drawn from some source.
    refine ⟨_, _, Pick.tree_ranked (ValueTree.Ranked.tagged hranked) fun _ _ _ h => (redraw_holds hdraws h).2, ?_⟩
    refine draws_oneOf hdraws fun seed tree htree => ⟨?_, nofun⟩
    rintro _ ⟨⟩
    exact htree
  | @tuples _ parts hparts ih =>
    have hparts (i : Fin parts.length) := ih _ (List.get_mem parts i)
    choose I rank hranked hdraws using hparts
    exact ⟨_, _, Fields.tree_ranked (ValueTree.Ranked.tagged hranked), draws_tuples hdraws fun _ _ htrees => htrees⟩
  | lists helement minSize maxSize ih =>
    obtain ⟨I, rank, hranked, hdraws⟩ := ih
    refine ⟨_, _, Elements.tree_ranked hranked, draws_lists hdraws fun trees htrees => ⟨?_, nofun⟩⟩
    rw [Elements.trees_start]
    exact htrees
  | @sequences S T _ _ model hinitial hnext settings ih ih' =>
    obtain ⟨I, rank, hranked, hdraws⟩ := ih
    choose J rank' hranked' hdraws' using ih'
    have hfresh : model.Fresh I fun tree => J tree.1 tree.2 :=
      ⟨hdraws.draw, fun s {_} _ => (hdraws' s).draw⟩
    have hshrinker : model.shrinker.initial.Ranked I rank := hranked
    have hshrinker' := ValueTree.Ranked.tagged hranked'
    refine ⟨_, _, Sequence.tree_ranked (g := model.shrinker) hshrinker hshrinker', ⟨fun source => ?_⟩⟩
    refine (Model.generate_yields hfresh source).mono (fun v _ hv => ?_) fun _ _ h => h
    cases hv with
    | start htree hentries => exact Sequence.tracked_start htree _ hentries _
  | titled hs shown ih =>
    obtain ⟨I, rank, hranked, hdraws⟩ := ih
    exact ⟨I, rank, hranked, ⟨hdraws.draw⟩⟩

end Strategy

structure ValueTree.Finite {σ α : Type} (t : ValueTree σ α) (s : σ) : Prop where
  moves : ∃ bound, ∀ calls answers, (Act.each (Call.perform t) calls s).answer = .ok answers →
    answers.count true ≤ bound
  backOffs : ∀ calls answers, (Act.each (Call.perform t) calls s).answer = .ok answers →
    ∀ accepts whence rejects n, t.slack (Act.each (Call.perform t) calls s).state < n →
      let s' := (Act.each (Call.perform t) calls s).state
      t.settleWithin accepts whence n rejects s' =
        (t.settle accepts whence (t.slack s' + 1) rejects >>= fun _ => pure (some ())) s'

theorem ValueTree.Ranked.finite {σ α : Type} {t : ValueTree σ α} {I : σ → Prop} {rank : σ → Nat}
    (ht : t.Ranked I rank) {s : σ} (hs : I s) : t.Finite s where
  moves := by
    refine ⟨rank s, fun calls answers hanswers => ?_⟩
    have hfall := ((ht.each hs calls).of_ok hanswers).2
    omega
  backOffs calls answers hanswers accepts whence rejects n hn :=
    ht.settleWithin_eq ((ht.each hs calls).of_ok hanswers).1 hn (Nat.lt_succ_self _) rejects

namespace Strategy
variable {α : Type}

theorem Composed.finite {s : Strategy α} (h : s.Composed) : s.Draws s.tree.Finite := by
  obtain ⟨I, rank, hranked, hdraws⟩ := h.ranked
  exact ⟨fun source => (hdraws.draw source).mono (fun _ _ htree => hranked.finite htree) fun _ _ h => h⟩

def Drawn (s : Strategy α) (tree : s.State) : Prop :=
  ∃ (ρ : Type) (_ : WordSource ρ) (source : ρ), (s.draw source).answer = .ok tree

theorem draws_drawn (s : Strategy α) : s.Draws s.Drawn :=
  ⟨fun source => (Act.yields_self _ source).mono (fun _ _ h => ⟨_, _, source, h.1⟩) fun _ _ _ => trivial⟩

theorem Draws.of_drawn {s : Strategy α} {I : s.State → Prop} (h : s.Draws I) {tree : s.State}
    (htree : s.Drawn tree) : I tree := by
  obtain ⟨ρ, _, source, hdrawn⟩ := htree
  exact h.holds hdrawn

end Strategy

namespace Model
variable {U S T : Type} {model : Model S T}

inductive Assembled (model : Model S T) : model.Sequence → Prop
  | start {tree : model.initial.State} (htree : model.initial.Drawn tree) (s : S) {entries : List model.Entry}
      (hentries : ∀ entry ∈ entries, (model.next entry.tree.1).Drawn entry.tree.2) (minSize : Int) :
      Assembled model (.start tree s entries minSize)

theorem draws_assembled [BEq S] [BEq T] (model : Model S T) (settings : Settings) :
    (Strategy.sequences model settings).Draws model.Assembled := by
  have hfresh : model.Fresh model.initial.Drawn fun tree => (model.next tree.1).Drawn tree.2 :=
    ⟨(Strategy.draws_drawn _).draw, fun s {_} _ => (Strategy.draws_drawn _).draw⟩
  refine ⟨fun source => (generate_yields hfresh source).mono (fun v _ hv => ?_) fun _ _ h => h⟩
  cases hv with
  | start htree hentries => exact .start htree _ hentries _

/-- Shrinking ends: of a drawn tree only so many moves succeed, a shrink comes to the end of its phases, and without
a limit on the iterations minimising a sequence of drawn trees comes to its own end. -/
theorem shrinking_ends {α : Type} [Datum T] [BEq S] [BEq T] {s : Strategy α} (hs : s.Composed)
    (hinitial : model.initial.Composed) (hnext : ∀ s, (model.next s).Composed) :
    s.Draws s.tree.Finite ∧
    (∀ v : model.Sequence, ∃ enough, ∀ n, enough ≤ n → Sequence.shrinkWithin model.shrinker n v =
      (Sequence.shrink model.shrinker >>= fun moved => pure (some moved)) v) ∧
    (∀ settings, (Strategy.sequences model settings).Draws model.Assembled) ∧
    ∀ (m : Minimiser U S T model.initial.State model.TransitionTree)
      (session : Session S T model.initial.State model.TransitionTree) (failure : Option Outcome),
      m.shrinker = model.shrinker → m.settings.maxShrinkIters = 0 → model.Assembled session.value →
        ∃ enough, Act.Settles (fun fuel => m.minimise fuel failure) enough session := by
  refine ⟨hs.finite, fun v => ⟨_, fun n hn => Sequence.shrinkWithin_eq _ v hn⟩, draws_assembled model, ?_⟩
  intro m session failure hshrinker hiters hv
  obtain ⟨I, rank, hranked, hdraws⟩ := hinitial.ranked
  choose J rank' hranked' hdraws' using fun s => (hnext s).ranked
  have hinitial' : m.shrinker.initial.Ranked I rank := hshrinker ▸ hranked
  have htransition : m.shrinker.transition.Ranked (fun tree => J tree.1 tree.2) fun tree => rank' tree.1 tree.2 :=
    hshrinker ▸ ValueTree.Ranked.tagged hranked'
  have htracked : Sequence.Tracked I (fun tree => J tree.1 tree.2) session.value := by
    generalize session.value = v at hv ⊢
    cases hv with
    | start htree s hentries minSize =>
      exact Sequence.tracked_start (hdraws.of_drawn htree) s
        (fun entry hentry => (hdraws' entry.tree.1).of_drawn (hentries entry hentry)) minSize
  exact ⟨_, Minimiser.minimise_settles hinitial' htransition hiters htracked failure⟩

def busyPurse : Model Nat Bool :=
  { Sequence.purse with name := "Purse", initial := .just 1 "1", next := fun _ => .booleans }

def busyMinimiser : Minimiser Nat Nat Bool Unit busyPurse.TransitionTree where
  bench := Minimiser.purseMinimiser.bench
  shrinker := busyPurse.shrinker
  settings := { Minimiser.purseSettings with maxShrinkIters := 0 }
  clock _ := 0

def bags : Strategy (List Int) :=
  .lists (.oneOf [(1, .just 0 "0"), (2, (Strategy.integers 0 9).filter (fun n => .ok (n % 2 == 0)) "even")]) 1 3

theorem bags_composed : bags.Composed := by
  refine .lists (.oneOf fun option hoption => ?_) 1 3
  simp only [List.mem_cons, List.not_mem_nil, or_false] at hoption
  rcases hoption with rfl | rfl
  · exact .just 0 "0"
  · exact .filter (.integers 0 9) _ "even"

theorem shrinking_purse_ends :
    (∃ tree, (bags.draw ([0x40000000] : List UInt32)).answer = .ok tree ∧ bags.tree.Finite tree) ∧
    ∃ enough, Act.Settles (fun fuel => busyMinimiser.minimise fuel none) enough
      { value := .start () 1 [⟨⟨1, .start 1 0⟩, true⟩] 0 } := by
  have hinitial : busyPurse.initial.Composed := .just 1 "1"
  obtain ⟨hfinite, -, -, hsettles⟩ := shrinking_ends (U := Nat) bags_composed hinitial
    fun _ => Strategy.composed_booleans
  have hdraws : (bags.draw ([0x40000000] : List UInt32)).answer.toBool = true := by decide +kernel
  obtain ⟨tree, htree⟩ : ∃ tree, (bags.draw ([0x40000000] : List UInt32)).answer = .ok tree := by
    cases hdraw : (bags.draw ([0x40000000] : List UInt32)).answer with
    | error e =>
      rw [hdraw] at hdraws
      cases hdraws
    | ok tree => exact ⟨tree, rfl⟩
  refine ⟨⟨tree, htree, (hfinite.draw _).of_ok htree⟩, hsettles busyMinimiser _ none rfl rfl ?_⟩
  refine .start ⟨List UInt32, inferInstance, [], rfl⟩ 1 (fun entry hentry => ?_) 0
  obtain rfl := List.mem_singleton.1 hentry
  exact ⟨List UInt32, inferInstance, [0x40000000], rfl⟩

end Model
end StateCheck
