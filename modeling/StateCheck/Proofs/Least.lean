import StateCheck.Proofs.Composed
import StateCheck.Proofs.Steady
import StateCheck.Proofs.Tree.Sinks

/-! The least value of a strategy, read off its combinators, is where simplifying ends, whatever was drawn. -/

namespace StateCheck

namespace Random
variable {ρ : Type} [WordSource ρ]

theorem getLastD_sums (acc : Nat) (weights : List Nat) : (sums acc weights).getLastD acc = acc + weights.sum := by
  induction weights generalizing acc with
  | nil => simp [sums]
  | cons w rest ih =>
    rw [sums, List.getLastD_cons, ih, List.sum_cons]
    omega

def Weighable (weights : List Nat) : Prop := Numeric.nearest53 weights.sum < Numeric.pow2 1024

instance (weights : List Nat) : Decidable (Weighable weights) := inferInstanceAs (Decidable (_ < _))

theorem weighted_eq {weights : List Nat} (hweights : Weighable weights) (source : ρ) :
    weighted weights source = (fraction >>= fun m => pure ((sums 0 weights).dropLast.countP fun c =>
      c <<< 53 ≤ Numeric.nearest53 (m * Numeric.nearest53 weights.sum))) source := by
  have htotal : (sums 0 weights).getLastD 0 = weights.sum := by simpa using getLastD_sums 0 weights
  unfold weighted
  dsimp only
  rw [htotal, if_neg (Nat.not_le.2 hweights)]

theorem weighted_answers {weights : List Nat} (hweights : Weighable weights) (hsome : 0 < weights.length)
    (source : ρ) : ∃ index, (weighted weights source).answer = .ok index ∧ index < weights.length := by
  have hbound (mark : Nat) : (sums 0 weights).dropLast.countP (fun c => c <<< 53 ≤ mark) < weights.length := by
    refine Nat.lt_of_le_of_lt List.countP_le_length ?_
    rw [List.length_dropLast, length_sums]
    omega
  rw [weighted_eq hweights]
  exact ⟨_, rfl, hbound _⟩

theorem weighted_overflows {weights : List Nat} (hweights : ¬Weighable weights) (source : ρ) :
    weighted weights source = ⟨.error (.ofText .overflow "int too large to convert to float"), source, []⟩ := by
  have htotal : (sums 0 weights).getLastD 0 = weights.sum := by simpa using getLastD_sums 0 weights
  unfold weighted
  dsimp only
  rw [htotal, if_pos (Nat.not_lt.1 hweights)]
  rfl

end Random

namespace Strategy
variable {α β ρ : Type} [WordSource ρ]

structure Sure (s : Strategy α) : Prop where
  draw : ∀ {ρ : Type} [WordSource ρ] (source : ρ), s.draw.Yields source (fun _ _ => True) fun _ _ => False

theorem Sure.draws {s : Strategy α} (h : s.Sure) {J : s.State → Prop} (hdraws : s.Draws J) (source : ρ) :
    s.draw.Yields source (fun tree _ => J tree) fun _ _ => False :=
  ((h.draw source).and (hdraws.draw source)).mono (fun _ _ h => h.2) fun _ _ h => h.1

theorem sure_integers (lo hi : Int) : (integers lo hi).Sure := by
  refine ⟨fun {ρ} _ source => ?_⟩
  have hdraw : (Random.between lo hi >>= fun n => pure (Search.start n (min (max 0 lo) hi)) :
      Act ρ Search).Yields source (fun _ _ => True) fun _ _ => False := by
    rw [Act.yields_bind]
    exact (Random.between_answers lo hi source).mono (fun _ _ _ => trivial) fun _ _ h => h
  exact hdraw

theorem drawAlternative_answers {options : List (Nat × Strategy α)} (hoptions : ∀ i, (options.get i).2.Sure)
    {i : Nat} (hi : i < options.length) (source : ρ) :
    (drawAlternative options i).Yields source (fun _ _ => True) fun _ _ => False := by
  unfold drawAlternative
  rw [dif_pos hi, Act.yields_bind]
  exact ((hoptions ⟨i, hi⟩).draw source).mono (fun _ _ _ => trivial) fun _ _ h => h

theorem redraw_answers {options : List (Nat × Strategy α)}
    {J : (i : Fin options.length) → (options.get i).2.State → Prop} (hoptions : ∀ i, (options.get i).2.Sure)
    (hdraws : ∀ i, (options.get i).2.Draws (J i)) (seed : Nat) {i : Nat} (hi : i < options.length) :
    ∃ tree, (redraw options seed i).1 = .ok tree ∧ (tree.1 : Nat) = i ∧ J tree.1 tree.2 := by
  have hdraw := (drawAlternative_answers hoptions hi (MersenneTwister.ofSeed (seed + i))).and
    (drawAlternative_yields hdraws i (MersenneTwister.ofSeed (seed + i)))
  obtain ⟨tree, hanswer, -, htree⟩ := (hdraw.mono (fun _ _ h => h) fun _ _ h => h.1).answers
  exact ⟨tree, hanswer, htree⟩

theorem sure_oneOf {options : List (Nat × Strategy α)} (hoptions : ∀ i, (options.get i).2.Sure)
    (hsome : 0 < options.length) (hweights : Random.Weighable (options.map (·.1))) : (oneOf options).Sure := by
  refine ⟨fun {ρ} _ source => ?_⟩
  have hpick := Random.weighted_answers hweights (by simpa using hsome) source
  unfold oneOf
  dsimp only
  -- How the alternative is picked is not to be unfolded: the limit on weights is too large to compute with.
  generalize (Random.weighted (options.map (·.1)) : Act ρ Nat) = pick at hpick ⊢
  obtain ⟨index, hanswer, hindex⟩ := hpick
  rw [List.length_map] at hindex
  rw [Act.yields_bind, Act.yields_of_answer hanswer]
  generalize (pick source).state = source'
  rw [Act.yields_bind]
  refine (Random.bits_answers 64 source').mono (fun seed source'' _ => ?_) fun _ _ h => h
  rw [Act.yields_bind]
  exact (drawAlternative_answers hoptions hindex source'').mono (fun _ _ _ => trivial) fun _ _ h => h

theorem sure_tuples {parts : List (Strategy α)} (hparts : ∀ i, (parts.get i).Sure) : (tuples parts).Sure := by
  refine ⟨fun {ρ} _ source => ?_⟩
  have hfield (i : Fin parts.length) (source : ρ) :
      (drawField parts i).Yields source (fun _ _ => True) fun _ _ => False := by
    unfold drawField
    rw [Act.yields_bind]
    exact ((hparts i).draw source).mono (fun _ _ _ => trivial) fun _ _ h => h
  have hdraw : (Act.each (drawField parts) (List.finRange parts.length) >>= fun trees =>
      pure { trees := trees } : Act ρ (Fields (Field parts))).Yields source (fun _ _ => True) fun _ _ => False := by
    rw [Act.yields_bind]
    have hfields := Act.yields_each_all (fun i (_ : i ∈ List.finRange parts.length) source => hfield i source) source
    exact hfields.mono (fun _ _ _ => trivial) fun _ _ h => h
  exact hdraw

theorem sure_lists {element : Strategy α} (helement : element.Sure) (minSize maxSize : Nat) :
    (lists element minSize maxSize).Sure := by
  refine ⟨fun {ρ} _ source => ?_⟩
  have hdraw : (Random.between minSize maxSize >>= fun size => Act.times element.draw size.toNat >>= fun trees =>
      pure (Elements.start trees minSize) : Act ρ (Elements element.State)).Yields source (fun _ _ => True)
      fun _ _ => False := by
    rw [Act.yields_bind]
    refine (Random.between_answers minSize maxSize source).mono (fun size source' _ => ?_) fun _ _ h => h
    rw [Act.yields_bind]
    have htrees := Act.yields_times_length (fun source => helement.draw source) size.toNat source'
    exact htrees.mono (fun _ _ _ => trivial) fun _ _ h => h
  exact hdraw

/-- Of bounds and sizes that are in order, and of alternatives that can be drawn. Nothing is asked of a function but
that it makes something of the least value. -/
inductive Simplest : {α : Type} → Strategy α → α → Prop
  | just {α : Type} (a : α) (shown : String) : Simplest (just a shown) a
  | integers {lo hi n : Int} (hn : lo ≤ n ∧ n ≤ hi)
      (hnearest : ∀ m, lo ≤ m → m ≤ hi → n.natAbs ≤ m.natAbs) : Simplest (integers lo hi) n
  | map {α β : Type} {s : Strategy α} {a : α} {f : α → Except Fault β} {b : β} (hs : Simplest s a)
      (hb : f a = .ok b) (name : String) : Simplest (s.map f name) b
  | oneOf {α : Type} {options : List (Nat × Strategy α)} {least : Fin options.length → α}
      (hoptions : ∀ i, Simplest (options.get i).2 (least i)) (hsome : 0 < options.length)
      (hweights : Random.Weighable (options.map (·.1))) : Simplest (oneOf options) (least ⟨0, hsome⟩)
  | tuples {α : Type} {parts : List (Strategy α)} {least : Fin parts.length → α}
      (hparts : ∀ i, Simplest (parts.get i) (least i)) : Simplest (tuples parts) (List.ofFn least)
  | lists {α : Type} {element : Strategy α} {a : α} (helement : Simplest element a) {minSize maxSize : Nat}
      (hsizes : minSize ≤ maxSize) : Simplest (lists element minSize maxSize) (List.replicate minSize a)
  | titled {α : Type} {s : Strategy α} {a : α} (hs : Simplest s a) (shown : String) :
      Simplest { s with shown := shown } a

theorem simplest_booleans : booleans.Simplest false := by
  have hzero : (integers 0 1).Simplest 0 := .integers ⟨Int.le_refl 0, by decide⟩ fun _ _ _ => Nat.zero_le _
  refine .map hzero ?_ _
  rfl

theorem simplest_sampledFrom (a : α) (rest : List α) : (sampledFrom (a :: rest)).Simplest a := by
  have hfirst : (integers 0 ((a :: rest).length - 1)).Simplest 0 :=
    .integers ⟨Int.le_refl 0, by simp⟩ fun _ _ _ => Nat.zero_le _
  refine .map hfirst ?_ _
  rfl

theorem simplest_builds {parts : List (Strategy α)} {least : Fin parts.length → α}
    (hparts : ∀ i, (parts.get i).Simplest (least i)) {make : List α → Except Fault β} {b : β}
    (hb : make (List.ofFn least) = .ok b) : (builds make parts).Simplest b := .map (.tuples hparts) hb _

theorem Simplest.composed {s : Strategy α} {a : α} (h : s.Simplest a) : s.Composed := by
  induction h with
  | just a shown => exact .just a shown
  | integers hn hnearest => exact .integers _ _
  | map hs hb name ih => exact .map ih _ name
  | oneOf hoptions hsome hweights ih =>
    refine .oneOf fun option hoption => ?_
    obtain ⟨i, rfl⟩ := List.mem_iff_get.1 hoption
    exact ih i
  | tuples hparts ih =>
    refine .tuples fun part hpart => ?_
    obtain ⟨i, rfl⟩ := List.mem_iff_get.1 hpart
    exact ih i
  | lists helement hsizes ih => exact .lists ih _ _
  | titled hs shown ih => exact .titled ih shown

theorem Simplest.sinks {s : Strategy α} {a : α} (h : s.Simplest a) :
    s.Sure ∧ ∃ J, s.tree.Sinks a J ∧ s.Draws J := by
  induction h with
  | just a shown => exact ⟨⟨fun _ => trivial⟩, _, ValueTree.fixed_sinks a, ⟨fun _ => trivial⟩⟩
  | @integers lo hi n hn hnearest =>
    have hclamped : min (max 0 lo) hi = n := by
      have hle := hnearest (min (max 0 lo) hi) (by omega) (by omega)
      omega
    refine ⟨sure_integers lo hi, _, Search.tree_sinks n, draws_integers fun m _ => ?_⟩
    rw [hclamped]
    exact Search.start_sinking m n
  | map hs hb name ih =>
    obtain ⟨hsure, J, hsinks, hdraws⟩ := ih
    exact ⟨⟨hsure.draw⟩, J, hsinks.map hb, ⟨hdraws.draw⟩⟩
  | @oneOf _ options least hoptions hsome hweights ih =>
    have hsure (i : Fin options.length) : (options.get i).2.Sure := (ih i).1
    choose J hsinks hdraws using fun i => (ih i).2
    have hfirst : (List.ofFn least)[0]? = some (least ⟨0, hsome⟩) := by simp [hsome]
    have hredraw (seed i : Nat) (hi : i < (List.ofFn least).length) :=
      redraw_answers hsure hdraws seed (by simpa using hi)
    refine ⟨sure_oneOf hsure hsome hweights, _, Pick.tree_sinks hfirst (fun _ _ => .taggedOf hsinks) hredraw,
      draws_oneOf hdraws fun seed tree htree => ⟨rfl, ?_, tree, rfl, rfl, htree⟩⟩
    rw [List.length_ofFn]
    exact tree.1.isLt
  | @tuples _ parts least hparts ih =>
    have hsure (i : Fin parts.length) : (parts.get i).Sure := (ih i).1
    choose J hsinks hdraws using fun i => (ih i).2
    refine ⟨sure_tuples hsure, _, Fields.tree_sinks fun _ _ => .taggedOf hsinks,
      draws_tuples hdraws fun trees hkinds htrees => ?_⟩
    have hlength := congrArg List.length hkinds
    rw [List.length_map, List.length_finRange] at hlength
    refine ⟨by rw [hlength, List.length_ofFn], fun i tree htree => ?_, fun _ hi => absurd hi (Nat.not_lt_zero _)⟩
    have hkind : (trees.map Sigma.fst)[i]? = some tree.1 := by rw [List.getElem?_map, htree, Option.map_some]
    rw [hkinds] at hkind
    obtain ⟨_, hkind⟩ := List.getElem?_eq_some_iff.1 hkind
    refine ⟨?_, htrees tree (List.mem_of_getElem? htree)⟩
    rw [← hkind, List.getElem_finRange]
    rfl
  | lists helement hsizes ih =>
    obtain ⟨hsure, J, hsinks, hdraws⟩ := ih
    exact ⟨sure_lists hsure _ _, _, Elements.tree_sinks hsinks _ _,
      draws_lists_sized hdraws fun trees hlength htrees => Elements.start_sinking htrees (hlength hsizes)⟩
  | titled hs shown ih =>
    obtain ⟨hsure, J, hsinks, hdraws⟩ := ih
    exact ⟨⟨hsure.draw⟩, J, hsinks, ⟨hdraws.draw⟩⟩

/-- Whatever was drawn, simplifying it until nothing is left to do ends at the least value. -/
theorem simplify_reaches_least {s : Strategy α} {a : α} (h : s.Simplest a) (source : ρ) :
    ∃ tree, (s.draw source).answer = .ok tree ∧ s.tree.Bottoms a tree := by
  obtain ⟨hsure, J, hsinks, hdraws⟩ := h.sinks
  obtain ⟨I, rank, hranked, hdraws'⟩ := h.composed.ranked
  obtain ⟨tree, hdrawn, hJ⟩ := (hsure.draws hdraws source).answers
  exact ⟨tree, hdrawn, hsinks.bottoms hranked (hdraws'.holds hdrawn) hJ⟩

theorem Simplest.oneOfTwo {first second : Strategy α} {a b : α} {w v : Nat} (hfirst : first.Simplest a)
    (hsecond : second.Simplest b) (hweights : Random.Weighable [w, v]) :
    (StateCheck.Strategy.oneOf [(w, first), (v, second)]).Simplest a := by
  have hoptions (i : Fin 2) : ([(w, first), (v, second)].get i).2.Simplest (if i = 0 then a else b) := by
    match i with
    | 0 => exact hfirst
    | 1 => exact hsecond
  exact @Simplest.oneOf α [(w, first), (v, second)] _ hoptions Nat.two_pos hweights

def handful : Strategy (List Int) :=
  .oneOf [(1, .lists (.integers 3 9) 2 4),
    (5, .lists (.oneOf [(1, .just (-5) "-5"), (2, .integers (-9) (-2))]) 1 3)]

theorem handful_simplest : handful.Simplest [3, 3] := by
  have hthree : (integers 3 9).Simplest 3 := .integers (by decide) fun m hm _ => by omega
  have htwo : (integers (-9) (-2)).Simplest (-2) := .integers (by decide) fun m _ hm => by omega
  have hbelow : (oneOf [(1, just (-5) "-5"), (2, integers (-9) (-2))]).Simplest (-5) :=
    .oneOfTwo (.just (-5) "-5") htwo (by decide +kernel)
  exact .oneOfTwo (.lists hthree (by decide)) (.lists hbelow (by decide)) (by decide +kernel)

theorem handful_reaches_least :
    let source : List UInt32 := [0xf0000000, 0, 0, 0, 0x40000000, 0xf0000000, 0, 0, 0, 0x30000000]
    (handful.sample source).answer.toOption = some [-6, -5] ∧
    ∃ tree, (handful.draw source).answer = .ok tree ∧ handful.tree.Bottoms [3, 3] tree := by
  refine ⟨by decide +kernel, ?_⟩
  exact simplify_reaches_least handful_simplest _

structure Undrawable (s : Strategy α) : Prop where
  draw : ∀ {ρ : Type} [WordSource ρ] (source : ρ), ∃ e, (s.draw source).answer = .error e

theorem undrawable_oneOf {options : List (Nat × Strategy α)} (hweights : ¬Random.Weighable (options.map (·.1))) :
    (oneOf options).Undrawable := by
  refine ⟨fun {ρ} _ source => ?_⟩
  have hpick := Random.weighted_overflows hweights source
  unfold oneOf
  dsimp only
  rw [Act.bind_of_error hpick]
  exact ⟨_, rfl⟩

theorem stuck_above {s : Strategy α} (hs : s.Undrawable) (w v : Nat) (b : α) (shown : String) (seed : Nat) (a : α) :
    ¬(oneOf [(w, s), (v, just b shown)]).tree.Bottoms a { index := 1, here := .ok ⟨1, ()⟩, seed := seed } := by
  obtain ⟨e, he⟩ := hs.draw (MersenneTwister.ofSeed (seed + 0))
  have hredraw : (redraw [(w, s), (v, just b shown)] seed 0).1 = .error e := by
    show ((s.draw >>= fun tree => pure ⟨0, tree⟩ : Act MersenneTwister (Alternative [(w, s), (v, just b shown)]))
      (MersenneTwister.ofSeed (seed + 0))).answer = .error e
    rw [Act.answer_bind, he]
  intro hbottoms
  cases hbottoms with
  | rest hanswer => cases hanswer
  | step hanswer hrest => exact Pick.not_bottoms hredraw a hrest

/-- Two weights of one, after which `2` is drawn; what comes before it has a weight that no float can hold. -/
theorem overweight_sticks :
    let strategy : Strategy Int := .oneOf [(1, .oneOf [(Numeric.pow2 1024, .just 1 "1")]), (1, .just 2 "2")]
    ∃ tree, (strategy.draw ([0xffffffff, 0xffffffff] : List UInt32)).answer = .ok tree ∧
      strategy.tree.current tree = .ok 2 ∧ ¬strategy.tree.Bottoms 1 tree := by
  have hundrawable : (oneOf [(Numeric.pow2 1024, just (1 : Int) "1")]).Undrawable := by
    refine undrawable_oneOf ?_
    decide +kernel
  have hlight : Random.Weighable [1, 1] := by decide +kernel
  have hpick : Random.weighted [1, 1] ([0xffffffff, 0xffffffff] : List UInt32) = ⟨.ok 1, [], []⟩ :=
    Random.weighted_eq hlight _
  generalize (oneOf [(Numeric.pow2 1024, just (1 : Int) "1")]) = heavy at hundrawable ⊢
  have hdrawn : ((oneOf [(1, heavy), (1, just 2 "2")]).draw ([0xffffffff, 0xffffffff] : List UInt32)).answer =
      .ok { index := 1, here := .ok ⟨1, ()⟩, seed := 0 } := by
    unfold oneOf
    simp only [List.map_cons, List.map_nil]
    generalize (Random.weighted [1, 1] : Act (List UInt32) Nat) = pick at hpick ⊢
    rw [Act.bind_of_ok hpick]
    rfl
  exact ⟨_, hdrawn, rfl, stuck_above hundrawable 1 1 2 "2" 0 1⟩

end Strategy
end StateCheck
