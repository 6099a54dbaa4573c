import StateCheck.Proofs.Yields
import StateCheck.Strategy.Combinators

/-! What holds of every tree that a strategy draws, one combinator at a time: the trees of a compound strategy
hold trees that their parts drew. -/

namespace StateCheck

namespace Strategy
variable {α ρ : Type} [WordSource ρ]

/-- Every tree drawn is of a kind, whatever the source. -/
structure Draws (s : Strategy α) (I : s.State → Prop) : Prop where
  draw : ∀ {ρ : Type} [WordSource ρ] (source : ρ), s.draw.Yields source (fun tree _ => I tree) fun _ _ => True

theorem Draws.holds {s : Strategy α} {I : s.State → Prop} (h : s.Draws I) {source : ρ} {tree : s.State}
    (hdrawn : (s.draw source).answer = .ok tree) : I tree := (h.draw source).of_ok hdrawn

theorem belowWithin_yields {n : Nat} (hn : 0 < n) (tries : Nat) (source : ρ) :
    (Random.belowWithin n tries).Yields source (fun r _ => r < n) fun _ _ => True := by
  induction tries generalizing source with
  | zero => exact hn
  | succ tries ih =>
    unfold Random.belowWithin
    refine Act.yields_after fun r source' => ?_
    rw [Act.yields_ite]
    exact ⟨fun hr => hr, fun _ => ih source'⟩

theorem between_yields (lo hi : Int) (source : ρ) :
    (Random.between lo hi).Yields source (fun n _ => lo ≤ hi → lo ≤ n ∧ n ≤ hi) fun _ _ => True := by
  unfold Random.between
  rw [Act.yields_bind]
  by_cases hle : lo ≤ hi
  · refine (belowWithin_yields (n := (hi - lo + 1).toNat) (by omega) _ source).mono (fun r _ hr _ => ?_) fun _ _ h => h
    omega
  · exact (Act.yields_trivial _ source).mono (fun _ _ _ hle' => absurd hle' hle) fun _ _ h => h

theorem draws_integers {lo hi : Int} {I : Search → Prop}
    (hI : ∀ n, (lo ≤ hi → lo ≤ n ∧ n ≤ hi) → I (Search.start n (min (max 0 lo) hi))) :
    (integers lo hi).Draws I := by
  refine ⟨fun {ρ} _ source => ?_⟩
  have hdraw : (Random.between lo hi >>= fun n => pure (Search.start n (min (max 0 lo) hi)) :
      Act ρ Search).Yields source (fun tree _ => I tree) fun _ _ => True := by
    rw [Act.yields_bind]
    exact (between_yields lo hi source).mono (fun n _ hn => hI n hn) fun _ _ h => h
  exact hdraw

theorem Draws.filter {s : Strategy α} {I : s.State → Prop} (hs : s.Draws I) (accepts : α → Except Fault Bool)
    (whence : String) : (s.filter accepts whence).Draws
      fun tree => I tree ∧ (s.tree.current tree >>= accepts) = .ok true := by
  refine ⟨fun {ρ} _ source => ?_⟩
  have huntil (tries : Nat) (source : ρ) : (drawUntil s accepts whence tries).Yields source
      (fun tree _ => I tree ∧ (s.tree.current tree >>= accepts) = .ok true) fun _ _ => True := by
    induction tries generalizing source with
    | zero => exact trivial
    | succ tries ih =>
      unfold drawUntil
      rw [Act.yields_bind]
      refine (hs.draw source).mono (fun tree source' htree => ?_) (fun _ _ h => h)
      rw [Act.yields_bind, Act.yields_lift]
      refine ⟨?_, fun _ _ => trivial⟩
      intro acceptable hacceptable
      rw [Act.yields_ite]
      refine ⟨fun h => ⟨htree, ?_⟩, fun _ => ih source'⟩
      rw [hacceptable, h]
  exact huntil maxRejects source

section alternatives
variable {options : List (Nat × Strategy α)} {I : (i : Fin options.length) → (options.get i).2.State → Prop}

theorem drawAlternative_yields (hoptions : ∀ i, (options.get i).2.Draws (I i)) (i : Nat) (source : ρ) :
    (drawAlternative options i).Yields source (fun tree _ => (tree.1 : Nat) = i ∧ I tree.1 tree.2)
      fun _ _ => True := by
  unfold drawAlternative
  split
  · rename_i hi
    rw [Act.yields_bind]
    exact ((hoptions ⟨i, hi⟩).draw source).mono (fun tree _ htree => ⟨rfl, htree⟩) fun _ _ h => h
  · exact trivial

theorem redraw_holds (hoptions : ∀ i, (options.get i).2.Draws (I i)) {seed i : Nat} {tree : Alternative options}
    (h : (redraw options seed i).1 = .ok tree) : (tree.1 : Nat) = i ∧ I tree.1 tree.2 :=
  (drawAlternative_yields hoptions i _).of_ok h

theorem draws_oneOf (hoptions : ∀ i, (options.get i).2.Draws (I i)) {K : Pick (Alternative options) → Prop}
    (hK : ∀ seed (tree : Alternative options), I tree.1 tree.2 →
      K { index := tree.1, here := .ok tree, seed := seed }) : (oneOf options).Draws K := by
  refine ⟨fun {ρ} _ source => ?_⟩
  unfold oneOf
  dsimp only
  -- Nothing need be known of how the alternative is picked.
  generalize (Random.weighted (options.map (·.1)) : Act ρ Nat) = pick
  refine Act.yields_after fun index source' => ?_
  rw [Act.yields_bind]
  refine (Act.yields_trivial (Random.bits 64) source').mono (fun seed source'' _ => ?_) (fun _ _ h => h)
  rw [Act.yields_bind]
  refine (drawAlternative_yields hoptions index source'').mono (fun here _ h => ?_) fun _ _ h => h
  obtain ⟨rfl, hhere⟩ := h
  exact hK seed here hhere

end alternatives

theorem draws_tuples {parts : List (Strategy α)} {I : (i : Fin parts.length) → (parts.get i).State → Prop}
    (hparts : ∀ i, (parts.get i).Draws (I i)) {K : Fields (Field parts) → Prop}
    (hK : ∀ trees, trees.map Sigma.fst = List.finRange parts.length → (∀ tree ∈ trees, I tree.1 tree.2) →
      K { trees := trees }) : (tuples parts).Draws K := by
  refine ⟨fun {ρ} _ source => ?_⟩
  have hfield (i : Fin parts.length) (source : ρ) : (drawField parts i).Yields source
      (fun tree _ => tree.1 = i ∧ I tree.1 tree.2) fun _ _ => True := by
    unfold drawField
    rw [Act.yields_bind]
    exact ((hparts i).draw source).mono (fun _ _ h => ⟨rfl, h⟩) fun _ _ h => h
  have hdraw : (Act.each (drawField parts) (List.finRange parts.length) >>= fun trees =>
      pure { trees := trees } : Act ρ (Fields (Field parts))).Yields source (fun tree _ => K tree)
      fun _ _ => True := by
    rw [Act.yields_bind]
    have hkinds : (Act.each (drawField parts) (List.finRange parts.length)).Yields source
        (fun trees _ => trees.map Sigma.fst = List.finRange parts.length) fun _ _ => True :=
      Act.yields_each_map (fun i _ source => (hfield i source).mono (fun _ _ h => h.1) fun _ _ h => h) source
    have hfields : (Act.each (drawField parts) (List.finRange parts.length)).Yields source
        (fun trees _ => ∀ tree ∈ trees, I tree.1 tree.2) fun _ _ => True :=
      Act.yields_each_all (fun i _ source => (hfield i source).mono (fun _ _ h => h.2) fun _ _ h => h) source
    exact (hkinds.and hfields).mono (fun trees _ htrees => hK trees htrees.1 htrees.2) fun _ _ _ => trivial
  exact hdraw

theorem draws_lists_sized {element : Strategy α} {I : element.State → Prop} (helement : element.Draws I)
    {minSize maxSize : Nat} {K : Elements element.State → Prop}
    (hK : ∀ trees, (minSize ≤ maxSize → minSize ≤ trees.length ∧ trees.length ≤ maxSize) → (∀ tree ∈ trees, I tree) →
      K (Elements.start trees minSize)) : (lists element minSize maxSize).Draws K := by
  refine ⟨fun {ρ} _ source => ?_⟩
  have hdraw : (Random.between minSize maxSize >>= fun size => Act.times element.draw size.toNat >>= fun trees =>
      pure (Elements.start trees minSize) : Act ρ (Elements element.State)).Yields source (fun tree _ => K tree)
      fun _ _ => True := by
    rw [Act.yields_bind]
    refine (between_yields minSize maxSize source).mono (fun size source' hsize => ?_) (fun _ _ h => h)
    rw [Act.yields_bind]
    have hlength : (Act.times element.draw size.toNat).Yields source'
        (fun trees _ => trees.length = size.toNat) fun _ _ => True :=
      Act.yields_times_length (fun source => Act.yields_trivial _ source) _ source'
    have hall : (Act.times element.draw size.toNat).Yields source' (fun trees _ => ∀ tree ∈ trees, I tree)
        fun _ _ => True := Act.yields_times_all (fun source => helement.draw source) _ source'
    refine (hlength.and hall).mono (fun trees _ htrees => hK trees (fun hle => ?_) htrees.2) fun _ _ _ => trivial
    have hbounds := hsize (Int.ofNat_le.2 hle)
    have hcount := htrees.1
    omega
  exact hdraw

theorem draws_lists {element : Strategy α} {I : element.State → Prop} (helement : element.Draws I)
    {minSize maxSize : Nat} {K : Elements element.State → Prop}
    (hK : ∀ trees, (∀ tree ∈ trees, I tree) → K (Elements.start trees minSize)) :
    (lists element minSize maxSize).Draws K :=
  draws_lists_sized helement fun trees _ htrees => hK trees htrees

end Strategy

instance writtenWords : WordSource (List UInt32) where
  next
    | [] => (0, [])
    | word :: words => (word, words)

end StateCheck
