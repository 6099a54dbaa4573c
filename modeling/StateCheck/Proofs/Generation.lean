import StateCheck.Generation
import StateCheck.Proofs.Draws
import StateCheck.Proofs.Sequence.Steps

/-! A generated sequence is accepted by its model, neither too short nor too long, and made of fresh trees that show
what it holds. -/

namespace StateCheck.Model
variable {S T ρ : Type} [WordSource ρ] {model : Model S T} {settings : Settings}
  {I : model.initial.State → Prop} {J : model.TransitionTree → Prop}

structure Fresh (model : Model S T) (I : model.initial.State → Prop) (J : model.TransitionTree → Prop) :
    Prop where
  initial : ∀ {ρ : Type} [WordSource ρ] (source : ρ),
    model.initial.draw.Yields source (fun tree _ => I tree) fun _ _ => True
  next : ∀ (s : S) {ρ : Type} [WordSource ρ] (source : ρ),
    (model.next s).draw.Yields source (fun tree _ => J ⟨s, tree⟩) fun _ _ => True

theorem fresh_of_anything (model : Model S T) : model.Fresh (fun _ => True) fun _ => True :=
  ⟨fun source => Act.yields_trivial _ source, fun _ _ _ source => Act.yields_trivial _ source⟩

theorem drawTransition_yields (hfresh : model.Fresh I J) (s : S) (tries : Nat) (source : ρ) :
    (model.drawTransition s tries).Yields source
      (fun entry? _ => ∀ entry ∈ entry?, J entry.tree ∧ model.allows s entry.transition = .ok true ∧
        model.transitionTree.current entry.tree = .ok entry.transition)
      fun _ _ => True := by
  induction tries generalizing source with
  | zero => exact nofun
  | succ tries ih =>
    unfold drawTransition
    rw [Act.yields_bind]
    refine (hfresh.next s source).mono (fun tree source' htree => ?_) (fun _ _ h => h)
    simp only [Act.yields_bind, Act.yields_lift]
    refine ⟨fun t ht => ⟨fun allowed hallowed => ?_, fun _ _ => trivial⟩, fun _ _ => trivial⟩
    rw [Act.yields_ite]
    refine ⟨?_, fun _ => ih source'⟩
    intro h
    subst h
    rintro entry ⟨⟩
    exact ⟨htree, hallowed, ht⟩

theorem fill_yields (hfresh : model.Fresh I J) (left slot unfilled : Nat) (s : S) (source : ρ) :
    (model.fill settings left slot unfilled s).Yields source
      (fun entries _ => model.Accepts s (entries.map (·.transition)) ∧ (∀ entry ∈ entries, J entry.tree) ∧
        ∀ entry ∈ entries, model.transitionTree.current entry.tree = .ok entry.transition)
      fun _ _ => True := by
  induction left generalizing slot unfilled s source with
  | zero => exact ⟨trivial, nofun, nofun⟩
  | succ left ih =>
    unfold fill
    rw [Act.yields_bind]
    refine (drawTransition_yields hfresh s _ source).mono (fun entry? source' h => ?_) (fun _ _ h => h)
    cases entry? with
    | none =>
      dsimp only
      rw [Act.yields_bind, Act.yields_log, Act.yields_ite]
      exact ⟨fun _ => ⟨trivial, nofun, nofun⟩, fun _ => ih ..⟩
    | some entry =>
      obtain ⟨htree, hallowed, hshown⟩ := h entry rfl
      dsimp only
      rw [Act.yields_bind, Act.yields_lift]
      refine ⟨?_, fun _ _ => trivial⟩
      intro s' hs'
      rw [Act.yields_bind]
      refine (ih ..).mono (fun rest source'' hrest => ?_) (fun _ _ h => h)
      exact ⟨⟨hallowed, s', hs', hrest.1⟩, List.forall_mem_cons.2 ⟨htree, hrest.2.1⟩,
        List.forall_mem_cons.2 ⟨hshown, hrest.2.2⟩⟩

inductive Generated (model : Model S T) (settings : Settings) (I : model.initial.State → Prop)
    (J : model.TransitionTree → Prop) : model.Sequence → Prop
  | start {tree : model.initial.State} {s : S} {entries : List model.Entry} (htree : I tree)
      (hentries : ∀ entry ∈ entries, J entry.tree)
      (haccepts : model.Accepts s (entries.map (·.transition)))
      (hlength : settings.minSize ≤ entries.length) (hshown : model.initial.tree.current tree = .ok s)
      (hentriesShown : ∀ entry ∈ entries, model.transitionTree.current entry.tree = .ok entry.transition) :
      Generated model settings I J (.start tree s entries settings.minSize)

theorem generateWithin_yields (hfresh : model.Fresh I J) (left attempt longest : Nat) (source : ρ) :
    (model.generateWithin settings left attempt longest).Yields source
      (fun v _ => Generated model settings I J v) fun _ _ => True := by
  induction left generalizing attempt longest source with
  | zero => exact trivial
  | succ left ih =>
    unfold generateWithin
    rw [Act.yields_bind]
    refine (hfresh.initial source).mono (fun tree source' htree => ?_) (fun _ _ h => h)
    rw [Act.yields_bind, Act.yields_lift]
    refine ⟨?_, fun _ _ => trivial⟩
    intro s hs
    rw [Act.yields_bind]
    refine (Act.yields_self _ _).mono (fun target source'' _ => ?_) (fun _ _ _ => trivial)
    rw [Act.yields_bind]
    refine (fill_yields hfresh ..).mono (fun entries source''' hentries => ?_) (fun _ _ h => h)
    rw [Act.yields_ite]
    refine ⟨?_, fun _ => ih ..⟩
    intro hlength
    exact .start htree hentries.2.1 hentries.1 hlength hs hentries.2.2

theorem generate_yields (hfresh : model.Fresh I J) (source : ρ) : (model.generate settings).Yields source
    (fun v _ => Generated model settings I J v) fun _ _ => True :=
  generateWithin_yields hfresh _ _ _ source

structure InStep (model : Model S T) (v : model.Sequence) : Prop where
  initial : model.initial.tree.current v.initialTree = .ok v.current.initial
  transitions : v.entries.map (fun entry => model.transitionTree.current entry.tree) = v.current.transitions.map .ok

namespace Generated
variable {v : model.Sequence}

theorem trees (h : Generated model settings I J v) : v.Trees I J := by
  cases h with
  | start htree hentries => exact ⟨htree, hentries⟩

theorem accepts (h : Generated model settings I J v) :
    model.Accepts v.shape.initial v.shape.transitions := by
  cases h with
  | start _ _ haccepts => exact haccepts

theorem minSize_eq (h : Generated model settings I J v) : v.minSize = settings.minSize := by
  cases h
  rfl

theorem length_eq (h : Generated model settings I J v) : v.length = v.entries.length := by
  cases h
  rfl

theorem minSize_le (h : Generated model settings I J v) : settings.minSize ≤ v.entries.length := by
  cases h with
  | start _ _ _ hlength => exact hlength

theorem current_transitions (h : Generated model settings I J v) :
    v.current.transitions = v.transitions := by
  show before v.length v.transitions = v.transitions
  rw [h.length_eq, before_natCast, ← Sequence.length_transitions, List.take_length]

theorem inStep (h : Generated model settings I J v) : InStep model v := by
  have htransitions := h.current_transitions
  cases h with
  | start _ _ _ _ hshown hentriesShown =>
    refine ⟨hshown, ?_⟩
    rw [htransitions, Sequence.transitions, List.map_map]
    exact List.map_congr_left hentriesShown

end Generated

theorem fill_length (left slot unfilled : Nat) (s : S) (source : ρ) :
    (model.fill settings left slot unfilled s).Yields source (fun entries _ => entries.length ≤ left)
      fun _ _ => True := by
  induction left generalizing slot unfilled s source with
  | zero => exact Nat.le_refl 0
  | succ left ih =>
    unfold fill
    refine Act.yields_after fun entry? source' => ?_
    cases entry? with
    | none =>
      -- A slot that cannot be filled leaves the list one shorter than it might be.
      dsimp only
      rw [Act.yields_bind, Act.yields_log, Act.yields_ite]
      refine ⟨fun _ => Nat.zero_le _, fun _ => ?_⟩
      exact (ih ..).mono (fun entries _ hlength => Nat.le_succ_of_le hlength) fun _ _ h => h
    | some entry =>
      dsimp only
      rw [Act.yields_bind, Act.yields_lift]
      refine ⟨fun s' _ => ?_, fun _ _ => trivial⟩
      rw [Act.yields_bind]
      exact (ih ..).mono (fun rest _ hlength => Nat.succ_le_succ hlength) fun _ _ h => h

theorem generateWithin_length (left attempt longest : Nat) (source : ρ) :
    (model.generateWithin settings left attempt longest).Yields source
      (fun v _ => v.entries.length ≤ settings.maxSize) fun _ _ => True := by
  induction left generalizing attempt longest source with
  | zero => exact trivial
  | succ left ih =>
    have hsizes : (settings.minSize : Int) ≤ settings.maxSize := Int.ofNat_le.2 settings.minSize_le_maxSize
    unfold generateWithin
    refine Act.yields_after fun tree source' => ?_
    rw [Act.yields_bind, Act.yields_lift]
    refine ⟨fun s _ => ?_, fun _ _ => trivial⟩
    rw [Act.yields_bind]
    refine (Strategy.between_yields _ _ source').mono (fun target source'' htarget => ?_) (fun _ _ h => h)
    rw [Act.yields_bind]
    refine (fill_length ..).mono (fun entries _ hlength => ?_) (fun _ _ h => h)
    rw [Act.yields_ite]
    refine ⟨fun _ => ?_, fun _ => ih ..⟩
    have hbound := (htarget hsizes).2
    show entries.length ≤ settings.maxSize
    omega

/-- What is generated has as many transitions as the settings ask for, each allowed in the state folded from those
before it, and every tree shows the value it was drawn for. -/
theorem generate_sound (model : Model S T) (settings : Settings) (source : ρ) :
    (model.generate settings).Yields source
      (fun v _ =>
        (settings.minSize ≤ v.current.transitions.length ∧ v.current.transitions.length ≤ settings.maxSize) ∧
        model.Accepts v.current.initial v.current.transitions ∧
        v.startLength = v.current.transitions.length ∧ InStep model v)
      fun _ _ => True := by
  have hgenerated : (model.generate settings).Yields source
      (fun v _ => Generated model settings (fun _ => True) (fun _ => True) v) fun _ _ => True :=
    generate_yields model.fresh_of_anything source
  have hlength : (model.generate settings).Yields source
      (fun v _ => v.entries.length ≤ settings.maxSize) fun _ _ => True := generateWithin_length _ _ _ source
  refine (hgenerated.and hlength).mono (fun v _ h => ?_) fun _ _ _ => trivial
  obtain ⟨hv, hmax⟩ := h
  have hcount : v.current.transitions.length = v.entries.length := by
    rw [hv.current_transitions, Sequence.length_transitions]
  have haccepts : model.Accepts v.current.initial v.current.transitions := by
    rw [hv.current_transitions]
    exact hv.accepts
  have hstart : v.startLength = v.entries.length := by
    cases hv
    rfl
  exact ⟨⟨hcount ▸ hv.minSize_le, hcount ▸ hmax⟩, haccepts, hstart.trans hcount.symm, hv.inStep⟩

/-- A coin is put in and taken out. Of the empty purse one more is drawn twice to be taken, before one is put in. -/
example :
    let purse : Model Nat Bool :=
      { apply := fun coins t => .ok (if t then coins + 1 else coins - 1)
        allows := fun coins t => .ok (t || decide (0 < coins))
        name := "Purse", initial := .just 0 "0", next := fun _ => .booleans }
    let words : List UInt32 := [0x40000000, 0x40000000, 0, 0, 0, 0x40000000]
    (purse.generate { minSize := 2, maxSize := 3 } words).answer.toOption.map (fun v =>
      (v.current.initial, v.current.transitions, v.startLength)) = some (0, [true, false, true], 3) := by decide +kernel

end StateCheck.Model
