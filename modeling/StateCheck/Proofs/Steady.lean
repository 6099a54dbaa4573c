import StateCheck.Proofs.Generation
import StateCheck.Proofs.Tree.Safe

/-! Strategies that never raise, and all that generating with them can raise: that no sequence long enough was
found. -/

namespace StateCheck

namespace Random
variable {ρ : Type} [WordSource ρ]

theorem words_answers (n : Nat) (source : ρ) : (words n).Yields source (fun _ _ => True) fun _ _ => False := by
  induction n generalizing source with
  | zero => trivial
  | succ n ih =>
    unfold words word
    rw [Act.yields_bind, Act.yields_ofMove, Act.yields_bind]
    exact (ih _).mono (fun _ _ h => h) fun _ _ h => h

theorem bits_answers (k : Nat) (source : ρ) : (bits k).Yields source (fun _ _ => True) fun _ _ => False := by
  unfold bits word
  rw [Act.yields_ite]
  refine ⟨fun _ => trivial, fun _ => ?_⟩
  rw [Act.yields_bind]
  refine (words_answers _ source).mono (fun low source' _ => ?_) fun _ _ h => h
  rw [Act.yields_bind, Act.yields_ofMove, Act.yields_pure]
  trivial

theorem between_answers (lo hi : Int) (source : ρ) :
    (between lo hi).Yields source (fun _ _ => True) fun _ _ => False := by
  have hbelow (n tries : Nat) (source : ρ) :
      (belowWithin n tries).Yields source (fun _ _ => True) fun _ _ => False := by
    induction tries generalizing source with
    | zero => trivial
    | succ tries ih =>
      unfold belowWithin
      rw [Act.yields_bind]
      refine (bits_answers _ source).mono (fun r source' _ => ?_) fun _ _ h => h
      rw [Act.yields_ite]
      exact ⟨fun _ => trivial, fun _ => ih source'⟩
  unfold between below
  rw [Act.yields_bind]
  exact (hbelow _ _ source).mono (fun _ _ _ => trivial) fun _ _ h => h

end Random

namespace Model
variable {S T ρ : Type} [WordSource ρ] {model : Model S T} {settings : Settings}
  {I : model.initial.State → Prop} {J : model.TransitionTree → Prop}

structure Steady (model : Model S T) (I : model.initial.State → Prop) (J : model.TransitionTree → Prop) :
    Prop where
  initial : ∀ {ρ : Type} [WordSource ρ] (source : ρ),
    model.initial.draw.Yields source (fun tree _ => I tree) fun _ _ => False
  next : ∀ (s : S) {ρ : Type} [WordSource ρ] (source : ρ),
    (model.next s).draw.Yields source (fun tree _ => J ⟨s, tree⟩) fun _ _ => False
  initialTree : model.initial.tree.Safe I
  transitionTree : model.transitionTree.Safe J

theorem Steady.fresh (h : model.Steady I J) : model.Fresh I J where
  initial source := (h.initial source).mono (fun _ _ h => h) fun _ _ _ => trivial
  next s _ _ source := (h.next s source).mono (fun _ _ h => h) fun _ _ _ => trivial

theorem Steady.drawTransition_answers (h : model.Steady I J) (hrules : model.toRules.Total) (s : S)
    (tries : Nat) (source : ρ) :
    (model.drawTransition s tries).Yields source (fun _ _ => True) fun _ _ => False := by
  induction tries generalizing source with
  | zero => trivial
  | succ tries ih =>
    unfold drawTransition
    rw [Act.yields_bind]
    refine (h.next s source).mono (fun tree source' htree => ?_) fun _ _ h => h
    obtain ⟨t, ht⟩ := h.transitionTree.current ⟨s, tree⟩ htree
    have hcurrent : (model.next s).tree.current tree = .ok t := ht
    rw [hcurrent, Act.yields_bind, Act.yields_lift]
    refine ⟨fun _ _ => ?_, fun _ he => by cases he⟩
    rw [Act.yields_bind, Act.yields_lift]
    refine ⟨fun allowed _ => ?_, fun e he => hrules.allows _ _ _ he⟩
    rw [Act.yields_ite]
    exact ⟨fun _ => trivial, fun _ => ih source'⟩

theorem Steady.fill_answers (h : model.Steady I J) (hrules : model.toRules.Total)
    (left slot unfilled : Nat) (s : S) (source : ρ) :
    (model.fill settings left slot unfilled s).Yields source (fun _ _ => True) fun _ _ => False := by
  induction left generalizing slot unfilled s source with
  | zero => trivial
  | succ left ih =>
    unfold fill
    rw [Act.yields_bind]
    refine (h.drawTransition_answers hrules s _ source).mono (fun entry? source' _ => ?_) fun _ _ h => h
    cases entry? with
    | none =>
      dsimp only
      rw [Act.yields_bind, Act.yields_log, Act.yields_ite]
      exact ⟨fun _ => trivial, fun _ => ih ..⟩
    | some entry =>
      dsimp only
      rw [Act.yields_bind, Act.yields_lift]
      refine ⟨fun s' _ => ?_, fun e he => hrules.apply _ _ _ he⟩
      rw [Act.yields_bind]
      exact (ih ..).mono (fun _ _ _ => trivial) fun _ _ h => h

def Exhausts (settings : Settings) (e : Fault) : Prop :=
  ∃ longest : Nat, e = .generationExhausted (.int settings.minSize) (.int longest)
    (.int settings.maxGenerationAttempts)

theorem Steady.generateWithin_exhausts (h : model.Steady I J) (hrules : model.toRules.Total)
    (left attempt longest : Nat) (source : ρ) : (model.generateWithin settings left attempt longest).Yields source
      (fun _ _ => True) fun e _ => Exhausts settings e := by
  induction left generalizing attempt longest source with
  | zero => exact ⟨longest, rfl⟩
  | succ left ih =>
    unfold generateWithin
    rw [Act.yields_bind]
    refine (h.initial source).mono (fun tree source' htree => ?_) fun _ _ h => h.elim
    obtain ⟨s, hs⟩ := h.initialTree.current tree htree
    rw [hs, Act.yields_bind, Act.yields_lift]
    refine ⟨fun s _ => ?_, fun _ he => by cases he⟩
    rw [Act.yields_bind]
    refine (Random.between_answers _ _ source').mono (fun target source'' _ => ?_) fun _ _ h => h.elim
    rw [Act.yields_bind]
    refine (h.fill_answers hrules ..).mono (fun entries source''' _ => ?_) fun _ _ h => h.elim
    rw [Act.yields_ite]
    exact ⟨fun _ => trivial, fun _ => ih ..⟩

theorem Steady.generate_exhausts (h : model.Steady I J) (hrules : model.toRules.Total) (source : ρ) :
    (model.generate settings).Yields source (fun _ _ => True) fun e _ => Exhausts settings e :=
  h.generateWithin_exhausts hrules _ _ _ source

end Model
end StateCheck
