import StateCheck.Proofs.Sequence.Order

/-! All that a round can do. It finds a reduction where the cursor is, or gives that place up and moves the cursor
on; a shrink is a run of such rounds, so what every round keeps holds of where a shrink ends. -/

namespace StateCheck

theorem ValueTree.yields_propose {σ α : Type} (t : ValueTree σ α) (untried : Bool) (s : σ) :
    (t.propose untried).Yields s (fun proposed s' => ∀ a, proposed = some a → t.current s' = .ok a)
      fun _ _ => True := by
  have hask (s' : σ) : (Act.ask t.current >>= fun a => pure (some a) : Act σ (Option α)).Yields s'
      (fun proposed s'' => ∀ a, proposed = some a → t.current s'' = .ok a) fun _ _ => True := by
    rw [Act.yields_bind, Act.yields_ask]
    refine ⟨?_, fun _ _ => trivial⟩
    rintro a ha b ⟨⟩
    exact ha
  cases untried with
  | true => exact hask s
  | false =>
    rw [propose_false, Act.yields_bind]
    refine (Act.yields_trivial _ s).mono (fun moved s' _ => ?_) fun _ _ h => h
    cases moved with
    | true => exact hask s'
    | false => exact nofun

namespace Sequence
variable {S T ι τ : Type} {g : Shrinker S T ι τ} {v v' : Sequence S T ι τ}

/-- A reduction found where the cursor is, with the edit that keeps what it replaced. -/
inductive Found (g : Shrinker S T ι τ) (v : Sequence S T ι τ) : Edit S T → Sequence S T ι τ → Prop
  | deleted {valid : Nat} (hphase : v.cursor.phase = .deleteTransition) (hlong : v.minSize < v.length)
      (hvalid : g.rules.longestValid v.initialState (before (v.length - 1) v.transitions) = .ok valid) :
      Found g v (.deleted (min (v.length - 1) valid) v.length) { v with length := min (v.length - 1) valid }
  | transition {i : Nat} {entry : Entry τ T} {t : T} (hcursor : v.cursor = { phase := .shrinkTransition, index := i })
      (hlt : (i : Int) < v.length) (hentry : v.entries[i]? = some entry)
      (hproposed : (g.transition.propose v.retryPending entry.tree).answer = .ok (some t)) :
      Found g v (.transition i entry.transition) (v.put i (g.transition.propose v.retryPending entry.tree).state t)
  | initialState {s : S} (hphase : v.cursor.phase = .shrinkInitialState)
      (hproposed : (g.initial.propose v.retryPending v.initialTree).answer = .ok (some s)) :
      Found g v (.initialState v.initialState)
        (v.putInitial (g.initial.propose v.retryPending v.initialTree).state s)

inductive Rounded (g : Shrinker S T ι τ) (v : Sequence S T ι τ) : Option Bool → Sequence S T ι τ → Prop
  | found {edit : Edit S T} {v' : Sequence S T ι τ} (hfound : Found g v edit v') :
      Rounded g v (some true) { v' with lastEdit := some edit }
  | kept (hphase : v.cursor.phase = .deleteTransition) :
      Rounded g v none { v with cursor := { phase := .shrinkTransition, index := 0 } }
  | passed {i : Nat} {entry : Entry τ T} (hcursor : v.cursor = { phase := .shrinkTransition, index := i })
      (hlt : (i : Int) < v.length) (hentry : v.entries[i]? = some entry) (tree : τ) :
      Rounded g v none
        { v.put i tree entry.transition with cursor := { phase := .shrinkTransition, index := (i : Int) + 1 } }
  | beyond (hphase : v.cursor.phase = .shrinkTransition) (hle : v.length ≤ v.cursor.index) :
      Rounded g v none { v with cursor := { phase := .shrinkInitialState, index := 0 } }
  | left (hphase : v.cursor.phase = .shrinkInitialState) (tree : ι) :
      Rounded g v none { v.putInitial tree v.initialState with cursor := { phase := .done, index := 0 } }
  | done (hphase : v.cursor.phase = .done) : Rounded g v (some false) v

theorem settle_rounded {x : Act (Sequence S T ι τ) (Option (Edit S T))} {next : Act (Sequence S T ι τ) Unit}
    (hx : x.Yields v (fun edit? v' => edit?.elim (next.Yields v' (fun _ v'' => Rounded g v none v'') fun _ _ => True)
      fun edit => Found g v edit v') fun _ _ => True) :
    (x >>= settleRound next).Yields v (Rounded g v) fun _ _ => True := by
  rw [Act.yields_bind]
  refine hx.mono (fun edit? v' h => ?_) fun _ _ h => h
  cases edit? with
  | some edit =>
    rw [settleRound, Act.yields_bind, yields_accept, Act.yields_pure]
    exact .found h
  | none =>
    rw [settleRound, Act.yields_bind]
    exact h

theorem round_cases (hv : Seated v) : (round g).Yields v (Rounded g v) fun _ _ => True := by
  rw [Act.yields_congr (round_eq v)]
  cases hphase : v.cursor.phase with
  | deleteTransition =>
    apply settle_rounded
    have hkept : (moveTo .shrinkTransition : Act (Sequence S T ι τ) Unit).Yields v
        (fun _ v' => Rounded g v none v') fun _ _ => True := .kept hphase
    unfold deleteLast
    rw [Act.yields_bind, Act.yields_get, Act.yields_ite]
    refine ⟨fun _ => hkept, fun hlong => ?_⟩
    rw [Act.yields_bind, Act.yields_lift]
    refine ⟨fun valid hvalid => ?_, fun _ _ => trivial⟩
    rw [Act.yields_ite]
    exact ⟨fun _ => hkept, fun _ => .deleted hphase (Int.not_le.1 hlong) hvalid⟩
  | shrinkTransition =>
    dsimp only
    rw [Act.yields_ite]
    refine ⟨fun hle => .beyond hphase hle, fun hlt => ?_⟩
    replace hlt := Int.not_le.1 hlt
    obtain ⟨entry, hentry, -⟩ := hv.entry hlt
    have hindex : (v.cursor.index.toNat : Int) = v.cursor.index := Int.toNat_of_nonneg hv.index
    have hcursor : v.cursor = { phase := .shrinkTransition, index := (v.cursor.index.toNat : Int) } := by
      rw [hindex, ← hphase]
    have hbefore : (v.cursor.index.toNat : Int) < v.length := by rwa [hindex]
    have hpassed (tree : τ) : (stepIndex : Act (Sequence S T ι τ) Unit).Yields
        (v.put v.cursor.index.toNat tree entry.transition) (fun _ v' => Rounded g v none v') fun _ _ => True := by
      have hrounded := Rounded.passed (g := g) hcursor hbefore hentry tree
      rw [hindex, ← hphase] at hrounded
      exact hrounded
    apply settle_rounded
    rw [yields_shrinkTransition hentry]
    refine (Act.yields_self _ _).mono (fun proposed tree h => ?_) fun _ _ _ => trivial
    obtain ⟨hproposed, rfl⟩ := h
    cases proposed with
    | none => exact hpassed _
    | some t =>
      dsimp only
      rw [Act.yields_lift]
      refine ⟨fun valid _ => ?_, fun _ _ => trivial⟩
      cases valid with
      | true => exact .transition hcursor hbefore hentry hproposed
      | false => exact hpassed _
  | shrinkInitialState =>
    apply settle_rounded
    rw [yields_shrinkInitialState]
    refine (Act.yields_self _ _).mono (fun proposed tree h => ?_) fun _ _ _ => trivial
    obtain ⟨hproposed, rfl⟩ := h
    cases proposed with
    | none => exact .left hphase _
    | some s =>
      dsimp only
      rw [Act.yields_lift]
      refine ⟨fun valid _ => ?_, fun _ _ => trivial⟩
      cases valid with
      | true => exact .initialState hphase hproposed
      | false => exact .left hphase _
  | done => exact .done hphase

theorem Rounded.still (h : Rounded g v none v') : Still v v' := by
  cases h with
  | kept => exact ⟨rfl, rfl, rfl⟩
  | passed hcursor hlt hentry tree =>
    have htransitions := transitions_set hentry tree
    exact ⟨congrArg (Shape.mk v.initialState · v.length) htransitions, rfl, rfl⟩
  | beyond => exact ⟨rfl, rfl, rfl⟩
  | left => exact ⟨rfl, rfl, rfl⟩

theorem rounds_of_round {Inv : Sequence S T ι τ → Prop} {Q : Bool → Sequence S T ι τ → Prop}
    {F : Fault → Sequence S T ι τ → Prop}
    (hround : ∀ v, Inv v → (round g).Yields v (fun ended v' => ended.elim (Inv v') fun moved => Q moved v') F) (n : Nat)
    (hv : Inv v) : (rounds g n).Yields v (fun ended v' => ∀ moved, ended = some moved → Q moved v') F := by
  induction n generalizing v with
  | zero => exact nofun
  | succ n ih =>
    unfold rounds
    rw [Act.yields_bind]
    refine (hround v hv).mono (fun ended v' h => ?_) fun _ _ h => h
    cases ended with
    | none => exact ih h
    | some moved =>
      rintro moved' ⟨⟩
      exact h

structure Underway (v u : Sequence S T ι τ) : Prop extends Placed (fun _ => True) (fun _ => True) u where
  lastEdit : u.lastEdit = none
  still : Still v u

theorem shrink_cases [BEq S] [BEq T] (Inv : Sequence S T ι τ → Prop) {Q : Bool → Sequence S T ι τ → Prop}
    (hv : Seated v) (hinv : Inv { v with lastEdit := none })
    (hkeeps : ∀ u u', Underway v u → Inv u → Rounded g u none u' → Onward u u' → Inv u')
    (hends : ∀ u u' moved, Underway v u → Inv u → Rounded g u (some moved) u' → Q moved u') :
    (shrink g).Yields v Q fun _ _ => True := by
  have hround (u : Sequence S T ι τ) (hu : Underway v u ∧ Inv u) : (round g).Yields u
      (fun ended u' => ended.elim (Underway v u' ∧ Inv u') fun moved => Q moved u') fun _ _ => True := by
    obtain ⟨hunderway, hinv⟩ := hu
    have hgoes := round_goesOn (g := g) hunderway.toPlaced hunderway.lastEdit
    refine (Act.Yields.and (round_cases hunderway.toPlaced) hgoes).mono (fun ended u' h => ?_) fun _ _ _ => trivial
    obtain ⟨hrounded, haligned, honward, hongoing⟩ := h
    cases ended with
    | none =>
      have hstill := hunderway.still.trans hrounded.still
      exact ⟨⟨haligned.toPlaced, hongoing rfl, hstill⟩, hkeeps u u' hunderway hinv hrounded honward⟩
    | some moved => exact hends u u' moved hunderway hinv hrounded
  have hforgot : Underway v { v with lastEdit := none } := ⟨⟨hv.trees, hv.le, hv.index⟩, rfl, rfl, rfl, rfl⟩
  obtain ⟨n, hn⟩ : ∃ n, v.length.toNat + (v.length - v.cursor.index).toNat + 4 ≤ n := ⟨_, Nat.le_refl _⟩
  have hrounds := rounds_of_round hround n ⟨hforgot, hinv⟩
  have hwithin : (shrinkWithin g n).Yields v (fun ended v' => ∀ moved, ended = some moved → Q moved v')
      fun _ _ => True := hrounds
  rw [Act.yields_congr (shrinkWithin_eq g v hn), Act.yields_bind] at hwithin
  exact hwithin.mono (fun moved _ h => h moved rfl) fun _ _ h => h

theorem after_keeps [BEq S] [BEq T] {Inv : Sequence S T ι τ → Prop}
    (hperform : ∀ (move : Move) (v : Sequence S T ι τ), Inv v →
      (move.perform g).Yields v (fun _ v' => Inv v') fun _ v' => Inv v')
    (moves : List Move) (hv : Inv v) : Inv (after g v moves) := by
  induction moves generalizing v with
  | nil => exact hv
  | cons move moves ih =>
    have hnext := (hperform move v hv).state
    exact ih hnext

theorem perform_minSize [BEq S] [BEq T] {minSize : Int} (move : Move) (v : Sequence S T ι τ)
    (hv : v.minSize = minSize) : (move.perform g).Yields v (fun _ v' => v'.minSize = minSize)
      fun _ v' => v'.minSize = minSize := by
  subst hv
  cases move with
  | shrink =>
    have hshrinks := shrink_shrinks g.tame_of_anything v.trees_of_anything
    exact hshrinks.mono (fun _ _ h => h.2.minSize) fun _ _ h => h.2.1.minSize
  | complicate =>
    have hyields := complicate_yields g.tame_of_anything v.trees_of_anything
    refine hyields.mono (fun _ _ h => h.2.minSize) fun _ _ h => ?_
    obtain ⟨-, edit, -, hrestored⟩ := h
    exact hrestored.minSize
  | truncate length =>
    rw [Move.perform, truncate_yields]
    exact minSize_cut length v

theorem after_minSize [BEq S] [BEq T] (moves : List Move) : (after g v moves).minSize = v.minSize :=
  after_keeps perform_minSize moves rfl

end Sequence
end StateCheck
