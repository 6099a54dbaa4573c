import StateCheck.Proofs.Sequence.Attempts
import StateCheck.Proofs.Tree.RankedParts

/-! The rank of a sequence. Shrinking and backing off move the cursor on, or else use up a proposal of a tree;
a tree that is backed off from has one more value to propose, but a lower rank. -/

namespace StateCheck

namespace ValueTree
variable {σ α : Type} {t : ValueTree σ α} {I : σ → Prop} {rank : σ → Nat} {s : σ}

theorem Ranked.propose (ht : t.Ranked I rank) (hs : I s) (untried : Bool) : (t.propose untried).Yields s
    (fun proposed s' => I s' ∧ 2 * rank s' + proposed.isSome.toNat ≤ 2 * rank s + untried.toNat)
    fun _ _ => True := by
  have hask {s' : σ} (hs' : I s') (h : 2 * rank s' + 1 ≤ 2 * rank s + untried.toNat) :
      (Act.ask t.current >>= fun a => pure (some a) : Act σ (Option α)).Yields s'
        (fun proposed s'' => I s'' ∧ 2 * rank s'' + proposed.isSome.toNat ≤ 2 * rank s + untried.toNat)
        fun _ _ => True := by
    rw [Act.yields_bind, Act.yields_ask]
    exact ⟨fun _ _ => ⟨hs', h⟩, fun _ _ => trivial⟩
  cases untried with
  | true => exact hask hs (Nat.le_refl _)
  | false =>
    rw [propose_false, Act.yields_bind]
    refine (ht.simplify s hs).mono (fun moved s' h => ?_) fun _ _ h => h
    obtain ⟨hs', hrank⟩ := h
    cases moved with
    | true =>
      rw [Bool.toNat_true] at hrank
      exact hask hs' (by omega)
    | false =>
      rw [if_neg Bool.false_ne_true, Act.yields_pure]
      exact ⟨hs', Nat.add_le_add_right (Nat.mul_le_mul_left 2 (Nat.le_of_add_right_le hrank)) _⟩

theorem Ranked.canRetry [BEq α] (ht : t.Ranked I rank) (hs : I s) (restored : α) :
    (t.canRetry restored).Yields s (fun retry s' => I s' ∧ 2 * rank s' + 2 * retry.toNat ≤ 2 * rank s)
      fun _ _ => True := by
  unfold ValueTree.canRetry
  rw [Act.yields_bind]
  refine (ht.complicate s hs).mono (fun moved s' h => ?_) fun _ _ h => h
  obtain ⟨hs', hrank, -⟩ := h
  cases moved with
  | true =>
    rw [if_pos rfl, Act.yields_bind, Act.yields_ask]
    refine ⟨fun a _ => ?_, fun _ _ => trivial⟩
    rw [Act.yields_pure]
    refine ⟨hs', ?_⟩
    have hone := (a != restored).toNat_le
    rw [Bool.toNat_true] at hrank
    omega
  | false =>
    rw [if_neg Bool.false_ne_true, Act.yields_pure]
    exact ⟨hs', Nat.mul_le_mul_left 2 hrank⟩

end ValueTree

namespace Sequence
variable {S T ι τ : Type} {g : Shrinker S T ι τ} {I : ι → Prop} {J : τ → Prop} {rank : ι → Nat} {rank' : τ → Nat}
  {v v' : Sequence S T ι τ}

/-- The proposals left, counted twice, and the one that waits. -/
def weight (rank : ι → Nat) (rank' : τ → Nat) (v : Sequence S T ι τ) : Nat :=
  2 * (rank v.initialTree + (v.entries.map fun entry => rank' entry.tree).sum) + v.retryPending.toNat

/-- How far the cursor still has to go. Deletions can end at any length. -/
def place (v : Sequence S T ι τ) : Nat :=
  match v.cursor.phase with
  | .deleteTransition => 2 * v.entries.length + 3 + (v.length - v.minSize).toNat
  | .shrinkTransition => v.entries.length + 2 + (v.length - v.cursor.index).toNat
  | .shrinkInitialState => 1
  | .done => 0

def rankBy (rank : ι → Nat) (rank' : τ → Nat) (v : Sequence S T ι τ) : Nat := v.place + v.weight rank rank'

theorem rankBy_add_le {m n : Nat} (hplace : v'.place + m ≤ v.place)
    (hweight : v'.weight rank rank' + n ≤ v.weight rank rank') :
    rankBy rank rank' v' + (m + n) ≤ rankBy rank rank' v := by
  unfold rankBy
  omega

theorem weight_set {i : Nat} {entry : Entry τ T} (hentry : v.entries[i]? = some entry) {tree : τ} {t : T} {n : Nat}
    (hentries : v'.entries = v.entries.set i ⟨tree, t⟩) (hinitial : v'.initialTree = v.initialTree)
    (hrank : 2 * rank' tree + v'.retryPending.toNat + n ≤ 2 * rank' entry.tree + v.retryPending.toNat) :
    v'.weight rank rank' + n ≤ v.weight rank rank' := by
  have hsum := sum_map_set (fun entry : Entry τ T => rank' entry.tree) hentry ⟨tree, t⟩
  unfold weight
  rw [hentries, hinitial]
  dsimp only at hsum
  omega

theorem weight_initial {n : Nat} (hentries : v'.entries = v.entries)
    (hrank : 2 * rank v'.initialTree + v'.retryPending.toNat + n ≤ 2 * rank v.initialTree + v.retryPending.toNat) :
    v'.weight rank rank' + n ≤ v.weight rank rank' := by
  unfold weight
  rw [hentries]
  omega

structure Placed (I : ι → Prop) (J : τ → Prop) (v : Sequence S T ι τ) : Prop where
  trees : v.Trees I J
  le : v.length ≤ v.entries.length
  index : 0 ≤ v.cursor.index

theorem Placed.entry (h : Placed I J v) (hlt : v.cursor.index < v.length) :
    ∃ entry, v.entries[v.cursor.index.toNat]? = some entry ∧ J entry.tree := by
  have hlength := h.le
  have hindex := h.index
  have hbound : v.cursor.index.toNat < v.entries.length := by omega
  exact ⟨_, List.getElem?_eq_getElem hbound, h.trees.2 _ (List.getElem_mem hbound)⟩

theorem Placed.set (h : Placed I J v) {i : Nat} {tree : τ} (htree : J tree) {t : T}
    (hentries : v'.entries = v.entries.set i ⟨tree, t⟩) (hinitial : v'.initialTree = v.initialTree)
    (hlength : v'.length = v.length) (hindex : 0 ≤ v'.cursor.index) : Placed I J v' := by
  refine ⟨⟨?_, fun entry hentry => ?_⟩, ?_, hindex⟩
  · rw [hinitial]
    exact h.trees.1
  · rw [hentries] at hentry
    rcases List.mem_or_eq_of_mem_set hentry with hentry | rfl
    · exact h.trees.2 _ hentry
    · exact htree
  · rw [hentries, List.length_set, hlength]
    exact h.le

end Sequence

def Edit.Tracks {S T ι τ : Type} : Edit S T → Sequence S T ι τ → Prop
  | deleted _ length, v => v.cursor.phase = .deleteTransition ∧ length ≤ v.entries.length
  | transition i _, v => v.cursor = { phase := .shrinkTransition, index := i } ∧ (i : Int) < v.length
  | initialState _, v => v.cursor.phase = .shrinkInitialState

namespace Sequence
variable {S T ι τ : Type} {g : Shrinker S T ι τ} {I : ι → Prop} {J : τ → Prop} {rank : ι → Nat} {rank' : τ → Nat}
  {v v' : Sequence S T ι τ}

structure Tracked (I : ι → Prop) (J : τ → Prop) (v : Sequence S T ι τ) : Prop extends Placed I J v where
  edit : ∀ edit, v.lastEdit = some edit → edit.Tracks v

theorem Placed.tracked (h : Placed I J v) (hlast : v.lastEdit = none) : Tracked I J v := by
  refine ⟨h, fun edit hedit => ?_⟩
  rw [hlast] at hedit
  cases hedit

theorem Placed.edited (h : Placed I J v) {edit : Edit S T} (hedit : edit.Tracks v) :
    Tracked I J { v with lastEdit := some edit } := by
  refine ⟨⟨h.trees, h.le, h.index⟩, ?_⟩
  rintro edit' ⟨⟩
  cases edit with
  | deleted index length => exact hedit
  | transition i prior => exact hedit
  | initialState prior => exact hedit

theorem tracked_start {initialTree : ι} (hinitial : I initialTree) (s : S) {entries : List (Entry τ T)}
    (hentries : ∀ entry ∈ entries, J entry.tree) (minSize : Int) :
    Tracked I J (start initialTree s entries minSize) :=
  ⟨⟨⟨hinitial, hentries⟩, Int.le_refl _, Int.le_refl _⟩, nofun⟩

def Falls (I : ι → Prop) (J : τ → Prop) (rank : ι → Nat) (rank' : τ → Nat) (v : Sequence S T ι τ)
    (x : Act (Sequence S T ι τ) Bool) (v' : Sequence S T ι τ) : Prop :=
  x.Yields v' (fun moved v'' => Tracked I J v'' ∧ rankBy rank rank' v'' + moved.toNat ≤ rankBy rank rank' v)
    fun _ _ => True

theorem Falls.mono {x : Act (Sequence S T ι τ) Bool} {v₀ : Sequence S T ι τ} (h : Falls I J rank rank' v x v')
    (hle : rankBy rank rank' v ≤ rankBy rank rank' v₀) : Falls I J rank rank' v₀ x v' :=
  Act.Yields.mono h (fun _ _ h => ⟨h.1, h.2.trans hle⟩) fun _ _ h => h

theorem shrinkInitial_falls (hinitial : g.initial.Ranked I rank) (hv : Placed I J v) (hlast : v.lastEdit = none)
    (hphase : v.cursor.phase = .shrinkInitialState) : Falls I J rank rank' v (shrinkInitial g) v := by
  have hplace : v.place = 1 := by rw [place, hphase]
  have hdone {v' : Sequence S T ι τ} (hv' : Placed I J v') (hlast' : v'.lastEdit = none)
      (hweight : v'.weight rank rank' ≤ v.weight rank rank') :
      (moveTo .done >>= fun _ => pure false : Act (Sequence S T ι τ) Bool).Yields v'
        (fun moved v'' => Tracked I J v'' ∧ rankBy rank rank' v'' + moved.toNat ≤ rankBy rank rank' v)
        fun _ _ => True := by
    rw [Act.yields_bind, yields_moveTo, Act.yields_pure]
    have hmoved : Placed I J { v' with cursor := { phase := .done, index := 0 } } :=
      ⟨hv'.trees, hv'.le, Int.le_refl _⟩
    exact ⟨hmoved.tracked hlast', rankBy_add_le (m := 0) (n := 0) (Nat.zero_le _) hweight⟩
  unfold Falls shrinkInitial
  rw [Act.yields_bind, yields_shrinkInitialState]
  refine (hinitial.propose hv.trees.1 v.retryPending).mono (fun proposed tree h => ?_) fun _ _ h => h
  obtain ⟨htree, hrank⟩ := h
  have hput (s : S) : Placed I J (v.putInitial tree s) := ⟨⟨htree, hv.trees.2⟩, hv.le, hv.index⟩
  have hweight (s : S) : (v.putInitial tree s).weight rank rank' + proposed.isSome.toNat ≤ v.weight rank rank' :=
    weight_initial rfl hrank
  cases proposed with
  | none => exact hdone (hput _) hlast (hweight _)
  | some s =>
    dsimp only
    rw [Act.yields_lift]
    refine ⟨fun valid _ => ?_, fun _ _ => trivial⟩
    cases valid with
    | false => exact hdone (hput _) hlast (Nat.le_of_succ_le (hweight _))
    | true =>
      rw [if_pos rfl]
      rw [yields_accept]
      exact ⟨(hput s).edited hphase, rankBy_add_le (m := 0) (n := 1) (Nat.le_refl _) (hweight s)⟩

theorem shrinkTransitions_falls (hinitial : g.initial.Ranked I rank) (htransition : g.transition.Ranked J rank')
    (hv : Placed I J v) (hlast : v.lastEdit = none) (hphase : v.cursor.phase = .shrinkTransition) (left : Nat)
    (hleft : (v.length - v.cursor.index).toNat = left) :
    Falls I J rank rank' v (shrinkTransitions g left) v := by
  -- On the transitions from the cursor on; each that proposes nothing moves the cursor, so the rank never rises.
  induction left generalizing v with
  | zero =>
    unfold Falls shrinkTransitions
    rw [Act.yields_bind, yields_moveTo]
    have hmoved : Placed I J { v with cursor := { phase := .shrinkInitialState, index := 0 } } :=
      ⟨hv.trees, hv.le, Int.le_refl _⟩
    refine (shrinkInitial_falls hinitial hmoved hlast rfl).mono ?_
    refine rankBy_add_le (m := 0) (n := 0) ?_ (Nat.le_refl _)
    simp only [place, hphase]
    omega
  | succ left ih =>
    obtain ⟨entry, hentry, htree⟩ := hv.entry (by omega)
    have hnext {v' : Sequence S T ι τ} (hv' : Placed I J v') (hlast' : v'.lastEdit = none)
        (hlength : v'.length = v.length) (hcount : v'.entries.length = v.entries.length)
        (hcursor : v'.cursor = v.cursor) (hweight : v'.weight rank rank' ≤ v.weight rank rank') :
        (Act.modify (fun v => { v with cursor.index := v.cursor.index + 1 }) >>= fun _ =>
          shrinkTransitions g left).Yields v'
          (fun moved v'' => Tracked I J v'' ∧ rankBy rank rank' v'' + moved.toNat ≤ rankBy rank rank' v)
          fun _ _ => True := by
      rw [Act.yields_bind, Act.yields_modify]
      have hindex := hv'.index
      have hphase' : v'.cursor.phase = .shrinkTransition := hcursor ▸ hphase
      have hstepped : Placed I J { v' with cursor.index := v'.cursor.index + 1 } :=
        ⟨hv'.trees, hv'.le, Int.add_nonneg hindex (by decide)⟩
      refine (ih hstepped hlast' hphase' ?_).mono ?_
      · dsimp only
        rw [hlength, hcursor]
        omega
      · refine rankBy_add_le (m := 0) (n := 0) ?_ hweight
        simp only [place, hphase, hcount, hlength, hcursor]
        omega
    unfold Falls shrinkTransitions
    rw [Act.yields_bind, Act.yields_get, Act.yields_bind, yields_shrinkTransition hentry]
    refine (htransition.propose htree v.retryPending).mono (fun proposed tree h => ?_) fun _ _ h => h
    obtain ⟨htree', hrank⟩ := h
    have hput (t : T) : Placed I J (v.put v.cursor.index.toNat tree t) := hv.set htree' rfl rfl rfl hv.index
    have hcount (t : T) : (v.put v.cursor.index.toNat tree t).entries.length = v.entries.length :=
      List.length_set ..
    have hweight (t : T) : (v.put v.cursor.index.toNat tree t).weight rank rank' + proposed.isSome.toNat ≤
        v.weight rank rank' := weight_set hentry rfl rfl hrank
    cases proposed with
    | none => exact hnext (hput _) hlast rfl (hcount _) rfl (hweight _)
    | some t =>
      dsimp only
      rw [Act.yields_lift]
      refine ⟨fun valid _ => ?_, fun _ _ => trivial⟩
      cases valid with
      | false => exact hnext (hput _) hlast rfl (hcount _) rfl (Nat.le_of_succ_le (hweight _))
      | true =>
        rw [if_pos rfl]
        rw [yields_accept]
        refine ⟨(hput t).edited ?_, rankBy_add_le (m := 0) (n := 1) (Nat.le_of_eq ?_) (hweight t)⟩
        · have hindex := hv.index
          have hcursor : v.cursor = { phase := .shrinkTransition, index := (v.cursor.index.toNat : Int) } := by
            rw [Int.toNat_of_nonneg hindex, ← hphase]
          exact ⟨hcursor, show (v.cursor.index.toNat : Int) < v.length by omega⟩
        · show (v.put v.cursor.index.toNat tree t).place + 0 = v.place
          have hphase' : (v.put v.cursor.index.toNat tree t).cursor.phase = .shrinkTransition := hphase
          rw [place, place, hphase, hphase', hcount]
          rfl

theorem delete_falls (hinitial : g.initial.Ranked I rank) (htransition : g.transition.Ranked J rank')
    (hv : Placed I J v) (hlast : v.lastEdit = none) (hphase : v.cursor.phase = .deleteTransition) :
    Falls I J rank rank' v (delete g) v := by
  have hlength := hv.le
  have hplace : v.place = 2 * v.entries.length + 3 + (v.length - v.minSize).toNat := by rw [place, hphase]
  have hnext : (moveTo .shrinkTransition >>= fun _ => Act.get >>= fun v => shrinkTransitions g v.length.toNat :
      Act (Sequence S T ι τ) Bool).Yields v
      (fun moved v'' => Tracked I J v'' ∧ rankBy rank rank' v'' + moved.toNat ≤ rankBy rank rank' v)
      fun _ _ => True := by
    rw [Act.yields_bind, yields_moveTo, Act.yields_bind, Act.yields_get]
    have hmoved : Placed I J { v with cursor := { phase := .shrinkTransition, index := 0 } } :=
      ⟨hv.trees, hv.le, Int.le_refl _⟩
    refine (shrinkTransitions_falls hinitial htransition hmoved hlast rfl _ ?_).mono ?_
    · dsimp only
      rw [Int.sub_zero]
    · refine rankBy_add_le (m := 0) (n := 0) ?_ (Nat.le_refl _)
      rw [hplace, place]
      dsimp only
      omega
  unfold Falls delete deleteLast
  rw [Act.yields_bind, Act.yields_bind, Act.yields_get, Act.yields_ite]
  refine ⟨fun _ => hnext, fun hlong => ?_⟩
  rw [Act.yields_bind, Act.yields_lift]
  refine ⟨fun valid _ => ?_, fun _ _ => trivial⟩
  rw [Act.yields_ite]
  refine ⟨fun _ => ?_, fun hkept => ?_⟩
  · rw [Act.yields_bind, Act.yields_log]
    exact hnext
  · rw [Act.yields_bind, Act.yields_set, Act.yields_bind, Act.yields_log, Act.yields_pure]
    dsimp only
    rw [yields_accept]
    have hshort : Placed I J { v with length := min (v.length - 1) (valid : Int) } :=
      ⟨hv.trees, show min (v.length - 1) (valid : Int) ≤ v.entries.length by omega, hv.index⟩
    refine ⟨hshort.edited ⟨hphase, hlength⟩, ?_⟩
    refine rankBy_add_le (m := 1) (n := 0) ?_ (Nat.le_refl _)
    rw [hplace]
    simp only [place, hphase]
    omega

theorem shrink_falls (hinitial : g.initial.Ranked I rank) (htransition : g.transition.Ranked J rank')
    (hv : Placed I J v) : Falls I J rank rank' v (shrink g) v := by
  have hforgot : Placed I J { v with lastEdit := none } := ⟨hv.trees, hv.le, hv.index⟩
  have hsame : rankBy rank rank' { v with lastEdit := none } = rankBy rank rank' v := rfl
  unfold Falls shrink
  rw [Act.yields_bind, Act.yields_modify, Act.yields_bind, Act.yields_get, ← hsame]
  dsimp only
  cases hphase : v.cursor.phase with
  | deleteTransition => exact delete_falls hinitial htransition hforgot rfl hphase
  | shrinkTransition => exact shrinkTransitions_falls hinitial htransition hforgot rfl hphase _ rfl
  | shrinkInitialState => exact shrinkInitial_falls hinitial hforgot rfl hphase
  | done => exact ⟨hforgot.tracked rfl, Nat.le_refl _⟩

theorem putBack_falls (hv : Placed I J v) (hlast : v.lastEdit = none) {i : Nat} {entry : Entry τ T}
    (hentry : v.entries[i]? = some entry) (hcursor : v.cursor = { phase := .shrinkTransition, index := i })
    (hlt : (i : Int) < v.length) {tree : τ} (htree : J tree) {retry : Bool}
    (hrank : 2 * rank' tree + 2 * retry.toNat ≤ 2 * rank' entry.tree) (prior : T) :
    Tracked I J (v.putBack i tree prior retry) ∧
      rankBy rank rank' (v.putBack i tree prior retry) + 1 ≤ rankBy rank rank' v := by
  cases retry with
  | true =>
    have hput : Placed I J (v.putBack i tree prior true) := hv.set htree rfl rfl rfl hv.index
    refine ⟨hput.tracked hlast, rankBy_add_le (m := 0) (n := 1) ?_ (weight_set hentry rfl rfl ?_)⟩
    · simp only [putBack, place, List.length_set]
      exact Nat.le_refl _
    · simp only [putBack, Bool.toNat_true] at hrank ⊢
      omega
  | false =>
    have hput : Placed I J (v.putBack i tree prior false) :=
      hv.set htree rfl rfl rfl (show 0 ≤ (i : Int) + 1 by omega)
    refine ⟨hput.tracked hlast, rankBy_add_le (m := 1) (n := 0) ?_ (weight_set hentry rfl rfl ?_)⟩
    · simp only [putBack, place, List.length_set, hcursor]
      omega
    · simp only [putBack, Bool.toNat_false] at hrank ⊢
      omega

theorem putInitialBack_falls (hv : Placed I J v) (hlast : v.lastEdit = none)
    (hphase : v.cursor.phase = .shrinkInitialState) {tree : ι} (htree : I tree) {retry : Bool}
    (hrank : 2 * rank tree + 2 * retry.toNat ≤ 2 * rank v.initialTree) (prior : S) :
    Tracked I J (v.putInitialBack tree prior retry) ∧
      rankBy rank rank' (v.putInitialBack tree prior retry) + 1 ≤ rankBy rank rank' v := by
  cases retry with
  | true =>
    have hput : Placed I J (v.putInitialBack tree prior true) := ⟨⟨htree, hv.trees.2⟩, hv.le, hv.index⟩
    refine ⟨hput.tracked hlast, rankBy_add_le (m := 0) (n := 1) (Nat.le_refl _) (weight_initial rfl ?_)⟩
    simp only [putInitialBack, Bool.toNat_true] at hrank ⊢
    omega
  | false =>
    have hput : Placed I J (v.putInitialBack tree prior false) := ⟨⟨htree, hv.trees.2⟩, hv.le, Int.le_refl _⟩
    refine ⟨hput.tracked hlast, rankBy_add_le (m := 1) (n := 0) ?_ (weight_initial rfl ?_)⟩
    · simp only [putInitialBack, place, hphase]
      omega
    · simp only [putInitialBack, Bool.toNat_false] at hrank ⊢
      omega

theorem complicate_falls [BEq S] [BEq T] (hinitial : g.initial.Ranked I rank)
    (htransition : g.transition.Ranked J rank') (hv : Tracked I J v) : Falls I J rank rank' v (complicate g) v := by
  unfold Falls complicate
  rw [Act.yields_bind, Act.yields_get]
  cases hlast : v.lastEdit with
  | none => exact ⟨hv, Nat.le_refl _⟩
  | some edit =>
    have htracks := hv.edit edit hlast
    have hforgot : Placed I J { v with lastEdit := none } := ⟨hv.trees, hv.le, hv.index⟩
    have hsame : rankBy rank rank' { v with lastEdit := none } = rankBy rank rank' v := rfl
    dsimp only
    rw [Act.yields_bind, Act.yields_set, Act.yields_bind, ← hsame]
    cases edit with
    | deleted index length =>
      obtain ⟨hphase, hlength⟩ := htracks
      unfold restore
      rw [Act.yields_bind, Act.yields_modify, yields_moveTo, Act.yields_bind, Act.yields_log, Act.yields_pure]
      have hmoved : Placed I J { v with
          lastEdit := none, length := length, cursor := { phase := .shrinkTransition, index := 0 } } :=
        ⟨hv.trees, hlength, Int.le_refl _⟩
      refine ⟨hmoved.tracked rfl, rankBy_add_le (m := 1) (n := 0) ?_ (Nat.le_refl _)⟩
      simp only [place, hphase]
      omega
    | transition i prior =>
      obtain ⟨hcursor, hlt⟩ := htracks
      obtain ⟨entry, hentry, htree⟩ := hv.entry (by rw [hcursor]; exact hlt)
      rw [hcursor] at hentry
      have hentry' : ({ v with lastEdit := none } : Sequence S T ι τ).entries[i]? = some entry := hentry
      rw [yields_restore_transition hentry']
      refine (htransition.canRetry htree prior).mono (fun retry tree h => ?_) fun _ _ h => h
      rw [Act.yields_bind, Act.yields_log, Act.yields_pure]
      exact putBack_falls hforgot rfl hentry' hcursor hlt h.1 h.2 prior
    | initialState prior =>
      rw [yields_restore_initial]
      refine (hinitial.canRetry hv.trees.1 prior).mono (fun retry tree h => ?_) fun _ _ h => h
      rw [Act.yields_bind, Act.yields_log, Act.yields_pure]
      exact putInitialBack_falls hforgot rfl htracks h.1 h.2 prior

theorem tree_ranked [BEq S] [BEq T] (hinitial : g.initial.Ranked I rank) (htransition : g.transition.Ranked J rank') :
    (tree g).Ranked (Tracked I J) (rankBy rank rank') where
  simplify _ hv := shrink_falls hinitial htransition hv.toPlaced
  complicate v hv := by
    -- The edit that is taken back is forgotten, and with it the slack.
    have hfalls := complicate_falls hinitial htransition hv
    have hcomplicated := complicate_yields g.tame_of_anything v.trees_of_anything
    refine (hfalls.and hcomplicated).mono (fun moved v' h => ⟨h.1.1, h.1.2, fun hmoved => ?_⟩) fun _ _ _ => trivial
    cases hlast : v.lastEdit with
    | none =>
      rw [(h.2.2.none hlast).1] at hmoved
      cases hmoved
    | some edit =>
      have hforgot := (h.2.2.some edit hlast).2.lastEdit
      show (if v'.lastEdit.isSome then 1 else 0) < if v.lastEdit.isSome then 1 else 0
      rw [hforgot, hlast]
      exact Nat.zero_lt_one

theorem Tracked.cut (rank : ι → Nat) (rank' : τ → Nat) (hv : Tracked I J v) (length : Int) :
    Tracked I J (v.cut length) ∧ rankBy rank rank' (v.cut length) ≤ rankBy rank rank' v := by
  unfold Sequence.cut
  split
  · exact ⟨hv, Nat.le_refl _⟩
  · have hlength := hv.le
    have hcut : Placed I J { v with length := max length v.minSize, lastEdit := none } :=
      ⟨hv.trees, show max length v.minSize ≤ v.entries.length by omega, hv.index⟩
    refine ⟨hcut.tracked rfl, rankBy_add_le (m := 0) (n := 0) ?_ (Nat.le_refl _)⟩
    unfold place
    dsimp only
    split <;> omega

end Sequence
end StateCheck
