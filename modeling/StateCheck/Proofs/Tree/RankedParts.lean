import Mathlib.Algebra.BigOperators.Intervals
import StateCheck.Proofs.Tree.Elements
import StateCheck.Proofs.Tree.Fields
import StateCheck.Proofs.Tree.Pick
import StateCheck.Proofs.Tree.Rank

/-! Ranks of trees made of trees. What a tree still may do by itself is added to the ranks of its parts; a pick
counts the alternatives that it may still draw. -/

namespace StateCheck

theorem sum_map_set {τ : Type} (rank : τ → Nat) {items : List τ} {i : Nat} {s : τ} (hs : items[i]? = some s)
    (s' : τ) : ((items.set i s').map rank).sum + rank s = (items.map rank).sum + rank s' := by
  induction items generalizing i with
  | nil => cases hs
  | cons item rest ih =>
    cases i with
    | zero =>
      cases hs
      simp only [List.set_cons_zero, List.map_cons, List.sum_cons]
      omega
    | succ i =>
      have := ih hs
      simp only [List.set_cons_succ, List.map_cons, List.sum_cons]
      omega

theorem set_falls {τ : Type} {I : τ → Prop} {rank : τ → Nat} {items : List τ} (hitems : ∀ s ∈ items, I s)
    {i : Nat} {s : τ} (hs : items[i]? = some s) {s' : τ} (hs' : I s') {n : Nat} (hrank : rank s' + n ≤ rank s) :
    (∀ u ∈ items.set i s', I u) ∧ ((items.set i s').map rank).sum + n ≤ (items.map rank).sum := by
  refine ⟨fun u hu => ?_, ?_⟩
  · rcases List.mem_or_eq_of_mem_set hu with hu | rfl
    · exact hitems u hu
    · exact hs'
  · have := sum_map_set rank hs s'
    omega

namespace Fields
variable {τ α : Type} {t : ValueTree τ α} {I : τ → Prop} {rank : τ → Nat} {f : Fields τ}

def rankBy (rank : τ → Nat) (f : Fields τ) : Nat := (f.trees.map rank).sum

theorem simplifyFrom_falls (ht : t.Ranked I rank) (hf : ∀ s ∈ f.trees, I s) (left : Nat) :
    (simplifyFrom t left).Yields f
      (fun moved f' => (∀ s ∈ f'.trees, I s) ∧ rankBy rank f' + moved.toNat ≤ rankBy rank f)
      fun _ _ => True := by
  refine simplifyFrom_loop (K := fun _ f' => (∀ s ∈ f'.trees, I s) ∧ rankBy rank f' ≤ rankBy rank f)
    (fun _ h => h) (fun _ _ h _ => h) (fun _ f' s h hs => ?_) ⟨hf, Nat.le_refl _⟩
  refine (ht.simplify s (h.1 s (List.mem_of_getElem? hs))).mono (fun moved s' h' => ?_) fun _ _ h => h
  have hset := set_falls h.1 hs h'.1 h'.2
  cases moved with
  | true => exact ⟨hset.1, hset.2.trans h.2⟩
  | false => exact ⟨hset.1, hset.2.trans h.2⟩

theorem tree_ranked (ht : t.Ranked I rank) : (tree t).Ranked (fun f => ∀ s ∈ f.trees, I s) (rankBy rank) where
  simplify f hf := simplifyFrom_falls ht hf _
  complicate f hf := by
    refine complicate_cases (fun _ => ⟨hf, Nat.le_refl _, nofun⟩) (fun _ _ _ => ⟨hf, Nat.le_refl _, nofun⟩)
      fun i s hmoved hs => ?_
    have hi : i < f.trees.length := (List.getElem?_eq_some_iff.1 hs).1
    refine (ht.complicate s (hf s (List.mem_of_getElem? hs))).mono (fun moved s' h => ?_) fun _ _ h => h
    have hset := set_falls hf hs h.1 h.2.1
    cases moved with
    | true =>
      refine ⟨hset.1, hset.2, fun _ => ?_⟩
      show slack t _ < slack t f
      simp only [slack, if_true, hmoved, Option.bind_some, hs, List.getElem?_set_self hi]
      exact h.2.2 rfl
    | false => exact ⟨hset.1, hset.2, nofun⟩

end Fields

namespace Elements
variable {τ α : Type} {t : ValueTree τ α} {I : τ → Prop} {rank : τ → Nat} {e : Elements τ}

def toDelete (e : Elements τ) : Nat := if e.deleting then e.slots.length - e.cursor else 0

def toRestore (e : Elements τ) : Nat :=
  match e.undo with
  | some (.restore _) => 1
  | _ => 0

theorem toDelete_le_of_not {e' : Elements τ} (hdeleting : e'.deleting = false) : e'.toDelete ≤ e.toDelete := by
  rw [toDelete, hdeleting]
  exact Nat.zero_le _

/-- A deletion counts twice, for it can be undone. -/
def rankBy (rank : τ → Nat) (e : Elements τ) : Nat := 2 * e.toDelete + e.toRestore + (e.trees.map rank).sum

theorem rankBy_add_le {e' : Elements τ} {n : Nat} (htoDelete : e'.toDelete ≤ e.toDelete)
    (htoRestore : e'.toRestore ≤ e.toRestore) (hsum : (e'.trees.map rank).sum + n ≤ (e.trees.map rank).sum) :
    rankBy rank e' + n ≤ rankBy rank e := by
  unfold rankBy
  omega

structure Ordered (I : τ → Prop) (e : Elements τ) : Prop where
  trees : ∀ s ∈ e.trees, I s
  retried : ∀ i, e.undo = some (.retry i) → e.deleting = false

theorem simplifyFrom_falls (ht : t.Ranked I rank) (he : Ordered I e) (hdeleting : e.deleting = false) (left : Nat) :
    (simplifyFrom t left).Yields e
      (fun moved e' => Ordered I e' ∧ rankBy rank e' + moved.toNat ≤ rankBy rank e) fun _ _ => True := by
  refine simplifyFrom_loop
    (K := fun _ e' => Ordered I e' ∧ e'.deleting = false ∧ rankBy rank e' ≤ rankBy rank e)
    (fun _ h => ⟨h.1, h.2.2⟩) (fun _ e' h _ => ?_) (fun _ e' slot h hslot _ => ?_) ⟨he, hdeleting, Nat.le_refl _⟩
  · obtain ⟨he', hdeleting', hrank⟩ := h
    refine ⟨⟨he'.trees, he'.retried⟩, hdeleting', le_trans ?_ hrank⟩
    exact rankBy_add_le (n := 0) (toDelete_le_of_not hdeleting') (Nat.le_refl _) (Nat.le_refl _)
  · obtain ⟨he', hdeleting', hrank⟩ := h
    have hs := tree_of_slot hslot
    refine (ht.simplify slot.tree (he'.trees _ (List.mem_of_getElem? hs))).mono (fun moved s' h => ?_) fun _ _ h => h
    have hset := set_falls he'.trees hs h.1 h.2
    rw [← trees_setTree e'.cursor slot] at hset
    cases moved with
    | true =>
      refine ⟨⟨hset.1, fun _ _ => hdeleting'⟩, le_trans ?_ hrank⟩
      exact rankBy_add_le (toDelete_le_of_not hdeleting') (Nat.zero_le _) hset.2
    | false =>
      refine ⟨⟨hset.1, he'.retried⟩, hdeleting', le_trans ?_ hrank⟩
      exact rankBy_add_le (n := 0) (toDelete_le_of_not hdeleting') (Nat.le_refl _) hset.2

theorem delete_falls (he : Ordered I e) (hcan : e.canDelete = true) :
    Ordered I e.delete ∧ rankBy rank e.delete + 1 ≤ rankBy rank e := by
  obtain ⟨hdeleting, hcursor, -⟩ := of_canDelete hcan
  have htrees : e.delete.trees = e.trees := trees_setKept e.cursor false e
  have hlength : e.delete.slots.length = e.slots.length := List.length_modify ..
  refine ⟨⟨htrees ▸ he.trees, fun _ h => by cases h⟩, ?_⟩
  -- One deletion fewer is worth two, of which one is left to be undone.
  have htoDelete : e.toDelete = e.delete.toDelete + 1 := by
    have hdeleting' : e.delete.deleting = true := hdeleting
    rw [toDelete, toDelete, if_pos hdeleting, if_pos hdeleting', hlength]
    simp only [delete]
    omega
  have htoRestore : e.delete.toRestore = 1 := rfl
  rw [rankBy, rankBy, htrees, htoDelete, htoRestore]
  omega

theorem endDeleting_falls (rank : τ → Nat) (he : Ordered I e) : Ordered I e.endDeleting ∧
    e.endDeleting.deleting = false ∧ rankBy rank e.endDeleting ≤ rankBy rank e := by
  unfold endDeleting
  cases hdeleting : e.deleting with
  | false => exact ⟨he, hdeleting, Nat.le_refl _⟩
  | true =>
    refine ⟨⟨he.trees, fun _ _ => rfl⟩, rfl, ?_⟩
    exact rankBy_add_le (n := 0) (Nat.zero_le _) (Nat.le_refl _) (Nat.le_refl _)

theorem restore_falls (rank : τ → Nat) (he : Ordered I e) {i : Nat} (hundo : e.undo = some (.restore i)) :
    Ordered I { e.setKept i true with undo := none } ∧
      rankBy rank { e.setKept i true with undo := none } + 1 ≤ rankBy rank e := by
  have htrees : (e.setKept i true).trees = e.trees := trees_setKept i true e
  have hlength : (e.setKept i true).slots.length = e.slots.length := List.length_modify ..
  have htoRestore : e.toRestore = 1 := by rw [toRestore, hundo]
  have htoDelete : (e.setKept i true).toDelete = e.toDelete := by
    rw [toDelete, toDelete, hlength]
    rfl
  refine ⟨⟨htrees ▸ he.trees, fun _ h => by cases h⟩, ?_⟩
  show 2 * (e.setKept i true).toDelete + 0 + ((e.setKept i true).trees.map rank).sum + 1 ≤ _
  rw [rankBy, htoDelete, htrees, htoRestore]
  omega

theorem tree_ranked (ht : t.Ranked I rank) : (tree t).Ranked (Ordered I) (rankBy rank) where
  simplify e he := by
    show (simplify t).Yields e _ _
    by_cases hcan : e.canDelete = true
    · rw [yields_delete hcan]
      exact delete_falls he hcan
    · obtain ⟨he', hdeleting, hrank⟩ := endDeleting_falls rank he
      rw [yields_simplify hcan]
      exact (simplifyFrom_falls ht he' hdeleting _).mono (fun _ _ h => ⟨h.1, h.2.trans hrank⟩) fun _ _ h => h
  complicate e he := by
    refine complicate_cases (fun _ => ⟨he, Nat.le_refl _, fun h => by cases h⟩) (fun i hundo => ?_) (fun i hundo _ => ?_)
      fun i slot hundo hslot => ?_
    · obtain ⟨he', hrank⟩ := restore_falls rank he hundo
      refine ⟨he', hrank, fun _ => ?_⟩
      show 0 < slack t e
      rw [slack, hundo]
      exact Nat.zero_lt_one
    · refine ⟨⟨he.trees, fun _ h => by cases h⟩, ?_, fun h => by cases h⟩
      exact rankBy_add_le (Nat.le_refl _) (Nat.zero_le _) (Nat.le_refl _)
    · have hdeleting := he.retried i hundo
      have hs := tree_of_slot hslot
      have hi : i < e.slots.length := (List.getElem?_eq_some_iff.1 hslot).1
      refine (ht.complicate slot.tree (he.trees _ (List.mem_of_getElem? hs))).mono (fun moved s' h => ?_) fun _ _ h => h
      have hset := set_falls he.trees hs h.1 h.2.1
      rw [← trees_setTree i slot] at hset
      cases moved with
      | true =>
        refine ⟨⟨hset.1, fun _ _ => hdeleting⟩, ?_, fun _ => ?_⟩
        · exact rankBy_add_le (toDelete_le_of_not hdeleting) (Nat.le_refl _) hset.2
        · show slack t _ < slack t e
          simp only [slack, setTree, if_true, hundo, hslot, List.getElem?_set_self hi, Option.elim_some]
          exact h.2.2 rfl
      | false =>
        refine ⟨⟨hset.1, fun _ h => by cases h⟩, ?_, fun h => by cases h⟩
        exact rankBy_add_le (toDelete_le_of_not hdeleting) (Nat.zero_le _) hset.2

end Elements

namespace Pick
variable {τ α : Type} {t : ValueTree τ α} {redraw : Redraw τ} {I : τ → Prop} {rank : τ → Nat} {p : Pick τ}

def rankHere (rank : τ → Nat) : Except Fault τ → Nat
  | .ok s => rank s
  | .error _ => 0

/-- An alternative that may still be drawn counts as what the draw gives, and twice more for stepping down to it
and back. -/
def toDraw (rank : τ → Nat) (redraw : Redraw τ) (p : Pick τ) : Nat :=
  ∑ i ∈ Finset.Ico p.floor p.index, (rankHere rank (redraw p.seed i).1 + 2)

def toUndo (rank : τ → Nat) (p : Pick τ) : Nat := p.undo.elim 0 fun s => rank s + 1

def rankBy (rank : τ → Nat) (redraw : Redraw τ) (p : Pick τ) : Nat :=
  rankHere rank p.here + p.toDraw rank redraw + p.toUndo rank

structure Holds (I : τ → Prop) (p : Pick τ) : Prop where
  here : ∀ s, p.here = .ok s → I s
  undo : ∀ s, p.undo = some s → I s

theorem rankBy_of_here {s : τ} (hs : p.here = .ok s) :
    rankBy rank redraw p = rank s + p.toDraw rank redraw + p.toUndo rank := by rw [rankBy, hs, rankHere]

theorem stepDown_falls (hredraw : ∀ seed i s, (redraw seed i).1 = .ok s → I s) (hp : Holds I p) :
    (stepDown redraw).Yields p
      (fun moved p' => Holds I p' ∧ rankBy rank redraw p' + moved.toNat ≤ rankBy rank redraw p) fun _ _ => True := by
  rw [yields_stepDown]
  split
  · exact ⟨hp, Nat.le_refl _⟩
  · rename_i hfloor
    refine ⟨⟨fun s hs => hredraw _ _ s hs, fun s hs => ?_⟩, ?_⟩
    · cases hhere : p.here with
      | error e =>
        rw [hhere] at hs
        cases hs
      | ok s' =>
        rw [hhere] at hs
        cases hs
        exact hp.here s hhere
    · -- What is drawn pays for its rank, and for what the undo now keeps, with its own summand.
      have hsum := Finset.sum_Ico_succ_top (show p.floor ≤ p.index - 1 by omega)
        fun i => rankHere rank (redraw p.seed i).1 + 2
      rw [show p.index - 1 + 1 = p.index by omega] at hsum
      have hundo : (p.here.toOption.elim 0 fun s => rank s + 1) ≤ rankHere rank p.here + 1 := by
        cases p.here with
        | error e => exact Nat.zero_le _
        | ok s => exact Nat.le_refl _
      simp only [rankBy, toDraw, toUndo, hsum, Bool.toNat_true]
      omega

theorem tree_ranked (ht : t.Ranked I rank) (hredraw : ∀ seed i s, (redraw seed i).1 = .ok s → I s) :
    (tree t redraw).Ranked (Holds I) (rankBy rank redraw) where
  simplify p hp := simplify_cases (fun _ _ => trivial) fun s hhere => by
    refine (ht.simplify s (hp.here s hhere)).mono (fun moved s' h => ?_) fun _ _ h => h
    have hheld (undo : Option τ) (hundo : ∀ s, undo = some s → I s) :
        Holds I { p with here := .ok s', undo := undo } := by
      refine ⟨?_, hundo⟩
      rintro s ⟨⟩
      exact h.1
    have hrank := h.2
    rw [rankBy_of_here hhere]
    cases moved with
    | true =>
      refine ⟨hheld none nofun, ?_⟩
      show rank s' + p.toDraw rank redraw + 0 + 1 ≤ _
      rw [Bool.toNat_true] at hrank
      omega
    | false =>
      rw [if_neg Bool.false_ne_true]
      refine (stepDown_falls hredraw (hheld p.undo hp.undo)).mono (fun moved p' h' => ⟨h'.1, h'.2.trans ?_⟩)
        fun _ _ h => h
      show rank s' + p.toDraw rank redraw + p.toUndo rank ≤ _
      exact Nat.add_le_add_right (Nat.add_le_add_right hrank _) _
  complicate p hp := by
    refine complicate_cases (fun s hundo => ?_) (fun _ _ => trivial) fun s hundo hhere => ?_
    · refine ⟨⟨?_, nofun⟩, ?_, fun _ => ?_⟩
      · rintro s' ⟨⟩
        exact hp.undo s hundo
      · rw [rankBy_of_here rfl, rankBy]
        simp only [toDraw, toUndo, hundo, Finset.Ico_self, Finset.sum_empty, Option.elim_none, Option.elim_some,
          Bool.toNat_true]
        omega
      · simp only [tree, slack, hundo]
        exact Nat.lt_succ_self _
    · refine (ht.complicate s (hp.here s hhere)).mono (fun moved s' h => ?_) fun _ _ h => h
      refine ⟨⟨?_, hp.undo⟩, ?_, fun hmoved => ?_⟩
      · rintro s ⟨⟩
        exact h.1
      · have hrank := h.2.1
        rw [rankBy_of_here hhere]
        show rank s' + p.toDraw rank redraw + p.toUndo rank + moved.toNat ≤ _
        omega
      · simp only [tree, slack, hundo, hhere]
        exact h.2.2 hmoved

end Pick
end StateCheck
