import StateCheck.Proofs.Tree.PlainParts
import StateCheck.Proofs.Tree.RankedParts
import StateCheck.Proofs.Tree.Tries
import Mathlib.Data.Set.Lattice

/-! Kinds of states that both moves keep. A move that fails leaves what is shown, so a filter that started from an
acceptable value never shows another kind. -/

namespace StateCheck

/-- Nothing is said of a move that raises. -/
structure ValueTree.Keeps {σ α : Type} (t : ValueTree σ α) (I : σ → Prop) : Prop where
  simplify : ∀ s, I s → t.simplify.Yields s
    (fun moved s' => I s' ∧ (moved = false → t.current s' = t.current s)) fun _ _ => True
  complicate : ∀ s, I s → t.complicate.Yields s
    (fun moved s' => I s' ∧ (moved = false → t.current s' = t.current s)) fun _ _ => True

namespace ValueTree
variable {σ α β : Type} {t : ValueTree σ α} {I : σ → Prop} {s : σ}

theorem Keeps.perform (ht : t.Keeps I) (hs : I s) (call : Call) :
    (call.perform t).Yields s (fun _ s' => I s') fun _ _ => True := by
  cases call with
  | simplify => exact (ht.simplify s hs).mono (fun _ _ h => h.1) fun _ _ h => h
  | complicate => exact (ht.complicate s hs).mono (fun _ _ h => h.1) fun _ _ h => h

theorem Keeps.each (ht : t.Keeps I) (hs : I s) (calls : List Call) :
    (Act.each (Call.perform t) calls).Yields s (fun _ s' => I s') fun _ _ => True :=
  Act.yields_each (fun call _ _ hs => ht.perform hs call) hs

theorem Keeps.tries (ht : t.Keeps I) : t.Tries I (fun _ s' => I s') fun _ => True := by
  intro s hs
  refine (ht.simplify s hs).mono (fun moved s' h => ?_) fun _ _ h => h
  cases moved with
  | true => exact h.1
  | false => exact ⟨h.1, h.2 rfl, trivial⟩

theorem fixed_keeps (a : α) : (fixed a).Keeps fun _ => True :=
  ⟨fun _ _ => ⟨trivial, fun _ => rfl⟩, fun _ _ => ⟨trivial, fun _ => rfl⟩⟩

theorem Keeps.map (ht : t.Keeps I) (f : α → Except Fault β) : (t.map f).Keeps I where
  simplify s hs := (ht.simplify s hs).mono (fun _ _ h => ⟨h.1, fun hmoved => congrArg (· >>= f) (h.2 hmoved)⟩)
    fun _ _ h => h
  complicate s hs := (ht.complicate s hs).mono (fun _ _ h => ⟨h.1, fun hmoved => congrArg (· >>= f) (h.2 hmoved)⟩)
    fun _ _ h => h

section tagged
variable {κ : Type} {State : κ → Type} {trees : (k : κ) → ValueTree (State k) α} {J : (k : κ) → State k → Prop}

theorem Keeps.tagged (h : ∀ k, (trees k).Keeps (J k)) : (ValueTree.tagged trees).Keeps fun p => J p.1 p.2 where
  simplify p hp := (h p.1).simplify p.2 hp
  complicate p hp := (h p.1).complicate p.2 hp

theorem Keeps.taggedAt {n : Nat} {State : Fin n → Type} {trees : (k : Fin n) → ValueTree (State k) α}
    {J : (k : Fin n) → State k → Prop} (h : ∀ k, (trees k).Keeps (J k)) (i : Nat) :
    (ValueTree.tagged trees).Keeps fun p => (p.1 : Nat) = i ∧ J p.1 p.2 where
  simplify := by
    rintro ⟨k, s⟩ hs
    rw [yields_tagged_simplify]
    exact ((h k).simplify s hs.2).mono (fun _ _ h => ⟨⟨hs.1, h.1⟩, h.2⟩) fun _ _ h => h
  complicate := by
    rintro ⟨k, s⟩ hs
    rw [yields_tagged_complicate]
    exact ((h k).complicate s hs.2).mono (fun _ _ h => ⟨⟨hs.1, h.1⟩, h.2⟩) fun _ _ h => h

end tagged

section filter
variable {accepts : α → Except Fault Bool} {whence : String}

def Accepted (t : ValueTree σ α) (accepts : α → Except Fault Bool) (s : σ) : Prop :=
  ∀ a, t.current s = .ok a → accepts a = .ok true

theorem Keeps.settle (ht : t.Keeps I) (hs : I s) (fuel rejects : Nat) :
    (t.settle accepts whence fuel rejects).Yields s (fun _ s' => I s' ∧ t.Accepted accepts s') fun _ _ => True := by
  induction fuel generalizing s rejects with
  | zero => trivial
  | succ fuel ih =>
    unfold ValueTree.settle
    rw [Act.yields_bind, Act.yields_ask]
    refine ⟨fun acceptable hacceptable => ?_, fun _ _ => trivial⟩
    obtain ⟨a, ha, hacceptable⟩ := bind_eq_ok.1 hacceptable
    cases acceptable with
    | true =>
      rw [if_pos rfl]
      refine ⟨hs, fun a' (ha' : t.current s = .ok a') => ?_⟩
      rw [ha] at ha'
      cases ha'
      exact hacceptable
    | false =>
      rw [if_neg Bool.false_ne_true, Act.yields_bind]
      refine (ht.complicate s hs).mono (fun moved s' h => ?_) fun _ _ h => h
      rw [Act.yields_ite]
      exact ⟨fun _ => ih h.1 _, fun _ => trivial⟩

theorem Keeps.settled (ht : t.Keeps I) {move : Act σ Bool} (hs : t.Accepted accepts s)
    (hmove : move.Yields s (fun moved s' => I s' ∧ (moved = false → t.current s' = t.current s)) fun _ _ => True) :
    (t.settled accepts whence move).Yields s
      (fun moved s' => (I s' ∧ t.Accepted accepts s') ∧ (moved = false → t.current s' = t.current s))
      fun _ _ => True := by
  unfold ValueTree.settled
  rw [Act.yields_bind]
  refine hmove.mono (fun moved s' h => ?_) fun _ _ h => h
  cases moved with
  | true =>
    rw [if_pos rfl, Act.yields_bind, Act.yields_get, Act.yields_bind]
    exact (ht.settle h.1 _ _).mono (fun _ _ h => ⟨h, nofun⟩) fun _ _ h => h
  | false => exact ⟨⟨h.1, fun a ha => hs a (h.2 rfl ▸ ha)⟩, h.2⟩

theorem Keeps.filter (ht : t.Keeps I) (accepts : α → Except Fault Bool) (whence : String) :
    (t.filter accepts whence).Keeps fun s => I s ∧ t.Accepted accepts s where
  simplify s hs := ht.settled hs.2 (ht.simplify s hs.1)
  complicate s hs := ht.settled hs.2 (ht.complicate s hs.1)

end filter
end ValueTree

namespace Search

structure Bounded (lo hi : Int) (s : Search) : Prop where
  ranged : s.Ranged
  le : s.distance ≤ s.hi
  target : lo ≤ s.target ∧ s.target ≤ hi
  farthest : lo ≤ s.valueAt s.hi ∧ s.valueAt s.hi ≤ hi

theorem Bounded.valueAt {lo hi : Int} {s : Search} (hs : s.Bounded lo hi) {distance : Nat} (hle : distance ≤ s.hi) :
    lo ≤ s.valueAt distance ∧ s.valueAt distance ≤ hi := by
  obtain ⟨-, -, htarget, hfarthest⟩ := hs
  unfold Search.valueAt at hfarthest ⊢
  by_cases habove : s.above = true
  · simp only [habove, if_true] at hfarthest ⊢
    omega
  · simp only [habove, Bool.false_eq_true, if_false] at hfarthest ⊢
    omega

theorem simplify_bounded {lo hi : Int} {s : Search} (hs : s.Bounded lo hi) : s.simplify.2.Bounded lo hi ∧
    (s.simplify.1 = false → s.simplify.2.value = s.value) := by
  have hranged := (simplify_falls hs.ranged).1
  have hclose := hs.ranged
  unfold Ranged at hclose
  unfold simplify at hranged ⊢
  split
  · exact ⟨hs, fun _ => rfl⟩
  · rw [if_neg ‹_›] at hranged
    -- The far end comes to the value shown, which is within bounds.
    have hvalue := hs.valueAt hs.le
    rcases reposition_cases { s with hi := s.distance } with ⟨-, h⟩ | ⟨-, h⟩
    · rw [h] at hranged ⊢
      exact ⟨⟨hranged, Nat.le_refl _, hs.target, hvalue⟩, fun _ => rfl⟩
    · rw [h] at hranged ⊢
      refine ⟨⟨hranged, ?_, hs.target, hvalue⟩, nofun⟩
      dsimp only
      omega

theorem complicate_bounded {lo hi : Int} {s : Search} (hs : s.Bounded lo hi) : s.complicate.2.Bounded lo hi ∧
    (s.complicate.1 = false → s.complicate.2.value = s.value) := by
  have hranged := (complicate_falls hs.ranged).1
  have hle := hs.le
  unfold complicate at hranged ⊢
  split
  · exact ⟨hs, fun _ => rfl⟩
  · rw [if_neg ‹_›] at hranged
    rcases reposition_cases { s with lo := s.distance + 1 } with ⟨-, h⟩ | ⟨hmiddle, h⟩
    · rw [h] at hranged ⊢
      exact ⟨⟨hranged, hle, hs.target, hs.farthest⟩, fun _ => rfl⟩
    · rw [h] at hranged ⊢
      refine ⟨⟨hranged, ?_, hs.target, hs.farthest⟩, nofun⟩
      dsimp only at hmiddle ⊢
      omega

theorem tree_keeps (lo hi : Int) : tree.Keeps (Bounded lo hi) where
  simplify _ hs := ⟨(simplify_bounded hs).1, fun hmoved => congrArg Except.ok ((simplify_bounded hs).2 hmoved)⟩
  complicate _ hs := ⟨(complicate_bounded hs).1, fun hmoved => congrArg Except.ok ((complicate_bounded hs).2 hmoved)⟩

theorem start_bounded {lo hi value target : Int} (hvalue : lo ≤ value ∧ value ≤ hi) (htarget : lo ≤ target ∧ target ≤ hi) :
    (start value target).Bounded lo hi := by
  refine ⟨start_ranged value target, Nat.le_refl _, htarget, ?_⟩
  have hfarthest : (start value target).valueAt (start value target).hi = value := value_start value target
  rw [hfarthest]
  exact hvalue

end Search

theorem Fields.tree_keeps {τ α : Type} {t : ValueTree τ α} {I : Nat → τ → Prop} (ht : ∀ i, t.Keeps (I i)) (n : Nat) :
    (tree t).Keeps fun f => f.trees.length = n ∧ Row.Each I f.trees where
  simplify f hf := by
    refine (simplify_tries (fun i => (ht i).tries) hf.2).mono (fun moved f'' h => ?_) fun _ _ h => h
    obtain ⟨f', hpassed, hmoved⟩ := h
    have hlength : f'.trees.length = n := hpassed.length.trans hf.1
    cases moved with
    | true =>
      obtain ⟨s, s', -, hs', rfl⟩ := hmoved
      exact ⟨⟨(List.length_set ..).trans hlength, hpassed.each.set hs'⟩, nofun⟩
    | false =>
      obtain ⟨-, rfl⟩ := hmoved
      exact ⟨⟨hlength, hpassed.each⟩, fun _ => hpassed.current⟩
  complicate f hf := by
    refine complicate_cases (fun _ => ⟨hf, fun _ => rfl⟩) (fun _ _ _ => ⟨hf, fun _ => rfl⟩) fun i s hmoved hs => ?_
    refine ((ht i).complicate s (hf.2 i s hs)).mono (fun moved s' h => ?_) fun _ _ h => h
    have hf' : (f.trees.set i s').length = n ∧ Row.Each I (f.trees.set i s') :=
      ⟨(List.length_set ..).trans hf.1, hf.2.set h.1⟩
    cases moved with
    | true => exact ⟨hf', nofun⟩
    | false =>
      refine ⟨hf', fun hfalse => ?_⟩
      rw [if_neg Bool.false_ne_true, current_tree, current_tree, Row.shown_set hs (h.2 hfalse)]

theorem Fields.shows {τ α : Type} {t : ValueTree τ α} {E : Fault → Prop} {I : Nat → τ → Prop} {P : Nat → α → Prop}
    {f : Fields τ} (hshows : ∀ i s, I i s → t.Shows E (P i) s) (hf : Row.Each I f.trees) :
    (tree t).Shows E (fun as => as.length = f.trees.length ∧ ∀ i a, as[i]? = some a → P i a) f := by
  refine ⟨fun as has => ?_, fun e he => ?_⟩
  · have hrow := Row.all_eq_ok.1 ((current_tree f).symm.trans has)
    refine ⟨by simpa using (congrArg List.length hrow).symm, fun i a ha => ?_⟩
    have hshown : (f.trees.map t.current)[i]? = some (.ok a) := by rw [hrow, List.getElem?_map, ha, Option.map_some]
    rw [List.getElem?_map, Option.map_eq_some_iff] at hshown
    obtain ⟨s, hs, hshown⟩ := hshown
    exact (hshows i s (hf i s hs)).1 a hshown
  · obtain ⟨s, hs, he⟩ := List.mem_map.1 (Row.mem_of_all_error (current_tree f ▸ he))
    obtain ⟨i, hs⟩ := List.mem_iff_getElem?.1 hs
    exact (hshows i s (hf i s hs)).2 e he

namespace Elements
variable {τ α : Type} {t : ValueTree τ α} {I : τ → Prop} {e : Elements τ} {least most i : Nat}

structure Sized (I : τ → Prop) (least most : Nat) (e : Elements τ) : Prop where
  each : ∀ s ∈ e.trees, I s
  minSize : e.minSize = least
  slots : e.slots.length ≤ most
  kept : least ≤ e.flags.count true

theorem kept_length (e : Elements τ) : e.kept.length = e.flags.count true := by
  have hflag : ((· == true) ∘ Slot.kept : Slot τ → Bool) = Slot.kept := funext fun slot => beq_true slot.kept
  rw [kept, List.length_map, ← List.countP_eq_length_filter, List.count, flags, List.countP_map, hflag]

theorem Sized.delete (he : Sized I least most e) (hcan : e.canDelete = true) :
    Sized I least most e.delete := by
  obtain ⟨-, hcursor, hmore⟩ := of_canDelete hcan
  have htrees : e.delete.trees = e.trees := trees_setKept e.cursor false e
  have hflags : e.delete.flags = e.flags.set e.cursor false := flags_setKept e.cursor false e
  refine ⟨htrees ▸ he.each, he.minSize, (List.length_modify ..).trans_le he.slots, ?_⟩
  have hlength : e.cursor < e.flags.length := by rwa [flags, List.length_map]
  rw [he.minSize, kept_length] at hmore
  rw [hflags, List.count_set hlength, if_neg (by decide : ¬(false == true) = true)]
  split <;> omega

theorem Sized.restore (he : Sized I least most e) (i : Nat) :
    Sized I least most { e.setKept i true with undo := none } := by
  have htrees : (e.setKept i true).trees = e.trees := trees_setKept i true e
  have hflags : (e.setKept i true).flags = e.flags.set i true := flags_setKept i true e
  refine ⟨htrees ▸ he.each, he.minSize, (List.length_modify ..).trans_le he.slots, ?_⟩
  show least ≤ (e.setKept i true).flags.count true
  have hkept := he.kept
  rw [hflags]
  by_cases hlength : i < e.flags.length
  · rw [List.count_set hlength, if_pos BEq.rfl]
    split <;> omega
  · rwa [List.set_eq_of_length_le (Nat.not_lt.1 hlength)]

theorem Sized.setTree (he : Sized I least most e) {slot : Slot τ} (hslot : e.slots[i]? = some slot) {s' : τ}
    (hs' : I s') : Sized I least most (e.setTree i slot s') :=
  ⟨each_setTree he.each hs' i, he.minSize, (List.length_set ..).trans_le he.slots, (flags_setTree hslot s').symm ▸ he.kept⟩

theorem Sized.passed (he : Sized I least most e) {G : τ → Prop} {e' : Elements τ} (h : Passed t I G e e') :
    Sized I least most e' :=
  ⟨h.each, h.minSize.trans he.minSize, h.length.trans_le he.slots, h.flags.symm ▸ he.kept⟩

theorem Sized.endDeleting (he : Sized I least most e) : Sized I least most e.endDeleting := by
  unfold Elements.endDeleting
  split
  · exact ⟨he.each, he.minSize, he.slots, he.kept⟩
  · exact he

theorem current_endDeleting (t : ValueTree τ α) (e : Elements τ) :
    (tree t).current e.endDeleting = (tree t).current e := by
  unfold endDeleting
  split <;> rfl

theorem tree_keeps (ht : t.Keeps I) (least most : Nat) : (tree t).Keeps (Sized I least most) where
  simplify e he := by
    by_cases hcan : e.canDelete = true
    · show (simplify t).Yields e _ _
      rw [yields_delete hcan]
      exact ⟨he.delete hcan, nofun⟩
    · refine (simplify_tries ht.tries he.each hcan).mono (fun moved e'' h => ?_) fun _ _ h => h
      obtain ⟨e', hpassed, hmoved⟩ := h
      have he' := he.endDeleting.passed hpassed
      cases moved with
      | true =>
        obtain ⟨slot, s', hslot, -, hs', rfl⟩ := hmoved
        have hset := he'.setTree hslot hs'
        exact ⟨⟨hset.each, hset.minSize, hset.slots, hset.kept⟩, nofun⟩
      | false =>
        obtain ⟨-, rfl⟩ := hmoved
        exact ⟨he', fun _ => hpassed.current.trans (current_endDeleting t e)⟩
  complicate e he := by
    refine complicate_cases (fun _ => ⟨he, fun _ => rfl⟩) (fun i _ => ⟨he.restore i, nofun⟩) (fun _ _ _ => ?_)
      fun i slot _ hslot => ?_
    · exact ⟨⟨he.each, he.minSize, he.slots, he.kept⟩, fun _ => rfl⟩
    · have hs := he.each _ (List.mem_of_getElem? (tree_of_slot hslot))
      refine (ht.complicate slot.tree hs).mono (fun moved s' h => ?_) fun _ _ h => h
      have hset := he.setTree hslot h.1
      cases moved with
      | true => exact ⟨⟨hset.each, hset.minSize, hset.slots, hset.kept⟩, nofun⟩
      | false =>
        have hsame := current_setTree hslot (h.2 rfl)
        exact ⟨⟨hset.each, hset.minSize, hset.slots, hset.kept⟩, fun _ => hsame⟩

theorem Sized.shows {E : Fault → Prop} {P : α → Prop} (hshows : ∀ s, I s → t.Shows E P s)
    (he : Sized I least most e) :
    (tree t).Shows E (fun as => least ≤ as.length ∧ as.length ≤ most ∧ ∀ a ∈ as, P a) e := by
  have hkept (s : τ) (hs : s ∈ e.kept) : I s := by
    obtain ⟨slot, hslot, rfl⟩ := List.mem_map.1 hs
    exact he.each _ (List.mem_map_of_mem (List.mem_filter.1 hslot).1)
  have hcurrent : (tree t).current e = Row.all (e.kept.map t.current) := (Row.all_shown t e.kept).symm
  refine ⟨fun as has => ?_, fun fault hfault => ?_⟩
  · have hrow := Row.all_eq_ok.1 (hcurrent.symm.trans has)
    have hlength : e.kept.length = as.length := by simpa using congrArg List.length hrow
    refine ⟨?_, ?_, fun a ha => ?_⟩
    · rw [← hlength, kept_length]
      exact he.kept
    · rw [← hlength, Elements.kept, List.length_map]
      exact (List.length_filter_le _ _).trans he.slots
    · have hshown : .ok a ∈ e.kept.map t.current := hrow ▸ List.mem_map_of_mem ha
      obtain ⟨s, hs, hshown⟩ := List.mem_map.1 hshown
      exact (hshows s (hkept s hs)).1 a hshown
  · obtain ⟨s, hs, hfault⟩ := List.mem_map.1 (Row.mem_of_all_error (hcurrent ▸ hfault))
    exact (hshows s (hkept s hs)).2 fault hfault

theorem start_sized {trees : List τ} (htrees : ∀ s ∈ trees, I s) (hlength : least ≤ trees.length ∧ trees.length ≤ most) :
    Sized I least most (start trees least) := by
  refine ⟨(trees_start trees least).symm ▸ htrees, rfl, ?_, ?_⟩
  · exact (List.length_map ..).trans_le hlength.2
  · rw [← kept_length, kept_start]
    exact hlength.1

end Elements

namespace Pick
variable {τ α : Type} {t : ValueTree τ α} {redraw : Redraw τ} {I : τ → Prop} {E : Fault → Prop} {total : Nat}
  {p : Pick τ}

structure InReach (I : τ → Prop) (E : Fault → Prop) (total : Nat) (p : Pick τ) : Prop extends Holds I p where
  index : p.index ≤ total
  raised : ∀ e, p.here = .error e → E e
  behind : ∀ s, p.undo = some s → p.index + 1 ≤ total

theorem InReach.moved (hp : InReach I E total p) {s : τ} (hs : I s) : InReach I E total { p with here := .ok s } where
  here := by
    rintro s' ⟨⟩
    exact hs
  undo := hp.undo
  index := hp.index
  raised := nofun
  behind := hp.behind

theorem stepDown_keeps (hredraw : ∀ seed i s, i < total → (redraw seed i).1 = .ok s → I s)
    (hraised : ∀ seed i e, i < total → (redraw seed i).1 = .error e → E e) (hp : InReach I E total p) :
    (stepDown redraw).Yields p
      (fun moved p' => InReach I E total p' ∧ (moved = false → p' = p)) fun _ _ => True := by
  rw [yields_stepDown]
  split
  · exact ⟨hp, fun _ => rfl⟩
  · have hindex := hp.index
    have hlt : p.index - 1 < total := by omega
    refine ⟨⟨⟨fun s hs => hredraw _ _ s hlt hs, fun s hs => ?_⟩, Nat.le_of_lt hlt, fun e he => hraised _ _ e hlt he,
      fun _ _ => ?_⟩, nofun⟩
    · cases hhere : p.here with
      | error e =>
        rw [hhere] at hs
        cases hs
      | ok s' =>
        rw [hhere] at hs
        cases hs
        exact hp.here s hhere
    · dsimp only
      omega

theorem tree_keeps (ht : t.Keeps I) (hredraw : ∀ seed i s, i < total → (redraw seed i).1 = .ok s → I s)
    (hraised : ∀ seed i e, i < total → (redraw seed i).1 = .error e → E e) :
    (tree t redraw).Keeps (InReach I E total) where
  simplify p hp := simplify_cases (fun _ _ => trivial) fun s hhere => by
    refine (ht.simplify s (hp.here s hhere)).mono (fun moved s' h => ?_) fun _ _ h => h
    cases moved with
    | true => exact ⟨⟨⟨(hp.moved h.1).here, nofun⟩, hp.index, nofun, nofun⟩, nofun⟩
    | false =>
      rw [if_neg Bool.false_ne_true]
      refine (stepDown_keeps hredraw hraised (hp.moved h.1)).mono (fun moved p' h' => ⟨h'.1, fun hfalse => ?_⟩)
        fun _ _ h => h
      rw [h'.2 hfalse]
      exact (current_of_here rfl).trans ((h.2 rfl).trans (current_of_here hhere).symm)
  complicate p hp := by
    refine complicate_cases (fun s hundo => ?_) (fun _ _ => trivial) fun s _ hhere => ?_
    · refine ⟨⟨⟨?_, nofun⟩, hp.behind s hundo, nofun, nofun⟩, nofun⟩
      rintro s' ⟨⟩
      exact hp.undo s hundo
    · refine (ht.complicate s (hp.here s hhere)).mono (fun moved s' h => ⟨hp.moved h.1, fun hfalse => ?_⟩)
        fun _ _ h => h
      exact (current_of_here rfl).trans ((h.2 hfalse).trans (current_of_here hhere).symm)

theorem InReach.shows {P : α → Prop} (hshows : ∀ s, I s → t.Shows E P s) (hp : InReach I E total p) :
    (tree t redraw).Shows E P p := by
  cases hhere : p.here with
  | ok s => exact (shows_of_here hhere).2 (hshows s (hp.here s hhere))
  | error e => exact shows_of_raised hhere (hp.raised e hhere)

end Pick
end StateCheck
