import StateCheck.Proofs.Tree.Keeps

/-! Simplified until nothing is left to do, a tree shows the least value it can, wherever it started. Lists delete
first, so what they keep at the end is the minimum; a pick walks down to its first alternative. -/

namespace StateCheck

/-- From a state of the kind `J` simplifying never raises and leads to such a state; refused, it leaves `a`. -/
def ValueTree.Sinks {σ α : Type} (t : ValueTree σ α) (a : α) (J : σ → Prop) : Prop :=
  ∀ s, J s → t.simplify.Yields s
    (fun moved s' => J s' ∧ (moved = false → t.current s' = .ok a)) fun _ _ => False

inductive ValueTree.Bottoms {σ α : Type} (t : ValueTree σ α) (a : α) : σ → Prop
  | rest {s : σ} (hanswer : (t.simplify s).answer = .ok false) (hshown : t.current (t.simplify s).state = .ok a) :
      Bottoms t a s
  | step {s : σ} (hanswer : (t.simplify s).answer = .ok true) (hrest : Bottoms t a (t.simplify s).state) :
      Bottoms t a s

namespace ValueTree
variable {σ α β : Type} {t : ValueTree σ α} {a : α} {I J : σ → Prop} {rank : σ → Nat} {s : σ}

theorem Sinks.bottoms (ht : t.Sinks a J) (hranked : t.Ranked I rank) (hI : I s) (hJ : J s) : t.Bottoms a s := by
  induction hrank : rank s using Nat.strongRecOn generalizing s with
  | ind n ih =>
    obtain ⟨moved, hanswer, hJ', hshown⟩ := (ht s hJ).answers
    have hfall := (hranked.simplify s hI).of_ok hanswer
    cases moved with
    | false => exact .rest hanswer (hshown rfl)
    | true =>
      have hlower : rank (t.simplify s).state < n := by
        have hle := hfall.2
        rw [Bool.toNat_true] at hle
        omega
      exact .step hanswer (ih _ hlower hfall.1 hJ' rfl)

theorem fixed_sinks (a : α) : (fixed a).Sinks a fun _ => True := fun _ _ => ⟨trivial, fun _ => rfl⟩

theorem Sinks.map (ht : t.Sinks a J) {f : α → Except Fault β} {b : β} (hb : f a = .ok b) :
    (t.map f).Sinks b J := by
  intro s hs
  refine (ht s hs).mono (fun moved s' h => ⟨h.1, fun hmoved => ?_⟩) fun _ _ h => h
  have hshown := h.2 hmoved
  show t.current s' >>= f = .ok b
  rw [hshown]
  exact hb

theorem Sinks.taggedOf {n : Nat} {State : Fin n → Type} {trees : (k : Fin n) → ValueTree (State k) α}
    {least : Fin n → α} {J : (k : Fin n) → State k → Prop} (ht : ∀ k, (trees k).Sinks (least k) (J k)) {i : Nat} {b : α}
    (hb : (List.ofFn least)[i]? = some b) :
    (ValueTree.tagged trees).Sinks b fun p => (p.1 : Nat) = i ∧ J p.1 p.2 := by
  rintro ⟨k, s⟩ ⟨rfl, hs⟩
  have hk : (List.ofFn least)[(k : Nat)]? = some (least k) := by simp
  obtain rfl := Option.some.inj (hk.symm.trans hb)
  rw [yields_tagged_simplify]
  exact (ht k s hs).mono (fun _ _ h => ⟨⟨rfl, h.1⟩, h.2⟩) fun _ _ h => h

end ValueTree

structure Search.Sinking (target : Int) (s : Search) : Prop where
  target : s.target = target
  lo : s.lo = 0
  le : s.distance ≤ s.hi

theorem Search.tree_sinks (target : Int) : tree.Sinks target (Sinking target) := by
  intro s hs
  have hvalue (hzero : s.distance = 0) : Except.ok (ε := Fault) s.value = .ok target := by
    simp [value, hzero, hs.target]
  show (Act.ofMove simplify).Yields s _ _
  rw [Act.yields_ofMove, simplify]
  have hle := hs.le
  have hlo := hs.lo
  split
  · exact ⟨hs, fun _ => hvalue (by omega)⟩
  · rcases reposition_cases { s with hi := s.distance } with ⟨hmiddle, hstays⟩ | ⟨-, hmoves⟩
    · dsimp only at hmiddle
      rw [hstays]
      exact ⟨⟨hs.target, hlo, Nat.le_refl _⟩, fun _ => hvalue (by omega)⟩
    · rw [hmoves]
      refine ⟨⟨hs.target, hlo, ?_⟩, fun hrefused => ?_⟩
      · dsimp only
        omega
      · cases hrefused

theorem Search.start_sinking (value target : Int) : (start value target).Sinking target :=
  ⟨rfl, rfl, Nat.le_refl _⟩

namespace Fields
variable {τ α : Type} {t : ValueTree τ α} {J : Nat → τ → Prop} {as : List α} {f : Fields τ}

structure Sinking (t : ValueTree τ α) (J : Nat → τ → Prop) (as : List α) (f : Fields τ) : Prop where
  length : f.trees.length = as.length
  each : Row.Each J f.trees
  least : ∀ i, i < f.cursor → (f.trees.map t.current)[i]? = (as.map .ok)[i]?

theorem Sinking.current (hf : Sinking t J as f) (hend : f.trees.length ≤ f.cursor) : (tree t).current f = .ok as := by
  rw [current_tree, Row.all_eq_ok]
  refine List.ext_getElem? fun i => ?_
  by_cases hi : i < f.cursor
  · exact hf.least i hi
  · have hlength := hf.length
    rw [List.getElem?_eq_none (by simp; omega), List.getElem?_eq_none (by simp; omega)]

theorem Sinking.set (hf : Sinking t J as f) {s : τ} (hs : J f.cursor s) (moved : Option Nat) :
    Sinking t J as { f with trees := f.trees.set f.cursor s, moved := moved } where
  length := by simpa using hf.length
  each := hf.each.set hs
  least i hi := by
    have hne : f.cursor ≠ i := Nat.ne_of_gt hi
    rw [List.map_set, List.getElem?_set_ne hne]
    exact hf.least i hi

theorem Sinking.next (hf : Sinking t J as f) (hleast : (f.trees.map t.current)[f.cursor]? = (as.map .ok)[f.cursor]?) :
    Sinking t J as { f with cursor := f.cursor + 1 } where
  length := hf.length
  each := hf.each
  least i hi := by
    rcases Nat.lt_or_eq_of_le (Nat.le_of_lt_succ hi) with hbefore | rfl
    · exact hf.least i hbefore
    · exact hleast

theorem yields_simplify {Q : Bool → Fields τ → Prop} {F : Fault → Fields τ → Prop} :
    (tree t).simplify.Yields f Q F ↔ (simplifyFrom t (f.trees.length - f.cursor)).Yields f Q F := Iff.rfl

theorem tree_sinks (ht : ∀ i a, as[i]? = some a → t.Sinks a (J i)) : (tree t).Sinks as (Sinking t J as) := by
  intro f hf
  rw [yields_simplify]
  refine simplifyFrom_loop (K := fun left f => Sinking t J as f ∧ f.trees.length ≤ f.cursor + left)
    (fun f h => ⟨h.1, fun _ => h.1.current h.2⟩) (fun left f h hs => ?_) (fun left f s h hs => ?_)
    ⟨hf, by omega⟩
  · obtain ⟨hf, hleft⟩ := h
    have hbeyond := List.getElem?_eq_none_iff.1 hs
    have hlength := hf.length
    refine ⟨hf.next ?_, ?_⟩
    · rw [List.getElem?_eq_none (by simpa using hbeyond), List.getElem?_eq_none (by simp; omega)]
    · dsimp only
      omega
  · obtain ⟨hf, hleft⟩ := h
    have hbound := (List.getElem?_eq_some_iff.1 hs).1
    obtain ⟨a, ha⟩ : ∃ a, as[f.cursor]? = some a := ⟨_, List.getElem?_eq_getElem (hf.length ▸ hbound)⟩
    refine (ht _ _ ha s (hf.each _ s hs)).mono (fun moved s' h => ?_) fun _ _ h => h
    cases moved with
    | true => exact ⟨hf.set h.1 _, nofun⟩
    | false =>
      have hset := hf.set h.1 f.moved
      refine ⟨hset.next ?_, ?_⟩
      · rw [List.map_set, List.getElem?_set_self (by simpa using hbound), List.getElem?_map, ha, h.2 rfl]
        rfl
      · dsimp only
        rw [List.length_set]
        omega

end Fields

namespace Elements
variable {τ α : Type} {t : ValueTree τ α} {J : τ → Prop} {a : α} {least most : Nat} {e : Elements τ}

structure Sinking (t : ValueTree τ α) (J : τ → Prop) (a : α) (least most : Nat) (e : Elements τ) : Prop
    extends Sized J least most e where
  deleted : e.deleting = true → ∀ i slot, i < e.cursor → e.slots[i]? = some slot → slot.kept = false
  fewest : e.deleting = false → e.flags.count true = least
  shown : e.deleting = false → ∀ i slot, i < e.cursor → e.slots[i]? = some slot → slot.kept = true →
    t.current slot.tree = .ok a

theorem Sinking.delete (he : Sinking t J a least most e) (hcan : e.canDelete = true) :
    Sinking t J a least most e.delete := by
  obtain ⟨hdeleting, -, -⟩ := of_canDelete hcan
  have hstays : e.delete.deleting = true := hdeleting
  refine ⟨he.toSized.delete hcan, fun _ i slot hi hslot => ?_, fun hended => ?_, fun hended => ?_⟩
  · have hmodify : (e.slots.modify e.cursor fun slot => { slot with kept := false })[i]? = some slot := hslot
    rcases Nat.lt_or_eq_of_le (Nat.le_of_lt_succ hi) with hbefore | rfl
    · rw [List.getElem?_modify_ne _ _ (Nat.ne_of_gt hbefore)] at hmodify
      exact he.deleted hdeleting i slot hbefore hmodify
    · rw [List.getElem?_modify_eq, Option.map_eq_map, Option.map_eq_some_iff] at hmodify
      obtain ⟨_, -, rfl⟩ := hmodify
      rfl
  · rw [hstays] at hended
    cases hended
  · rw [hstays] at hended
    cases hended

theorem Sinking.count_least (he : Sinking t J a least most e) (hcan : ¬e.canDelete = true)
    (hdeleting : e.deleting = true) : e.flags.count true = least := by
  have hkept := he.kept
  by_cases hcursor : e.cursor < e.slots.length
  · simp only [canDelete, hdeleting, hcursor, decide_true, Bool.true_and, decide_eq_true_eq] at hcan
    rw [he.minSize, kept_length] at hcan
    omega
  · have hnone : e.flags.count true = 0 := by
      rw [List.count_eq_zero, flags, List.mem_map]
      rintro ⟨slot, hslot, hflag⟩
      obtain ⟨i, hi⟩ := List.mem_iff_getElem?.1 hslot
      have hbound := (List.getElem?_eq_some_iff.1 hi).1
      rw [he.deleted hdeleting i slot (by omega) hi] at hflag
      cases hflag
    omega

theorem Sinking.endDeleting (he : Sinking t J a least most e) (hcan : ¬e.canDelete = true) :
    Sinking t J a least most e.endDeleting ∧ e.endDeleting.deleting = false := by
  have hsized := he.toSized.endDeleting
  by_cases hdeleting : e.deleting = true
  · have hended : e.endDeleting = { e with deleting := false, cursor := 0 } := if_pos hdeleting
    rw [hended] at hsized ⊢
    have hcount := he.count_least hcan hdeleting
    exact ⟨⟨hsized, nofun, fun _ => hcount, fun _ _ _ hi => absurd hi (Nat.not_lt_zero _)⟩, rfl⟩
  · have hended : e.endDeleting = e := if_neg hdeleting
    rw [hended]
    exact ⟨he, Bool.eq_false_iff.2 hdeleting⟩

theorem Sinking.current (he : Sinking t J a least most e) (hdeleting : e.deleting = false)
    (hend : e.slots.length ≤ e.cursor) : (tree t).current e = .ok (List.replicate least a) := by
  have hcurrent : (tree t).current e = Row.all (e.kept.map t.current) := (Row.all_shown t e.kept).symm
  rw [hcurrent, Row.all_eq_ok, List.map_replicate, List.eq_replicate_iff]
  refine ⟨?_, fun x hx => ?_⟩
  · rw [List.length_map, kept_length, he.fewest hdeleting]
  · obtain ⟨s, hs, rfl⟩ := List.mem_map.1 hx
    obtain ⟨slot, hslot, rfl⟩ := List.mem_map.1 hs
    obtain ⟨hslot, hflag⟩ := List.mem_filter.1 hslot
    obtain ⟨i, hi⟩ := List.mem_iff_getElem?.1 hslot
    have hbound := (List.getElem?_eq_some_iff.1 hi).1
    exact he.shown hdeleting i slot (by omega) hi hflag

theorem Sinking.setTree (he : Sinking t J a least most e) (hdeleting : e.deleting = false) {slot : Slot τ}
    (hslot : e.slots[e.cursor]? = some slot) {s : τ} (hs : J s) (undo : Option Undo) :
    Sinking t J a least most { e.setTree e.cursor slot s with undo := undo } := by
  have hset := he.toSized.setTree hslot hs
  refine ⟨⟨hset.each, hset.minSize, hset.slots, hset.kept⟩, fun h => ?_, fun _ => ?_,
    fun _ i slot' hi hslot' => ?_⟩
  · cases hdeleting.symm.trans h
  · exact (congrArg (List.count true) (flags_setTree hslot s)).trans (he.fewest hdeleting)
  · have hbefore : i < e.cursor := hi
    have hset' : (e.slots.set e.cursor { slot with tree := s })[i]? = some slot' := hslot'
    rw [List.getElem?_set_ne (Nat.ne_of_gt hbefore)] at hset'
    exact he.shown hdeleting i slot' hi hset'

theorem Sinking.next (he : Sinking t J a least most e) (hdeleting : e.deleting = false)
    (hshown : ∀ slot, e.slots[e.cursor]? = some slot → slot.kept = true → t.current slot.tree = .ok a) :
    Sinking t J a least most { e with cursor := e.cursor + 1 } := by
  refine ⟨⟨he.each, he.minSize, he.slots, he.kept⟩, fun h => ?_, he.fewest, fun _ i slot hi hslot hflag => ?_⟩
  · cases hdeleting.symm.trans h
  · rcases Nat.lt_or_eq_of_le (Nat.le_of_lt_succ hi) with hbefore | rfl
    · exact he.shown hdeleting i slot hbefore hslot hflag
    · exact hshown slot hslot hflag

theorem tree_sinks (ht : t.Sinks a J) (least most : Nat) :
    (tree t).Sinks (List.replicate least a) (Sinking t J a least most) := by
  intro e he
  show (simplify t).Yields e _ _
  by_cases hcan : e.canDelete = true
  · rw [yields_delete hcan]
    exact ⟨he.delete hcan, nofun⟩
  rw [yields_simplify hcan]
  obtain ⟨hended, hdeleting⟩ := he.endDeleting hcan
  refine simplifyFrom_loop
    (K := fun left e => (Sinking t J a least most e ∧ e.deleting = false) ∧ e.slots.length ≤ e.cursor + left)
    (fun e h => ⟨h.1.1, fun _ => h.1.1.current h.1.2 h.2⟩) (fun left e h hskip => ?_)
    (fun left e slot h hslot hflag => ?_) ⟨⟨hended, hdeleting⟩, by omega⟩
  · obtain ⟨⟨he, hdeleting⟩, hleft⟩ := h
    refine ⟨⟨he.next hdeleting fun slot hslot hflag => absurd hflag (hskip slot hslot), hdeleting⟩, ?_⟩
    dsimp only
    omega
  · obtain ⟨⟨he, hdeleting⟩, hleft⟩ := h
    have hs := he.each _ (List.mem_of_getElem? (tree_of_slot hslot))
    refine (ht slot.tree hs).mono (fun moved s' h => ?_) fun _ _ h => h
    cases moved with
    | true => exact ⟨he.setTree hdeleting hslot h.1 _, nofun⟩
    | false =>
      have hset := he.setTree hdeleting hslot h.1 e.undo
      have hlength : (e.setTree e.cursor slot s').slots.length = e.slots.length := List.length_set ..
      refine ⟨⟨hset.next hdeleting fun slot' hslot' _ => ?_, hdeleting⟩, ?_⟩
      · have hset' : (e.slots.set e.cursor { slot with tree := s' })[e.cursor]? = some slot' := hslot'
        rw [List.getElem?_set_self (List.getElem?_eq_some_iff.1 hslot).1] at hset'
        cases hset'
        exact h.2 rfl
      · dsimp only
        omega

theorem start_sinking {trees : List τ} (htrees : ∀ s ∈ trees, J s)
    (hlength : least ≤ trees.length ∧ trees.length ≤ most) : Sinking t J a least most (start trees least) :=
  ⟨start_sized htrees hlength, fun _ _ _ hi => absurd hi (Nat.not_lt_zero _), nofun, nofun⟩

end Elements

namespace Pick
variable {τ α : Type} {t : ValueTree τ α} {redraw : Redraw τ} {J : Nat → τ → Prop} {total : Nat} {p : Pick τ}

structure Sinking (J : Nat → τ → Prop) (total : Nat) (p : Pick τ) : Prop where
  floor : p.floor = 0
  index : p.index < total
  here : ∃ s, p.here = .ok s ∧ J p.index s

theorem stepDown_sinks (hredraw : ∀ seed i, i < total → ∃ s, (redraw seed i).1 = .ok s ∧ J i s)
    (hp : Sinking J total p) : (stepDown redraw).Yields p
      (fun moved p' => Sinking J total p' ∧ (moved = false → p' = p ∧ p.index = 0)) fun _ _ => False := by
  have hindex := hp.index
  have hfloor := hp.floor
  rw [yields_stepDown]
  split
  · exact ⟨hp, fun _ => ⟨rfl, by omega⟩⟩
  · have hbefore : p.index - 1 < total := by omega
    exact ⟨⟨hfloor, hbefore, hredraw p.seed (p.index - 1) hbefore⟩, nofun⟩

theorem tree_sinks {as : List α} {a : α} (ha : as[0]? = some a) (ht : ∀ i b, as[i]? = some b → t.Sinks b (J i))
    (hredraw : ∀ seed i, i < as.length → ∃ s, (redraw seed i).1 = .ok s ∧ J i s) :
    (tree t redraw).Sinks a (Sinking J as.length) := by
  intro p hp
  obtain ⟨s, hhere, hs⟩ := hp.here
  obtain ⟨b, hb⟩ : ∃ b, as[p.index]? = some b := ⟨_, List.getElem?_eq_getElem hp.index⟩
  rw [yields_simplify hhere]
  refine (ht _ _ hb s hs).mono (fun moved s' h => ?_) fun _ _ h => h
  have hheld : Sinking J as.length { p with here := .ok s' } := ⟨hp.floor, hp.index, s', rfl, h.1⟩
  cases moved with
  | true => exact ⟨⟨hp.floor, hp.index, s', rfl, h.1⟩, nofun⟩
  | false =>
    rw [if_neg Bool.false_ne_true]
    refine (stepDown_sinks hredraw hheld).mono (fun moved p' h' => ⟨h'.1, fun hmoved => ?_⟩) fun _ _ h => h
    obtain ⟨rfl, hfirst⟩ := h'.2 hmoved
    have hzero : p.index = 0 := hfirst
    rw [hzero, ha] at hb
    rw [current_of_here rfl, h.2 rfl, Option.some.inj hb]

theorem not_bottoms {e : Fault} (he : p.here = .error e) (a : α) : ¬(tree t redraw).Bottoms a p := by
  have hraises : (tree t redraw).simplify.Yields p (fun _ _ => False) fun _ _ => True :=
    simplify_cases (fun _ _ => trivial) fun s hs => by
      rw [he] at hs
      cases hs
  intro hbottoms
  cases hbottoms with
  | rest hanswer => exact hraises.of_ok hanswer
  | step hanswer => exact hraises.of_ok hanswer

end Pick
end StateCheck
