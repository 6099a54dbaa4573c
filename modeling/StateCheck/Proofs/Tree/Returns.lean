import StateCheck.Proofs.Tree.Keeps

/-! Backing off after a move leads back to the value before it. Whether it also stops there depends on what the parts
of a tree remember: an undo record that outlived its move makes complicating go on to a value from before. -/

namespace StateCheck

namespace ValueTree
variable {σ α β : Type} {t : ValueTree σ α} {C D : Prop} {I : σ → Prop} {goal goal' : σ → Prop} {s s₀ : σ}

inductive Reaches (t : ValueTree σ α) (goal : σ → Prop) : σ → Prop
  | here {s : σ} (h : goal s) : Reaches t goal s
  | back {s : σ} (hmoved : (t.complicate s).answer = .ok true) (hrest : Reaches t goal (t.complicate s).state) :
      Reaches t goal s

theorem Reaches.of_yields (h : t.complicate.Yields s (fun moved s' => moved = true ∧ t.Reaches goal s') fun _ _ => False) :
    t.Reaches goal s := by
  obtain ⟨moved, hanswer, rfl, hrest⟩ := h.answers
  exact .back hanswer hrest

theorem Reaches.mono (h : t.Reaches goal s) (hgoal : ∀ s, goal s → goal' s) : t.Reaches goal' s := by
  induction h with
  | here h => exact .here (hgoal _ h)
  | back hmoved _ ih => exact .back hmoved ih

def Ended (t : ValueTree σ α) (s : σ) : Prop :=
  t.complicate.Yields s (fun moved s' => moved = false ∧ t.current s' = t.current s) fun _ _ => False

def Home (t : ValueTree σ α) (C : Prop) (s₀ s : σ) : Prop := t.current s = t.current s₀ ∧ (C → t.Ended s)

/-- States of the kind `I` are left by moves that can be undone. Where simplifying fails, nothing is left to be undone
if `D` asks for that. -/
structure Returns (t : ValueTree σ α) (C D : Prop) (I : σ → Prop) : Prop where
  simplify : ∀ s, I s → t.simplify.Yields s
    (fun moved s' => I s' ∧ if moved then t.Reaches (t.Home C s) s' else t.Home D s s') fun _ _ => True
  complicate : ∀ s, I s → t.complicate.Yields s (fun _ s' => I s') fun _ _ => True

theorem Returns.mono (ht : t.Returns C D I) {D' : Prop} (hD : D' → D) : t.Returns C D' I where
  simplify s hs := (ht.simplify s hs).mono (fun moved s' h => by
    cases moved with
    | true => exact h
    | false => exact ⟨h.1, h.2.1, fun hD' => h.2.2 (hD hD')⟩) fun _ _ h => h
  complicate := ht.complicate

theorem Returns.perform (ht : t.Returns C D I) (hs : I s) (call : Call) :
    (call.perform t).Yields s (fun _ s' => I s') fun _ _ => True := by
  cases call with
  | simplify => exact (ht.simplify s hs).mono (fun _ _ h => h.1) fun _ _ h => h
  | complicate => exact ht.complicate s hs

theorem Returns.tries (ht : t.Returns C D I) :
    t.Tries I (fun s s' => I s' ∧ t.Reaches (t.Home C s) s') fun s' => D → t.Ended s' := by
  intro s hs
  refine (ht.simplify s hs).mono (fun moved s' h => ?_) fun _ _ h => h
  cases moved with
  | true => exact h
  | false => exact ⟨h.1, h.2.1, h.2.2⟩

theorem fixed_returns (a : α) (C D : Prop) : (fixed a).Returns C D fun _ => True where
  simplify _ _ := ⟨trivial, rfl, fun _ => ⟨rfl, rfl⟩⟩
  complicate _ _ := trivial

section map
variable {f : α → Except Fault β}

theorem Home.map (h : t.Home C s₀ s) : (t.map f).Home C s₀ s :=
  ⟨congrArg (· >>= f) h.1, fun hC => (h.2 hC).mono (fun _ _ h => ⟨h.1, congrArg (· >>= f) h.2⟩) fun _ _ h => h⟩

theorem Reaches.map (h : t.Reaches goal s) : (t.map f).Reaches goal s := by
  induction h with
  | here h => exact .here h
  | back hmoved _ ih => exact .back hmoved ih

theorem Returns.map (ht : t.Returns C D I) (f : α → Except Fault β) : (t.map f).Returns C D I where
  simplify s hs := (ht.simplify s hs).mono (fun moved s' h => by
    cases moved with
    | true => exact ⟨h.1, Reaches.map (Reaches.mono h.2 fun _ => Home.map)⟩
    | false => exact ⟨h.1, Home.map h.2⟩) fun _ _ h => h
  complicate := ht.complicate

end map

section tagged
variable {κ : Type} {State : κ → Type} {trees : (k : κ) → ValueTree (State k) α} {J : (k : κ) → State k → Prop}

theorem Reaches.tagged {k : κ} {goal : State k → Prop} {goal' : (k : κ) × State k → Prop} {s : State k}
    (h : (trees k).Reaches goal s) (hgoal : ∀ s, goal s → goal' ⟨k, s⟩) : (ValueTree.tagged trees).Reaches goal' ⟨k, s⟩ := by
  induction h with
  | here h => exact .here (hgoal _ h)
  | back hmoved _ ih => exact .back (t := ValueTree.tagged trees) hmoved ih

theorem Home.tagged {k : κ} {s₀ s : State k} (h : (trees k).Home C s₀ s) :
    (ValueTree.tagged trees).Home C ⟨k, s₀⟩ ⟨k, s⟩ := h

theorem Returns.simplify_tagged {k : κ} {J : State k → Prop} (h : (trees k).Returns C D J) {s : State k} (hs : J s) :
    (ValueTree.tagged trees).simplify.Yields ⟨k, s⟩ (fun moved p => (∃ s', p = ⟨k, s'⟩ ∧ J s') ∧
      if moved then (ValueTree.tagged trees).Reaches ((ValueTree.tagged trees).Home C ⟨k, s⟩) p
      else (ValueTree.tagged trees).Home D ⟨k, s⟩ p) fun _ _ => True := by
  rw [yields_tagged_simplify]
  refine (h.simplify s hs).mono (fun moved s' h => ?_) fun _ _ h => h
  cases moved with
  | true => exact ⟨⟨s', rfl, h.1⟩, Reaches.tagged h.2 fun _ => Home.tagged⟩
  | false => exact ⟨⟨s', rfl, h.1⟩, Home.tagged h.2⟩

theorem Returns.tagged (h : ∀ k, (trees k).Returns C D (J k)) :
    (ValueTree.tagged trees).Returns C D fun p => J p.1 p.2 where
  simplify p hp := ((h p.1).simplify_tagged hp).mono (fun _ _ h => by
    obtain ⟨⟨s', rfl, hs'⟩, hends⟩ := h
    exact ⟨hs', hends⟩) fun _ _ h => h
  complicate p hp := (h p.1).complicate p.2 hp

theorem Returns.taggedAt {n : Nat} {State : Fin n → Type} {trees : (k : Fin n) → ValueTree (State k) α}
    {J : (k : Fin n) → State k → Prop} {D : Nat → Prop} (h : ∀ k, (trees k).Returns C (D k) (J k)) (i : Nat) :
    (ValueTree.tagged trees).Returns C (D i) fun p => (p.1 : Nat) = i ∧ J p.1 p.2 where
  simplify p hp := by
    obtain ⟨rfl, hs⟩ := hp
    refine ((h p.1).simplify_tagged hs).mono (fun _ _ h => ?_) fun _ _ h => h
    obtain ⟨⟨s', rfl, hs'⟩, hends⟩ := h
    exact ⟨⟨rfl, hs'⟩, hends⟩
  complicate := by
    rintro ⟨k, s⟩ hs
    rw [yields_tagged_complicate]
    exact ((h k).complicate s hs.2).mono (fun _ _ h => ⟨hs.1, h⟩) fun _ _ h => h

end tagged
end ValueTree

namespace Search
variable {C D : Prop} {s : Search}

theorem ended_of_closed (h : s.hi ≤ s.lo) : tree.Ended s := by
  show (Act.ofMove complicate).Yields s _ _
  rw [Act.yields_ofMove, complicate_of_closed h]
  exact ⟨rfl, rfl⟩

theorem reaches_farthest {s₀ : Search} (hvalue : s.valueAt s.hi = s₀.value) (hlo : s.lo ≤ s.distance)
    (hhi : s.distance ≤ s.hi) (hclosed : s.distance = s.hi → s.hi ≤ s.lo) : tree.Reaches (tree.Home C s₀) s := by
  generalize hwidth : s.hi - s.lo = width
  induction width using Nat.strongRecOn generalizing s with
  | ind width ih =>
    rcases Nat.lt_or_eq_of_le hhi with hlt | heq
    · refine .of_yields ?_
      show (Act.ofMove complicate).Yields s _ _
      rw [Act.yields_ofMove, complicate_of_lt hlo hlt]
      have hless : s.hi - (s.distance + 1) < width := by omega
      refine ⟨rfl, ih _ hless hvalue ?_ ?_ ?_ rfl⟩
      all_goals
        dsimp only
        omega
    · refine .here ⟨congrArg Except.ok ?_, fun _ => ended_of_closed (hclosed heq)⟩
      show s.valueAt s.distance = s₀.value
      rw [heq, hvalue]

theorem tree_returns (C D : Prop) : tree.Returns C D Ranged where
  simplify s hs := by
    show (Act.ofMove simplify).Yields s _ _
    have hranged := (simplify_falls hs).1
    rw [Act.yields_ofMove]
    refine ⟨hranged, ?_⟩
    rcases simplify_cases hs with ⟨hlo, hhi, h⟩ | ⟨hi, hclosed, -, h⟩
    · rw [h]
      refine reaches_farthest rfl ?_ ?_ ?_
      all_goals
        dsimp only
        omega
    · rw [h]
      exact ⟨rfl, fun _ => ended_of_closed hclosed⟩
  complicate s hs := (complicate_falls hs).1

end Search

namespace Fields
variable {τ α : Type} {t : ValueTree τ α} {C D : Prop} {I : τ → Prop} {goal : τ → Prop} {f f' : Fields τ} {i : Nat}
  {s : τ}

structure Tidy (t : ValueTree τ α) (D : Prop) (I : τ → Prop) (f : Fields τ) : Prop where
  each : Row.Each (fun _ => I) f.trees
  behind : D → ∀ i s, f.moved = some i → i < f.cursor → f.trees[i]? = some s → t.Ended s

theorem ended_of_none (hmoved : f.moved = none) : (tree t).Ended f :=
  complicate_cases (fun _ => ⟨rfl, rfl⟩) (fun _ _ _ => ⟨rfl, rfl⟩)
    fun _ _ hlast _ => absurd (hlast.symm.trans hmoved) nofun

theorem ended_of_moved (hmoved : f.moved = some i) (hended : ∀ s, f.trees[i]? = some s → t.Ended s) :
    (tree t).Ended f := by
  refine complicate_cases (fun _ => ⟨rfl, rfl⟩) (fun _ _ _ => ⟨rfl, rfl⟩) fun j s hlast hs => ?_
  obtain rfl : i = j := Option.some.inj (hmoved.symm.trans hlast)
  refine (hended s hs).mono (fun moved s' h => ?_) fun _ _ h => h
  obtain ⟨rfl, hsame⟩ := h
  refine ⟨rfl, ?_⟩
  rw [if_neg Bool.false_ne_true, current_tree, current_tree, Row.shown_set hs hsame]

theorem reaches_moved (h : t.Reaches goal s) (hmoved : f.moved = some i) (hs : f.trees[i]? = some s) :
    (tree t).Reaches (fun f' => ∃ s', goal s' ∧ f'.trees = f.trees.set i s' ∧ f'.moved = some i) f := by
  induction h generalizing f with
  | @here s h =>
    refine .here ⟨s, h, ?_, hmoved⟩
    obtain ⟨hi, rfl⟩ := List.getElem?_eq_some_iff.1 hs
    exact (List.set_getElem_self hi).symm
  | @back s hanswer _ ih =>
    refine .of_yields ?_
    show (complicate t).Yields f _ _
    rw [yields_complicate hmoved hs, Act.yields_of_answer hanswer, if_pos rfl]
    have hi := (List.getElem?_eq_some_iff.1 hs).1
    refine ⟨rfl, (ih (f := { f with trees := f.trees.set i (t.complicate s).state, cursor := i }) hmoved
      (List.getElem?_set_self hi)).mono fun f' h => ?_⟩
    obtain ⟨s', hgoal, htrees, hmoved'⟩ := h
    exact ⟨s', hgoal, htrees.trans (List.set_set ..), hmoved'⟩

theorem Tidy.passed (hf : Tidy t D I f) (h : Passed t (fun _ => I) (fun s => D → t.Ended s) f f') : Tidy t D I f' := by
  refine ⟨h.each, fun hD i s hmoved hlt hs => ?_⟩
  rw [h.moved] at hmoved
  by_cases hi : i < f.cursor
  · rw [h.before i hi] at hs
    exact hf.behind hD i s hmoved hi hs
  · exact h.failed i s (Nat.not_lt.1 hi) hlt hs hD

theorem tree_returns (ht : t.Returns C D I) : (tree t).Returns C D (Tidy t D I) where
  simplify f hf := by
    refine (simplify_tries (fun _ => ht.tries) hf.each).mono (fun moved f'' h => ?_) fun _ _ h => h
    obtain ⟨f', hpassed, hmoved⟩ := h
    have hf' := hf.passed hpassed
    cases moved with
    | true =>
      obtain ⟨s, s', hs, ⟨hs', hreaches⟩, rfl⟩ := hmoved
      refine ⟨⟨hf'.each.set hs', fun _ i _ hi hlt => ?_⟩, ?_⟩
      · cases hi
        exact absurd hlt (Nat.lt_irrefl _)
      · have hi := (List.getElem?_eq_some_iff.1 hs).1
        refine (reaches_moved hreaches rfl (List.getElem?_set_self hi)).mono fun f₃ h => ?_
        obtain ⟨s'', hhome, htrees, hmoved⟩ := h
        rw [List.set_set] at htrees
        refine ⟨?_, fun hC => ended_of_moved hmoved fun u hu => ?_⟩
        · rw [← hpassed.current, current_tree, current_tree, htrees, Row.shown_set hs hhome.1]
        · rw [htrees, List.getElem?_set_self hi] at hu
          cases hu
          exact hhome.2 hC
    | false =>
      obtain ⟨hend, rfl⟩ := hmoved
      refine ⟨hf', hpassed.current, fun hD => ?_⟩
      cases hlast : f''.moved with
      | none => exact ended_of_none hlast
      | some i =>
        refine ended_of_moved hlast fun s hs => hf'.behind hD i s hlast ?_ hs
        exact Nat.lt_of_lt_of_le (List.getElem?_eq_some_iff.1 hs).1 hend
  complicate f hf := by
    refine complicate_cases (fun _ => hf) (fun _ _ _ => ⟨hf.each, fun _ _ _ h => absurd h nofun⟩)
      fun i s hmoved hs => ?_
    refine (ht.complicate s (hf.each i s hs)).mono (fun moved s' h => ?_) fun _ _ h => h
    cases moved with
    | true =>
      refine ⟨hf.each.set h, fun _ j _ hj hlt => ?_⟩
      obtain rfl : i = j := Option.some.inj (hmoved.symm.trans hj)
      exact absurd hlt (Nat.lt_irrefl _)
    | false => exact ⟨hf.each.set h, fun _ _ _ h => absurd h nofun⟩

end Fields

namespace Elements
variable {τ α : Type} {t : ValueTree τ α} {C D : Prop} {I : τ → Prop} {goal : τ → Prop} {e e' : Elements τ} {i : Nat}
  {slot : Slot τ}

structure Tidy (t : ValueTree τ α) (D : Prop) (I : τ → Prop) (e : Elements τ) : Prop where
  each : ∀ s ∈ e.trees, I s
  ahead : e.Ahead
  retried : ∀ i, e.undo = some (.retry i) → e.deleting = false ∧ e.flags[i]? = some true
  behind : D → ∀ i slot, e.undo = some (.retry i) → i < e.cursor → e.slots[i]? = some slot → t.Ended slot.tree
  whole : D → e.slots.length ≤ e.minSize ∧ ∀ i, e.undo ≠ some (.restore i)

theorem ended_of_none (hundo : e.undo = none) : (tree t).Ended e :=
  complicate_cases (fun _ => ⟨rfl, rfl⟩) (fun _ hlast => absurd (hlast.symm.trans hundo) nofun)
    (fun _ _ _ => ⟨rfl, rfl⟩) fun _ _ hlast _ => absurd (hlast.symm.trans hundo) nofun

theorem ended_of_retry (hundo : e.undo = some (.retry i)) (hended : ∀ slot, e.slots[i]? = some slot → t.Ended slot.tree) :
    (tree t).Ended e := by
  refine complicate_cases (fun _ => ⟨rfl, rfl⟩) (fun _ hlast => absurd (hlast.symm.trans hundo) nofun)
    (fun _ _ _ => ⟨rfl, rfl⟩) fun j slot hlast hslot => ?_
  obtain rfl : i = j := Undo.retry.inj (Option.some.inj (hundo.symm.trans hlast))
  refine (hended slot hslot).mono (fun moved s' h => ?_) fun _ _ h => h
  obtain ⟨rfl, hsame⟩ := h
  exact ⟨rfl, current_setTree hslot hsame⟩

theorem reaches_retried {s : τ} (h : t.Reaches goal s) (hundo : e.undo = some (.retry i))
    (hslot : e.slots[i]? = some slot) (hs : slot.tree = s) : (tree t).Reaches
      (fun e' => ∃ s', goal s' ∧ e'.slots = (e.setTree i slot s').slots ∧ e'.undo = some (.retry i)) e := by
  induction h generalizing e slot with
  | @here s h =>
    subst hs
    refine .here ⟨slot.tree, h, ?_, hundo⟩
    obtain ⟨hi, rfl⟩ := List.getElem?_eq_some_iff.1 hslot
    exact (List.set_getElem_self hi).symm
  | @back s hanswer _ ih =>
    subst hs
    refine .of_yields ?_
    show (complicate t).Yields e _ _
    rw [yields_retry hundo hslot, Act.yields_of_answer hanswer, if_pos rfl]
    have hi := (List.getElem?_eq_some_iff.1 hslot).1
    refine ⟨rfl, (ih (e := { e.setTree i slot (t.complicate slot.tree).state with cursor := i }) hundo
      (List.getElem?_set_self hi) rfl).mono fun e' h => ?_⟩
    obtain ⟨s', hgoal, hslots, hundo'⟩ := h
    exact ⟨s', hgoal, hslots.trans (List.set_set ..), hundo'⟩

theorem current_of_slots (h : e'.slots = e.slots) : (tree t).current e' = (tree t).current e := by
  rw [current_tree, current_tree, flags, flags, trees, trees, h]

theorem Tidy.passed (he : Tidy t D I e) (hdeleting : e.deleting = false)
    (h : Passed t I (fun s => D → t.Ended s) e e') : Tidy t D I e' where
  each := h.each
  ahead hdeleting' := absurd (hdeleting'.symm.trans (h.deleting.trans hdeleting)) nofun
  retried i hundo := by
    rw [h.deleting, h.flags]
    exact he.retried i (h.undo.symm.trans hundo)
  behind hD i slot hundo hlt hslot := by
    rw [h.undo] at hundo
    by_cases hi : i < e.cursor
    · rw [h.before i hi] at hslot
      exact he.behind hD i slot hundo hi hslot
    · have hflag := (he.retried i hundo).2
      rw [← h.flags, flag_of_slot hslot] at hflag
      exact h.failed i slot (Nat.not_lt.1 hi) hlt hslot (Option.some.inj hflag) hD
  whole hD := by
    rw [h.length, h.minSize, h.undo]
    exact he.whole hD

theorem Tidy.endDeleting (he : Tidy t D I e) : Tidy t D I e.endDeleting ∧ e.endDeleting.deleting = false := by
  unfold Elements.endDeleting
  cases hdeleting : e.deleting with
  | false => exact ⟨he, hdeleting⟩
  | true =>
    refine ⟨⟨he.each, nofun, fun i hundo => ⟨rfl, (he.retried i hundo).2⟩, fun _ i _ _ hlt => ?_, he.whole⟩, rfl⟩
    exact absurd hlt (Nat.not_lt_zero i)

theorem delete_returns (he : Tidy t D I e) (hcan : e.canDelete = true) :
    Tidy t D I e.delete ∧ (tree t).Reaches ((tree t).Home C e) e.delete := by
  obtain ⟨hdeleting, -, hmore⟩ := of_canDelete hcan
  have htrees : e.delete.trees = e.trees := trees_setKept e.cursor false e
  refine ⟨⟨htrees ▸ he.each, he.ahead.delete hdeleting, nofun, nofun, fun hD => ?_⟩, .of_yields ?_⟩
  · have hkept : e.kept.length ≤ e.slots.length := (List.length_map ..).trans_le (List.length_filter_le ..)
    have hwhole := (he.whole hD).1
    omega
  · show (complicate t).Yields e.delete _ _
    rw [yields_restore rfl]
    refine ⟨rfl, .here ⟨?_, fun _ => ended_of_none rfl⟩⟩
    have hrestored : ({ e.delete.setKept e.cursor true with undo := none } : Elements τ).flags = e.flags :=
      (flags_setKept e.cursor true e.delete).trans (he.ahead.flags_delete hcan)
    have hsame : ({ e.delete.setKept e.cursor true with undo := none } : Elements τ).trees = e.trees :=
      (trees_setKept e.cursor true e.delete).trans htrees
    rw [current_tree, current_tree, hrestored, hsame]

theorem Tidy.restore (he : Tidy t D I e) (hundo : e.undo = some (.restore i)) :
    Tidy t D I { e.setKept i true with undo := none } := by
  have htrees : (e.setKept i true).trees = e.trees := trees_setKept i true e
  refine ⟨htrees ▸ he.each, he.ahead.restore i, nofun, nofun, fun hD => ?_⟩
  exact absurd hundo ((he.whole hD).2 i)

theorem Tidy.forget (he : Tidy t D I e) : Tidy t D I { e with undo := none } :=
  ⟨he.each, he.ahead, nofun, nofun, fun hD => ⟨(he.whole hD).1, nofun⟩⟩

theorem Tidy.moved (he : Tidy t D I e) (hdeleting : e.deleting = false) (hslot : e.slots[i]? = some slot)
    (hkept : slot.kept = true) {s' : τ} (hs' : I s') {undo : Option Undo} (hundo : undo = some (.retry i)) :
    Tidy t D I { e.setTree i slot s' with cursor := i, undo := undo } where
  each := each_setTree he.each hs' i
  ahead hdeleting' := absurd (hdeleting'.symm.trans hdeleting) nofun
  retried j hj := by
    obtain rfl : i = j := Undo.retry.inj (Option.some.inj (hundo.symm.trans hj))
    refine ⟨hdeleting, ?_⟩
    have hflag := flag_of_slot hslot
    rw [hkept, ← flags_setTree hslot s'] at hflag
    exact hflag
  behind _ j _ hj hlt := by
    obtain rfl : i = j := Undo.retry.inj (Option.some.inj (hundo.symm.trans hj))
    exact absurd hlt (Nat.lt_irrefl _)
  whole hD := by
    refine ⟨(List.length_set ..).trans_le (he.whole hD).1, fun j hj => ?_⟩
    rw [hundo] at hj
    cases hj

theorem tree_returns (ht : t.Returns C D I) : (tree t).Returns C D (Tidy t D I) where
  simplify e he := by
    by_cases hcan : e.canDelete = true
    · show (simplify t).Yields e _ _
      rw [yields_delete hcan]
      exact delete_returns he hcan
    · obtain ⟨hended, hdeleting⟩ := he.endDeleting
      refine (simplify_tries ht.tries he.each hcan).mono (fun moved e'' h => ?_) fun _ _ h => h
      obtain ⟨e', hpassed, hmoved⟩ := h
      have he' := hended.passed hdeleting hpassed
      have hcurrent := hpassed.current.trans (current_endDeleting t e)
      cases moved with
      | true =>
        obtain ⟨slot, s', hslot, hkept, ⟨hs', hreaches⟩, rfl⟩ := hmoved
        have hi := (List.getElem?_eq_some_iff.1 hslot).1
        refine ⟨he'.moved (hpassed.deleting.trans hdeleting) hslot hkept hs' rfl, ?_⟩
        refine (reaches_retried (e := { e'.setTree e'.cursor slot s' with undo := some (.retry e'.cursor) })
          hreaches rfl (List.getElem?_set_self hi) rfl).mono fun e₃ h => ?_
        obtain ⟨s'', hhome, hslots, hundo⟩ := h
        replace hslots : e₃.slots = (e'.setTree e'.cursor slot s'').slots := hslots.trans (List.set_set ..)
        refine ⟨(current_of_slots hslots).trans ((current_setTree hslot hhome.1).trans hcurrent), fun hC => ?_⟩
        refine ended_of_retry hundo fun slot' hslot' => ?_
        have hself : (e'.setTree e'.cursor slot s'').slots[e'.cursor]? = some { slot with tree := s'' } :=
          List.getElem?_set_self hi
        rw [hslots, hself] at hslot'
        cases hslot'
        exact hhome.2 hC
      | false =>
        obtain ⟨hend, rfl⟩ := hmoved
        refine ⟨he', hcurrent, fun hD => ?_⟩
        cases hundo : e''.undo with
        | none => exact ended_of_none hundo
        | some undo =>
          cases undo with
          | restore i => exact absurd hundo ((he'.whole hD).2 i)
          | retry i =>
            refine ended_of_retry hundo fun slot hslot => he'.behind hD i slot hundo ?_ hslot
            exact Nat.lt_of_lt_of_le (List.getElem?_eq_some_iff.1 hslot).1 hend
  complicate e he := by
    refine complicate_cases (fun _ => he) (fun i hundo => he.restore hundo) (fun _ _ _ => he.forget)
      fun i slot hundo hslot => ?_
    obtain ⟨hdeleting, hflag⟩ := he.retried i hundo
    have hkept : slot.kept = true := Option.some.inj ((flag_of_slot hslot).symm.trans hflag)
    have hs := he.each _ (List.mem_of_getElem? (tree_of_slot hslot))
    refine (ht.complicate slot.tree hs).mono (fun moved s' h => ?_) fun _ _ h => h
    have hmoved := he.moved hdeleting hslot hkept h hundo
    cases moved with
    | true => exact hmoved
    | false =>
      have hforgot := hmoved.forget
      exact ⟨hforgot.each, fun h => absurd (h.symm.trans hdeleting) nofun, nofun, nofun, hforgot.whole⟩

end Elements

namespace Pick
variable {τ α : Type} {t : ValueTree τ α} {redraw : Redraw τ} {C : Prop} {I : Nat → τ → Prop} {goal : τ → Prop}
  {p : Pick τ} {s : τ}

structure Numbered (I : Nat → τ → Prop) (p : Pick τ) : Prop where
  here : ∀ s, p.here = .ok s → I p.index s
  undo : ∀ s, p.undo = some s → I (p.index + 1) s

theorem numbered_held (hs : I p.index s) {undo : Option τ}
    (hundo : ∀ s, undo = some s → I (p.index + 1) s) : Numbered I { p with here := .ok s, undo := undo } := by
  refine ⟨?_, hundo⟩
  rintro s' ⟨⟩
  exact hs

theorem ended_of_here (hs : p.here = .ok s) (hundo : p.undo = none) (h : t.Ended s) : (tree t redraw).Ended p := by
  show (complicate t).Yields p _ _
  rw [yields_complicate hundo, yields_onHere hs]
  refine h.mono (fun moved s' h => ⟨h.1, ?_⟩) fun _ _ h => h
  exact (current_of_here rfl).trans (h.2.trans (current_of_here hs).symm)

theorem reaches_here (h : t.Reaches goal s) (hs : p.here = .ok s) (hundo : p.undo = none) :
    (tree t redraw).Reaches (fun p' => ∃ s', goal s' ∧ p'.here = .ok s' ∧ p'.undo = none) p := by
  induction h generalizing p with
  | @here s h => exact .here ⟨s, h, hs, hundo⟩
  | @back s hanswer _ ih =>
    refine .of_yields ?_
    show (complicate t).Yields p _ _
    rw [yields_complicate hundo, yields_onHere hs, Act.yields_of_answer hanswer]
    exact ⟨rfl, ih rfl hundo⟩

theorem stepDown_returns (hredraw : ∀ seed i s, (redraw seed i).1 = .ok s → I i s) (hp : Numbered I p)
    (hs : p.here = .ok s) (hended : p.index ≠ 0 ∧ C → t.Ended s) :
    (stepDown redraw).Yields p (fun moved p' => Numbered I p' ∧
      if moved then (tree t redraw).Reaches ((tree t redraw).Home C p) p' else p' = p) fun _ _ => True := by
  rw [yields_stepDown]
  split
  · exact ⟨hp, rfl⟩
  · have hback : p.index - 1 + 1 = p.index := by omega
    have hundo : p.here.toOption = some s := by rw [hs, Except.toOption]
    refine ⟨⟨fun s' hs' => hredraw _ _ s' hs', fun s' hs' => ?_⟩, ?_⟩
    · obtain rfl : s = s' := Option.some.inj (hundo.symm.trans hs')
      exact hback ▸ hp.here s hs
    · rw [if_pos rfl]
      refine .of_yields ?_
      show (complicate t).Yields _ _ _
      rw [yields_complicate_of_undo hundo]
      refine ⟨rfl, .here ⟨(current_of_here rfl).trans (current_of_here hs).symm, fun hC => ?_⟩⟩
      exact ended_of_here rfl rfl (hended ⟨by omega, hC⟩)

theorem tree_returns (ht : ∀ i, t.Returns C (i ≠ 0 ∧ C) (I i))
    (hredraw : ∀ seed i s, (redraw seed i).1 = .ok s → I i s) :
    (tree t redraw).Returns C False (Numbered I) where
  simplify p hp := simplify_cases (fun _ _ => trivial) fun s hhere => by
    refine ((ht p.index).simplify s (hp.here s hhere)).mono (fun moved s' h => ?_) fun _ _ h => h
    cases moved with
    | true =>
      refine ⟨numbered_held h.1 nofun, (reaches_here h.2 rfl rfl).mono fun p' h' => ?_⟩
      obtain ⟨u, hhome, hu, hundo⟩ := h'
      refine ⟨(current_of_here hu).trans (hhome.1.trans (current_of_here hhere).symm), fun hC => ?_⟩
      exact ended_of_here hu hundo (hhome.2 hC)
    | false =>
      have hsame : (tree t redraw).current { p with here := .ok s' } = (tree t redraw).current p :=
        (current_of_here rfl).trans (h.2.1.trans (current_of_here hhere).symm)
      rw [if_neg Bool.false_ne_true]
      refine (stepDown_returns hredraw (numbered_held h.1 hp.undo) rfl h.2.2).mono (fun moved p' h' => ⟨h'.1, ?_⟩)
        fun _ _ h => h
      cases moved with
      | true => exact ValueTree.Reaches.mono h'.2 fun _ hhome => ⟨hhome.1.trans hsame, hhome.2⟩
      | false =>
        obtain rfl := h'.2
        exact ⟨hsame, False.elim⟩
  complicate p hp := by
    refine complicate_cases (fun s hundo => ⟨?_, nofun⟩) (fun _ _ => trivial) fun s _ hhere => ?_
    · rintro s' ⟨⟩
      exact hp.undo s hundo
    · exact ((ht p.index).complicate s (hp.here s hhere)).mono (fun _ _ h => numbered_held h hp.undo) fun _ _ h => h

end Pick
end StateCheck
