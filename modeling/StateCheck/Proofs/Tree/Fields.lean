import StateCheck.Tree.Fields
import StateCheck.Proofs.Tree.Row

/-! Fields back off as the field that moved last does. -/

namespace StateCheck.Fields
variable {τ α : Type} {t : ValueTree τ α} {E : Fault → Prop} {P : List α → Prop} {f : Fields τ} {i : Nat}
  {s : τ}

structure Kept (t : ValueTree τ α) (E : Fault → Prop) (P : List α → Prop) (f : Fields τ) : Prop where
  active : Row.Active t E Row.all P (f.moved.getD f.cursor) f.trees
  le : ∀ i, f.moved = some i → i ≤ f.cursor

theorem Kept.active_le (h : Kept t E P f) : f.moved.getD f.cursor ≤ f.cursor := by
  cases hmoved : f.moved with
  | none => exact Nat.le_refl _
  | some i => exact h.le i hmoved

theorem current_tree (f : Fields τ) : (tree t).current f = Row.all (f.trees.map t.current) :=
  (Row.all_shown t f.trees).symm

theorem Kept.shows (h : Kept t E P f) : (tree t).Shows E P f := by
  refine ⟨fun vs hvs => h.active.accepted vs (current_tree f ▸ hvs), ?_⟩
  intro e he
  obtain ⟨s, hs, he⟩ := List.mem_map.1 (Row.mem_of_all_error (current_tree f ▸ he))
  exact h.active.raised s hs e he

def Holds (trees : List τ) (i : Nat) (f : Fields τ) (s : τ) : Prop :=
  f.trees = trees.set i s ∧ f.moved = some i ∧ i ≤ f.cursor

theorem yields_onTree (hs : f.trees[i]? = some s) (x : Act τ Bool) {Q : Bool → Fields τ → Prop}
    {F : Fault → Fields τ → Prop} : (onTree i x).Yields f Q F ↔
      x.Yields s (fun moved s' => Q moved { f with trees := f.trees.set i s' })
        (fun e s' => F e { f with trees := f.trees.set i s' }) := by
  unfold onTree
  rw [Act.yields_on, Act.yields_onItem hs]

theorem yields_onTree_outside (hs : f.trees[i]? = none) (x : Act τ Bool) {Q : Bool → Fields τ → Prop}
    {F : Fault → Fields τ → Prop} : (onTree i x).Yields f Q F ↔ Q false f := by
  unfold onTree
  rw [Act.yields_on, Act.yields_onItem_outside hs]

theorem yields_complicate (hmoved : f.moved = some i) (hs : f.trees[i]? = some s) {Q : Bool → Fields τ → Prop}
    {F : Fault → Fields τ → Prop} : (complicate t).Yields f Q F ↔ t.complicate.Yields s
      (fun moved s' => Q moved (if moved then { f with trees := f.trees.set i s', cursor := i }
        else { f with trees := f.trees.set i s', moved := none }))
      (fun e s' => F e { f with trees := f.trees.set i s' }) := by
  obtain ⟨trees, cursor, _⟩ := f
  cases hmoved
  unfold complicate
  rw [Act.yields_bind, Act.yields_get]
  dsimp only
  rw [Act.yields_bind, yields_onTree hs]
  refine Act.yields_iff (fun moved s' => ?_) fun _ _ => Iff.rfl
  cases moved with
  | true => rfl
  | false => rfl

theorem simplifyFrom_loop {K : Nat → Fields τ → Prop} {Q : Bool → Fields τ → Prop} {F : Fault → Fields τ → Prop}
    (hdone : ∀ f, K 0 f → Q false f)
    (hbeyond : ∀ left f, K (left + 1) f → f.trees[f.cursor]? = none → K left { f with cursor := f.cursor + 1 })
    (htry : ∀ left f s, K (left + 1) f → f.trees[f.cursor]? = some s → t.simplify.Yields s
      (fun moved s' => if moved then Q true { f with trees := f.trees.set f.cursor s', moved := some f.cursor }
        else K left { f with trees := f.trees.set f.cursor s', cursor := f.cursor + 1 })
      (fun e s' => F e { f with trees := f.trees.set f.cursor s' }))
    {left : Nat} (hf : K left f) : (simplifyFrom t left).Yields f Q F := by
  induction left generalizing f with
  | zero => exact hdone f hf
  | succ left ih =>
    unfold simplifyFrom
    rw [Act.yields_bind, Act.yields_get, Act.yields_bind]
    cases hs : f.trees[f.cursor]? with
    | none =>
      rw [yields_onTree_outside hs]
      exact ih (hbeyond left f hf hs)
    | some s =>
      rw [yields_onTree hs]
      refine (htry left f s hf hs).mono (fun moved s' h => ?_) fun _ _ h => h
      cases moved with
      | true => exact h
      | false => exact ih h

theorem complicate_cases {Q : Bool → Fields τ → Prop} {F : Fault → Fields τ → Prop} (hnone : f.moved = none → Q false f)
    (hgone : ∀ i, f.moved = some i → f.trees[i]? = none → Q false { f with moved := none })
    (hmoved : ∀ i s, f.moved = some i → f.trees[i]? = some s → t.complicate.Yields s
      (fun moved s' => Q moved (if moved then { f with trees := f.trees.set i s', cursor := i }
        else { f with trees := f.trees.set i s', moved := none }))
      (fun e s' => F e { f with trees := f.trees.set i s' })) : (tree t).complicate.Yields f Q F := by
  show (complicate t).Yields f Q F
  cases hlast : f.moved with
  | none =>
    unfold complicate
    rw [Act.yields_bind, Act.yields_get, hlast]
    exact hnone hlast
  | some i =>
    cases hs : f.trees[i]? with
    | none =>
      unfold complicate
      rw [Act.yields_bind, Act.yields_get, hlast]
      dsimp only
      rw [Act.yields_bind, yields_onTree_outside hs]
      exact hgone i hlast hs
    | some s =>
      rw [yields_complicate hlast hs]
      exact hmoved i s hlast hs

theorem holds_follows (t : ValueTree τ α) (E : Fault → Prop) {trees : List τ} (hi : i < trees.length) :
    Row.Follows (tree t) t E Row.all (trees.map t.current) i (Holds trees i) where
  current := fun {f s} hf => by rw [current_tree, hf.1, List.map_set]
  strict e b := Row.all_ne_ok (List.mem_set (by simpa using hi) _) b
  slack := fun {f s} hf => by
    show slack t f = t.slack s
    unfold slack
    rw [hf.2.1, Option.bind_some, hf.1, List.getElem?_set_self hi]
  complicate := fun {f s L} hf hmove => by
    obtain ⟨htrees, hmoved, hle⟩ := hf
    have hs : f.trees[i]? = some s := by rw [htrees, List.getElem?_set_self hi]
    show (complicate t).Yields f _ _
    unfold complicate
    rw [Act.yields_bind, Act.yields_get, hmoved]
    dsimp only
    rw [Act.yields_bind, yields_onTree hs]
    refine hmove.mono (fun moved s' h => ?_) (fun _ _ h => h)
    obtain ⟨rfl, hL⟩ := h
    rw [if_pos rfl, Act.yields_bind, Act.yields_modify, Act.yields_pure]
    refine ⟨rfl, s', ⟨?_, hmoved, Nat.le_refl _⟩, hL⟩
    dsimp only
    rw [htrees, List.set_set]

theorem Kept.lands (hkept : Kept t E P f) (hs : f.trees[i]? = some s) (hle : f.moved.getD f.cursor ≤ i) {s' : τ}
    (hlands : t.Lands E (Row.Framed Row.all P (f.trees.map t.current) i)
      (t.Robust E (Row.Framed Row.all P (f.trees.map t.current) i)) s')
    {f' : Fields τ} (hf' : Holds f.trees i f' s') : (tree t).Lands E P (Kept t E P) f' := by
  have hi : i < f.trees.length := (List.getElem?_eq_some_iff.1 hs).1
  refine (holds_follows t E hi).lands (fun _ _ => Row.mem_of_all_error) (fun e he => ?_)
    (fun f' s' hf' hrobust haccepted => ?_) hlands hf'
  · obtain ⟨s, hs, he⟩ := List.mem_map.1 he
    exact hkept.active.raised s hs e he
  · obtain ⟨htrees, hmoved, hcursor⟩ := hf'
    refine ⟨?_, ?_⟩
    · rw [hmoved, Option.getD_some, htrees]
      refine (hkept.active.le hle).moved hi hrobust ?_
      rw [← htrees, ← current_tree]
      exact haccepted
    · intro j hj
      rw [hmoved] at hj
      cases hj
      exact hcursor

theorem Kept.stay (hkept : Kept t E P f) (hs : f.trees[f.cursor]? = some s) {s' : τ}
    (hsame : t.current s' = t.current s)
    (hrobust : t.Robust E (Row.Framed Row.all P (f.trees.map t.current) f.cursor) s')
    (hfresh : f.moved.getD f.cursor < f.cursor → t.Fresh E s') :
    Kept t E P { f with trees := f.trees.set f.cursor s' } ∧
      (tree t).current { f with trees := f.trees.set f.cursor s' } = (tree t).current f := by
  refine ⟨⟨hkept.active.stay hkept.active_le hs hsame hrobust hfresh, hkept.le⟩, ?_⟩
  rw [current_tree, current_tree, Row.shown_set hs hsame]

theorem Kept.next (hkept : Kept t E P f) : Kept t E P { f with cursor := f.cursor + 1 } := by
  refine ⟨hkept.active.le ?_, fun i hi => Nat.le_succ_of_le (hkept.le i hi)⟩
  cases hmoved : f.moved with
  | none => exact Nat.le_succ _
  | some i => exact Nat.le_refl _

theorem simplifyFrom_yields (left : Nat) (hkept : Kept t E P f) :
    (simplifyFrom t left).Yields f ((tree t).Ends E P (Kept t E P) f) fun e _ => E e := by
  refine simplifyFrom_loop (K := fun _ f' => Kept t E P f' ∧ (tree t).current f' = (tree t).current f)
    (fun _ h => h) (fun _ _ h _ => ⟨h.1.next, h.2⟩) (fun _ f' s h hs => ?_) ⟨hkept, rfl⟩
  obtain ⟨hkept', hshown⟩ := h
  refine ((t.simplify.yields_self s).and (((t.robust_backs E _).simplify
    (hkept'.active.robust hkept'.active_le hs)))).mono (fun moved s' h => ?_) (fun _ _ h => h.2)
  obtain ⟨⟨hanswer, hstate⟩, hends⟩ := h
  cases moved with
  | true => exact hkept'.lands hs hkept'.active_le hends ⟨rfl, rfl, Nat.le_refl _⟩
  | false =>
    obtain ⟨hstayed, hsame⟩ := hkept'.stay hs hends.2 hends.1 fun hlt =>
      ((hkept'.active.later _ s hlt hs).ends hanswer hstate).1
    exact ⟨hstayed.next, hsame.trans hshown⟩

theorem kept_backs (t : ValueTree τ α) (E : Fault → Prop) (P : List α → Prop) :
    (tree t).Backs E P (Kept t E P) where
  shows := fun hf => hf.shows
  simplify := fun {f} hf => simplifyFrom_yields _ hf
  complicate := fun {f} hf => by
    have hforget {i : Nat} (hmoved : f.moved = some i) {trees : List τ} (hactive : Row.Active t E Row.all P i trees) :
        Kept t E P { f with trees := trees, moved := none } := ⟨hactive.le (hf.le i hmoved), nofun⟩
    have hactive {i : Nat} (hmoved : f.moved = some i) : Row.Active t E Row.all P i f.trees := by
      simpa [hmoved] using hf.active
    refine complicate_cases (fun _ => ⟨hf, rfl⟩) (fun i hmoved _ => ⟨hforget hmoved (hactive hmoved), rfl⟩)
      fun i s hmoved hs => ?_
    refine ((t.robust_backs E _).complicate ((hactive hmoved).active s hs)).mono (fun moved s' h => ?_)
      (fun _ _ h => h)
    cases moved with
    | true =>
      have hle : f.moved.getD f.cursor ≤ i := Nat.le_of_eq (by rw [hmoved, Option.getD_some])
      exact hf.lands hs hle h ⟨rfl, hmoved, Nat.le_refl _⟩
    | false =>
      have hstay := (hactive hmoved).stay (Nat.le_refl i) hs h.2 h.1 fun hlt => absurd hlt (Nat.lt_irrefl i)
      rw [if_neg Bool.false_ne_true]
      refine ⟨hforget hmoved hstay, ?_⟩
      rw [current_tree, current_tree, Row.shown_set hs h.2]

theorem fresh {trees : List τ} (hfresh : ∀ s ∈ trees, t.Fresh E s) : (tree t).Fresh E { trees := trees } := by
  obtain ⟨vs, hvs⟩ := Row.all_of_fresh hfresh
  refine ⟨vs, (current_tree _).trans hvs, fun P hP => (kept_backs t E P).robust ⟨.of_fresh hfresh ?_, nofun⟩⟩
  intro vs' hvs'
  rw [hvs] at hvs'
  cases hvs'
  exact hP

end StateCheck.Fields
