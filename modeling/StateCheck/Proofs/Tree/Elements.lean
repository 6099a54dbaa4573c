import StateCheck.Tree.Elements
import StateCheck.Proofs.Tree.Row

/-! Lists back off: a deleted element is put back, and an element that was simplified backs off itself. -/

namespace StateCheck.Elements
variable {τ α : Type} {t : ValueTree τ α} {E : Fault → Prop} {P : List α → Prop} {e e' : Elements τ} {i : Nat}
  {s s' : τ} {slot : Slot τ}

def flags (e : Elements τ) : List Bool := e.slots.map (·.kept)

def trees (e : Elements τ) : List τ := e.slots.map (·.tree)

theorem trees_start (trees : List τ) (minSize : Nat) : (start trees minSize).trees = trees := by
  rw [Elements.trees, start, List.map_map]
  exact List.map_id'' (fun _ => rfl) trees

def readKept (flags : List Bool) (row : List (Except Fault α)) : Except Fault (List α) :=
  Row.all (((flags.zip row).filter (·.1)).map (·.2))

theorem current_tree (e : Elements τ) : (tree t).current e = readKept e.flags (e.trees.map t.current) := by
  have hrow : ((e.flags.zip (e.trees.map t.current)).filter (·.1)).map (·.2) = e.kept.map t.current := by
    rw [flags, trees, List.map_map, List.zip_map', List.filter_map, List.map_map, kept, List.map_map]
    rfl
  rw [readKept, hrow, Row.all_shown]
  rfl

theorem mem_of_readKept_error {flags : List Bool} {row : List (Except Fault α)} {e : Fault}
    (h : readKept flags row = .error e) : .error e ∈ row := by
  obtain ⟨⟨kept, x⟩, hx, rfl⟩ := List.mem_map.1 (Row.mem_of_all_error h)
  exact (List.of_mem_zip (List.mem_filter.1 hx).1).2

theorem readKept_ne_ok {flags : List Bool} {row : List (Except Fault α)} {e : Fault}
    (hkept : flags[i]? = some true) (hrow : row[i]? = some (.error e)) (as : List α) :
    readKept flags row ≠ .ok as := by
  refine Row.all_ne_ok (List.mem_map.2 ⟨(true, .error e), List.mem_filter.2 ⟨?_, rfl⟩, rfl⟩) as
  exact List.mem_of_getElem? (List.getElem?_zip_eq_some.2 ⟨hkept, hrow⟩)

theorem slot_of_tree (hs : e.trees[i]? = some s) : ∃ slot, e.slots[i]? = some slot ∧ slot.tree = s := by
  rwa [trees, List.getElem?_map, Option.map_eq_some_iff] at hs

theorem tree_of_slot (hslot : e.slots[i]? = some slot) : e.trees[i]? = some slot.tree := by
  rw [trees, List.getElem?_map, hslot]
  rfl

theorem flag_of_slot (hslot : e.slots[i]? = some slot) : e.flags[i]? = some slot.kept := by
  rw [flags, List.getElem?_map, hslot]
  rfl

def setTree (i : Nat) (slot : Slot τ) (s : τ) (e : Elements τ) : Elements τ :=
  { e with slots := e.slots.set i { slot with tree := s } }

theorem flags_setTree (hslot : e.slots[i]? = some slot) (s : τ) : (e.setTree i slot s).flags = e.flags := by
  obtain ⟨hi, hkept⟩ := List.getElem?_eq_some_iff.1 (flag_of_slot hslot)
  show (e.slots.set i { slot with tree := s }).map (·.kept) = e.flags
  rw [List.map_set]
  dsimp only
  rw [← hkept]
  exact List.set_getElem_self _

theorem trees_setTree (i : Nat) (slot : Slot τ) (s : τ) (e : Elements τ) :
    (e.setTree i slot s).trees = e.trees.set i s := List.map_set ..

theorem current_setTree (hslot : e.slots[i]? = some slot) (hsame : t.current s' = t.current slot.tree) :
    (tree t).current (e.setTree i slot s') = (tree t).current e := by
  rw [current_tree, current_tree, flags_setTree hslot, trees_setTree, Row.shown_set (tree_of_slot hslot) hsame]

theorem flags_setKept (i : Nat) (kept : Bool) (e : Elements τ) : (e.setKept i kept).flags = e.flags.set i kept := by
  refine List.ext_getElem? fun j => ?_
  rw [flags, setKept, flags, List.getElem?_map, List.getElem?_modify, List.getElem?_set, List.getElem?_map,
    List.length_map]
  split
  · rename_i hij
    subst hij
    cases hslot : e.slots[i]? with
    | none =>
      rw [if_neg (Nat.not_lt.2 (List.getElem?_eq_none_iff.1 hslot))]
      rfl
    | some slot =>
      rw [if_pos (List.getElem?_eq_some_iff.1 hslot).1]
      rfl
  · simp

theorem trees_setKept (i : Nat) (kept : Bool) (e : Elements τ) : (e.setKept i kept).trees = e.trees := by
  refine List.ext_getElem? fun j => ?_
  rw [trees, setKept, trees, List.getElem?_map, List.getElem?_modify, List.getElem?_map]
  cases e.slots[j]? with
  | none => rfl
  | some slot =>
    dsimp only [Option.map_some]
    split <;> rfl

def active (e : Elements τ) : Nat :=
  match e.undo with
  | some (.retry i) => i
  | _ => e.cursor

/-- As long as elements are deleted, or the last move was a deletion, no tree has moved. -/
structure Kept (t : ValueTree τ α) (E : Fault → Prop) (P : List α → Prop) (e : Elements τ) : Prop where
  active : Row.Active t E (readKept e.flags) P e.active e.trees
  fresh : e.deleting = true ∨ (∃ i, e.undo = some (.restore i)) → ∀ s ∈ e.trees, t.Fresh E s
  ahead : e.deleting = true → ∀ i slot, e.cursor ≤ i → e.slots[i]? = some slot → slot.kept = true
  restored : ∀ i, e.undo = some (.restore i) →
    ∀ vs, readKept (e.flags.set i true) (e.trees.map t.current) = .ok vs → P vs
  retried : ∀ i, e.undo = some (.retry i) → i ≤ e.cursor ∧ e.deleting = false ∧ e.flags[i]? = some true

theorem Kept.active_le (h : Kept t E P e) : e.active ≤ e.cursor := by
  unfold Elements.active
  split
  · exact (h.retried _ ‹_›).1
  · exact Nat.le_refl _

theorem Kept.shows (h : Kept t E P e) : (tree t).Shows E P e := by
  refine ⟨fun vs hvs => h.active.accepted vs (current_tree e ▸ hvs), ?_⟩
  intro fault he
  obtain ⟨s, hs, he⟩ := List.mem_map.1 (mem_of_readKept_error (current_tree e ▸ he))
  exact h.active.raised s hs fault he

theorem yields_onTree (hslot : e.slots[i]? = some slot) (x : Act τ Bool) {Q : Bool → Elements τ → Prop}
    {F : Fault → Elements τ → Prop} : (onTree i x).Yields e Q F ↔
      x.Yields slot.tree (fun moved s' => Q moved (e.setTree i slot s'))
        (fun fault s' => F fault (e.setTree i slot s')) := by
  unfold onTree
  rw [Act.yields_on, Act.yields_onItem hslot, Act.yields_on]
  rfl

theorem yields_onTree_outside (hslot : e.slots[i]? = none) (x : Act τ Bool) {Q : Bool → Elements τ → Prop}
    {F : Fault → Elements τ → Prop} : (onTree i x).Yields e Q F ↔ Q false e := by
  unfold onTree
  rw [Act.yields_on, Act.yields_onItem_outside hslot]

theorem simplifyFrom_loop {K : Nat → Elements τ → Prop} {Q : Bool → Elements τ → Prop}
    {F : Fault → Elements τ → Prop} (hdone : ∀ e, K 0 e → Q false e)
    (hskip : ∀ left e, K (left + 1) e → (∀ slot, e.slots[e.cursor]? = some slot → slot.kept ≠ true) →
      K left { e with cursor := e.cursor + 1 })
    (htry : ∀ left e slot, K (left + 1) e → e.slots[e.cursor]? = some slot → slot.kept = true →
      t.simplify.Yields slot.tree
        (fun moved s' => if moved then Q true { e.setTree e.cursor slot s' with undo := some (.retry e.cursor) }
          else K left { e.setTree e.cursor slot s' with cursor := e.cursor + 1 })
        (fun fault s' => F fault (e.setTree e.cursor slot s')))
    {left : Nat} (he : K left e) : (simplifyFrom t left).Yields e Q F := by
  induction left generalizing e with
  | zero => exact hdone e he
  | succ left ih =>
    unfold simplifyFrom
    rw [Act.yields_bind, Act.yields_get, Act.yields_ite]
    refine ⟨fun hkept => ?_, fun hkept => ?_⟩
    · obtain ⟨slot, hslot, hkept⟩ := (Option.any_eq_true _ _).1 hkept
      rw [Act.yields_bind, yields_onTree hslot]
      refine (htry left e slot he hslot hkept).mono (fun moved s' h => ?_) fun _ _ h => h
      cases moved with
      | true => exact h
      | false => exact ih h
    · refine ih (hskip left e he fun slot hslot hflag => hkept ?_)
      rw [hslot]
      exact hflag

structure Holds (flags : List Bool) (trees : List τ) (i : Nat) (e : Elements τ) (s : τ) : Prop where
  flags : e.flags = flags
  trees : e.trees = trees.set i s
  undo : e.undo = some (.retry i)
  le : i ≤ e.cursor
  deleting : e.deleting = false

theorem holds_follows (t : ValueTree τ α) (E : Fault → Prop) {flags : List Bool} {trees : List τ}
    (hflag : flags[i]? = some true) (hi : i < trees.length) :
    Row.Follows (tree t) t E (readKept flags) (trees.map t.current) i (Holds flags trees i) where
  current := fun {e s} he => by rw [current_tree, he.flags, he.trees, List.map_set]
  strict fault := readKept_ne_ok hflag (List.getElem?_set_self (by simpa using hi))
  slack := fun {e s} he => by
    have hs : e.trees[i]? = some s := by rw [he.trees, List.getElem?_set_self hi]
    obtain ⟨slot, hslot, rfl⟩ := slot_of_tree hs
    show slack t e = t.slack slot.tree
    rw [slack, he.undo]
    dsimp only
    rw [hslot]
    rfl
  complicate := fun {e s L} he hmove => by
    have hs : e.trees[i]? = some s := by rw [he.trees, List.getElem?_set_self hi]
    obtain ⟨slot, hslot, rfl⟩ := slot_of_tree hs
    show (complicate t).Yields e _ _
    unfold complicate
    rw [Act.yields_bind, Act.yields_get, he.undo]
    dsimp only
    rw [Act.yields_bind, yields_onTree hslot]
    refine hmove.mono (fun moved s' h => ?_) (fun _ _ h => h)
    obtain ⟨rfl, hL⟩ := h
    rw [if_pos rfl, Act.yields_bind, Act.yields_modify, Act.yields_pure]
    refine ⟨rfl, s', ⟨(flags_setTree hslot s').trans he.flags, ?_, he.undo, Nat.le_refl _, he.deleting⟩, hL⟩
    show (e.setTree i slot s').trees = trees.set i s'
    rw [trees_setTree, he.trees, List.set_set]

theorem Kept.lands (hkept : Kept t E P e) (hslot : e.slots[i]? = some slot) (hflag : slot.kept = true)
    (hle : e.active ≤ i)
    (hlands : t.Lands E (Row.Framed (readKept e.flags) P (e.trees.map t.current) i)
      (t.Robust E (Row.Framed (readKept e.flags) P (e.trees.map t.current) i)) s')
    (he' : Holds e.flags e.trees i e' s') : (tree t).Lands E P (Kept t E P) e' := by
  have hi : i < e.trees.length := (List.getElem?_eq_some_iff.1 (tree_of_slot hslot)).1
  have hflag' : e.flags[i]? = some true := (flag_of_slot hslot).trans (congrArg some hflag)
  refine (holds_follows t E hflag' hi).lands (fun _ _ => mem_of_readKept_error) (fun fault he => ?_)
    (fun e' s' he' hrobust haccepted => ?_) hlands he'
  · obtain ⟨s, hs, he⟩ := List.mem_map.1 he
    exact hkept.active.raised s hs fault he
  · have hactive : e'.active = i := by rw [Elements.active, he'.undo]
    refine ⟨?_, ?_, ?_, ?_, ?_⟩
    · rw [hactive, he'.flags, he'.trees]
      refine (hkept.active.le hle).moved hi hrobust ?_
      rw [← he'.flags, ← he'.trees, ← current_tree]
      exact haccepted
    · intro hfresh
      rcases hfresh with hdeleting | ⟨j, hj⟩
      · exact absurd (hdeleting.symm.trans he'.deleting) nofun
      · exact absurd (hj.symm.trans he'.undo) nofun
    · intro hdeleting
      exact absurd (hdeleting.symm.trans he'.deleting) nofun
    · intro j hj
      exact absurd (hj.symm.trans he'.undo) nofun
    · intro j hj
      have hij := hj.symm.trans he'.undo
      cases hij
      exact ⟨he'.le, he'.deleting, he'.flags ▸ hflag'⟩

theorem Kept.next (hkept : Kept t E P e) (hdeleting : e.deleting = false) :
    Kept t E P { e with cursor := e.cursor + 1 } where
  active := by
    refine hkept.active.le ?_
    unfold Elements.active
    dsimp only
    split
    · exact Nat.le_refl _
    · exact Nat.le_succ _
  fresh := hkept.fresh
  ahead h := absurd (h.symm.trans hdeleting) nofun
  restored := hkept.restored
  retried i hi :=
    ⟨Nat.le_succ_of_le (hkept.retried i hi).1, (hkept.retried i hi).2⟩

theorem Kept.stay (hkept : Kept t E P e) (hslot : e.slots[i]? = some slot) (hle : e.active ≤ i)
    (hsame : t.current s' = t.current slot.tree)
    (hrobust : t.Robust E (Row.Framed (readKept e.flags) P (e.trees.map t.current) i) s')
    (hfresh : e.undo ≠ some (.retry i) → t.Fresh E slot.tree → t.Fresh E s') :
    Kept t E P (e.setTree i slot s') ∧ (tree t).current (e.setTree i slot s') = (tree t).current e := by
  have htree := tree_of_slot hslot
  have hnot (h : e.active < i) : e.undo ≠ some (.retry i) := fun hundo => by
    rw [Elements.active, hundo] at h
    exact Nat.lt_irrefl i h
  refine ⟨⟨?_, fun h s hs => ?_, fun hdeleting j slot' hj hslot' => ?_, fun j hj => ?_, fun j hj => ?_⟩, ?_⟩
  · rw [flags_setTree hslot, trees_setTree]
    exact hkept.active.stay hle htree hsame hrobust fun hlt =>
      hfresh (hnot hlt) (hkept.active.later i _ hlt htree)
  · rw [trees_setTree] at hs
    have hall := hkept.fresh h
    rcases List.mem_or_eq_of_mem_set hs with hs | rfl
    · exact hall s hs
    · refine hfresh (fun hundo => ?_) (hall _ (List.mem_of_getElem? htree))
      rcases h with h | ⟨j, hj⟩
      · exact absurd (h.symm.trans (hkept.retried i hundo).2.1) nofun
      · exact absurd (hj.symm.trans hundo) nofun
  · have hflag := flag_of_slot hslot'
    rw [flags_setTree hslot] at hflag
    obtain ⟨slot'', hslot'', heq⟩ := Option.map_eq_some_iff.1 (List.getElem?_map ▸ hflag)
    exact heq ▸ hkept.ahead hdeleting j slot'' hj hslot''
  · rw [flags_setTree hslot, trees_setTree, Row.shown_set htree hsame]
    exact hkept.restored j hj
  · rw [flags_setTree hslot]
    exact hkept.retried j hj
  · exact current_setTree hslot hsame

theorem simplifyFrom_yields (left : Nat) (hkept : Kept t E P e) (hdeleting : e.deleting = false) :
    (simplifyFrom t left).Yields e ((tree t).Ends E P (Kept t E P) e) fun fault _ => E fault := by
  refine simplifyFrom_loop
    (K := fun _ e' => Kept t E P e' ∧ e'.deleting = false ∧ (tree t).current e' = (tree t).current e)
    (fun _ h => ⟨h.1, h.2.2⟩) (fun _ _ h _ => ⟨h.1.next h.2.1, h.2⟩) (fun _ e' slot h hslot hflag => ?_)
    ⟨hkept, hdeleting, rfl⟩
  obtain ⟨hkept', hdeleting', hshown⟩ := h
  refine ((t.simplify.yields_self slot.tree).and ((t.robust_backs E _).simplify
    (hkept'.active.robust hkept'.active_le (tree_of_slot hslot)))).mono (fun moved s' h => ?_) (fun _ _ h => h.2)
  obtain ⟨⟨hanswer, hstate⟩, hends⟩ := h
  cases moved with
  | true =>
    exact hkept'.lands hslot hflag hkept'.active_le hends
      ⟨flags_setTree hslot s', trees_setTree e'.cursor slot s' e', rfl, Nat.le_refl _, hdeleting'⟩
  | false =>
    obtain ⟨hstayed, hsame⟩ := hkept'.stay hslot hkept'.active_le hends.2 hends.1 fun _ hfresh =>
      (hfresh.ends hanswer hstate).1
    exact ⟨hstayed.next hdeleting', hdeleting', hsame.trans hshown⟩

def Ahead (e : Elements τ) : Prop :=
  e.deleting = true → ∀ i slot, e.cursor ≤ i → e.slots[i]? = some slot → slot.kept = true

theorem of_canDelete (hcan : e.canDelete = true) :
    e.deleting = true ∧ e.cursor < e.slots.length ∧ e.minSize < e.kept.length := by
  simp only [canDelete, Bool.and_eq_true, decide_eq_true_eq] at hcan
  exact ⟨hcan.1.1, hcan.1.2, hcan.2⟩

theorem Ahead.delete (h : e.Ahead) (hdeleting : e.deleting = true) : e.delete.Ahead := fun _ j slot hj hslot => by
  have hlt : e.cursor < j := hj
  have hmodify : (e.slots.modify e.cursor fun slot => { slot with kept := false })[j]? = some slot := hslot
  rw [List.getElem?_modify_ne _ _ (Nat.ne_of_lt hlt)] at hmodify
  exact h hdeleting j slot (Nat.le_of_lt hlt) hmodify

theorem Ahead.flags_delete (h : e.Ahead) (hcan : e.canDelete = true) :
    e.delete.flags.set e.cursor true = e.flags := by
  obtain ⟨hdeleting, hcursor, -⟩ := of_canDelete hcan
  have hflags : e.delete.flags = e.flags.set e.cursor false := flags_setKept e.cursor false e
  have hflag := flag_of_slot (List.getElem?_eq_getElem hcursor)
  rw [h hdeleting e.cursor _ (Nat.le_refl _) (List.getElem?_eq_getElem hcursor)] at hflag
  obtain ⟨hi, hflag⟩ := List.getElem?_eq_some_iff.1 hflag
  rw [hflags, List.set_set, ← hflag, List.set_getElem_self]

theorem Ahead.restore (h : e.Ahead) (i : Nat) : ({ e.setKept i true with undo := none } : Elements τ).Ahead := by
  intro hdeleting j slot hj hslot
  have hmodify : (e.slots.modify i fun slot => { slot with kept := true })[j]? = some slot := hslot
  by_cases hij : i = j
  · subst hij
    rw [List.getElem?_modify_eq] at hmodify
    obtain ⟨slot', -, rfl⟩ := Option.map_eq_some_iff.1 hmodify
    rfl
  · rw [List.getElem?_modify_ne _ _ hij] at hmodify
    exact h hdeleting j slot hj hmodify

theorem kept_of_fresh (hfresh : ∀ s ∈ e.trees, t.Fresh E s) (hahead : e.Ahead)
    (haccepted : ∀ vs, readKept e.flags (e.trees.map t.current) = .ok vs → P vs)
    (hundo : ∀ i, e.undo = some (.restore i) →
      ∀ vs, readKept (e.flags.set i true) (e.trees.map t.current) = .ok vs → P vs)
    (hretry : ∀ i, e.undo ≠ some (.retry i)) : Kept t E P e where
  active := .of_fresh hfresh haccepted
  fresh _ := hfresh
  ahead := hahead
  restored := hundo
  retried i hi := absurd hi (hretry i)

theorem restored_lands (hfresh : ∀ s ∈ e.trees, t.Fresh E s) (hahead : e.Ahead)
    (haccepted : ∀ vs, readKept (e.flags.set i true) (e.trees.map t.current) = .ok vs → P vs) :
    (tree t).Lands E P (Kept t E P) { e.setKept i true with undo := none } := by
  have hkept : Kept t E P { e.setKept i true with undo := none } := by
    have htrees : ({ e.setKept i true with undo := none } : Elements τ).trees = e.trees := trees_setKept i true e
    have hflags : ({ e.setKept i true with undo := none } : Elements τ).flags = e.flags.set i true :=
      flags_setKept i true e
    refine kept_of_fresh (htrees ▸ hfresh) (hahead.restore i) ?_ nofun nofun
    rw [hflags, htrees]
    exact haccepted
  exact .of_shows hkept.shows hkept

theorem yields_restore (hundo : e.undo = some (.restore i)) {Q : Bool → Elements τ → Prop}
    {F : Fault → Elements τ → Prop} :
    (complicate t).Yields e Q F ↔ Q true { e.setKept i true with undo := none } := by
  unfold complicate
  rw [Act.yields_bind, Act.yields_get, hundo]
  rfl

theorem yields_retry (hundo : e.undo = some (.retry i)) (hslot : e.slots[i]? = some slot)
    {Q : Bool → Elements τ → Prop} {F : Fault → Elements τ → Prop} :
    (complicate t).Yields e Q F ↔ t.complicate.Yields slot.tree
      (fun moved s' => Q moved (if moved then { e.setTree i slot s' with cursor := i }
        else { e.setTree i slot s' with undo := none }))
      (fun f s' => F f (e.setTree i slot s')) := by
  unfold complicate
  rw [Act.yields_bind, Act.yields_get, hundo]
  dsimp only
  rw [Act.yields_bind, yields_onTree hslot]
  refine Act.yields_iff (fun moved s' => ?_) fun _ _ => Iff.rfl
  cases moved with
  | true => rfl
  | false => rfl

theorem complicate_cases {Q : Bool → Elements τ → Prop} {F : Fault → Elements τ → Prop}
    (hnone : e.undo = none → Q false e)
    (hrestore : ∀ i, e.undo = some (.restore i) → Q true { e.setKept i true with undo := none })
    (hgone : ∀ i, e.undo = some (.retry i) → e.slots[i]? = none → Q false { e with undo := none })
    (hretry : ∀ i slot, e.undo = some (.retry i) → e.slots[i]? = some slot → t.complicate.Yields slot.tree
      (fun moved s' => Q moved (if moved then { e.setTree i slot s' with cursor := i }
        else { e.setTree i slot s' with undo := none }))
      (fun f s' => F f (e.setTree i slot s'))) : (tree t).complicate.Yields e Q F := by
  show (complicate t).Yields e Q F
  cases hlast : e.undo with
  | none =>
    unfold complicate
    rw [Act.yields_bind, Act.yields_get, hlast]
    exact hnone hlast
  | some undo =>
    cases undo with
    | restore i =>
      rw [yields_restore hlast]
      exact hrestore i hlast
    | retry i =>
      cases hslot : e.slots[i]? with
      | none =>
        unfold complicate
        rw [Act.yields_bind, Act.yields_get, hlast]
        dsimp only
        rw [Act.yields_bind, yields_onTree_outside hslot]
        exact hgone i hlast hslot
      | some slot =>
        rw [yields_retry hlast hslot]
        exact hretry i slot hlast hslot

theorem yields_delete (hcan : e.canDelete = true) {Q : Bool → Elements τ → Prop} {F : Fault → Elements τ → Prop} :
    (simplify t).Yields e Q F ↔ Q true e.delete := by
  have hmove : simplify t e = ⟨.ok true, e.delete, []⟩ := if_pos hcan
  unfold Act.Yields
  rw [hmove]

theorem yields_simplify (hcan : ¬e.canDelete = true) {Q : Bool → Elements τ → Prop}
    {F : Fault → Elements τ → Prop} : (simplify t).Yields e Q F ↔
      (simplifyFrom t (e.endDeleting.slots.length - e.endDeleting.cursor)).Yields e.endDeleting Q F := by
  have hmove : simplify t e =
      simplifyFrom t (e.endDeleting.slots.length - e.endDeleting.cursor) e.endDeleting := if_neg hcan
  unfold Act.Yields
  rw [hmove]

theorem deleted_lands (hkept : Kept t E P e) (hcan : e.canDelete = true) :
    (tree t).Lands E P (Kept t E P) e.delete := by
  have hdeleting := (of_canDelete hcan).1
  have hfresh := hkept.fresh (.inl hdeleting)
  have htrees : e.delete.trees = e.trees := trees_setKept e.cursor false e
  have hunmoved : e.Ahead := hkept.ahead
  have hahead := hunmoved.delete hdeleting
  have hback := hunmoved.flags_delete hcan
  have hrestored : ∀ vs, readKept (e.delete.flags.set e.cursor true) (e.delete.trees.map t.current) = .ok vs →
      P vs := by
    rw [hback, htrees]
    exact hkept.active.accepted
  refine .fold ⟨fun vs hvs => ⟨fun hP => ?_, fun _ => ?_⟩, fun fault he => ?_⟩
  · refine kept_of_fresh (htrees ▸ hfresh) hahead (fun vs' hvs' => ?_) (fun i hi => ?_) nofun
    · rw [← current_tree, hvs] at hvs'
      cases hvs'
      exact hP
    · cases hi
      exact hrestored
  · show (complicate t).Yields e.delete _ _
    rw [yields_restore rfl]
    exact ⟨rfl, Nat.zero_lt_one, restored_lands (htrees ▸ hfresh) hahead hrestored⟩
  · rw [current_tree, htrees] at he
    obtain ⟨s, hs, he⟩ := List.mem_map.1 (mem_of_readKept_error he)
    exact hkept.active.raised s hs fault he

theorem Kept.endDeleting (hkept : Kept t E P e) : Kept t E P e.endDeleting ∧ e.endDeleting.deleting = false ∧
    (tree t).current e.endDeleting = (tree t).current e := by
  unfold Elements.endDeleting
  cases hdeleting : e.deleting with
  | false => exact ⟨hkept, hdeleting, rfl⟩
  | true =>
    refine ⟨kept_of_fresh (hkept.fresh (.inl hdeleting)) nofun hkept.active.accepted hkept.restored ?_, rfl, rfl⟩
    exact fun i hi => absurd (hdeleting.symm.trans (hkept.retried i hi).2.1) nofun

theorem kept_backs (t : ValueTree τ α) (E : Fault → Prop) (P : List α → Prop) :
    (tree t).Backs E P (Kept t E P) where
  shows := fun he => he.shows
  simplify := fun {e} he => by
    show (simplify t).Yields e _ _
    by_cases hcan : e.canDelete = true
    · rw [yields_delete hcan]
      exact deleted_lands he hcan
    · obtain ⟨hkept, hdeleting, hsame⟩ := he.endDeleting
      rw [yields_simplify hcan]
      exact (simplifyFrom_yields _ hkept hdeleting).mono (fun _ _ h => h.of_current hsame) fun _ _ h => h
  complicate := fun {e} he => by
    refine complicate_cases (fun _ => ⟨he, rfl⟩) (fun i hundo => ?_) (fun i hundo hgone => ?_)
      fun i slot hundo hslot => ?_
    · exact restored_lands (he.fresh (.inr ⟨i, hundo⟩)) he.ahead (he.restored i hundo)
    · have hflag := (he.retried i hundo).2.2
      rw [flags, List.getElem?_map, hgone] at hflag
      cases hflag
    · obtain ⟨hle, hdeleting, hflag⟩ := he.retried i hundo
      have hkept : slot.kept = true := Option.some.inj ((flag_of_slot hslot).symm.trans hflag)
      have hactive : e.active ≤ i := Nat.le_of_eq (by rw [active, hundo])
      refine ((t.robust_backs E _).complicate (he.active.robust hactive (tree_of_slot hslot))).mono
        (fun moved s' h => ?_) (fun _ _ h => h)
      cases moved with
      | true =>
        exact he.lands hslot hkept hactive h
          ⟨flags_setTree hslot s', trees_setTree i slot s' e, hundo, Nat.le_refl _, hdeleting⟩
      | false =>
        -- An element that cannot back off is forgotten, and shows what it showed.
        obtain ⟨hkept', hsame⟩ := he.stay hslot hactive h.2 h.1 fun hnot => absurd hundo hnot
        refine ⟨⟨hkept'.active.le hkept'.active_le, ?_, ?_, nofun, nofun⟩, hsame⟩
        · rintro (h | ⟨j, hj⟩)
          · exact absurd (h.symm.trans hdeleting) nofun
          · cases hj
        · exact fun h => absurd (h.symm.trans hdeleting) nofun

theorem start_fresh {trees : List τ} (hfresh : ∀ s ∈ trees, t.Fresh E s) (minSize : Nat) :
    (tree t).Fresh E (start trees minSize) := by
  have hshown : (tree t).current (start trees minSize) = Row.all (trees.map t.current) := by
    show (start trees minSize).kept.mapM t.current = _
    rw [kept_start, Row.all_shown]
  obtain ⟨vs, hvs⟩ := Row.all_of_fresh hfresh
  refine ⟨vs, hshown.trans hvs, fun P hP => (kept_backs t E P).robust ?_⟩
  refine kept_of_fresh (fun s hs => hfresh s (trees_start trees minSize ▸ hs)) (fun _ i slot _ hslot => ?_)
    (fun vs' hvs' => ?_) ?_ ?_
  · obtain ⟨s, -, rfl⟩ := Option.map_eq_some_iff.1 (List.getElem?_map ▸ hslot)
    rfl
  · rw [← current_tree, hshown, hvs] at hvs'
    cases hvs'
    exact hP
  all_goals
    intro i hi
    cases hi

end StateCheck.Elements
