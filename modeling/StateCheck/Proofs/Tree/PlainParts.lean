import StateCheck.Proofs.Tree.Fields
import StateCheck.Proofs.Tree.Pick
import StateCheck.Proofs.Tree.Plain

/-! Trees made of trees are plain when only one of their parts moves. -/

namespace StateCheck

theorem Row.all_eq_ok {α : Type} {row : List (Except Fault α)} {as : List α} :
    all row = .ok as ↔ row = as.map .ok := by
  induction row generalizing as with
  | nil =>
    cases as with
    | nil => exact ⟨fun _ => rfl, fun _ => rfl⟩
    | cons a as => exact ⟨nofun, nofun⟩
  | cons x row ih =>
    rw [all_cons, bind_eq_ok]
    refine ⟨?_, fun h => ?_⟩
    · rintro ⟨a, rfl, h⟩
      obtain ⟨as', hrow, ⟨⟩⟩ := bind_eq_ok.1 h
      rw [ih.1 hrow, List.map_cons]
    · cases as with
      | nil => cases h
      | cons a as =>
        obtain ⟨rfl, hrow⟩ := List.cons.inj h
        exact ⟨a, rfl, bind_eq_ok.2 ⟨as, ih.2 hrow, rfl⟩⟩

theorem Row.all_get {α : Type} {row : List (Except Fault α)} {as : List α} (has : all row = .ok as) {i : Nat}
    {x : Except Fault α} (hx : row[i]? = some x) : ∃ a, x = .ok a ∧ as[i]? = some a := by
  rw [all_eq_ok.1 has, List.getElem?_map, Option.map_eq_some_iff] at hx
  obtain ⟨a, ha, rfl⟩ := hx
  exact ⟨a, rfl, ha⟩

theorem Row.all_set {α : Type} {row : List (Except Fault α)} {i : Nat} (hi : i < row.length) {a : α} {as bs : List α}
    {x : Except Fault α} (has : all (row.set i (.ok a)) = .ok as) (hbs : all (row.set i x) = .ok bs) :
    as[i]? = some a ∧ ∃ b, x = .ok b ∧ bs = as.set i b := by
  obtain ⟨_, ⟨⟩, ha⟩ := all_get has (List.getElem?_set_self hi)
  obtain ⟨b, rfl, -⟩ := all_get hbs (List.getElem?_set_self hi)
  have hmap : bs.map (Except.ok (ε := Fault)) = (as.set i b).map .ok := by
    rw [← all_eq_ok.1 hbs, List.map_set, ← all_eq_ok.1 has, List.set_set]
  exact ⟨ha, b, rfl, (List.map_inj_right fun _ _ => Except.ok.inj).1 hmap⟩

namespace Fields
variable {τ α : Type} {t : ValueTree τ α} {A : Stages τ α} {R : α → α → Prop} {j : Nat} {K K' : τ → Prop}
  {trees : List τ} {s : τ} {f : Fields τ} {as : List α}

structure Lone (t : ValueTree τ α) (j : Nat) (K : τ → Prop) (trees : List τ) : Prop where
  others : ∀ k s, k ≠ j → trees[k]? = some s → t.Stuck s
  moving : ∃ s, trees[j]? = some s ∧ K s

theorem Lone.set (h : Lone t j K trees) (hs : K' s) : Lone t j K' (trees.set j s) where
  others k s' hk hs' := h.others k s' hk (by rwa [List.getElem?_set_ne hk.symm] at hs')
  moving := by
    obtain ⟨s', hs', -⟩ := h.moving
    exact ⟨s, List.getElem?_set_self (List.getElem?_eq_some_iff.1 hs').1, hs⟩

theorem set_same {k : Nat} (hs : trees[k]? = some s) : trees.set k s = trees := by
  obtain ⟨hk, rfl⟩ := List.getElem?_eq_some_iff.1 hs
  exact List.set_getElem_self hk

theorem Lone.stays (h : Lone t j K trees) {k : Nat} (hk : k ≠ j) (hs : trees[k]? = some s) :
    t.simplify.Yields s (fun moved s' => moved = false ∧ trees.set k s' = trees) fun _ _ => False := by
  refine (h.others k s hk hs).simplify.mono (fun moved s' hstays => ?_) fun _ _ h => h
  obtain ⟨rfl, rfl⟩ := hstays
  exact ⟨rfl, set_same hs⟩

def LoneIn (t : ValueTree τ α) (j : Nat) (K : α → τ → Prop) (as : List α) (trees : List τ) : Prop :=
  ∃ a, Lone t j (K a) trees ∧ Row.all ((trees.map t.current).set j (.ok a)) = .ok as

theorem read_moved {a : α} (hs : trees[j]? = some s) (hrow : Row.all ((trees.map t.current).set j (.ok a)) = .ok as)
    {s' : τ} {bs : List α} (hbs : Row.all ((trees.set j s').map t.current) = .ok bs) :
    as[j]? = some a ∧ ∃ b, t.current s' = .ok b ∧ bs = as.set j b := by
  have hj : j < (trees.map t.current).length := by
    rw [List.length_map]
    exact (List.getElem?_eq_some_iff.1 hs).1
  rw [List.map_set] at hbs
  exact Row.all_set hj hrow hbs

theorem set_beq [BEq α] [LawfulBEq α] {a : α} (ha : as[j]? = some a) (b : α) : (as.set j b == as) = (b == a) := by
  obtain ⟨hj, rfl⟩ := List.getElem?_eq_some_iff.1 ha
  rw [Bool.eq_iff_iff, beq_iff_eq, beq_iff_eq]
  refine ⟨fun h => ?_, fun h => ?_⟩
  · have hat := List.getElem_set_self (a := b) (l := as) (i := j) (by rwa [List.length_set])
    simp only [h] at hat
    exact hat.symm
  · rw [h, List.set_getElem_self]

def stages (t : ValueTree τ α) (j : Nat) (A : Stages τ α) : Stages (Fields τ) (List α) where
  held as f := f.cursor ≤ j ∧ LoneIn t j A.held as f.trees
  tried as f := f.cursor ≤ j ∧ f.moved = some j ∧ LoneIn t j A.tried as f.trees
  back _ f := f.moved = some j ∧ ∃ a, Lone t j (A.back a) f.trees
  spent _ f := ∃ a, Lone t j (A.spent a) f.trees

theorem Lone.rests (hrest : ∀ s, K s → t.simplify.Yields s (fun moved s' => moved = false ∧ K s') fun _ _ => False)
    (h : Lone t j K trees) {k : Nat} (hs : trees[k]? = some s) :
    t.simplify.Yields s (fun moved s' => moved = false ∧ Lone t j K (trees.set k s')) fun _ _ => False := by
  by_cases hj : k = j
  · subst hj
    obtain ⟨s', hs', hK⟩ := h.moving
    obtain rfl : s = s' := Option.some.inj (hs.symm.trans hs')
    exact (hrest s hK).mono (fun _ _ h' => ⟨h'.1, h.set h'.2⟩) fun _ _ h => h
  · exact (h.stays hj hs).mono (fun _ _ h' => ⟨h'.1, h'.2.symm ▸ h⟩) fun _ _ h => h

theorem simplifyFrom_rests
    (hrest : ∀ s, K s → t.simplify.Yields s (fun moved s' => moved = false ∧ K s') fun _ _ => False) (left : Nat)
    (hf : Lone t j K f.trees) :
    (simplifyFrom t left).Yields f (fun moved f' => moved = false ∧ Lone t j K f'.trees) fun _ _ => False := by
  refine simplifyFrom_loop (K := fun _ f => Lone t j K f.trees) (fun _ h => ⟨rfl, h⟩) (fun _ _ h _ => h)
    (fun _ f s h hs => ?_) hf
  refine (h.rests hrest hs).mono (fun moved s' h' => ?_) fun _ _ h => h
  obtain ⟨rfl, hlone⟩ := h'
  exact hlone

theorem simplifyFrom_proposes [BEq α] (ht : t.Plain A R) (left : Nat) (hleft : f.trees.length ≤ f.cursor + left)
    (hf : (stages t j A).held as f) : (simplifyFrom t left).Yields f
      (fun moved f' => if moved then (stages t j A).tried as f' else (stages t j A).spent as f') fun _ _ => True := by
  have hinside {f : Fields τ} (hf : (stages t j A).held as f) : f.cursor < f.trees.length := by
    obtain ⟨hcursor, a, hlone, -⟩ := hf
    obtain ⟨s, hs, -⟩ := hlone.moving
    exact Nat.lt_of_le_of_lt hcursor (List.getElem?_eq_some_iff.1 hs).1
  refine simplifyFrom_loop (K := fun left f => (stages t j A).held as f ∧ f.trees.length ≤ f.cursor + left ∨
    (stages t j A).spent as f) (fun f h => ?_) (fun left f h hs => ?_) (fun left f s h hs => ?_) (.inl ⟨hf, hleft⟩)
  · rcases h with ⟨hheld, hdone⟩ | hspent
    · exact absurd (hinside hheld) (Nat.not_lt.2 hdone)
    · exact hspent
  · rcases h with ⟨hheld, -⟩ | hspent
    · exact absurd (hinside hheld) (Nat.not_lt.2 (List.getElem?_eq_none_iff.1 hs))
    · exact .inr hspent
  · rcases h with ⟨⟨hcursor, a, hlone, hrow⟩, hmore⟩ | ⟨a, hspent⟩
    · rcases Nat.lt_or_eq_of_le hcursor with hlt | rfl
      · refine (hlone.stays (Nat.ne_of_lt hlt) hs).mono (fun moved s' h => ?_) fun _ _ _ => trivial
        obtain ⟨rfl, htrees⟩ := h
        rw [if_neg Bool.false_ne_true, htrees]
        refine .inl ⟨⟨hlt, a, hlone, hrow⟩, ?_⟩
        dsimp only
        omega
      · obtain ⟨s', hs', hheld⟩ := hlone.moving
        obtain rfl : s = s' := Option.some.inj (hs.symm.trans hs')
        refine (ht.simplify a s hheld).mono (fun moved s' h => ?_) fun _ _ _ => trivial
        cases moved with
        | true =>
          refine ⟨Nat.le_refl _, rfl, a, hlone.set h, ?_⟩
          rw [List.map_set, List.set_set]
          exact hrow
        | false => exact .inr ⟨a, hlone.set h⟩
    · refine (hspent.rests (ht.rest a) hs).mono (fun moved s' h => ?_) fun _ _ _ => trivial
      obtain ⟨rfl, hspent'⟩ := h
      exact .inr ⟨a, hspent'⟩

theorem complicate_offers [BEq α] [LawfulBEq α] (ht : t.Plain A R) (hf : (stages t j A).tried as f) :
    (complicate t).Yields f
      (fun moved f' =>
        if moved then ∀ bs, (tree t).current f' = .ok bs →
          if bs == as then (stages t j A).back as f' else (stages t j A).tried as f'
        else (stages t j A).spent as f')
      fun _ _ => True := by
  obtain ⟨hcursor, hmoved, a, hlone, hrow⟩ := hf
  obtain ⟨s, hs, htried⟩ := hlone.moving
  rw [yields_complicate hmoved hs]
  refine (ht.complicate a s htried).mono (fun moved s' h => ?_) fun _ _ _ => trivial
  cases moved with
  | false => exact ⟨a, hlone.set h⟩
  | true =>
    intro bs hbs
    rw [current_tree] at hbs
    obtain ⟨ha, b, hb, rfl⟩ := read_moved hs hrow hbs
    have hsame : (as.set j b == as) = (b == a) := set_beq ha b
    have hstage := h b hb
    rw [hsame]
    split
    · rename_i hbeq
      rw [if_pos hbeq] at hstage
      exact ⟨hmoved, a, hlone.set hstage⟩
    · rename_i hbeq
      rw [if_neg hbeq] at hstage
      refine ⟨Nat.le_refl _, hmoved, a, hlone.set hstage, ?_⟩
      rw [if_pos rfl, List.map_set, List.set_set]
      exact hrow

theorem tree_plain [BEq α] [LawfulBEq α] (ht : t.Plain A R) (j : Nat) :
    (tree t).Plain (stages t j A) fun as bs => ∃ a b, R a b ∧ as[j]? = some a ∧ bs = as.set j b where
  simplify as f hf := simplifyFrom_proposes ht _ (by omega) hf
  keep as bs f hf hbs := by
    obtain ⟨hcursor, -, a, hlone, hrow⟩ := hf
    obtain ⟨s, hs, htried⟩ := hlone.moving
    rw [current_tree, ← set_same hs] at hbs
    obtain ⟨-, b, hb, -⟩ := read_moved hs hrow hbs
    refine ⟨hcursor, b, ⟨hlone.others, s, hs, ht.keep a b s htried hb⟩, ?_⟩
    rwa [List.map_set, hb] at hbs
  complicate as f hf := complicate_offers ht hf
  giveUp as f hf := by
    obtain ⟨-, a, hlone⟩ := hf
    exact ⟨a, hlone.others, hlone.moving.imp fun s h => ⟨h.1, ht.giveUp a s h.2⟩⟩
  within as bs f hf hbs := by
    obtain ⟨-, -, a, hlone, hrow⟩ := hf
    obtain ⟨s, hs, htried⟩ := hlone.moving
    rw [current_tree, ← set_same hs] at hbs
    obtain ⟨ha, b, hb, rfl⟩ := read_moved hs hrow hbs
    rcases ht.within a b s htried hb with rfl | hR
    · obtain ⟨hj, rfl⟩ := List.getElem?_eq_some_iff.1 ha
      exact .inl (List.set_getElem_self hj).symm
    · exact .inr ⟨a, b, hR, ha, rfl⟩
  settled as f hf := by
    obtain ⟨hmoved, a, hlone⟩ := hf
    obtain ⟨s, hs, hback⟩ := hlone.moving
    show (complicate t).Yields f _ _
    rw [yields_complicate hmoved hs]
    refine (ht.settled a s hback).mono (fun moved s' h => ?_) fun _ _ h => h
    obtain ⟨rfl, hspent⟩ := h
    exact ⟨rfl, a, hlone.set hspent⟩
  rest as f hf := by
    obtain ⟨a, hlone⟩ := hf
    have hrests : (tree t).simplify.Yields f (fun moved f' => moved = false ∧ Lone t j (A.spent a) f'.trees)
        fun _ _ => False := simplifyFrom_rests (ht.rest a) _ hlone
    exact hrests.mono (fun _ _ h => ⟨h.1, a, h.2⟩) fun _ _ h => h

end Fields
namespace Pick
variable {τ α : Type} {t : ValueTree τ α} {A : Stages τ α} {R : α → α → Prop} {redraw : Redraw τ} {p : Pick τ}
  {a : α} {s : τ}

def stagesAt (t : ValueTree τ α) (A : Stages τ α) (index : Nat) : Stages τ α := if index = 0 then A else t.stuckAt

def Shows (K : Nat → τ → Prop) (p : Pick τ) : Prop := ∃ s, p.here = .ok s ∧ K p.index s

def stages (t : ValueTree τ α) (A : Stages τ α) : Stages (Pick τ) α where
  held a := Shows fun i => (stagesAt t A i).held a
  tried a p := p.undo = none ∧ p.index = 0 ∧ Shows (fun _ => A.tried a) p ∨
    ∃ s, p.undo = some s ∧ t.stuckAt.held a s ∧
      ∀ s' b, p.here = .ok s' → t.current s' = .ok b → (stagesAt t A p.index).held b s'
  back a p := p.undo = none ∧ p.index ≤ p.floor ∧ Shows (fun i => (stagesAt t A i).back a) p
  spent a p := p.index ≤ p.floor ∧ Shows (fun i => (stagesAt t A i).spent a) p

theorem stagesAt_plain [BEq α] (ht : t.Plain A R) (index : Nat) : t.Plain (stagesAt t A index) R := by
  unfold stagesAt
  split
  · exact ht
  · exact t.stuckAt_plain R

theorem eq_zero_of_tried {index : Nat} (h : (stagesAt t A index).tried a s) : index = 0 ∧ A.tried a s := by
  unfold stagesAt at h
  split at h
  · exact ⟨‹_›, h⟩
  · exact h.elim

structure RedrawsPlain (t : ValueTree τ α) (A : Stages τ α) (redraw : Redraw τ) : Prop where
  first : ∀ {seed s a}, (redraw seed 0).1 = .ok s → t.current s = .ok a → A.held a s
  others : ∀ {seed i s}, i ≠ 0 → (redraw seed i).1 = .ok s → t.Stuck s

theorem RedrawsPlain.held (h : RedrawsPlain t A redraw) {seed i : Nat} (hs : (redraw seed i).1 = .ok s)
    (ha : t.current s = .ok a) : (stagesAt t A i).held a s := by
  unfold stagesAt
  split
  · rename_i hi
    exact h.first (hi ▸ hs) ha
  · rename_i hi
    exact ⟨h.others hi hs, ha⟩

variable [BEq α]

theorem simplify_proposes (ht : t.Plain A R) (hredraw : RedrawsPlain t A redraw) (hp : (stages t A).held a p) :
    (simplify t redraw).Yields p
      (fun moved p' => if moved then (stages t A).tried a p' else (stages t A).spent a p') fun _ _ => True := by
  obtain ⟨s, hhere, hheld⟩ := hp
  unfold simplify
  rw [Act.yields_bind, yields_onHere hhere]
  by_cases hindex : p.index = 0
  · refine ((stagesAt_plain ht p.index).simplify a s hheld).mono (fun moved s' h => ?_) fun _ _ h => h
    cases moved with
    | true => exact .inl ⟨rfl, hindex, s', rfl, (eq_zero_of_tried h).2⟩
    | false =>
      have hfloor : p.index ≤ p.floor := hindex ▸ Nat.zero_le _
      show (stepDown redraw).Yields _ _ _
      rw [yields_stepDown, if_pos hfloor]
      exact ⟨hfloor, s', rfl, h⟩
  · -- Any other alternative is stuck, so the pick steps down to one that is drawn anew.
    have hstuck : t.stuckAt.held a s := by rwa [stagesAt, if_neg hindex] at hheld
    refine hstuck.1.simplify.mono (fun moved s' h => ?_) fun _ _ h => h.elim
    obtain ⟨rfl, rfl⟩ := h
    show (stepDown redraw).Yields _ _ _
    rw [yields_stepDown]
    split
    · rename_i hfloor
      refine ⟨hfloor, s', rfl, ?_⟩
      dsimp only
      rw [stagesAt, if_neg hindex]
      exact hstuck.1
    · exact .inr ⟨s', rfl, hstuck, fun s'' b hs hb => hredraw.held hs hb⟩

theorem complicate_offers [ReflBEq α] (ht : t.Plain A R) (hp : (stages t A).tried a p) :
    (complicate t).Yields p
      (fun moved p' =>
        if moved then ∀ b, (tree t redraw).current p' = .ok b →
          if b == a then (stages t A).back a p' else (stages t A).tried a p'
        else (stages t A).spent a p')
      fun _ _ => True := by
  rcases hp with ⟨hundo, hindex, s, hhere, htried⟩ | ⟨u, hundo, hstuck, -⟩
  · rw [yields_complicate hundo, yields_onHere hhere]
    have hfloor : p.index ≤ p.floor := hindex ▸ Nat.zero_le _
    have hat : stagesAt t A p.index = A := if_pos hindex
    refine (ht.complicate a s htried).mono (fun moved s' h => ?_) fun _ _ h => h
    cases moved with
    | false =>
      refine ⟨hfloor, s', rfl, ?_⟩
      dsimp only
      rw [hat]
      exact h
    | true =>
      intro b hb
      rw [current_of_here rfl] at hb
      have hstage := h b hb
      split
      · rename_i hbeq
        rw [if_pos hbeq] at hstage
        refine ⟨hundo, hfloor, s', rfl, ?_⟩
        dsimp only
        rw [hat]
        exact hstage
      · rename_i hbeq
        rw [if_neg hbeq] at hstage
        exact .inl ⟨hundo, hindex, s', rfl, hstage⟩
  · rw [yields_complicate_of_undo hundo, if_pos rfl]
    intro b hb
    rw [current_of_here rfl, hstuck.2] at hb
    obtain rfl := Except.ok.inj hb
    rw [if_pos BEq.rfl]
    refine ⟨rfl, Nat.le_refl _, u, rfl, ?_⟩
    dsimp only
    rw [stagesAt, if_neg (Nat.succ_ne_zero _)]
    exact hstuck.1

theorem tree_plain [ReflBEq α] (ht : t.Plain A R) (hredraw : RedrawsPlain t A redraw) :
    (tree t redraw).Plain (stages t A) fun _ _ => True where
  simplify a p hp := simplify_proposes ht hredraw hp
  keep a b p hp hb := by
    rcases hp with ⟨-, hindex, s, hhere, htried⟩ | ⟨u, -, -, hheld⟩
    · rw [current_of_here hhere] at hb
      refine ⟨s, hhere, ?_⟩
      dsimp only
      rw [stagesAt, if_pos hindex]
      exact ht.keep a b s htried hb
    · obtain ⟨s, hhere, hb⟩ := bind_eq_ok.1 hb
      exact ⟨s, hhere, hheld s b hhere hb⟩
  complicate a p hp := complicate_offers ht hp
  giveUp a p hp := by
    obtain ⟨-, hfloor, s, hhere, hback⟩ := hp
    exact ⟨hfloor, s, hhere, (stagesAt_plain ht p.index).giveUp a s hback⟩
  within _ _ _ _ _ := .inr trivial
  settled a p hp := by
    obtain ⟨hundo, hfloor, s, hhere, hback⟩ := hp
    show (complicate t).Yields p _ _
    rw [yields_complicate hundo, yields_onHere hhere]
    exact ((stagesAt_plain ht p.index).settled a s hback).mono (fun _ s' h => ⟨h.1, hfloor, s', rfl, h.2⟩)
      fun _ _ h => h
  rest a p hp := by
    obtain ⟨hfloor, s, hhere, hspent⟩ := hp
    show (simplify t redraw).Yields p _ _
    unfold simplify
    rw [Act.yields_bind, yields_onHere hhere]
    refine ((stagesAt_plain ht p.index).rest a s hspent).mono (fun moved s' h => ?_) fun _ _ h => h
    obtain ⟨rfl, hspent'⟩ := h
    show (stepDown redraw).Yields _ _ _
    rw [yields_stepDown, if_pos hfloor]
    exact ⟨rfl, hfloor, s', rfl, hspent'⟩

end Pick
end StateCheck
