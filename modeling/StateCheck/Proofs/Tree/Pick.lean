import StateCheck.Tree.Pick
import StateCheck.Proofs.Tree.Robust

/-! A pick backs off when its alternatives do, also from an alternative that was drawn on demand. If that
draw raised, so does every use of the alternative. -/

namespace StateCheck.Pick
variable {τ α : Type} {t : ValueTree τ α} {redraw : Redraw τ} {E : Fault → Prop} {P : α → Prop}
  {p : Pick τ} {s : τ} {total : Nat}

structure Redraws (t : ValueTree τ α) (E : Fault → Prop) (total : Nat) (redraw : Redraw τ) : Prop where
  fresh : ∀ {seed i s}, i < total → (redraw seed i).1 = .ok s → t.Fresh E s
  raised : ∀ {seed i e}, i < total → (redraw seed i).1 = .error e → E e

structure Kept (t : ValueTree τ α) (E : Fault → Prop) (P : α → Prop) (total : Nat) (p : Pick τ) : Prop where
  index : p.index ≤ total
  here : ∀ s, p.here = .ok s → t.Robust E P s
  raised : ∀ e, p.here = .error e → E e
  undo : ∀ s, p.undo = some s → t.Robust E P s ∧ p.index + 1 ≤ total

theorem Kept.moved (h : Kept t E P total p) (hs : t.Robust E P s) :
    Kept t E P total { p with here := .ok s } where
  index := h.index
  here := by
    rintro s' ⟨⟩
    exact hs
  raised := nofun
  undo := h.undo

theorem yields_onHere (hs : p.here = .ok s) (x : Act τ Bool) {Q : Bool → Pick τ → Prop}
    {F : Fault → Pick τ → Prop} : (onHere x).Yields p Q F ↔
      x.Yields s (fun moved s' => Q moved { p with here := .ok s' })
        (fun e s' => F e { p with here := .ok s' }) := by
  unfold Act.Yields onHere
  rw [hs]

theorem yields_onHere_of_error {e : Fault} (he : p.here = .error e) (x : Act τ Bool)
    {Q : Bool → Pick τ → Prop} {F : Fault → Pick τ → Prop} : (onHere x).Yields p Q F ↔ F e p := by
  unfold Act.Yields onHere
  rw [he]

theorem yields_complicate (hundo : p.undo = none) {Q : Bool → Pick τ → Prop} {F : Fault → Pick τ → Prop} :
    (complicate t).Yields p Q F ↔ (onHere t.complicate).Yields p Q F := by
  unfold Act.Yields complicate
  rw [hundo]

theorem yields_complicate_of_undo (hundo : p.undo = some s) {Q : Bool → Pick τ → Prop}
    {F : Fault → Pick τ → Prop} : (complicate t).Yields p Q F ↔
      Q true { p with index := p.index + 1, here := .ok s, floor := p.index + 1, undo := none } := by
  unfold Act.Yields complicate
  rw [hundo]

theorem yields_stepDown {Q : Bool → Pick τ → Prop} {F : Fault → Pick τ → Prop} :
    (stepDown redraw).Yields p Q F ↔ if p.index ≤ p.floor then Q false p
      else Q true { p with
        index := p.index - 1
        here := (redraw p.seed (p.index - 1)).1
        undo := p.here.toOption } := by
  unfold Act.Yields stepDown
  by_cases hfloor : p.index ≤ p.floor
  · rw [if_pos hfloor, if_pos hfloor]
  · rw [if_neg hfloor, if_neg hfloor]

theorem yields_simplify (hs : p.here = .ok s) {Q : Bool → Pick τ → Prop} {F : Fault → Pick τ → Prop} :
    (tree t redraw).simplify.Yields p Q F ↔ t.simplify.Yields s
      (fun moved s' => if moved then Q true { p with here := .ok s', undo := none }
        else (stepDown redraw).Yields { p with here := .ok s' } Q F)
      fun e s' => F e { p with here := .ok s' } := by
  show (simplify t redraw).Yields p Q F ↔ _
  unfold simplify
  rw [Act.yields_bind, yields_onHere hs]
  refine Act.yields_iff (fun moved s' => ?_) fun _ _ => Iff.rfl
  cases moved with
  | true => rfl
  | false => rfl

theorem simplify_cases {Q : Bool → Pick τ → Prop} {F : Fault → Pick τ → Prop}
    (hraised : ∀ e, p.here = .error e → F e p)
    (hheld : ∀ s, p.here = .ok s → t.simplify.Yields s
      (fun moved s' => if moved then Q true { p with here := .ok s', undo := none }
        else (stepDown redraw).Yields { p with here := .ok s' } Q F)
      fun e s' => F e { p with here := .ok s' }) : (tree t redraw).simplify.Yields p Q F := by
  cases hhere : p.here with
  | error e =>
    show (simplify t redraw).Yields p Q F
    unfold simplify
    rw [Act.yields_bind]
    exact (yields_onHere_of_error hhere _).2 (hraised e hhere)
  | ok s =>
    rw [yields_simplify hhere]
    exact hheld s hhere

theorem complicate_cases {Q : Bool → Pick τ → Prop} {F : Fault → Pick τ → Prop}
    (hbehind : ∀ s, p.undo = some s →
      Q true { p with index := p.index + 1, here := .ok s, floor := p.index + 1, undo := none })
    (hraised : ∀ e, p.here = .error e → F e p)
    (hheld : ∀ s, p.undo = none → p.here = .ok s → t.complicate.Yields s
      (fun moved s' => Q moved { p with here := .ok s' })
      fun e s' => F e { p with here := .ok s' }) : (tree t redraw).complicate.Yields p Q F := by
  show (complicate t).Yields p Q F
  cases hundo : p.undo with
  | some s =>
    rw [yields_complicate_of_undo hundo]
    exact hbehind s hundo
  | none =>
    rw [yields_complicate hundo]
    cases hhere : p.here with
    | error e => exact (yields_onHere_of_error hhere _).2 (hraised e hhere)
    | ok s =>
      rw [yields_onHere hhere]
      exact hheld s hundo hhere

theorem current_of_here (hs : p.here = .ok s) : (tree t redraw).current p = t.current s := by
  show p.here >>= t.current = t.current s
  rw [hs]
  rfl

theorem shows_of_here {Q : α → Prop} (hs : p.here = .ok s) :
    (tree t redraw).Shows E Q p ↔ t.Shows E Q s := by
  unfold ValueTree.Shows
  rw [current_of_here hs]

theorem shows_of_raised {Q : α → Prop} {e : Fault} (hp : p.here = .error e) (he : E e) :
    (tree t redraw).Shows E Q p := by
  have hcurrent : (tree t redraw).current p = .error e := by
    show p.here >>= t.current = .error e
    rw [hp]
    rfl
  refine ⟨?_, ?_⟩
  · intro a ha
    rw [hcurrent] at ha
    cases ha
  · intro e' he'
    rw [hcurrent] at he'
    cases he'
    exact he

theorem lands_of_here (h : t.Lands E P (t.Robust E P) s) (hs : p.here = .ok s) (hundo : p.undo = none)
    (hindex : p.index ≤ total) : (tree t redraw).Lands E P (Kept t E P total) p := by
  have hall := h.induct (L := fun s => ∀ p : Pick τ, p.here = .ok s → p.undo = none → p.index ≤ total →
    (tree t redraw).Lands E P (Kept t E P total) p) fun s hs p hhere hundo hindex => ?_
  · exact hall p hs hundo hindex
  · refine .fold ((shows_of_here hhere).2 (ValueTree.Shows.mono hs fun a _ ha => ⟨fun hP => ?_, fun hnot => ?_⟩))
    · refine ⟨hindex, ?_, ?_, ?_⟩
      · intro s' hs'
        rw [hhere] at hs'
        cases hs'
        exact ha.1 hP
      · intro e he
        rw [hhere] at he
        cases he
      · intro s' hs'
        rw [hundo] at hs'
        cases hs'
    · show (complicate t).Yields p _ _
      rw [yields_complicate hundo, yields_onHere hhere]
      refine (ha.2 hnot).mono (fun moved s' h => ?_) (fun _ _ h => h)
      obtain ⟨hmoved, hslack, hlands⟩ := h
      refine ⟨hmoved, ?_, hlands _ rfl hundo hindex⟩
      have hslackOf {p : Pick τ} {s : τ} (hhere : p.here = .ok s) (hundo : p.undo = none) :
          (tree t redraw).slack p = t.slack s := by
        show slack t p = t.slack s
        unfold slack
        rw [hhere, hundo]
      rw [hslackOf hhere hundo, hslackOf (p := { p with here := .ok s' }) rfl hundo]
      exact hslack

theorem kept_lands (h : Kept t E P total p) (hundo : p.undo = none) (hs : p.here = .ok s) :
    (tree t redraw).Lands E P (Kept t E P total) p :=
  lands_of_here (.of_shows ((t.robust_backs E P).shows (h.here s hs)) (h.here s hs)) hs hundo h.index

theorem undone_lands (hs : t.Robust E P s) (hindex : p.index + 1 ≤ total) : (tree t redraw).Lands E P
    (Kept t E P total)
    { p with index := p.index + 1, here := .ok s, floor := p.index + 1, undo := none } := by
  refine kept_lands ⟨hindex, ?_, nofun, nofun⟩ rfl rfl
  rintro s' ⟨⟩
  exact hs

theorem steppedDown_lands (hredraw : Redraws t E total redraw) (hs : t.Robust E P s) (hhere : p.here = .ok s)
    (hindex : p.index ≤ total) (hfloor : ¬p.index ≤ p.floor) : (tree t redraw).Lands E P (Kept t E P total)
    { p with
      index := p.index - 1
      here := (redraw p.seed (p.index - 1)).1
      undo := p.here.toOption } := by
  have hlt : p.index - 1 < total := by omega
  rw [hhere, Except.toOption]
  refine .fold ?_
  cases hdrawn : (redraw p.seed (p.index - 1)).1 with
  -- The pick then shows the fault of the draw.
  | error e => exact shows_of_raised rfl (hredraw.raised hlt hdrawn)
  | ok s₁ =>
    refine (shows_of_here rfl).2 ?_
    have hfresh := hredraw.fresh hlt hdrawn
    obtain ⟨a, ha, hrobust⟩ := hfresh
    refine ⟨fun a' ha' => ⟨fun hP => ?_, fun _ => ?_⟩, ?_⟩
    · rw [ha] at ha'
      cases ha'
      refine ⟨Nat.le_of_lt hlt, ?_, nofun, ?_⟩
      · rintro s' ⟨⟩
        exact hrobust P hP
      · rintro s' ⟨⟩
        exact ⟨hs, by dsimp only; omega⟩
    · show (complicate t).Yields _ _ _
      rw [yields_complicate_of_undo rfl]
      exact ⟨rfl, Nat.lt_succ_self _, undone_lands hs (by dsimp only; omega)⟩
    · intro e he
      rw [ha] at he
      cases he

theorem kept_backs (hredraw : Redraws t E total redraw) (P : α → Prop) :
    (tree t redraw).Backs E P (Kept t E P total) where
  shows := fun {p} hp => by
    cases hhere : p.here with
    | ok s => exact (shows_of_here hhere).2 ((t.robust_backs E P).shows (hp.here s hhere))
    | error e => exact shows_of_raised hhere (hp.raised e hhere)
  simplify := fun {p} hp => simplify_cases hp.raised fun s hhere => by
    refine ((t.robust_backs E P).simplify (hp.here s hhere)).mono (fun moved s' h => ?_) (fun _ _ h => h)
    cases moved with
    | true => exact lands_of_here h rfl rfl hp.index
    | false =>
      rw [if_neg Bool.false_ne_true, yields_stepDown]
      split
      · exact ⟨hp.moved h.1, (current_of_here rfl).trans (h.2.trans (current_of_here hhere).symm)⟩
      · exact steppedDown_lands hredraw h.1 rfl hp.index ‹_›
  complicate := fun {p} hp => by
    refine complicate_cases (fun s hundo => ?_) hp.raised fun s hundo hhere => ?_
    · exact undone_lands (hp.undo s hundo).1 (hp.undo s hundo).2
    · refine ((t.robust_backs E P).complicate (hp.here s hhere)).mono (fun moved s' h => ?_) (fun _ _ h => h)
      cases moved with
      | true => exact lands_of_here h rfl hundo hp.index
      | false => exact ⟨hp.moved h.1, (current_of_here rfl).trans (h.2.trans (current_of_here hhere).symm)⟩

theorem fresh (hredraw : Redraws t E total redraw) (hs : t.Fresh E s) {index seed : Nat} (hindex : index ≤ total) :
    (tree t redraw).Fresh E { index := index, here := .ok s, seed := seed } := by
  obtain ⟨a, ha, hrobust⟩ := hs
  refine ⟨a, ha, fun P hP => (kept_backs hredraw P).robust ⟨hindex, ?_, nofun, nofun⟩⟩
  rintro s' ⟨⟩
  exact hrobust P hP

end StateCheck.Pick
