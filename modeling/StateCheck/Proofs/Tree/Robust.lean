import StateCheck.Tree.Filter
import StateCheck.Proofs.Yields

/-! Trees that can back off. A state of such a tree shows a value with a given property, and after any move
that left the property, complicating leads back to it. Faults may only be of a given kind. -/

namespace StateCheck.ValueTree
variable {σ α β : Type} {t : ValueTree σ α} {E : Fault → Prop} {P Q : α → Prop} {R L L' : σ → Prop} {s : σ}

def Shows (t : ValueTree σ α) (E : Fault → Prop) (P : α → Prop) (s : σ) : Prop :=
  (∀ a, t.current s = .ok a → P a) ∧ ∀ e, t.current s = .error e → E e

theorem Shows.mono (h : t.Shows E P s) (hPQ : ∀ a, t.current s = .ok a → P a → Q a) : t.Shows E Q s :=
  ⟨fun a ha => hPQ a ha (h.1 a ha), h.2⟩

/-- The state is one of `R`, or complicating leads on to `L` with less slack. -/
def BacksTo (t : ValueTree σ α) (E : Fault → Prop) (P : α → Prop) (R L : σ → Prop) (s : σ) : Prop :=
  t.Shows E (fun a => (P a → R s) ∧ (¬P a → t.complicate.Yields s
    (fun moved s' => moved = true ∧ t.slack s' < t.slack s ∧ L s') fun e _ => E e)) s

theorem BacksTo.mono (h : t.BacksTo E P R L s) (hL : ∀ s', L s' → L' s') : t.BacksTo E P R L' s :=
  Shows.mono h fun _ _ ha => ⟨ha.1, fun hnot =>
    (ha.2 hnot).mono (fun _ s' h => ⟨h.1, h.2.1, hL s' h.2.2⟩) fun _ _ h => h⟩

def BacksWithin (t : ValueTree σ α) (E : Fault → Prop) (P : α → Prop) (R : σ → Prop) : Nat → σ → Prop
  | 0, _ => False
  | n + 1, s => t.BacksTo E P R (BacksWithin t E P R n) s

def Lands (t : ValueTree σ α) (E : Fault → Prop) (P : α → Prop) (R : σ → Prop) (s : σ) : Prop :=
  ∃ n, t.BacksWithin E P R n s

theorem Lands.induct (hstep : ∀ s, t.BacksTo E P R L s → L s) (h : t.Lands E P R s) : L s := by
  obtain ⟨n, hn⟩ := h
  induction n generalizing s with
  | zero => exact hn.elim
  | succ n ih => exact hstep s (hn.mono fun _ => ih)

theorem Lands.fold (h : t.BacksTo E P R (t.Lands E P R) s) : t.Lands E P R s := by
  -- The state that complicating leads to is the same for every value, so its bound is.
  have hbound : ∃ n, ∀ moved s', (t.complicate s).answer = .ok moved → (t.complicate s).state = s' →
      t.Lands E P R s' → t.BacksWithin E P R n s' := by
    by_cases hlands : t.Lands E P R (t.complicate s).state
    · obtain ⟨n, hn⟩ := hlands
      exact ⟨n, fun _ _ _ hs' _ => hs' ▸ hn⟩
    · exact ⟨0, fun _ _ _ hs' h => absurd (hs' ▸ h) hlands⟩
  obtain ⟨n, hn⟩ := hbound
  refine ⟨n + 1, Shows.mono h fun a _ ha => ⟨ha.1, fun hnot => ?_⟩⟩
  refine ((ha.2 hnot).and (t.complicate.yields_self s)).mono (fun moved s' h => ?_) (fun _ _ h => h.1)
  exact ⟨h.1.1, h.1.2.1, hn moved s' h.2.1 h.2.2 h.1.2.2⟩

theorem Lands.of_shows (h : t.Shows E P s) (hs : R s) : t.Lands E P R s :=
  .fold (h.mono fun _ _ ha => ⟨fun _ => hs, fun hnot => absurd ha hnot⟩)

theorem Lands.shows (h : t.Lands E P R s) (hP : ∀ a, P a) :
    t.Shows E (fun _ => R s) s := by
  obtain ⟨n, hn⟩ := h
  cases n with
  | zero => exact hn.elim
  | succ n => exact Shows.mono hn fun a _ ha => ha.1 (hP a)

def Ends (t : ValueTree σ α) (E : Fault → Prop) (P : α → Prop) (R : σ → Prop) (s : σ) : Bool → σ → Prop
  | true, s' => t.Lands E P R s'
  | false, s' => R s' ∧ t.current s' = t.current s

structure Backs (t : ValueTree σ α) (E : Fault → Prop) (P : α → Prop) (R : σ → Prop) : Prop where
  shows : ∀ {s}, R s → t.Shows E P s
  simplify : ∀ {s}, R s → t.simplify.Yields s (t.Ends E P R s) fun e _ => E e
  complicate : ∀ {s}, R s → t.complicate.Yields s (t.Ends E P R s) fun e _ => E e

/-- The greatest predicate that backs the property. -/
def Robust (t : ValueTree σ α) (E : Fault → Prop) (P : α → Prop) (s : σ) : Prop := ∃ R, t.Backs E P R ∧ R s

theorem Lands.mono {R' : σ → Prop} (hR : ∀ s, R s → R' s) (h : t.Lands E P R s) : t.Lands E P R' s :=
  h.induct fun s' hs' => .fold (Shows.mono hs' fun _ _ ha => ⟨fun hP => hR s' (ha.1 hP), ha.2⟩)

theorem Ends.mono {R' : σ → Prop} (hR : ∀ s, R s → R' s) {moved : Bool} {s' : σ}
    (h : t.Ends E P R s moved s') : t.Ends E P R' s moved s' := by
  cases moved with
  | true => exact Lands.mono hR h
  | false => exact ⟨hR s' h.1, h.2⟩

theorem Ends.of_current {moved : Bool} {s₀ s' : σ} (h : t.Ends E P R s moved s')
    (hs : t.current s = t.current s₀) : t.Ends E P R s₀ moved s' := by
  cases moved with
  | true => exact h
  | false => exact ⟨h.1, h.2.trans hs⟩

theorem Backs.robust (h : t.Backs E P R) (hs : R s) : t.Robust E P s := ⟨R, h, hs⟩

theorem robust_backs (t : ValueTree σ α) (E : Fault → Prop) (P : α → Prop) : t.Backs E P (t.Robust E P) where
  shows := fun ⟨_, hR, hs⟩ => hR.shows hs
  simplify := fun ⟨_, hR, hs⟩ =>
    (hR.simplify hs).mono (fun _ _ h => h.mono fun _ => hR.robust) fun _ _ h => h
  complicate := fun ⟨_, hR, hs⟩ =>
    (hR.complicate hs).mono (fun _ _ h => h.mono fun _ => hR.robust) fun _ _ h => h

/-- A state as drawn: it can back off to whatever its value satisfies. -/
def Fresh (t : ValueTree σ α) (E : Fault → Prop) (s : σ) : Prop :=
  ∃ a, t.current s = .ok a ∧ ∀ P : α → Prop, P a → t.Robust E P s

theorem Fresh.robust (h : t.Fresh E s) (hP : ∀ a, t.current s = .ok a → P a) : t.Robust E P s := by
  obtain ⟨a, ha, hrobust⟩ := h
  exact hrobust P (hP a ha)

theorem Fresh.robust_true (h : t.Fresh E s) : t.Robust E (fun _ => True) s :=
  h.robust fun _ _ => trivial

theorem Fresh.ends (h : t.Fresh E s) {s' : σ} (hanswer : (t.simplify s).answer = .ok false)
    (hstate : (t.simplify s).state = s') : t.Fresh E s' ∧ t.current s' = t.current s := by
  obtain ⟨a, ha, hrobust⟩ := h
  have hends (P : α → Prop) (hP : P a) : t.Robust E P s' ∧ t.current s' = t.current s :=
    hstate ▸ ((t.robust_backs E P).simplify (hrobust P hP)).of_ok hanswer
  have hsame := (hends (fun _ => True) trivial).2
  exact ⟨⟨a, hsame.trans ha, fun P hP => (hends P hP).1⟩, hsame⟩

theorem fixed_fresh (a : α) : (fixed a).Fresh E () := by
  refine ⟨a, rfl, fun P hP => Backs.robust (R := fun _ => True) ⟨fun _ => ⟨?_, nofun⟩, ?_, ?_⟩ trivial⟩
  · rintro a ⟨⟩
    exact hP
  · exact fun _ => ⟨trivial, rfl⟩
  · exact fun _ => ⟨trivial, rfl⟩

section map
variable {f : α → Except Fault β} {P : β → Prop}

theorem Shows.map (hf : ∀ a, ∃ b, f a = .ok b) (h : t.Shows E (fun a => ∀ b, f a = .ok b → P b) s) :
    (t.map f).Shows E P s := by
  refine ⟨?_, ?_⟩
  · intro b hb
    obtain ⟨a, ha, hb⟩ := bind_eq_ok.1 hb
    exact h.1 a ha b hb
  · intro e he
    rcases bind_eq_error.1 he with he | ⟨a, -, he⟩
    · exact h.2 e he
    · obtain ⟨b, hb⟩ := hf a
      rw [hb] at he
      cases he

theorem Lands.map (hf : ∀ a, ∃ b, f a = .ok b) (h : t.Lands E (fun a => ∀ b, f a = .ok b → P b) R s) :
    (t.map f).Lands E P R s := by
  refine h.induct fun s hs => .fold (Shows.map hf (Shows.mono hs fun a _ ha b hb => ?_))
  have hall (hP : P b) (b' : β) (hb' : f a = .ok b') : P b' := by
    rw [hb] at hb'
    cases hb'
    exact hP
  exact ⟨fun hP => ha.1 (hall hP), fun hnot => ha.2 fun hP => hnot (hP b hb)⟩

theorem Robust.map (hf : ∀ a, ∃ b, f a = .ok b) (h : t.Robust E (fun a => ∀ b, f a = .ok b → P b) s) :
    (t.map f).Robust E P s := by
  have hbacks := t.robust_backs E fun a => ∀ b, f a = .ok b → P b
  have hends {s s' : σ} {moved : Bool} (h : t.Ends E (fun a => ∀ b, f a = .ok b → P b)
      (t.Robust E fun a => ∀ b, f a = .ok b → P b) s moved s') :
      (t.map f).Ends E P (t.Robust E fun a => ∀ b, f a = .ok b → P b) s moved s' := by
    cases moved with
    | true => exact Lands.map hf h
    | false => exact ⟨h.1, congrArg (· >>= f) h.2⟩
  refine Backs.robust ⟨fun hs => (hbacks.shows hs).map hf, fun hs => ?_, fun hs => ?_⟩ h
  · exact (hbacks.simplify hs).mono (fun _ _ => hends) fun _ _ h => h
  · exact (hbacks.complicate hs).mono (fun _ _ => hends) fun _ _ h => h

theorem Fresh.map (hf : ∀ a, ∃ b, f a = .ok b) (h : t.Fresh E s) : (t.map f).Fresh E s := by
  obtain ⟨a, ha, hrobust⟩ := h
  obtain ⟨b, hb⟩ := hf a
  refine ⟨b, bind_eq_ok.2 ⟨a, ha, hb⟩, fun P hP => .map hf (hrobust _ fun b' hb' => ?_)⟩
  rw [hb] at hb'
  cases hb'
  exact hP

end map

section tagged
variable {κ : Type} {State : κ → Type} {trees : (k : κ) → ValueTree (State k) α} {k : κ} {s : State k}

theorem Lands.tagged (h : (trees k).Lands E P ((trees k).Robust E P) s) :
    (ValueTree.tagged trees).Lands E P (fun p => (trees p.1).Robust E P p.2) ⟨k, s⟩ :=
  h.induct (L := fun s => (ValueTree.tagged trees).Lands E P _ ⟨k, s⟩) fun _ hs => .fold hs

theorem Ends.tagged {moved : Bool} {s' : State k}
    (h : (trees k).Ends E P ((trees k).Robust E P) s moved s') :
    (ValueTree.tagged trees).Ends E P (fun p => (trees p.1).Robust E P p.2) ⟨k, s⟩ moved ⟨k, s'⟩ := by
  cases moved with
  | true => exact Lands.tagged h
  | false => exact h

theorem Robust.tagged (h : (trees k).Robust E P s) : (ValueTree.tagged trees).Robust E P ⟨k, s⟩ := by
  have hbacks (k : κ) := (trees k).robust_backs E P
  refine Backs.robust (R := fun p => (trees p.1).Robust E P p.2) ⟨?_, ?_, ?_⟩ h
  · exact fun {p} hp => (hbacks p.1).shows hp
  · rintro ⟨k, s⟩ hs
    show ((trees k).simplify).Yields s
      (fun moved s' => (ValueTree.tagged trees).Ends E P _ ⟨k, s⟩ moved ⟨k, s'⟩) fun e _ => E e
    exact ((hbacks k).simplify hs).mono (fun _ _ h => h.tagged) fun _ _ h => h
  · rintro ⟨k, s⟩ hs
    show ((trees k).complicate).Yields s
      (fun moved s' => (ValueTree.tagged trees).Ends E P _ ⟨k, s⟩ moved ⟨k, s'⟩) fun e _ => E e
    exact ((hbacks k).complicate hs).mono (fun _ _ h => h.tagged) fun _ _ h => h

theorem Fresh.tagged (h : (trees k).Fresh E s) : (ValueTree.tagged trees).Fresh E ⟨k, s⟩ := by
  obtain ⟨a, ha, hrobust⟩ := h
  exact ⟨a, ha, fun P hP => (hrobust P hP).tagged⟩

end tagged

section filter
variable {accepts : α → Except Fault Bool} {whence : String}

theorem Lands.settle (haccepts : ∀ a, ∃ b, accepts a = .ok b)
    (h : t.Lands E (fun a => accepts a = .ok true ∧ P a) R s) :
    (t.Shows E (fun a => accepts a = .ok true) s → (t.filter accepts whence).Lands E P R s) ∧
    ∀ fuel rejects, t.slack s < fuel → (t.settle accepts whence fuel rejects).Yields s
      (fun _ s' => (t.filter accepts whence).Lands E P R s' ∧ t.slack s' ≤ t.slack s) fun e _ => E e := by
  refine h.induct (L := fun s => (t.Shows E (fun a => accepts a = .ok true) s →
    (t.filter accepts whence).Lands E P R s) ∧ ∀ fuel rejects, t.slack s < fuel →
      (t.settle accepts whence fuel rejects).Yields s
      (fun _ s' => (t.filter accepts whence).Lands E P R s' ∧ t.slack s' ≤ t.slack s) fun e _ => E e)
    fun s hs => ?_
  have hlands (hshows : t.Shows E (fun a => accepts a = .ok true) s) :
      (t.filter accepts whence).Lands E P R s := by
    refine .fold (Shows.mono hs fun a ha hback => ⟨fun hP => hback.1 ⟨hshows.1 a ha, hP⟩, fun hnot => ?_⟩)
    show (settled t accepts whence t.complicate).Yields s _ _
    unfold settled
    rw [Act.yields_bind]
    refine (hback.2 fun h => hnot h.2).mono (fun moved s' h => ?_) (fun _ _ h => h)
    obtain ⟨rfl, hslack, -, hsettle⟩ := h
    rw [if_pos rfl, Act.yields_bind, Act.yields_get, Act.yields_bind]
    refine (hsettle _ _ (Nat.lt_succ_self _)).mono (fun _ s'' h => ?_) (fun _ _ h => h)
    exact ⟨rfl, Nat.lt_of_le_of_lt h.2 hslack, h.1⟩
  refine ⟨hlands, ?_⟩
  intro fuel rejects hfuel
  cases fuel with
  | zero => exact absurd hfuel (Nat.not_lt_zero _)
  | succ fuel =>
    unfold ValueTree.settle
    rw [Act.yields_bind, Act.yields_ask]
    refine ⟨?_, ?_⟩
    · intro acceptable hacceptable
      obtain ⟨a, ha, hacceptable⟩ := bind_eq_ok.1 hacceptable
      cases acceptable with
      | true =>
        refine ⟨hlands ⟨fun a' ha' => ?_, hs.2⟩, Nat.le_refl _⟩
        rw [ha] at ha'
        cases ha'
        exact hacceptable
      | false =>
        rw [if_neg Bool.false_ne_true, Act.yields_bind]
        have hnot : ¬(accepts a = .ok true ∧ P a) := fun h => by
          rw [hacceptable] at h
          cases h.1
        refine ((hs.1 a ha).2 hnot).mono (fun moved s' h => ?_) (fun _ _ h => h)
        obtain ⟨rfl, hslack, -, hsettle⟩ := h
        rw [if_pos rfl]
        refine (hsettle fuel (rejects + 1) (by omega)).mono (fun _ s'' h => ?_) (fun _ _ h => h)
        exact ⟨h.1, Nat.le_trans h.2 (Nat.le_of_lt hslack)⟩
    · intro e he
      rcases bind_eq_error.1 he with he | ⟨a, -, he⟩
      · exact hs.2 e he
      · obtain ⟨b, hb⟩ := haccepts a
        rw [hb] at he
        cases he

theorem Robust.filter (haccepts : ∀ a, ∃ b, accepts a = .ok b)
    (h : t.Robust E (fun a => accepts a = .ok true ∧ P a) s) : (t.filter accepts whence).Robust E P s := by
  have hbacks := t.robust_backs E fun a => accepts a = .ok true ∧ P a
  have hsettled {move : Act σ Bool} {s : σ} (hmove : move.Yields s (t.Ends E (fun a => accepts a = .ok true ∧ P a)
      (t.Robust E fun a => accepts a = .ok true ∧ P a) s) fun e _ => E e) :
      (settled t accepts whence move).Yields s ((t.filter accepts whence).Ends E P
        (t.Robust E fun a => accepts a = .ok true ∧ P a) s) fun e _ => E e := by
    unfold settled
    rw [Act.yields_bind]
    refine hmove.mono (fun moved s' h => ?_) (fun _ _ h => h)
    cases moved with
    | true =>
      rw [if_pos rfl, Act.yields_bind, Act.yields_get, Act.yields_bind]
      exact ((Lands.settle haccepts h).2 _ _ (Nat.lt_succ_self _)).mono (fun _ _ h => h.1) fun _ _ h => h
    | false => exact h
  exact Backs.robust ⟨fun hs => (hbacks.shows hs).mono fun _ _ h => h.2,
    fun hs => hsettled (hbacks.simplify hs), fun hs => hsettled (hbacks.complicate hs)⟩ h

theorem Fresh.filter (haccepts : ∀ a, ∃ b, accepts a = .ok b) (h : t.Fresh E s)
    (hs : ∀ a, t.current s = .ok a → accepts a = .ok true) : (t.filter accepts whence).Fresh E s := by
  obtain ⟨a, ha, hrobust⟩ := h
  exact ⟨a, ha, fun P hP => .filter haccepts (hrobust _ ⟨hs a ha, hP⟩)⟩

end filter

end StateCheck.ValueTree
