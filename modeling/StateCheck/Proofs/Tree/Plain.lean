import StateCheck.Proofs.Tree.Rank
import StateCheck.Proofs.Tree.Search
import StateCheck.Proofs.Tree.Stages
import Mathlib.Logic.Relation

/-! Plain trees search along one line: once they are backed off to the value held they have nothing left. Filters, and
maps that keep apart what a tree may show, are plain if what they are made of is. -/

namespace StateCheck

/-- A tree that was given up stays so, also if it backed off to the value held. What may be tried in place of a value
is related to it. -/
structure ValueTree.Plain {σ α : Type} [BEq α] (t : ValueTree σ α) (A : Stages σ α) (R : α → α → Prop) : Prop
    extends t.Staged A where
  within : ∀ a b s, A.tried a s → t.current s = .ok b → a = b ∨ R a b
  settled : ∀ a s, A.back a s →
    t.complicate.Yields s (fun moved s' => moved = false ∧ A.spent a s') fun _ _ => False
  rest : ∀ a s, A.spent a s → t.simplify.Yields s (fun moved s' => moved = false ∧ A.spent a s') fun _ _ => False

structure ValueTree.Stuck {σ α : Type} (t : ValueTree σ α) (s : σ) : Prop where
  simplify : t.simplify.Yields s (fun moved s' => moved = false ∧ s' = s) fun _ _ => False
  complicate : t.complicate.Yields s (fun moved s' => moved = false ∧ s' = s) fun _ _ => False

namespace ValueTree
variable {σ α β : Type} {t : ValueTree σ α} {A : Stages σ α} {R : α → α → Prop} {a : α} {s : σ}

theorem fixed_stuck (a : α) : (fixed a).Stuck () := ⟨⟨rfl, rfl⟩, ⟨rfl, rfl⟩⟩

theorem Stuck.map (hs : t.Stuck s) (f : α → Except Fault β) : (t.map f).Stuck s := ⟨hs.simplify, hs.complicate⟩

section tagged
variable {κ : Type} {State : κ → Type} {trees : (k : κ) → ValueTree (State k) α} {k : κ} {s : State k}
  {Q : Bool → (k : κ) × State k → Prop} {E : Fault → (k : κ) × State k → Prop}

theorem yields_tagged_simplify : (tagged trees).simplify.Yields ⟨k, s⟩ Q E ↔
    (trees k).simplify.Yields s (fun moved s' => Q moved ⟨k, s'⟩) fun e s' => E e ⟨k, s'⟩ := Iff.rfl

theorem yields_tagged_complicate : (tagged trees).complicate.Yields ⟨k, s⟩ Q E ↔
    (trees k).complicate.Yields s (fun moved s' => Q moved ⟨k, s'⟩) fun e s' => E e ⟨k, s'⟩ := Iff.rfl

theorem Stuck.tagged (hs : (trees k).Stuck s) : (ValueTree.tagged trees).Stuck ⟨k, s⟩ where
  simplify := by
    rw [yields_tagged_simplify]
    exact hs.simplify.mono (fun _ _ h => ⟨h.1, congrArg _ h.2⟩) fun _ _ h => h
  complicate := by
    rw [yields_tagged_complicate]
    exact hs.complicate.mono (fun _ _ h => ⟨h.1, congrArg _ h.2⟩) fun _ _ h => h

end tagged

def stuckAt (t : ValueTree σ α) : Stages σ α where
  held a s := t.Stuck s ∧ t.current s = .ok a
  tried _ _ := False
  back _ s := t.Stuck s
  spent _ s := t.Stuck s

theorem stuckAt_plain [BEq α] (t : ValueTree σ α) (R : α → α → Prop) : t.Plain t.stuckAt R where
  simplify a s hs := hs.1.simplify.mono
    (fun moved s' h => by
      obtain ⟨rfl, rfl⟩ := h
      exact hs.1)
    fun _ _ h => h.elim
  keep _ _ _ hs := hs.elim
  complicate _ _ hs := hs.elim
  giveUp _ _ hs := hs
  within _ _ _ hs := hs.elim
  settled a s hs := hs.complicate.mono
    (fun moved s' h => by
      obtain ⟨rfl, rfl⟩ := h
      exact ⟨rfl, hs⟩)
    fun _ _ h => h
  rest a s hs := hs.simplify.mono
    (fun moved s' h => by
      obtain ⟨rfl, rfl⟩ := h
      exact ⟨rfl, hs⟩)
    fun _ _ h => h

theorem Plain.mono [BEq α] (ht : t.Plain A R) {R' : α → α → Prop} (hR : ∀ a b, R a b → R' a b) : t.Plain A R' :=
  { ht with within := fun a b s hs hb => (ht.within a b s hs hb).imp_right (hR a b) }

def tagStages {κ : Type} {State : κ → Type} (A : (k : κ) → Stages (State k) α) : Stages ((k : κ) × State k) α where
  held a p := (A p.1).held a p.2
  tried a p := (A p.1).tried a p.2
  back a p := (A p.1).back a p.2
  spent a p := (A p.1).spent a p.2

theorem Plain.tagged [BEq α] {κ : Type} {State : κ → Type} {trees : (k : κ) → ValueTree (State k) α}
    {A : (k : κ) → Stages (State k) α} (h : ∀ k, (trees k).Plain (A k) R) :
    (ValueTree.tagged trees).Plain (tagStages A) R where
  simplify a p hp := (h p.1).simplify a p.2 hp
  keep a b p hp hb := (h p.1).keep a b p.2 hp hb
  complicate a p hp := (h p.1).complicate a p.2 hp
  giveUp a p hp := (h p.1).giveUp a p.2 hp
  within a b p hp hb := (h p.1).within a b p.2 hp hb
  settled a p hp := (h p.1).settled a p.2 hp
  rest a p hp := (h p.1).rest a p.2 hp

end ValueTree

namespace ValueTree
variable {σ α β : Type} {t : ValueTree σ α} {A : Stages σ α} {R : α → α → Prop} {f : α → Except Fault β}

def mapStages (A : Stages σ α) (f : α → Except Fault β) : Stages σ β where
  held b s := ∃ a, f a = .ok b ∧ A.held a s
  tried b s := ∃ a, f a = .ok b ∧ A.tried a s
  back _ s := ∃ a, A.back a s
  spent _ s := ∃ a, A.spent a s

def Separates [BEq β] (R : α → α → Prop) (f : α → Except Fault β) : Prop :=
  ∀ a b c d, R a b → f a = .ok c → f b = .ok d → (d == c) = true → a = b

theorem Plain.map [BEq α] [LawfulBEq α] [BEq β] [ReflBEq β] (ht : t.Plain A R) (hf : Separates R f) :
    (t.map f).Plain (mapStages A f) fun c d => Relation.Map R f f (.ok c) (.ok d) where
  simplify c s hs := by
    obtain ⟨a, ha, hheld⟩ := hs
    refine (ht.simplify a s hheld).mono (fun moved s' h => ?_) fun _ _ h => h
    cases moved with
    | true => exact ⟨a, ha, h⟩
    | false => exact ⟨a, h⟩
  keep c d s hs hd := by
    obtain ⟨a, -, htried⟩ := hs
    obtain ⟨b, hb, hmade⟩ := bind_eq_ok.1 hd
    exact ⟨b, hmade, ht.keep a b s htried hb⟩
  complicate c s hs := by
    obtain ⟨a, ha, htried⟩ := hs
    refine (ht.complicate a s htried).mono (fun moved s' h => ?_) fun _ _ h => h
    cases moved with
    | false => exact ⟨a, h⟩
    | true =>
      intro d hd
      obtain ⟨b, hb, hmade⟩ := bind_eq_ok.1 hd
      have hstage := h b hb
      by_cases hbeq : b == a
      · obtain rfl := eq_of_beq hbeq
        obtain rfl := Except.ok.inj (hmade.symm.trans ha)
        rw [if_pos hbeq] at hstage
        rw [if_pos BEq.rfl]
        exact ⟨_, hstage⟩
      · rw [if_neg hbeq] at hstage
        have hother : ¬(d == c) = true := by
          intro hsame
          rcases ht.within a b s' hstage hb with rfl | hR
          · exact hbeq BEq.rfl
          · exact hbeq (beq_iff_eq.2 (hf a b c d hR ha hmade hsame).symm)
        rw [if_neg hother]
        exact ⟨a, ha, hstage⟩
  giveUp c s hs := by
    obtain ⟨a, hback⟩ := hs
    exact ⟨a, ht.giveUp a s hback⟩
  within c d s hs hd := by
    obtain ⟨a, ha, htried⟩ := hs
    obtain ⟨b, hb, hmade⟩ := bind_eq_ok.1 hd
    rcases ht.within a b s htried hb with rfl | hR
    · exact .inl (Except.ok.inj (ha.symm.trans hmade))
    · exact .inr ⟨a, b, hR, ha, hmade⟩
  settled c s hs := by
    obtain ⟨a, hback⟩ := hs
    exact (ht.settled a s hback).mono (fun _ _ h => ⟨h.1, a, h.2⟩) fun _ _ h => h
  rest c s hs := by
    obtain ⟨a, hspent⟩ := hs
    exact (ht.rest a s hspent).mono (fun _ _ h => ⟨h.1, a, h.2⟩) fun _ _ h => h

end ValueTree

namespace ValueTree
variable {σ α : Type} {t : ValueTree σ α} {A : Stages σ α} {R : α → α → Prop} {accepts : α → Except Fault Bool}
  {whence : String} {a : α} {s : σ}

def filterStages (t : ValueTree σ α) (A : Stages σ α) (accepts : α → Except Fault Bool) : Stages σ α where
  held a s := accepts a = .ok true ∧ (A.held a s ∨ A.spent a s)
  tried a s := accepts a = .ok true ∧ (t.current s >>= accepts) = .ok true ∧
    (A.tried a s ∨ A.back a s ∧ t.current s = .ok a)
  back := A.back
  spent := A.spent

variable [BEq α] [LawfulBEq α]

def BackedOff (t : ValueTree σ α) (A : Stages σ α) (a : α) (s : σ) : Prop :=
  ∀ b, t.current s = .ok b → if b == a then A.back a s else A.tried a s

theorem BackedOff.acceptable (hs : t.BackedOff A a s) (ha : accepts a = .ok true) {b : α} (hb : t.current s = .ok b) :
    accepts b = .ok true ∨ A.tried a s := by
  have hstage := hs b hb
  split at hstage
  · rename_i hbeq
    exact .inl ((congrArg accepts (eq_of_beq hbeq)).trans ha)
  · exact .inr hstage

theorem Staged.settle (ht : t.Staged A) (ha : accepts a = .ok true) (fuel rejects : Nat)
    (hs : ∀ b, t.current s = .ok b → accepts b = .ok true ∨ A.tried a s) :
    (t.settle accepts whence fuel rejects).Yields s
      (fun _ s' => (t.current s' >>= accepts) = .ok true ∧ (s' = s ∨ t.BackedOff A a s')) fun _ _ => True := by
  induction fuel generalizing s rejects with
  | zero => trivial
  | succ fuel ih =>
    unfold ValueTree.settle
    rw [Act.yields_bind, Act.yields_ask]
    refine ⟨fun acceptable hacceptable => ?_, fun _ _ => trivial⟩
    cases acceptable with
    | true => exact ⟨hacceptable, .inl rfl⟩
    | false =>
      obtain ⟨b, hb, hrefused⟩ := bind_eq_ok.1 hacceptable
      have htried : A.tried a s := by
        refine (hs b hb).resolve_left fun haccepted => ?_
        rw [hrefused] at haccepted
        cases haccepted
      rw [if_neg Bool.false_ne_true, Act.yields_bind]
      refine (ht.complicate a s htried).mono (fun moved s' h => ?_) fun _ _ h => h
      cases moved with
      | false => trivial
      | true =>
        have hbacked : t.BackedOff A a s' := h
        rw [if_pos rfl]
        refine (ih _ fun b hb => hbacked.acceptable ha hb).mono (fun _ s'' h' => ?_) fun _ _ h => h
        obtain ⟨haccepted, rfl | hbacked'⟩ := h'
        · exact ⟨haccepted, .inr hbacked⟩
        · exact ⟨haccepted, .inr hbacked'⟩

theorem Staged.filtered (ht : t.Staged A) (ha : accepts a = .ok true) {move : Act σ Bool} {K K' : σ → Prop}
    (hmove : move.Yields s (fun moved s' => if moved then K s' else K' s') fun _ _ => True)
    (hK : ∀ s', K s' → ∀ b, t.current s' = .ok b → accepts b = .ok true ∨ A.tried a s') :
    (t.settled accepts whence move).Yields s
      (fun moved s' => if moved then (t.current s' >>= accepts) = .ok true ∧ (K s' ∨ t.BackedOff A a s') else K' s')
      fun _ _ => True := by
  unfold ValueTree.settled
  rw [Act.yields_bind]
  refine hmove.mono (fun moved s' h => ?_) fun _ _ h => h
  cases moved with
  | false => exact h
  | true =>
    rw [if_pos rfl, Act.yields_bind, Act.yields_get, Act.yields_bind]
    refine (ht.settle ha _ _ (hK s' h)).mono (fun _ s'' h' => ?_) fun _ _ h => h
    obtain ⟨haccepted, rfl | hbacked⟩ := h'
    · exact ⟨haccepted, .inl h⟩
    · exact ⟨haccepted, .inr hbacked⟩

theorem Plain.filter (ht : t.Plain A R) (accepts : α → Except Fault Bool) (whence : String) :
    (t.filter accepts whence).Plain (filterStages t A accepts) R where
  simplify a s hs := by
    obtain ⟨ha, hstage⟩ := hs
    have hmove : t.simplify.Yields s (fun moved s' => if moved then A.tried a s' else A.spent a s')
        fun _ _ => True := by
      rcases hstage with hheld | hspent
      · exact ht.simplify a s hheld
      · refine (ht.rest a s hspent).mono (fun moved s' h => ?_) fun _ _ _ => trivial
        rw [h.1]
        exact h.2
    refine (ht.filtered ha hmove fun s' h _ _ => .inr h).mono (fun moved s' h => ?_) fun _ _ h => h
    cases moved with
    | false => exact h
    | true =>
      obtain ⟨haccepted, htried | hbacked⟩ := h
      · exact ⟨ha, haccepted, .inl htried⟩
      · obtain ⟨b, hb, -⟩ := bind_eq_ok.1 haccepted
        have hstage := hbacked b hb
        split at hstage
        · rename_i hbeq
          obtain rfl := eq_of_beq hbeq
          exact ⟨ha, haccepted, .inr ⟨hstage, hb⟩⟩
        · exact ⟨ha, haccepted, .inl hstage⟩
  keep a b s hs hb := by
    obtain ⟨ha, haccepted, htried | ⟨hback, ha'⟩⟩ := hs
    · obtain ⟨b', hb', haccepted⟩ := bind_eq_ok.1 haccepted
      obtain rfl := Except.ok.inj (hb'.symm.trans hb)
      exact ⟨haccepted, .inl (ht.keep a _ s htried hb)⟩
    · obtain rfl := Except.ok.inj (ha'.symm.trans hb)
      exact ⟨ha, .inr (ht.giveUp _ s hback)⟩
  complicate a s hs := by
    obtain ⟨ha, -, htried | ⟨hback, -⟩⟩ := hs
    · have hmove : t.complicate.Yields s
          (fun moved s' => if moved then t.BackedOff A a s' else A.spent a s') fun _ _ => True :=
        ht.complicate a s htried
      refine (ht.filtered ha hmove fun s' h b hb => h.acceptable ha hb).mono (fun moved s' h => ?_) fun _ _ h => h
      cases moved with
      | false => exact h
      | true =>
        obtain ⟨haccepted, hbacked⟩ := h
        intro b hb
        have hstage := (or_self_iff.1 hbacked) b hb
        split
        · rename_i hbeq
          rwa [if_pos hbeq] at hstage
        · rename_i hbeq
          rw [if_neg hbeq] at hstage
          exact ⟨ha, haccepted, .inl hstage⟩
    · refine (settled_of_false (ht.settled a s hback)).mono (fun moved s' h => ?_) fun _ _ _ => trivial
      rw [h.1]
      exact h.2
  giveUp a s hs := ht.giveUp a s hs
  within a b s hs hb := by
    obtain ⟨-, -, htried | ⟨-, ha⟩⟩ := hs
    · exact ht.within a b s htried hb
    · exact .inl (Except.ok.inj (ha.symm.trans hb))
  settled a s hs := settled_of_false (ht.settled a s hs)
  rest a s hs := settled_of_false (ht.rest a s hs)

end ValueTree

namespace Search

def stages (lo hi : Int) : Stages Search Int where
  held a s := s.value = a ∧ s.Ranged ∧ (lo ≤ a ∧ a ≤ hi) ∧ lo ≤ s.target ∧ s.target ≤ hi
  tried a s := s.valueAt s.hi = a ∧ (s.lo ≤ s.distance ∧ s.distance < s.hi) ∧
    (lo ≤ a ∧ a ≤ hi) ∧ lo ≤ s.target ∧ s.target ≤ hi
  back _ s := s.hi ≤ s.lo
  spent _ s := s.hi ≤ s.lo

theorem simplify_proposes {lo hi a : Int} {s : Search} (hs : (stages lo hi).held a s) :
    if s.simplify.1 then (stages lo hi).tried a s.simplify.2 else (stages lo hi).spent a s.simplify.2 := by
  obtain ⟨rfl, hranged, hbounds⟩ := hs
  unfold simplify
  split
  · assumption
  · unfold Ranged at hranged
    rcases reposition_cases { s with hi := s.distance } with ⟨hmiddle, h⟩ | ⟨hmiddle, h⟩
    · rw [h, if_neg Bool.false_ne_true]
      show s.distance ≤ s.lo
      dsimp only at hmiddle
      omega
    · rw [h, if_pos rfl]
      dsimp only at hmiddle
      refine ⟨rfl, ⟨?_, ?_⟩, hbounds⟩
      · dsimp only
        omega
      · dsimp only
        omega

theorem complicate_offers {lo hi a : Int} {s : Search} (hs : (stages lo hi).tried a s) :
    s.complicate.1 = true ∧
      if s.complicate.2.value == a then (stages lo hi).back a s.complicate.2
      else (stages lo hi).tried a s.complicate.2 := by
  obtain ⟨rfl, hrange, hbounds⟩ := hs
  unfold complicate
  rw [if_neg (by omega)]
  rcases reposition_cases { s with lo := s.distance + 1 } with ⟨hmiddle, h⟩ | ⟨-, h⟩
  · dsimp only at hmiddle
    omega
  · rw [h]
    refine ⟨rfl, ?_⟩
    split
    · rename_i hbeq
      -- The middle is the far end, so nothing lies between.
      have hvalue := eq_of_beq hbeq
      show s.hi ≤ s.distance + 1
      dsimp only [value, valueAt] at hvalue
      split at hvalue <;> omega
    · rename_i hbeq
      refine ⟨rfl, ⟨by dsimp only; omega, ?_⟩, hbounds⟩
      have hmiddle : (s.distance + 1 + s.hi) / 2 ≠ s.hi := by
        intro heq
        refine hbeq (beq_iff_eq.2 ?_)
        show s.valueAt ((s.distance + 1 + s.hi) / 2) = s.valueAt s.hi
        rw [heq]
      dsimp only
      omega

theorem value_bounds {lo hi a : Int} {s : Search} (hs : (stages lo hi).tried a s) : lo ≤ s.value ∧ s.value ≤ hi := by
  obtain ⟨rfl, hrange, hvalue, htarget⟩ := hs
  unfold valueAt at hvalue
  unfold value
  by_cases habove : s.above = true
  · simp only [habove, if_true] at hvalue ⊢
    omega
  · simp only [habove, Bool.false_eq_true, if_false] at hvalue ⊢
    omega

theorem tree_plain (lo hi : Int) :
    tree.Plain (stages lo hi) fun a b => (lo ≤ a ∧ a ≤ hi) ∧ lo ≤ b ∧ b ≤ hi where
  simplify _ _ hs := simplify_proposes hs
  keep a b s hs hb := by
    obtain rfl := Except.ok.inj hb
    have hbounds := value_bounds hs
    obtain ⟨-, hrange, -, htarget⟩ := hs
    exact ⟨rfl, .inr ⟨hrange.1, Nat.le_of_lt hrange.2⟩, hbounds, htarget⟩
  complicate a s hs := by
    obtain ⟨hmoved, hstage⟩ := complicate_offers hs
    show if s.complicate.1 then _ else _
    rw [if_pos hmoved]
    rintro b ⟨⟩
    exact hstage
  giveUp _ _ hs := hs
  within a b s hs hb := by
    obtain rfl := Except.ok.inj hb
    exact .inr ⟨hs.2.2.1, value_bounds hs⟩
  settled _ s hs := by
    have hstays : s.complicate = (false, s) := if_pos hs
    show s.complicate.1 = false ∧ s.complicate.2.hi ≤ s.complicate.2.lo
    rw [hstays]
    exact ⟨rfl, hs⟩
  rest _ s hs := by
    have hstays : s.simplify = (false, s) := if_pos hs
    show s.simplify.1 = false ∧ s.simplify.2.hi ≤ s.simplify.2.lo
    rw [hstays]
    exact ⟨rfl, hs⟩

theorem start_held {lo hi n target : Int} (hn : lo ≤ n ∧ n ≤ hi) (htarget : lo ≤ target ∧ target ≤ hi) :
    (stages lo hi).held n (start n target) :=
  ⟨value_start n target, start_ranged n target, hn, htarget⟩

end Search
end StateCheck
