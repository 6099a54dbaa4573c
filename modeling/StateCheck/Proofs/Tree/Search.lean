import StateCheck.Tree.Search
import StateCheck.Proofs.Tree.Robust

/-! Binary search backs off: it never moves past the last value that was known to do. -/

namespace StateCheck.Search
variable {E : Fault → Prop} {P : Int → Prop} {s : Search}

def valueAt (s : Search) (distance : Nat) : Int :=
  if s.above then s.target + distance else s.target - distance

structure Kept (P : Int → Prop) (s : Search) : Prop where
  range : s.lo ≤ s.distance ∧ s.distance ≤ s.hi ∨ s.lo = s.distance + 1 ∧ s.hi = s.distance
  here : P (s.valueAt s.distance)
  farthest : P (s.valueAt s.hi)

theorem reposition_of_eq (h : (s.lo + s.hi) / 2 = s.distance) : reposition s = (false, s) := if_pos h

theorem reposition_of_ne (h : (s.lo + s.hi) / 2 ≠ s.distance) :
    reposition s = (true, { s with distance := (s.lo + s.hi) / 2 }) := if_neg h

theorem complicate_of_lt (hlo : s.lo ≤ s.distance) (hhi : s.distance < s.hi) : s.complicate =
    (true, { s with lo := s.distance + 1, distance := (s.distance + 1 + s.hi) / 2 }) := by
  rw [complicate, if_neg (by omega)]
  exact reposition_of_ne (by dsimp only; omega)

theorem complicate_of_closed (h : s.hi ≤ s.lo) : s.complicate = (false, s) := if_pos h

theorem lands (hlo : s.lo ≤ s.distance) (hhi : s.distance ≤ s.hi) (hP : P (s.valueAt s.hi)) :
    tree.Lands E P (Kept P) s := by
  -- Complicating leaves the farthest value and makes the interval smaller.
  generalize hwidth : s.hi - s.lo = width
  induction width using Nat.strongRecOn generalizing s with
  | ind width ih =>
    refine .fold ⟨?_, nofun⟩
    rintro a ⟨⟩
    refine ⟨fun ha => ⟨.inl ⟨hlo, hhi⟩, ha, hP⟩, ?_⟩
    intro hnot
    have hlt : s.distance < s.hi := by
      refine Nat.lt_of_le_of_ne hhi fun heq => hnot ?_
      rwa [← heq] at hP
    show (Act.ofMove complicate).Yields s _ _
    rw [Act.yields_ofMove, complicate_of_lt hlo hlt]
    have hwidth' : s.hi - (s.distance + 1) < s.hi - s.lo := by omega
    refine ⟨rfl, hwidth', ih _ (hwidth ▸ hwidth') ?_ ?_ hP rfl⟩
    · dsimp only
      omega
    · dsimp only
      omega

theorem kept_backs (E : Fault → Prop) (P : Int → Prop) : tree.Backs E P (Kept P) where
  shows := fun {s} hs => ⟨by rintro a ⟨⟩; exact hs.here, nofun⟩
  simplify := fun {s} hs => by
    show (Act.ofMove simplify).Yields s _ _
    rw [Act.yields_ofMove, simplify]
    split
    · exact ⟨hs, rfl⟩
    · have hlo : s.lo ≤ s.distance := by
        have := hs.range
        omega
      by_cases heq : (s.lo + s.distance) / 2 = s.distance
      · rw [reposition_of_eq heq]
        exact ⟨⟨.inl ⟨hlo, Nat.le_refl _⟩, hs.here, hs.here⟩, rfl⟩
      · rw [reposition_of_ne heq]
        refine lands ?_ ?_ hs.here
        · dsimp only
          omega
        · dsimp only
          omega
  complicate := fun {s} hs => by
    show (Act.ofMove complicate).Yields s _ _
    rw [Act.yields_ofMove, complicate]
    split
    · exact ⟨hs, rfl⟩
    · have hhi : s.distance ≤ s.hi := by
        have := hs.range
        omega
      by_cases heq : (s.distance + 1 + s.hi) / 2 = s.distance
      · rw [reposition_of_eq heq]
        exact ⟨⟨.inr ⟨rfl, by dsimp only; omega⟩, hs.here, hs.farthest⟩, rfl⟩
      · rw [reposition_of_ne heq]
        refine lands ?_ ?_ hs.farthest
        · dsimp only
          omega
        · dsimp only
          omega

theorem start_fresh (value target : Int) : tree.Fresh E (start value target) := by
  refine ⟨value, congrArg Except.ok (value_start value target), fun P hP => (kept_backs E P).robust ?_⟩
  have hvalue : P ((start value target).valueAt (start value target).distance) := by
    rw [← value_start value target] at hP
    exact hP
  exact ⟨.inl ⟨Nat.zero_le _, Nat.le_refl _⟩, hvalue, hvalue⟩

end StateCheck.Search
