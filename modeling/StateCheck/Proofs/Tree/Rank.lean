import StateCheck.Proofs.Yields
import StateCheck.Tree.Filter
import StateCheck.Tree.Search
import Mathlib.Tactic.SplitIfs

/-! A rank of the states of a tree, which every move that succeeds lowers and no move raises, whatever the order
of the moves. Backing off lowers the slack too, so a filter's back-off ends. -/

namespace StateCheck

/-- Said of the states of a kind that the moves keep. Nothing is said of a move that raises. -/
structure ValueTree.Ranked {σ α : Type} (t : ValueTree σ α) (I : σ → Prop) (rank : σ → Nat) : Prop where
  simplify : ∀ s, I s → t.simplify.Yields s
    (fun moved s' => I s' ∧ rank s' + moved.toNat ≤ rank s) fun _ _ => True
  complicate : ∀ s, I s → t.complicate.Yields s
    (fun moved s' => I s' ∧ rank s' + moved.toNat ≤ rank s ∧ (moved = true → t.slack s' < t.slack s)) fun _ _ => True

namespace ValueTree
variable {σ α β : Type} {t : ValueTree σ α} {I : σ → Prop} {rank : σ → Nat} {s : σ}

inductive Call where
  | simplify | complicate
  deriving DecidableEq, Repr

def Call.perform (t : ValueTree σ α) : Call → Act σ Bool
  | simplify => t.simplify
  | complicate => t.complicate

theorem Ranked.perform (ht : t.Ranked I rank) (hs : I s) (call : Call) : (call.perform t).Yields s
    (fun moved s' => I s' ∧ rank s' + moved.toNat ≤ rank s) fun _ _ => True := by
  cases call with
  | simplify => exact ht.simplify s hs
  | complicate => exact (ht.complicate s hs).mono (fun _ _ h => ⟨h.1, h.2.1⟩) fun _ _ h => h

theorem Ranked.each (ht : t.Ranked I rank) (hs : I s) (calls : List Call) :
    (Act.each (Call.perform t) calls).Yields s
      (fun answers s' => I s' ∧ rank s' + answers.count true ≤ rank s) fun _ _ => True := by
  induction calls generalizing s with
  | nil => exact ⟨hs, Nat.le_refl _⟩
  | cons call rest ih =>
    unfold Act.each
    rw [Act.yields_bind]
    refine (ht.perform hs call).mono (fun moved s' h => ?_) fun _ _ h => h
    rw [Act.yields_bind]
    refine (ih h.1).mono (fun answers s'' h' => ?_) fun _ _ h => h
    rw [Act.yields_pure]
    have hcount : (moved :: answers).count true = answers.count true + moved.toNat := by
      cases moved <;> simp
    have hhead := h.2
    have htail := h'.2
    exact ⟨h'.1, by omega⟩

theorem Ranked.map (ht : t.Ranked I rank) (f : α → Except Fault β) : (t.map f).Ranked I rank :=
  ⟨ht.simplify, ht.complicate⟩

theorem fixed_ranked (a : α) : (fixed a).Ranked (fun _ => True) fun _ => 0 where
  simplify _ _ := ⟨trivial, Nat.le_refl _⟩
  complicate _ _ := ⟨trivial, Nat.le_refl _, nofun⟩

theorem Ranked.tagged {κ : Type} {State : κ → Type} {trees : (k : κ) → ValueTree (State k) α}
    {I : (k : κ) → State k → Prop} {rank : (k : κ) → State k → Nat}
    (h : ∀ k, (trees k).Ranked (I k) (rank k)) :
    (ValueTree.tagged trees).Ranked (fun p => I p.1 p.2) fun p => rank p.1 p.2 where
  simplify p hp := (h p.1).simplify p.2 hp
  complicate p hp := (h p.1).complicate p.2 hp

section filter
variable {accepts : α → Except Fault Bool} {whence : String}

theorem Ranked.settle (ht : t.Ranked I rank) (hs : I s) (fuel rejects : Nat) :
    (t.settle accepts whence fuel rejects).Yields s
      (fun _ s' => I s' ∧ rank s' ≤ rank s ∧ t.slack s' ≤ t.slack s) fun _ _ => True := by
  induction fuel generalizing s rejects with
  | zero => trivial
  | succ fuel ih =>
    unfold ValueTree.settle
    rw [Act.yields_bind, Act.yields_ask]
    refine ⟨fun acceptable _ => ?_, fun _ _ => trivial⟩
    rw [Act.yields_ite]
    refine ⟨fun _ => ⟨hs, Nat.le_refl _, Nat.le_refl _⟩, fun _ => ?_⟩
    rw [Act.yields_bind]
    refine (ht.complicate s hs).mono (fun moved s' h => ?_) fun _ _ h => h
    obtain ⟨hs', hrank, hslack⟩ := h
    rw [Act.yields_ite]
    refine ⟨fun hmoved => ?_, fun _ => trivial⟩
    have hlower := hslack hmoved
    refine (ih hs' _).mono (fun _ s'' h => ?_) fun _ _ h => h
    exact ⟨h.1, by omega, by omega⟩

theorem Ranked.settled (ht : t.Ranked I rank) {move : Act σ Bool} {Q : Bool → σ → Prop}
    (hmove : move.Yields s (fun moved s' => I s' ∧ Q moved s') fun _ _ => True)
    (hsettle : ∀ s' s'', Q true s' → rank s'' ≤ rank s' → t.slack s'' ≤ t.slack s' → Q true s'') :
    (t.settled accepts whence move).Yields s (fun moved s' => I s' ∧ Q moved s') fun _ _ => True := by
  unfold ValueTree.settled
  rw [Act.yields_bind]
  refine hmove.mono (fun moved s' h => ?_) fun _ _ h => h
  cases moved with
  | false => exact h
  | true =>
    rw [if_pos rfl, Act.yields_bind, Act.yields_get, Act.yields_bind]
    refine (ht.settle h.1 _ _).mono (fun _ s'' h' => ?_) fun _ _ h => h
    exact ⟨h'.1, hsettle s' s'' h.2 h'.2.1 h'.2.2⟩

theorem settled_of_false {move : Act σ Bool} {K : σ → Prop} {F : Fault → σ → Prop}
    (hmove : move.Yields s (fun moved s' => moved = false ∧ K s') F) :
    (t.settled accepts whence move).Yields s (fun moved s' => moved = false ∧ K s') F := by
  unfold ValueTree.settled
  rw [Act.yields_bind]
  refine hmove.mono (fun moved s' h => ?_) fun _ _ h => h
  obtain ⟨rfl, hs'⟩ := h
  exact ⟨rfl, hs'⟩

theorem Ranked.filter (ht : t.Ranked I rank) (accepts : α → Except Fault Bool) (whence : String) :
    (t.filter accepts whence).Ranked I rank where
  simplify s hs := ht.settled (ht.simplify s hs) fun _ _ h hrank _ => by omega
  complicate s hs := ht.settled (ht.complicate s hs) fun _ _ h hrank hslack =>
    ⟨by omega, fun hmoved => Nat.lt_of_le_of_lt hslack (h.2 hmoved)⟩

def settleWithin (t : ValueTree σ α) (accepts : α → Except Fault Bool) (whence : String) :
    Nat → Nat → Act σ (Option Unit)
  | 0, _ => pure none
  | n + 1, rejects => do
    if ← Act.ask fun s => t.current s >>= accepts then pure (some ())
    else if ← t.complicate then settleWithin t accepts whence n (rejects + 1)
    else .raise (.tooManyRejects (.text whence) (.int (rejects + 1)))

theorem Ranked.settleWithin_eq (ht : t.Ranked I rank) (hs : I s) {n fuel : Nat} (hn : t.slack s < n)
    (hfuel : t.slack s < fuel) (rejects : Nat) : t.settleWithin accepts whence n rejects s =
      (t.settle accepts whence fuel rejects >>= fun _ => pure (some ())) s := by
  -- Both loops are taken round by round; the slack that is left keeps each from running out.
  induction n generalizing s fuel rejects with
  | zero => exact absurd hn (Nat.not_lt_zero _)
  | succ n ih =>
    cases fuel with
    | zero => exact absurd hfuel (Nat.not_lt_zero _)
    | succ fuel =>
      unfold ValueTree.settleWithin ValueTree.settle
      rw [bind_assoc]
      refine Act.bind_eq rfl ?_
      rw [Act.yields_ask]
      refine ⟨fun acceptable _ => ?_, fun _ _ => trivial⟩
      cases acceptable with
      | true => rfl
      | false =>
        rw [if_neg Bool.false_ne_true, if_neg Bool.false_ne_true, bind_assoc]
        refine Act.bind_eq rfl ((ht.complicate s hs).mono (fun moved s' h => ?_) fun _ _ h => h)
        cases moved with
        | false => rfl
        | true =>
          have hlower := h.2.2 rfl
          exact ih h.1 (by omega) (by omega) _

end filter
end ValueTree

namespace Search

def Ranged (s : Search) : Prop := s.hi ≤ s.lo ∨ s.lo ≤ s.distance ∧ s.distance ≤ s.hi

/-- A start at the far end is one more move away. -/
def rank (s : Search) : Nat := 2 * (s.hi - s.lo) + if s.distance = s.hi then 1 else 0

theorem start_ranged (start target : Int) : (Search.start start target).Ranged :=
  .inr ⟨Nat.zero_le _, Nat.le_refl _⟩

theorem reposition_cases (s : Search) :
    (s.lo + s.hi) / 2 = s.distance ∧ s.reposition = (false, s) ∨
    (s.lo + s.hi) / 2 ≠ s.distance ∧ s.reposition = (true, { s with distance := (s.lo + s.hi) / 2 }) := by
  unfold reposition
  by_cases hmiddle : (s.lo + s.hi) / 2 = s.distance
  · exact .inl ⟨hmiddle, if_pos hmiddle⟩
  · exact .inr ⟨hmiddle, if_neg hmiddle⟩

theorem simplify_cases {s : Search} (hs : s.Ranged) :
    s.lo < s.distance ∧ s.distance ≤ s.hi ∧
      s.simplify = (true, { s with hi := s.distance, distance := (s.lo + s.distance) / 2 }) ∨
    ∃ hi, hi ≤ s.lo ∧ (hi = s.hi ∨ hi = s.distance ∧ s.lo < s.hi) ∧ s.simplify = (false, { s with hi := hi }) := by
  unfold Ranged at hs
  unfold simplify
  split
  · exact .inr ⟨s.hi, ‹_›, .inl rfl, rfl⟩
  · rename_i hopen
    rcases reposition_cases { s with hi := s.distance } with ⟨hmiddle, h⟩ | ⟨hmiddle, h⟩
    · refine .inr ⟨s.distance, ?_, .inr ⟨rfl, Nat.lt_of_not_le hopen⟩, h⟩
      dsimp only at hmiddle
      omega
    · refine .inl ⟨?_, ?_, h⟩
      all_goals
        dsimp only at hmiddle
        omega

theorem complicate_cases {s : Search} (hs : s.Ranged) :
    s.lo ≤ s.distance ∧ s.distance < s.hi ∧
      s.complicate = (true, { s with lo := s.distance + 1, distance := (s.distance + 1 + s.hi) / 2 }) ∨
    ∃ lo, s.hi ≤ lo ∧ s.complicate = (false, { s with lo := lo }) := by
  unfold Ranged at hs
  unfold complicate
  split
  · exact .inr ⟨s.lo, ‹_›, rfl⟩
  · rcases reposition_cases { s with lo := s.distance + 1 } with ⟨hmiddle, h⟩ | ⟨hmiddle, h⟩
    · refine .inr ⟨s.distance + 1, ?_, h⟩
      dsimp only at hmiddle
      omega
    · refine .inl ⟨?_, ?_, h⟩
      all_goals
        dsimp only at hmiddle
        omega

theorem simplify_falls {s : Search} (hs : s.Ranged) :
    s.simplify.2.Ranged ∧ s.simplify.2.rank + s.simplify.1.toNat ≤ s.rank := by
  rcases simplify_cases hs with ⟨hlo, hhi, h⟩ | ⟨hi, hclosed, hhi, h⟩
  · rw [h]
    refine ⟨.inr ⟨?_, ?_⟩, ?_⟩
    · dsimp only
      omega
    · dsimp only
      omega
    · -- The far end comes to the distance, which was there already after a start.
      dsimp only [rank, Bool.toNat_true]
      split_ifs <;> omega
  · rw [h]
    refine ⟨.inl hclosed, ?_⟩
    dsimp only [rank, Bool.toNat_false]
    split_ifs <;> omega

theorem complicate_falls {s : Search} (hs : s.Ranged) :
    s.complicate.2.Ranged ∧ s.complicate.2.rank + s.complicate.1.toNat ≤ s.rank ∧
      (s.complicate.1 = true → s.complicate.2.hi - s.complicate.2.lo < s.hi - s.lo) := by
  rcases complicate_cases hs with ⟨hlo, hhi, h⟩ | ⟨lo, hclosed, h⟩
  · rw [h]
    refine ⟨.inr ⟨?_, ?_⟩, ?_, fun _ => ?_⟩
    · dsimp only
      omega
    · dsimp only
      omega
    · dsimp only [rank, Bool.toNat_true]
      split_ifs <;> omega
    · dsimp only
      omega
  · rw [h]
    refine ⟨.inl hclosed, ?_, nofun⟩
    dsimp only [rank, Bool.toNat_false]
    split_ifs <;> omega

theorem tree_ranked : tree.Ranked Ranged rank where
  simplify _ hs := simplify_falls hs
  complicate _ hs := complicate_falls hs

end Search
end StateCheck
