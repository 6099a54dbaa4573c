import StateCheck.Proofs.Tree.Robust

/-! Several trees in a row, of which one moves at a time. The tree that moved last is robust for what the
others leave open; those after it did not move yet. -/

namespace StateCheck.Row
variable {σ α β κ : Type} {t : ValueTree σ α} {E : Fault → Prop} {P : β → Prop}
  {read : List (Except Fault α) → Except Fault β} {trees : List σ} {a i : Nat} {s s' : σ}

def all (row : List (Except Fault α)) : Except Fault (List α) := row.mapM id

theorem all_cons (x : Except Fault α) (row : List (Except Fault α)) :
    all (x :: row) = x >>= fun a => all row >>= fun as => pure (a :: as) := List.mapM_cons

theorem all_shown (t : ValueTree σ α) (trees : List σ) : all (trees.map t.current) = trees.mapM t.current :=
  List.mapM_map

theorem mem_of_all_error {row : List (Except Fault α)} {e : Fault} (h : all row = .error e) : .error e ∈ row := by
  induction row with
  | nil => cases h
  | cons x row ih =>
    rw [all_cons, bind_eq_error] at h
    rcases h with rfl | ⟨a, -, h⟩
    · exact List.mem_cons_self
    · rcases bind_eq_error.1 h with h | ⟨as, -, h⟩
      · exact List.mem_cons_of_mem _ (ih h)
      · cases h

theorem all_ne_ok {row : List (Except Fault α)} {e : Fault} (h : .error e ∈ row) (as : List α) :
    all row ≠ .ok as := by
  induction row generalizing as with
  | nil => cases h
  | cons x row ih =>
    intro has
    obtain ⟨a, rfl, hrest⟩ := bind_eq_ok.1 (all_cons x row ▸ has)
    obtain ⟨as', has', -⟩ := bind_eq_ok.1 hrest
    rcases List.mem_cons.1 h with h | h
    · cases h
    · exact ih h as' has'

theorem all_of_fresh (hfresh : ∀ s ∈ trees, t.Fresh E s) : ∃ as, all (trees.map t.current) = .ok as := by
  induction trees with
  | nil => exact ⟨[], rfl⟩
  | cons s trees ih =>
    obtain ⟨a, ha, -⟩ := hfresh s List.mem_cons_self
    obtain ⟨as, has⟩ := ih fun s' hs' => hfresh s' (List.mem_cons_of_mem _ hs')
    refine ⟨a :: as, ?_⟩
    rw [List.map_cons, all_cons, ha, has]
    rfl

def Framed (read : List (Except Fault α) → Except Fault β) (P : β → Prop) (row : List (Except Fault α))
    (i : Nat) (a : α) : Prop :=
  ∀ b, read (row.set i (.ok a)) = .ok b → P b

theorem framed_set (row : List (Except Fault α)) (x : Except Fault α) :
    Framed read P (row.set i x) i = Framed read P row i := by
  funext a
  unfold Framed
  rw [List.set_set]

theorem framed_of_shown {row : List (Except Fault α)} {a : α} (ha : row[i]? = some (.ok a))
    (hP : ∀ b, read row = .ok b → P b) : Framed read P row i a := by
  obtain ⟨hi, ha⟩ := List.getElem?_eq_some_iff.1 ha
  rwa [Framed, ← ha, List.set_getElem_self]

structure Active (t : ValueTree σ α) (E : Fault → Prop) (read : List (Except Fault α) → Except Fault β)
    (P : β → Prop) (a : Nat) (trees : List σ) : Prop where
  raised : ∀ s ∈ trees, ∀ e, t.current s = .error e → E e
  accepted : ∀ b, read (trees.map t.current) = .ok b → P b
  active : ∀ s, trees[a]? = some s → t.Robust E (Framed read P (trees.map t.current) a) s
  later : ∀ i s, a < i → trees[i]? = some s → t.Fresh E s

theorem shown_get (hs : trees[i]? = some s) : (trees.map t.current)[i]? = some (t.current s) := by
  rw [List.getElem?_map, hs]
  rfl

theorem shown_set (hs : trees[i]? = some s) (hsame : t.current s' = t.current s) :
    (trees.set i s').map t.current = trees.map t.current := by
  obtain ⟨hi, hs⟩ := List.getElem?_eq_some_iff.1 (shown_get hs)
  rw [List.map_set, hsame, ← hs, List.set_getElem_self]

theorem Active.of_fresh (hfresh : ∀ s ∈ trees, t.Fresh E s)
    (haccepted : ∀ b, read (trees.map t.current) = .ok b → P b) : Active t E read P a trees where
  raised s hs e he := by
    obtain ⟨a, ha, -⟩ := hfresh s hs
    rw [ha] at he
    cases he
  accepted := haccepted
  active s hs := (hfresh s (List.mem_of_getElem? hs)).robust fun _ ha =>
    framed_of_shown ((shown_get hs).trans (congrArg some ha)) haccepted
  later _ s _ hs := hfresh s (List.mem_of_getElem? hs)

theorem Active.le {a' : Nat} (h : Active t E read P a trees) (hle : a ≤ a') : Active t E read P a' trees where
  raised := h.raised
  accepted := h.accepted
  active s hs := by
    rcases Nat.lt_or_eq_of_le hle with hlt | rfl
    · exact (h.later a' s hlt hs).robust fun _ ha =>
        framed_of_shown ((shown_get hs).trans (congrArg some ha)) h.accepted
    · exact h.active s hs
  later i s hi hs := h.later i s (Nat.lt_of_le_of_lt hle hi) hs

theorem Active.robust (h : Active t E read P a trees) (hle : a ≤ i) (hs : trees[i]? = some s) :
    t.Robust E (Framed read P (trees.map t.current) i) s := (h.le hle).active s hs

theorem Active.moved (h : Active t E read P a trees) (ha : a < trees.length)
    (hrobust : t.Robust E (Framed read P (trees.map t.current) a) s')
    (haccepted : ∀ b, read ((trees.set a s').map t.current) = .ok b → P b) :
    Active t E read P a (trees.set a s') := by
  refine ⟨?_, haccepted, ?_, ?_⟩
  · intro u hu e he
    rcases List.mem_or_eq_of_mem_set hu with hu | rfl
    · exact h.raised u hu e he
    · exact ((t.robust_backs E _).shows hrobust).2 e he
  · intro u hu
    rw [List.getElem?_set_self ha] at hu
    cases hu
    rw [List.map_set, framed_set]
    exact hrobust
  · intro j u hj hu
    rw [List.getElem?_set_ne (Nat.ne_of_lt hj)] at hu
    exact h.later j u hj hu

theorem Active.stay (h : Active t E read P a trees) (hle : a ≤ i) (hs : trees[i]? = some s)
    (hsame : t.current s' = t.current s) (hrobust : t.Robust E (Framed read P (trees.map t.current) i) s')
    (hfresh : a < i → t.Fresh E s') : Active t E read P a (trees.set i s') := by
  have hi : i < trees.length := (List.getElem?_eq_some_iff.1 hs).1
  refine ⟨?_, ?_, ?_, ?_⟩
  · intro u hu e he
    rcases List.mem_or_eq_of_mem_set hu with hu | rfl
    · exact h.raised u hu e he
    · exact h.raised s (List.mem_of_getElem? hs) e (hsame ▸ he)
  · rw [shown_set hs hsame]
    exact h.accepted
  · intro u hu
    rw [shown_set hs hsame]
    rcases Nat.lt_or_eq_of_le hle with hlt | rfl
    · rw [List.getElem?_set_ne (Nat.ne_of_gt hlt)] at hu
      exact h.active u hu
    · rw [List.getElem?_set_self hi] at hu
      cases hu
      exact hrobust
  · intro j u hj hu
    by_cases hji : i = j
    · subst hji
      rw [List.getElem?_set_self hi] at hu
      cases hu
      exact hfresh hj
    · rw [List.getElem?_set_ne hji] at hu
      exact h.later j u hj hu

structure Follows (T : ValueTree κ β) (t : ValueTree σ α) (E : Fault → Prop)
    (read : List (Except Fault α) → Except Fault β) (row : List (Except Fault α)) (i : Nat)
    (Rel : κ → σ → Prop) : Prop where
  current : ∀ {k s}, Rel k s → T.current k = read (row.set i (t.current s))
  strict : ∀ e b, read (row.set i (.error e)) ≠ .ok b
  slack : ∀ {k s}, Rel k s → T.slack k = t.slack s
  complicate : ∀ {k s} {L : σ → Prop}, Rel k s →
    t.complicate.Yields s (fun moved s' => moved = true ∧ L s') (fun e _ => E e) →
    T.complicate.Yields k (fun moved k' => moved = true ∧ ∃ s', Rel k' s' ∧ L s') (fun e _ => E e)

theorem Follows.lands {T : ValueTree κ β} {row : List (Except Fault α)} {Rel : κ → σ → Prop} {R : κ → Prop}
    {k : κ} (h : Follows T t E read row i Rel) (hread : ∀ row e, read row = .error e → .error e ∈ row)
    (hrow : ∀ e, .error e ∈ row → E e)
    (hR : ∀ k s, Rel k s → t.Robust E (Framed read P row i) s → (∀ b, T.current k = .ok b → P b) → R k)
    (hlands : t.Lands E (Framed read P row i) (t.Robust E (Framed read P row i)) s) (hk : Rel k s) :
    T.Lands E P R k := by
  -- On the landing of the active tree, for all that are made of it.
  refine hlands.induct (L := fun s => ∀ k, Rel k s → T.Lands E P R k) (fun s hs k hk => ?_) k hk
  refine .fold ⟨fun b hb => ?_, fun e he => ?_⟩
  · have hread := h.current hk ▸ hb
    cases ha : t.current s with
    | error e =>
      rw [ha] at hread
      exact absurd hread (h.strict e b)
    | ok a =>
      rw [ha] at hread
      refine ⟨fun hP => hR k s hk ((hs.1 a ha).1 fun b' hb' => ?_) fun b' hb' => ?_, ?_⟩
      · rw [hread] at hb'
        cases hb'
        exact hP
      · rw [hb] at hb'
        cases hb'
        exact hP
      · intro hnot
        have hmove := (hs.1 a ha).2 fun hframed => hnot (hframed b hread)
        refine (h.complicate hk hmove).mono (fun moved k' h' => ?_) (fun _ _ h => h)
        obtain ⟨hmoved, s', hk', hslack, hlands⟩ := h'
        refine ⟨hmoved, ?_, hlands k' hk'⟩
        rw [h.slack hk, h.slack hk']
        exact hslack
  · rw [h.current hk] at he
    rcases List.mem_or_eq_of_mem_set (hread _ e he) with he | he
    · exact hrow e he
    · exact hs.2 e he.symm

end StateCheck.Row
