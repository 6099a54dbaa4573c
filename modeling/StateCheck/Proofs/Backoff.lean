import StateCheck.Proofs.Strategy
import StateCheck.Proofs.Support
import StateCheck.Proofs.Tree.Rank

/-! A filter never runs out of values to back off to: the value that it last accepted is among those that
complicating its source leads through. What it raises was raised by its source. -/

namespace StateCheck

namespace ValueTree
variable {σ α : Type} {t : ValueTree σ α} {accepts : α → Except Fault Bool} {whence : String} {E : Fault → Prop}
  {move : Act σ Bool} {s s' : σ} {e : Fault}

inductive BacksThrough (t : ValueTree σ α) (accepts : α → Except Fault Bool) : σ → σ → Prop
  | here (s : σ) : BacksThrough t accepts s s
  | back {s s' : σ} {a : α} (ha : t.current s = .ok a) (hrefused : accepts a = .ok false)
      (hmoved : (t.complicate s).answer = .ok true) (hrest : BacksThrough t accepts (t.complicate s).state s') :
      BacksThrough t accepts s s'

def RaisesFrom (t : ValueTree σ α) (accepts : α → Except Fault Bool) (s : σ) (e : Fault) : Prop :=
  ∃ s', t.BacksThrough accepts s s' ∧ (t.current s' = .error e ∨ (t.complicate s').answer = .error e)

/-- The fault is that of the move itself, or one that the source raises while it is backed off. -/
def Raises (t : ValueTree σ α) (accepts : α → Except Fault Bool) (move : Act σ Bool) (s : σ) (e : Fault) : Prop :=
  (move s).answer = .error e ∨ (move s).answer = .ok true ∧ t.RaisesFrom accepts (move s).state e

theorem Lands.settle_raises (haccepts : ∀ a, ∃ b, accepts a = .ok b) {R : σ → Prop}
    (h : t.Lands E (fun a => accepts a = .ok true) R s) : ∀ fuel rejects, t.slack s < fuel →
      (t.settle accepts whence fuel rejects).Yields s (fun _ s' => R s') fun e _ => E e ∧ t.RaisesFrom accepts s e := by
  refine h.induct (L := fun s => ∀ fuel rejects, t.slack s < fuel → (t.settle accepts whence fuel rejects).Yields s
    (fun _ s' => R s') fun e _ => E e ∧ t.RaisesFrom accepts s e) fun s hs fuel rejects hfuel => ?_
  cases fuel with
  | zero => exact absurd hfuel (Nat.not_lt_zero _)
  | succ fuel =>
    unfold ValueTree.settle
    rw [Act.yields_bind, Act.yields_ask]
    refine ⟨fun acceptable hacceptable => ?_, fun e he => ?_⟩
    · obtain ⟨a, ha, hacceptable⟩ := bind_eq_ok.1 hacceptable
      cases acceptable with
      | true => exact (hs.1 a ha).1 hacceptable
      | false =>
        have hnot : accepts a ≠ .ok true := fun h => by
          rw [hacceptable] at h
          cases h
        rw [if_neg Bool.false_ne_true, Act.yields_bind]
        refine (((hs.1 a ha).2 hnot).and (t.complicate.yields_self s)).mono (fun moved s' h => ?_)
          fun e _ h => ⟨h.1, s, .here s, .inr h.2.1⟩
        obtain ⟨⟨rfl, hslack, hrest⟩, hanswer, rfl⟩ := h
        rw [if_pos rfl]
        refine (hrest fuel (rejects + 1) (by omega)).mono (fun _ _ h => h) fun e _ h => ⟨h.1, ?_⟩
        obtain ⟨s'', hthrough, hraised⟩ := h.2
        exact ⟨s'', .back ha hacceptable hanswer hthrough, hraised⟩
    · rcases bind_eq_error.1 he with he | ⟨a, -, he⟩
      · exact ⟨hs.2 e he, s, .here s, .inl he⟩
      · obtain ⟨b, hb⟩ := haccepts a
        rw [hb] at he
        cases he

theorem Robust.settled_raises (haccepts : ∀ a, ∃ b, accepts a = .ok b)
    (hmove : move.Yields s (t.Ends E (fun a => accepts a = .ok true) (t.Robust E fun a => accepts a = .ok true) s)
      fun e _ => E e) : (t.settled accepts whence move).Yields s
        (fun _ s' => t.Robust E (fun a => accepts a = .ok true) s') fun e _ => E e ∧ t.Raises accepts move s e := by
  unfold ValueTree.settled
  rw [Act.yields_bind]
  refine (hmove.and (move.yields_self s)).mono (fun moved s' h => ?_) fun e _ h => ⟨h.1, .inl h.2.1⟩
  obtain ⟨hends, hanswer, rfl⟩ := h
  cases moved with
  | true =>
    rw [if_pos rfl, Act.yields_bind, Act.yields_get, Act.yields_bind]
    refine (Lands.settle_raises haccepts hends _ _ (Nat.lt_succ_self _)).mono (fun _ _ h => h) fun e _ h => ?_
    exact ⟨h.1, .inr ⟨hanswer, h.2⟩⟩
  | false => exact hends.1

theorem Robust.perform_raises (haccepts : ∀ a, ∃ b, accepts a = .ok b)
    (hs : t.Robust E (fun a => accepts a = .ok true) s) (call : Call) : (call.perform (t.filter accepts whence)).Yields s
      (fun _ s' => t.Robust E (fun a => accepts a = .ok true) s')
      fun e _ => E e ∧ t.Raises accepts (call.perform t) s e := by
  have hbacks := t.robust_backs E fun a => accepts a = .ok true
  cases call with
  | simplify => exact settled_raises haccepts (hbacks.simplify hs)
  | complicate => exact settled_raises haccepts (hbacks.complicate hs)

end ValueTree

namespace Strategy
variable {α : Type} {E : Fault → Prop}

theorem draws_accepted_robust {s : Strategy α} (hs : s.Draws (s.tree.Fresh E)) (accepts : α → Except Fault Bool)
    (whence : String) : (s.filter accepts whence).Draws (s.tree.Robust E fun a => accepts a = .ok true) := by
  refine ⟨fun source => ((hs.filter accepts whence).draw source).mono (fun tree _ htree => ?_) fun _ _ h => h⟩
  refine htree.1.robust fun a ha => ?_
  obtain ⟨a', ha', haccepted⟩ := bind_eq_ok.1 htree.2
  obtain rfl := Except.ok.inj (ha'.symm.trans ha)
  exact haccepted

/-- However the calls are ordered, one that raises was let down by the source: a fault of the kind `E` came from its
move, or from its value or its complicating as it was backed off. -/
theorem filter_never_exhausted {s : Strategy α} (hs : s.Reliable E) {accepts : α → Except Fault Bool}
    (haccepts : ∀ a, ∃ b, accepts a = .ok b) (whence : String) : (s.filter accepts whence).Draws fun tree =>
      ∀ calls answers,
        let reached := Act.each (ValueTree.Call.perform (s.filter accepts whence).tree) calls tree
        reached.answer = .ok answers → ∀ (call : ValueTree.Call) e,
          (call.perform (s.filter accepts whence).tree reached.state).answer = .error e →
            E e ∧ s.tree.Raises accepts (call.perform s.tree) reached.state e := by
  have hdraws := draws_accepted_robust hs.drawsFresh accepts whence
  refine ⟨fun source => (hdraws.draw source).mono (fun tree _ htree calls answers hanswers call e he => ?_)
    fun _ _ h => h⟩
  have hcalls : (Act.each (ValueTree.Call.perform (s.tree.filter accepts whence)) calls).Yields tree
      (fun _ tree' => s.tree.Robust E (fun a => accepts a = .ok true) tree') fun _ _ => True :=
    Act.yields_each (fun call _ _ htree => (ValueTree.Robust.perform_raises haccepts htree call).mono
      (fun _ _ h => h) fun _ _ _ => trivial) htree
  exact (ValueTree.Robust.perform_raises haccepts (hcalls.of_ok hanswers) call).of_error he

theorem filter_of_coins_never_exhausted : ∃ tree, (purses.draw purseWords).answer = .ok tree ∧
    ∀ calls answers, (Act.each (ValueTree.Call.perform purses.tree) calls tree).answer = .ok answers →
      ∀ call : ValueTree.Call, ∃ moved, (call.perform purses.tree
        (Act.each (ValueTree.Call.perform purses.tree) calls tree).state).answer = .ok moved := by
  have hcoin : coin.Reliable fun _ => False := by
    refine .oneOf (fun option hoption => ?_) coin_redraws
    simp only [List.mem_cons, List.not_mem_nil, or_false] at hoption
    rcases hoption with rfl | rfl
    · exact .just 1 "1"
    · exact .just 10 "10"
  have hsums : ((lists coin 1 3).map (fun as => .ok (as.foldr (· + ·) 0)) "sum").Reliable fun _ => False :=
    .map (.lists hcoin 1 3) (fun _ => ⟨_, rfl⟩) "sum"
  have heven (n : Int) : ∃ b, (Except.ok (n % 2 == 0) : Except Fault Bool) = .ok b := ⟨_, rfl⟩
  have hnever := filter_never_exhausted hsums heven "even"
  have hdraws : (purses.draw purseWords).answer.toOption.isSome = true := by decide +kernel
  obtain ⟨tree, htree⟩ := Option.isSome_iff_exists.1 hdraws
  have hdrawn := toOption_eq_some.1 htree
  refine ⟨tree, hdrawn, fun calls answers hanswers call => ?_⟩
  have hraises := hnever.holds hdrawn calls answers hanswers call
  cases hanswer : (call.perform purses.tree (Act.each (ValueTree.Call.perform purses.tree) calls tree).state).answer with
  | ok moved => exact ⟨moved, rfl⟩
  | error e => exact (hraises e hanswer).1.elim

end Strategy
end StateCheck
