import StateCheck.Proofs.Draws
import StateCheck.Proofs.Tree.Returns

/-! What complicating comes to after a value was simplified: it always passes the value from before, but it stops there
only if no undo record outlives its move. -/

namespace StateCheck.Strategy
variable {α : Type} {C D : Prop}

/-- Made without filters. If `C` asks that backing off stops, alternatives other than the first are made of lists of a
given length, without alternatives of their own; `D` marks such parts. -/
inductive Returning (C : Prop) : Prop → {α : Type} → Strategy α → Prop
  | just {D : Prop} {α : Type} (a : α) (shown : String) : Returning C D (just a shown)
  | integers {D : Prop} (lo hi : Int) : Returning C D (integers lo hi)
  | map {D : Prop} {α β : Type} {s : Strategy α} (hs : Returning C D s) (f : α → Except Fault β) (name : String) :
      Returning C D (s.map f name)
  | oneOf {α : Type} {first : Nat × Strategy α} {others : List (Nat × Strategy α)} (hfirst : Returning C False first.2)
      (hothers : ∀ o ∈ others, Returning C C o.2) : Returning C False (oneOf (first :: others))
  | tuples {D : Prop} {α : Type} {parts : List (Strategy α)} (hparts : ∀ s ∈ parts, Returning C D s) :
      Returning C D (tuples parts)
  | lists {D : Prop} {α : Type} {element : Strategy α} (helement : Returning C D element) {minSize maxSize : Nat}
      (hsize : D → minSize = maxSize) : Returning C D (lists element minSize maxSize)
  | titled {D : Prop} {α : Type} {s : Strategy α} (hs : Returning C D s) (shown : String) :
      Returning C D { s with shown := shown }

theorem Returning.returns {s : Strategy α} (h : Returning C D s) : ∃ I, s.tree.Returns C D I ∧ s.Draws I := by
  induction h with
  | just a shown => exact ⟨_, ValueTree.fixed_returns a C _, ⟨fun _ => trivial⟩⟩
  | integers lo hi => exact ⟨_, Search.tree_returns C _, draws_integers fun n _ => Search.start_ranged n _⟩
  | map hs f name ih =>
    obtain ⟨I, hreturns, hdraws⟩ := ih
    exact ⟨I, hreturns.map f, ⟨hdraws.draw⟩⟩
  | @oneOf _ first others hfirst hothers ih ih' =>
    have hparts (i : Fin (first :: others).length) : ∃ I, ((first :: others).get i).2.tree.Returns C
        ((i : Nat) ≠ 0 ∧ C) I ∧ ((first :: others).get i).2.Draws I := by
      cases i using Fin.cases with
      | zero =>
        obtain ⟨I, hreturns, hdraws⟩ := ih
        exact ⟨I, hreturns.mono fun h => h.1 rfl, hdraws⟩
      | succ i =>
        obtain ⟨I, hreturns, hdraws⟩ := ih' _ (List.get_mem others i)
        exact ⟨I, hreturns.mono fun h => h.2, hdraws⟩
    choose I hreturns hdraws using hparts
    refine ⟨_, Pick.tree_returns (.taggedAt (D := fun i => i ≠ 0 ∧ C) hreturns) fun _ _ _ h => redraw_holds hdraws h,
      draws_oneOf hdraws fun seed tree htree => ⟨?_, nofun⟩⟩
    rintro _ ⟨⟩
    exact ⟨rfl, htree⟩
  | @tuples _ _ parts hparts ih =>
    have hparts (i : Fin parts.length) := ih _ (List.get_mem parts i)
    choose I hreturns hdraws using hparts
    refine ⟨_, Fields.tree_returns (.tagged hreturns), draws_tuples hdraws fun trees _ htrees => ⟨?_, nofun⟩⟩
    exact fun i tree htree => htrees tree (List.mem_of_getElem? htree)
  | @lists _ _ element helement minSize maxSize hsize ih =>
    obtain ⟨I, hreturns, hdraws⟩ := ih
    refine ⟨_, Elements.tree_returns hreturns, draws_lists_sized hdraws fun trees hlength htrees =>
      ⟨?_, ?_, nofun, nofun, fun hD => ⟨?_, nofun⟩⟩⟩
    · rwa [Elements.trees_start]
    · intro _ i slot _ hslot
      obtain ⟨tree, -, rfl⟩ := Option.map_eq_some_iff.1 (List.getElem?_map ▸ hslot)
      rfl
    · obtain rfl := hsize hD
      exact (List.length_map ..).trans_le (hlength (Nat.le_refl _)).2
  | titled hs shown ih =>
    obtain ⟨I, hreturns, hdraws⟩ := ih
    exact ⟨I, hreturns, ⟨hdraws.draw⟩⟩

/-- Wherever the calls led, a move is undone by complicating again and again; and if `C` holds, there is nothing left
to undo then. -/
theorem complicate_returns {s : Strategy α} (hs : Returning C D s) : s.Draws fun tree => ∀ calls answers,
    let reached := Act.each (ValueTree.Call.perform s.tree) calls tree
    reached.answer = .ok answers → (s.tree.simplify reached.state).answer = .ok true →
      s.tree.Reaches (s.tree.Home C reached.state) (s.tree.simplify reached.state).state := by
  obtain ⟨I, hreturns, hdraws⟩ := hs.returns
  refine ⟨fun source => (hdraws.draw source).mono (fun tree _ htree calls answers hanswers hmoved => ?_) fun _ _ h => h⟩
  have hcalls : (Act.each (ValueTree.Call.perform s.tree) calls).Yields tree (fun _ tree' => I tree') fun _ _ => True :=
    Act.yields_each (fun call _ _ htree => hreturns.perform htree call) htree
  exact ((hreturns.simplify _ (hcalls.of_ok hanswers)).of_ok hmoved).2

def digits : Strategy (List Int) := oneOf [(1, lists (integers 0 9) 0 2), (1, lists (integers 0 9) 2 2)]

theorem digits_returning : digits.Returning True False := by
  refine .oneOf (.lists (.integers 0 9) False.elim) fun option hoption => ?_
  obtain rfl := List.mem_singleton.1 hoption
  exact .lists (.integers 0 9) fun _ => rfl

def digitWords : List UInt32 := [0xFFFFFFFF, 0xFFFFFFFF, 0, 0, 0, 0x70000000, 0x50000000]

theorem complicate_returns_to_digits : ∃ tree, (digits.draw digitWords).answer = .ok tree ∧
    let reached := Act.each (ValueTree.Call.perform digits.tree) [.simplify] tree
    digits.tree.current reached.state = .ok [3, 5] ∧ (digits.tree.simplify reached.state).answer = .ok true ∧
      digits.tree.Reaches (digits.tree.Home True reached.state) (digits.tree.simplify reached.state).state := by
  have hmoves : ((digits.draw digitWords).answer.toOption.map fun tree =>
      let reached := Act.each (ValueTree.Call.perform digits.tree) [.simplify] tree
      (reached.answer.toOption, (digits.tree.current reached.state).toOption,
        (digits.tree.simplify reached.state).answer.toOption)) = some (some [true], some [3, 5], some true) := by
    decide +kernel
  obtain ⟨tree, htree, hmoves⟩ := Option.map_eq_some_iff.1 hmoves
  simp only [Prod.mk.injEq, toOption_eq_some] at hmoves
  obtain ⟨hanswers, hcurrent, hmoved⟩ := hmoves
  have hdrawn := toOption_eq_some.1 htree
  exact ⟨tree, hdrawn, hcurrent, hmoved, (complicate_returns digits_returning).holds hdrawn _ _ hanswers hmoved⟩

def choices : Strategy Int := oneOf [(1, just 0 "0"), (1, oneOf [(1, just 1 "1"), (1, just 2 "2")])]

/-- Two is simplified to one, and that to nothing. Complicating goes back to one, but the inner choice still knows that
it stepped down from two. -/
theorem complicate_overshoots : ∃ tree,
    (choices.draw ([0xFFFFFFFF, 0xFFFFFFFF, 0, 0, 0xFFFFFFFF, 0xFFFFFFFF] : List UInt32)).answer = .ok tree ∧
    let reached := Act.each (ValueTree.Call.perform choices.tree) [.simplify] tree
    let backed := Act.each (ValueTree.Call.perform choices.tree) [.simplify, .complicate, .complicate, .complicate]
      reached.state
    reached.answer = .ok [true] ∧ choices.tree.current reached.state = .ok 1 ∧
      backed.answer = .ok [true, true, true, false] ∧ choices.tree.current backed.state = .ok 2 := by
  have hmoves : ((choices.draw ([0xFFFFFFFF, 0xFFFFFFFF, 0, 0, 0xFFFFFFFF, 0xFFFFFFFF] :
      List UInt32)).answer.toOption.map fun tree =>
      let reached := Act.each (ValueTree.Call.perform choices.tree) [.simplify] tree
      let backed := Act.each (ValueTree.Call.perform choices.tree) [.simplify, .complicate, .complicate, .complicate]
        reached.state
      (reached.answer.toOption, (choices.tree.current reached.state).toOption, backed.answer.toOption,
        (choices.tree.current backed.state).toOption)) =
        some (some [true], some 1, some [true, true, true, false], some 2) := by decide +kernel
  obtain ⟨tree, htree, hmoves⟩ := Option.map_eq_some_iff.1 hmoves
  simp only [Prod.mk.injEq, toOption_eq_some] at hmoves
  exact ⟨tree, toOption_eq_some.1 htree, hmoves⟩

end StateCheck.Strategy
