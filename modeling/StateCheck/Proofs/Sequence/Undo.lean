import StateCheck.Proofs.Tree.Safe

/-! One level of undo: what the latest reduction changed is put back, once, and not after a truncation. -/

namespace StateCheck.Sequence
variable {S T ι τ : Type} {g : Shrinker S T ι τ} {I : ι → Prop} {J : τ → Prop} {v : Sequence S T ι τ}

theorem shrink_edits [BEq S] [BEq T] (hinitial : g.initial.Safe I) (htransition : g.transition.Safe J)
    (hv : v.Trees I J) (hshrink : (shrink g v).answer = .ok true) :
    (shrink g v).state.Trees I J ∧ ∃ edit, (shrink g v).state.lastEdit = some edit ∧
      edit.undo (shrink g v).state.shape = v.shape := by
  have htame : g.Tame I J fun _ => True :=
    ⟨⟨fun _ _ _ _ => trivial, fun _ _ _ _ => trivial⟩, hinitial.tame, htransition.tame⟩
  obtain ⟨htrees, hshrunk⟩ := (shrink_shrinks htame hv).of_ok hshrink
  obtain ⟨edit, hlast, -, hreduces⟩ := hshrunk.edited rfl
  exact ⟨htrees, edit, hlast, hreduces.undo⟩

theorem complicate_answers [BEq S] [BEq T] (hinitial : g.initial.Safe I) (htransition : g.transition.Safe J)
    (hv : v.Trees I J) :
    ∃ moved, (complicate g v).answer = .ok moved ∧ Complicated v moved (complicate g v).state := by
  let anything : Rules S T := ⟨fun s _ => .ok s, fun _ _ => .ok true⟩
  have htame : ({ g with rules := anything } : Shrinker S T ι τ).Tame I J fun _ => False :=
    ⟨⟨nofun, nofun⟩, hinitial.tame, htransition.tame⟩
  have hyields : (complicate g).Yields v (fun moved v' => v'.Trees I J ∧ Complicated v moved v')
      fun _ _ => False := (complicate_yields htame hv).mono (fun _ _ h => h) fun _ _ h => h.1
  obtain ⟨moved, hmoved, -, hcomplicated⟩ := hyields.answers
  exact ⟨moved, hmoved, hcomplicated⟩

theorem complicate_of_no_edit [BEq S] [BEq T] (hlast : v.lastEdit = none) :
    (complicate g v).answer = .ok false ∧ (complicate g v).state = v := by
  have hnothing : complicate g v = ⟨.ok false, v, []⟩ := by
    unfold complicate
    rw [Act.bind_of_ok (Act.get_apply v), hlast]
    rfl
  rw [hnothing]
  exact ⟨rfl, rfl⟩

theorem lastEdit_of_truncate {length : Int} (h : (truncate length v).answer = .ok true) :
    (truncate length v).state.lastEdit = none := by
  have hcut : (truncate length : Act (Sequence S T ι τ) Bool).Yields v
      (fun moved v' => moved = true → v'.lastEdit = none) fun _ _ => True := by
    rw [truncate_yields]
    intro hlt
    rw [decide_eq_true_eq] at hlt
    unfold cut
    rw [if_neg (Int.not_le.2 hlt)]
  exact hcut.of_ok h rfl

/-- The candidate before a shrink can be brought back once, and not at all after a truncation. -/
theorem undo_exact [BEq S] [BEq T] (hinitial : g.initial.Safe I) (htransition : g.transition.Safe J)
    (hv : v.Trees I J) (hshrink : (shrink g v).answer = .ok true) :
    let shrunk := (shrink g v).state
    let undone := complicate g shrunk
    undone.answer = .ok true ∧ undone.state.current = v.current ∧
    (complicate g undone.state).answer = .ok false ∧ (complicate g undone.state).state = undone.state ∧
    ∀ length, (truncate length shrunk).answer = .ok true →
      let cut := (truncate length shrunk).state
      (complicate g cut).answer = .ok false ∧ (complicate g cut).state = cut := by
  intro shrunk undone
  obtain ⟨htrees, edit, hlast, hundo⟩ := shrink_edits hinitial htransition hv hshrink
  obtain ⟨moved, hmoved, hcomplicated⟩ := complicate_answers hinitial htransition htrees
  obtain ⟨rfl, hrestored⟩ := hcomplicated.some edit hlast
  have hshape : undone.state.shape = v.shape := hrestored.shape.trans hundo
  have hagain := complicate_of_no_edit (g := g) hrestored.lastEdit
  refine ⟨hmoved, congrArg Shape.current hshape, hagain.1, hagain.2, ?_⟩
  intro length htruncate
  exact complicate_of_no_edit (lastEdit_of_truncate htruncate)

theorem undo_exact_purse :
    let v := (Act.each (Move.perform purseShrinker) [.shrink, .complicate, .truncate 1]
      (start () 1 purseEntries 1)).state
    (shrink purseShrinker v).answer = .ok true ∧ (shrink purseShrinker v).state.current = ⟨1, [false]⟩ ∧
    (complicate purseShrinker (shrink purseShrinker v).state).state.current = ⟨1, [true]⟩ := by
  intro v
  have hshrink : (shrink purseShrinker v).answer = .ok true := rfl
  have hundo := undo_exact purseShrinker_total.initial.safe purseShrinker_total.transition.safe
    ⟨trivial, fun _ _ => trivial⟩ hshrink
  exact ⟨hshrink, rfl, hundo.2.1⟩

end StateCheck.Sequence
