import StateCheck.Proofs.Sequence.Order

/-! What a call leaves when it raises. A candidate is shown only after all that can raise was asked for, and put back
before anything is; and the edit is forgotten first, so nothing is undone twice. -/

namespace StateCheck.Sequence
variable {S T ι τ : Type} {g : Shrinker S T ι τ} {v : Sequence S T ι τ}

/-- What is left after the calls, of which any may raise. Trees and rules may be others in each call. -/
def driven [BEq S] [BEq T] (v : Sequence S T ι τ) (calls : List (Shrinker S T ι τ × Move)) : Sequence S T ι τ :=
  calls.foldl (fun v call => (call.2.perform call.1 v).state) v

theorem driven_concat [BEq S] [BEq T] (v : Sequence S T ι τ) (calls : List (Shrinker S T ι τ × Move))
    (g : Shrinker S T ι τ) (move : Move) : driven v (calls ++ [(g, move)]) = (move.perform g (driven v calls)).state :=
  List.foldl_append

theorem shrink_raises [BEq S] [BEq T] {e : Fault} (h : (shrink g v).answer = .error e) :
    (shrink g v).state.current = v.current ∧ (shrink g v).state.lastEdit = none := by
  obtain ⟨-, hstill, hlast⟩ := (shrink_shrinks g.tame_of_anything v.trees_of_anything).of_error h
  exact ⟨congrArg Shape.current hstill.shape, hlast⟩

theorem lastEdit_of_shrink [BEq S] [BEq T] {edit : Edit S T} (h : (shrink g v).state.lastEdit = some edit) :
    (shrink g v).answer = .ok true := by
  have hshrinks := shrink_shrinks g.tame_of_anything v.trees_of_anything
  cases hanswer : (shrink g v).answer with
  | error e =>
    rw [(shrink_raises hanswer).2] at h
    cases h
  | ok moved =>
    cases moved with
    | true => rfl
    | false =>
      obtain ⟨hlast, -⟩ := (hshrinks.of_ok hanswer).2.ended rfl
      rw [hlast] at h
      cases h

theorem lastEdit_of_complicate [BEq S] [BEq T] : (complicate g v).state.lastEdit = none := by
  have hyields := complicate_yields g.tame_of_anything v.trees_of_anything
  cases hanswer : (complicate g v).answer with
  | error e =>
    obtain ⟨-, edit, -, hrestored⟩ := hyields.of_error hanswer
    exact hrestored.lastEdit
  | ok moved =>
    obtain ⟨-, hcomplicated⟩ := hyields.of_ok hanswer
    cases hlast : v.lastEdit with
    | none =>
      obtain ⟨-, hsame⟩ := hcomplicated.none hlast
      rw [hsame]
      exact hlast
    | some edit => exact (hcomplicated.some edit hlast).2.lastEdit

theorem truncate_of_edit {length : Int} {edit : Edit S T}
    (h : (truncate length v).state.lastEdit = some edit) : (truncate length v).state = v := by
  have hcut : (truncate length : Act (Sequence S T ι τ) Bool).Yields v
      (fun _ v' => v' = v ∨ v'.lastEdit = none) fun _ v' => v' = v ∨ v'.lastEdit = none := by
    rw [truncate_yields]
    unfold cut
    split
    · exact .inl rfl
    · exact .inr rfl
  rcases hcut.state with hsame | hnone
  · exact hsame
  · rw [hnone] at h
    cases h

theorem edit_of_driven [BEq S] [BEq T] {calls : List (Shrinker S T ι τ × Move)} {edit : Edit S T}
    (hv : v.lastEdit = none) (h : (driven v calls).lastEdit = some edit) :
    ∃ earlier g later, calls = earlier ++ (g, .shrink) :: later ∧
      (shrink g (driven v earlier)).answer = .ok true ∧ driven v calls = (shrink g (driven v earlier)).state := by
  -- From the end: the last call is that reduction, or a truncation that dropped nothing.
  induction calls using List.reverseRecOn with
  | nil =>
    have hnone : (driven v []).lastEdit = none := hv
    rw [hnone] at h
    cases h
  | append_singleton calls call ih =>
    obtain ⟨g, move⟩ := call
    rw [driven_concat] at h ⊢
    cases move with
    | shrink => exact ⟨calls, g, [], rfl, lastEdit_of_shrink h, rfl⟩
    | complicate =>
      have hnone : (Move.perform g .complicate (driven v calls)).state.lastEdit = none := lastEdit_of_complicate
      rw [hnone] at h
      cases h
    | truncate length =>
      have hsame : (Move.perform g (.truncate length) (driven v calls)).state = driven v calls := truncate_of_edit h
      rw [hsame] at h ⊢
      obtain ⟨earlier, g', later, hcalls, hshrink, hstate⟩ := ih h
      refine ⟨earlier, g', later ++ [(g, .truncate length)], ?_, hshrink, hstate⟩
      rw [hcalls, List.append_assoc]
      rfl

/-- However a sequence was driven, a shrink that raises leaves the candidate and nothing to undo; and when backing off
raises, the latest reduction was undone, to the candidate before it. -/
theorem raised_leaves_usable [BEq S] [BEq T] (initialTree : ι) (s : S) (entries : List (Entry τ T))
    (minSize : Int) (calls : List (Shrinker S T ι τ × Move)) (g : Shrinker S T ι τ) :
    let v := driven (start initialTree s entries minSize) calls
    let shrunk := shrink g v
    let undone := complicate g v
    (∀ e, shrunk.answer = .error e → shrunk.state.current = v.current ∧ shrunk.state.lastEdit = none ∧
      ∀ g', (complicate g' shrunk.state).answer = .ok false ∧ (complicate g' shrunk.state).state = shrunk.state) ∧
    (∀ e, undone.answer = .error e →
      (∃ earlier g' later, calls = earlier ++ (g', .shrink) :: later ∧
        let u := driven (start initialTree s entries minSize) earlier
        (shrink g' u).answer = .ok true ∧ v = (shrink g' u).state ∧ undone.state.current = u.current) ∧
      ∀ g', (complicate g' undone.state).answer = .ok false ∧ (complicate g' undone.state).state = undone.state) := by
  intro v shrunk undone
  refine ⟨fun e hraised => ?_, fun e hraised => ?_⟩
  · obtain ⟨hcurrent, hlast⟩ := shrink_raises hraised
    exact ⟨hcurrent, hlast, fun g' => complicate_of_no_edit hlast⟩
  · obtain ⟨-, edit, hlast, hrestored⟩ :=
      (complicate_yields g.tame_of_anything v.trees_of_anything).of_error hraised
    obtain ⟨earlier, g', later, hcalls, hshrink, hstate⟩ := edit_of_driven rfl hlast
    refine ⟨⟨earlier, g', later, hcalls, hshrink, hstate, ?_⟩, fun _ => complicate_of_no_edit hrestored.lastEdit⟩
    have hshrinks (u : Sequence S T ι τ) := shrink_shrinks g'.tame_of_anything u.trees_of_anything
    obtain ⟨edit', hlast', -, hreduces⟩ := ((hshrinks _).of_ok hshrink).2.edited rfl
    rw [← hstate] at hlast' hreduces
    obtain rfl : edit' = edit := Option.some.inj (hlast'.symm.trans hlast)
    have hshape := hrestored.shape.trans hreduces.undo
    exact congrArg Shape.current hshape

def brittle (bad : Int) : Shrinker Int Int Search Search where
  rules := adder
  initial := Search.tree
  transition := Search.tree.map fun n => if n = bad then .error (.ofText .value "cracked") else .ok n

theorem brittle_eight_stays :
    let whole := start (.start 0 0) 0 eight 1
    let halved := driven whole [(brittle 6, .shrink)]
    (shrink (brittle 4) (driven whole [])).state.current = ⟨0, [8]⟩ ∧ halved.current = ⟨0, [4]⟩ ∧
    (complicate (brittle 6) halved).state.current = ⟨0, [8]⟩ ∧
    (complicate (brittle 6) (complicate (brittle 6) halved).state).answer = .ok false := by
  have hshrink : (shrink (brittle 4) (driven (start (.start 0 0) 0 eight 1) [])).answer =
      .error (.ofText .value "cracked") := rfl
  have hundo : (complicate (brittle 6) (driven (start (.start 0 0) 0 eight 1) [(brittle 6, .shrink)])).answer =
      .error (.ofText .value "cracked") := rfl
  have hshrunk := (raised_leaves_usable (.start 0 0) 0 eight 1 [] (brittle 4)).1
  have hundone := (raised_leaves_usable (.start 0 0) 0 eight 1 [(brittle 6, .shrink)] (brittle 6)).2
  obtain ⟨hcurrent, -⟩ := hshrunk (.ofText .value "cracked") hshrink
  obtain ⟨-, hagain⟩ := hundone (.ofText .value "cracked") hundo
  exact ⟨hcurrent, rfl, rfl, (hagain (brittle 6)).1⟩

end StateCheck.Sequence
