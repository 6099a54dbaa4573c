import StateCheck.Proofs.Sequence.Hunt
import StateCheck.Proofs.Sequence.RoundCases

/-! A reduction changes one part of a sequence. A deletion drops the last transition and no other: as long as
deletions go on, every transition is still accepted, so there is nothing to trim. -/

namespace StateCheck

theorem exists_before_concat {α : Type} {length : Int} {items : List α} (hpos : 0 < length)
    (hle : length ≤ items.length) : ∃ a, before length items = before (length - 1) items ++ [a] := by
  obtain ⟨n, hn⟩ := Int.eq_ofNat_of_zero_le (Int.le_sub_one_of_lt hpos)
  have hlength : length = (n + 1 : Nat) := by omega
  have hbound : n < items.length := by omega
  rw [hn, hlength]
  simp only [before_natCast]
  exact ⟨items[n], List.take_succ_eq_append_getElem hbound⟩

theorem Edit.Tracks.phase {S T ι τ : Type} {edit : Edit S T} {v : Sequence S T ι τ} (h : edit.Tracks v) :
    edit.phase = v.cursor.phase := by
  cases edit with
  | deleted index length => exact h.1.symm
  | transition i prior => exact congrArg Cursor.phase h.1.symm
  | initialState prior => exact Eq.symm h

namespace Sequence
variable {S T ι τ : Type} {g : Shrinker S T ι τ} {rules : Rules S T} {v v' : Sequence S T ι τ} {edit : Edit S T}

def Whole (rules : Rules S T) (v : Sequence S T ι τ) : Prop :=
  v.cursor.phase = .deleteTransition → rules.Accepts v.shape.initial v.shape.transitions

theorem Whole.of_still (h : Whole rules v) (hstill : Still v v')
    (hrank : v.cursor.phase.rank ≤ v'.cursor.phase.rank) : Whole rules v' := by
  intro hphase
  rw [hphase] at hrank
  rw [hstill.shape]
  exact h (Phase.eq_delete hrank)

theorem Whole.shrunk {moved : Bool} (h : Whole rules v) (hv : Shrunk rules v moved v') : Whole rules v' := by
  cases moved with
  | false =>
    obtain ⟨-, hshape, -⟩ := hv.ended rfl
    exact h.of_still ⟨hshape, hv.minSize, hv.startLength⟩ hv.rank_le
  | true =>
    intro hphase
    obtain ⟨edit, -, hedit, hreduces⟩ := hv.edited rfl
    have hrank := hv.rank_le
    rw [hphase] at hrank hedit
    have hwhole := h (Phase.eq_delete hrank)
    generalize v'.shape = f at hreduces
    cases hreduces with
    | delete => exact hwhole
    | transition => cases hedit
    | initialState => cases hedit

theorem Restored.whole (h : Restored edit v v') (htracks : edit.Tracks v) : Whole rules v' := by
  intro hphase
  have hrank := h.rank_le htracks.phase
  rw [hphase] at hrank
  have hdelete : edit.phase = .deleteTransition := htracks.phase.trans (Phase.eq_delete hrank)
  have hended := h.deleted hdelete
  rw [hphase] at hended
  cases hended

theorem Whole.cut (h : Whole rules v) (length : Int) : Whole rules (v.cut length) := by
  unfold Sequence.cut
  split
  · exact h
  · exact h

structure Intact (rules : Rules S T) (v : Sequence S T ι τ) : Prop
    extends Tracked (fun _ => True) (fun _ => True) v where
  whole : Whole rules v

theorem perform_intact [BEq S] [BEq T] (move : Move) (v : Sequence S T ι τ) (hv : Intact g.rules v) :
    (move.perform g).Yields v (fun _ v' => Intact g.rules v') fun _ v' => Intact g.rules v' := by
  obtain ⟨haligned, hwhole⟩ := hv
  have hgoes := perform_goes (g := g) move haligned
  cases move with
  | shrink =>
    have hshrinks := shrink_shrinks g.tame_of_anything v.trees_of_anything
    refine (Act.Yields.and hgoes hshrinks).mono (fun moved v' h => ?_) fun e v' h => ?_
    · obtain ⟨⟨haligned', -⟩, -, hshrunk⟩ := h
      exact ⟨haligned', hwhole.shrunk hshrunk⟩
    · obtain ⟨⟨haligned', honward⟩, -, hstill, -⟩ := h
      exact ⟨haligned', hwhole.of_still hstill honward.rank_le⟩
  | complicate =>
    have hyields := complicate_yields g.tame_of_anything v.trees_of_anything
    refine (Act.Yields.and hgoes hyields).mono (fun moved v' h => ?_) fun e v' h => ?_
    · obtain ⟨⟨haligned', -⟩, -, hcomplicated⟩ := h
      refine ⟨haligned', ?_⟩
      cases hlast : v.lastEdit with
      | none =>
        obtain ⟨-, rfl⟩ := hcomplicated.none hlast
        exact hwhole
      | some edit => exact (hcomplicated.some edit hlast).2.whole (haligned.edit edit hlast)
    · obtain ⟨⟨haligned', -⟩, -, edit, hlast, hrestored⟩ := h
      exact ⟨haligned', hrestored.whole (haligned.edit edit hlast)⟩
  | truncate length =>
    rw [Move.perform, truncate_yields]
    exact ⟨(cut_goes haligned length).1, hwhole.cut length⟩

theorem start_intact (initialTree : ι) {initialState : S} {entries : List (Entry τ T)} (minSize : Int)
    (h : rules.Accepts initialState (entries.map (·.transition))) :
    Intact rules (start initialTree initialState entries minSize) :=
  ⟨tracked_start trivial initialState (fun _ _ => trivial) minSize, fun _ => h⟩

/-- The one part that a reduction changed, and the edit that names the place and keeps what was there. With a length
of zero or less there is no last transition that a deletion could drop. -/
inductive Changed (g : Shrinker S T ι τ) (v v' : Sequence S T ι τ) : Edit S T → Prop
  | deleted (hphase : v'.cursor.phase = .deleteTransition) (hlong : v.minSize < v.length)
      (hshape : v'.shape = { v.shape with length := v.length - 1 })
      (hlast : 0 < v.length → ∃ t, v.current = { v'.current with transitions := v'.current.transitions ++ [t] }) :
      Changed g v v' (.deleted (v.length - 1) v.length)
  | transition {i : Nat} {prior t : T} {tree : τ} (hcursor : v'.cursor = { phase := .shrinkTransition, index := i })
      (hprior : v.current.transitions[i]? = some prior)
      (hshape : v'.shape = { v.shape with transitions := v.shape.transitions.set i t })
      (hcurrent : v'.current = { v.current with transitions := v.current.transitions.set i t })
      (hentry : v'.entries[i]? = some ⟨tree, t⟩) (hshown : g.transition.current tree = .ok t) :
      Changed g v v' (.transition i prior)
  | initialState {s : S} (hphase : v'.cursor.phase = .shrinkInitialState)
      (hshape : v'.shape = { v.shape with initial := s })
      (hcurrent : v'.current = { v.current with initial := s }) (hshown : g.initial.current v'.initialTree = .ok s) :
      Changed g v v' (.initialState v.current.initial)

theorem Found.changed (h : Found g v edit v') (hv : Seated v) (hwhole : Whole g.rules v) :
    Changed g v { v' with lastEdit := some edit } edit := by
  have hle := hv.le
  rw [← length_transitions] at hle
  cases h with
  | @deleted valid hphase hlong hvalid =>
    have haccepts : g.rules.Accepts v.initialState v.transitions := hwhole hphase
    have hlongest := (haccepts.before (v.length - 1)).longestValid
    have hbefore : v.length - 1 ≤ (before (v.length - 1) v.transitions).length := le_length_before (by omega)
    -- All of what is left is accepted, so there is nothing to trim.
    rw [hvalid] at hlongest
    obtain rfl := Except.ok.inj hlongest
    rw [Int.min_eq_left hbefore]
    refine .deleted hphase hlong rfl fun hpos => ?_
    obtain ⟨t, ht⟩ := exists_before_concat hpos hle
    exact ⟨t, congrArg (Candidate.mk v.initialState) ht⟩
  | @transition i entry t hcursor hlt hentry hproposed =>
    have hbound := (List.getElem?_eq_some_iff.1 hentry).1
    have htransitions := transitions_put (v := v) (i := i) (g.transition.propose v.retryPending entry.tree).state t
    have hprior : v.current.transitions[i]? = some entry.transition := by
      show (before v.length v.transitions)[i]? = _
      rw [getElem?_before hlt, transitions, List.getElem?_map, hentry]
      rfl
    have hshown := (g.transition.yields_propose v.retryPending entry.tree).of_ok hproposed t rfl
    refine .transition hcursor hprior ?_ ?_ (List.getElem?_set_self hbound) hshown
    · exact congrArg (Shape.mk v.initialState · v.length) htransitions
    · rw [current, current, ← before_set, ← htransitions]
      rfl
  | @initialState s hphase hproposed =>
    have hshown := (g.initial.yields_propose v.retryPending v.initialTree).of_ok hproposed s rfl
    exact .initialState hphase rfl rfl hshown

theorem Changed.of_still {u : Sequence S T ι τ} (h : Changed g v v' edit) (hstill : Still u v) :
    Changed g u v' edit := by
  have hcurrent : v.current = u.current := congrArg Shape.current hstill.shape
  have hlength : v.length = u.length := congrArg Shape.length hstill.shape
  cases h with
  | deleted hphase hlong hshape hlast =>
    rw [hcurrent, hlength] at hlast
    rw [hstill.minSize, hlength] at hlong
    rw [hstill.shape, hlength] at hshape
    rw [hlength]
    exact .deleted hphase hlong hshape hlast
  | transition hcursor hprior hshape hcurrent' hentry hshown =>
    rw [hcurrent] at hprior hcurrent'
    rw [hstill.shape] at hshape
    exact .transition hcursor hprior hshape hcurrent' hentry hshown
  | initialState hphase hshape hcurrent' hshown =>
    rw [hcurrent] at hcurrent' ⊢
    rw [hstill.shape] at hshape
    exact .initialState hphase hshape hcurrent' hshown

theorem Changed.phase (h : Changed g v v' edit) : edit.phase = v'.cursor.phase := by
  cases h with
  | deleted hphase => exact hphase.symm
  | transition hcursor => exact congrArg Cursor.phase hcursor.symm
  | initialState hphase => exact hphase.symm

theorem shrink_changed [BEq S] [BEq T] (hv : Seated v) (hwhole : Whole g.rules v) : (shrink g).Yields v
    (fun moved v' => moved = true → ∃ edit, v'.lastEdit = some edit ∧ Changed g v v' edit) fun _ _ => True := by
  apply shrink_cases (Whole g.rules) hv hwhole
  · intro u u' _ hwhole hrounded honward
    exact hwhole.of_still hrounded.still honward.rank_le
  · rintro u u' moved hunderway hwhole hrounded rfl
    cases hrounded with
    | found hfound => exact ⟨_, rfl, (hfound.changed hunderway.toPlaced hwhole).of_still hunderway.still⟩

/-- However a sequence that started accepted was driven, a reduction changes one part of it, and the edit keeps what
was there: a deletion drops the last transition, with nothing trimmed beyond it. -/
theorem shrink_changes_one_part [BEq S] [BEq T] (g : Shrinker S T ι τ) (initialTree : ι) (initialState : S)
    (entries : List (Entry τ T)) (minSize : Int)
    (hstart : g.rules.Accepts initialState (entries.map (·.transition))) (moves : List Move) :
    let v := after g (start initialTree initialState entries minSize) moves
    let v' := (shrink g v).state
    v.minSize = minSize ∧ ((shrink g v).answer = .ok true →
      ∃ edit, v'.lastEdit = some edit ∧ edit.phase = v'.cursor.phase ∧ Changed g v v' edit) := by
  intro v v'
  have hv : Intact g.rules v := after_keeps perform_intact moves (start_intact initialTree minSize hstart)
  refine ⟨after_minSize moves, fun hshrink => ?_⟩
  obtain ⟨edit, hlast, hchanged⟩ := (shrink_changed hv.toPlaced hv.whole).of_ok hshrink rfl
  exact ⟨edit, hlast, hchanged.phase, hchanged⟩

theorem purse_changes_one_coin :
    let v := after purseShrinker (start () 1 purseEntries 1) [.shrink, .complicate, .truncate 1]
    let v' := (shrink purseShrinker v).state
    (shrink purseShrinker v).answer = .ok true ∧
    ∃ edit, v'.lastEdit = some edit ∧ edit.phase = v'.cursor.phase ∧ Changed purseShrinker v v' edit := by
  intro v v'
  have hshrink : (shrink purseShrinker v).answer = .ok true := rfl
  have hparts := shrink_changes_one_part purseShrinker () 1 purseEntries 1 purse_accepts
    [.shrink, .complicate, .truncate 1]
  exact ⟨hshrink, hparts.2 hshrink⟩

/-- With a negative minimum a deletion goes on below zero, and shows what was cut off instead of dropping a
transition. -/
theorem deletion_below_zero_adds :
    let v := after purseShrinker (start () 1 purseEntries (-1)) [.truncate 0]
    let v' := (shrink purseShrinker v).state
    (shrink purseShrinker v).answer = .ok true ∧ v'.cursor.phase = .deleteTransition ∧
    v.current = ⟨1, []⟩ ∧ v'.current = ⟨1, [true, false]⟩ ∧
    ¬∃ t, v.current = { v'.current with transitions := v'.current.transitions ++ [t] } := by
  intro v v'
  refine ⟨rfl, rfl, rfl, rfl, ?_⟩
  rintro ⟨t, h⟩
  have htransitions : [] = [true, false] ++ [t] := congrArg Candidate.transitions h
  cases htransitions

end Sequence
end StateCheck
