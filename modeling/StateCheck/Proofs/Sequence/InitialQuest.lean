import StateCheck.Proofs.Sequence.Hunt

/-! A search for a threshold in the initial state, which comes after all transitions. -/

namespace StateCheck.Sequence
variable {S T ι τ : Type} {g : Shrinker S T ι τ} {v : Sequence S T ι τ} {entry : Entry τ T}

structure InitialQuest (S T ι τ : Type) extends Quest ι where
  shown : Nat → S
  transitions : List T
  Others : τ → Prop

namespace InitialQuest

def put (q : InitialQuest S T ι τ) (d : Nat) : Candidate S T := ⟨q.shown d, q.transitions⟩

structure Framed (q : InitialQuest S T ι τ) (k : Int) (shown : Nat) (v : Sequence S T ι τ) : Prop where
  poses : v.Poses k (q.put shown)
  others : ∀ entry ∈ v.entries, q.Others entry.tree

inductive Scans (q : InitialQuest S T ι τ) (n held : Nat) (v : Sequence S T ι τ) : Prop
  | transitions (j : Nat) (hcursor : v.cursor = { phase := .shrinkTransition, index := j })
      (hretry : v.retryPending = false) (htree : q.Rests n held v.initialTree)
  | initialState (hphase : v.cursor.phase = .shrinkInitialState) (htree : q.Waits n v.retryPending held v.initialTree)
  | done (hphase : v.cursor.phase = .done) (hnearest : q.Nearest held)

structure Waiting (q : InitialQuest S T ι τ) (k : Int) (n held : Nat) (v : Sequence S T ι τ) : Prop
    extends q.Framed k held v where
  scans : q.Scans n held v

structure Testing (q : InitialQuest S T ι τ) (k : Int) (held n d : Nat) (v : Sequence S T ι τ) : Prop
    extends q.Framed k d v where
  phase : v.cursor.phase = .shrinkInitialState
  settled : v.retryPending = false
  edit : v.lastEdit = some (.initialState (q.shown held))
  tree : q.Tests n d held v.initialTree

variable {q : InitialQuest S T ι τ} {f : Int → Except Fault S} {k : Int} {n d held j : Nat}

structure Lawful [BEq S] (q : InitialQuest S T ι τ) (g : Shrinker S T ι τ) (f : Int → Except Fault S) : Prop where
  seeks : g.initial.Seeks f q.place q.first q.shown
  others : g.transition.Idle q.Others
  upward : ∀ d d', d ≤ d' → d' ≤ q.first.hi → q.Fails d → q.Fails d'
  accepts : ∀ d ≤ q.first.hi, g.rules.Accepts (q.shown d) q.transitions

theorem Framed.moved (h : q.Framed k held v) (cursor : Cursor) (lastEdit : Option (Edit S T)) (retry : Bool) :
    q.Framed k held { v with cursor := cursor, lastEdit := lastEdit, retryPending := retry } :=
  ⟨h.poses.moved cursor lastEdit retry, h.others⟩

theorem Framed.put_idle (h : q.Framed k held v) (hentry : v.entries[j]? = some entry) {tree : τ}
    (htree : q.Others tree) : q.Framed k held (v.put j tree entry.transition) where
  poses := h.poses.put_same hentry tree
  others entry' hentry' := by
    rcases List.mem_or_eq_of_mem_set hentry' with hmem | rfl
    · exact h.others entry' hmem
    · exact htree

theorem Framed.put_shown (h : q.Framed k held v) (tree : ι) (d : Nat) : q.Framed k d (v.putInitial tree (q.shown d)) :=
  ⟨⟨rfl, h.poses.transitions, h.poses.trimmed, h.poses.reaches, h.poses.le⟩, h.others⟩

section shrinking
variable [BEq S] (hq : q.Lawful g f)

include hq in
theorem shrinkInitial_leads (hframed : q.Framed k held v) (hphase : v.cursor.phase = .shrinkInitialState)
    (hwaits : q.Waits n v.retryPending held v.initialTree) :
    Advances (q.Testing k held) k (q.put held) (q.Nearest held) n (shrinkInitial g) v := by
  unfold Advances shrinkInitial
  rw [Act.yields_bind, yields_shrinkInitialState]
  refine (hwaits.propose hq.seeks).mono (fun proposed tree h => ?_) fun _ _ h => h
  cases proposed with
  | none =>
    dsimp only
    rw [Act.yields_bind, yields_moveTo, Act.yields_pure]
    have hposes := hframed.poses
    exact ⟨⟨hposes.initialState, hposes.transitions, hposes.trimmed, hposes.reaches, hposes.le⟩, h⟩
  | some s =>
    obtain ⟨n', hn, d, rfl, htests⟩ := h
    have hvalid := ((hq.accepts d htests.le).before v.length).isValid 0
    dsimp only
    rw [hframed.poses.transitions, put, hvalid]
    have hedit : some (Edit.initialState v.initialState : Edit S T) = some (.initialState (q.shown held)) := by
      rw [hframed.poses.initialState, put]
    exact ⟨n', hn, d, (hframed.put_shown tree d).moved _ _ _, hphase, rfl, hedit, htests⟩

include hq in
theorem shrinkTransitions_leads (hframed : q.Framed k held v)
    (hcursor : v.cursor = { phase := .shrinkTransition, index := j }) (hretry : v.retryPending = false)
    (htree : q.Rests n held v.initialTree) {left : Nat} (hleft : (v.length - j).toNat = left) :
    Advances (q.Testing k held) k (q.put held) (q.Nearest held) n (shrinkTransitions g left) v := by
  refine yields_shrinkTransitions (P := fun left v => q.Framed k held v ∧ q.Rests n held v.initialTree ∧
    v.retryPending = false ∧ ∃ j : Nat, v.cursor = { phase := .shrinkTransition, index := j } ∧
      (v.length - j).toNat = left) ?_ ?_ left ⟨hframed, htree, hretry, j, hcursor, hleft⟩
  · rintro left v ⟨hframed, htree, hretry, j, hcursor, hleft⟩
    have hlt : (j : Int) < v.length := by omega
    obtain ⟨entry, hentry, -⟩ := hframed.poses.entry_at hlt
    have hindex : v.cursor.index.toNat = j := by rw [hcursor, Int.toNat_natCast]
    have hidle := hframed.others entry (List.mem_of_getElem? hentry)
    rw [hindex]
    refine (shrinkTransition_idle hq.others hentry hidle hretry).mono (fun edit? v' h => ?_) fun _ _ h => h
    obtain ⟨rfl, tree, hidle', rfl⟩ := h
    have hnext : ({ v.cursor with index := v.cursor.index + 1 } : Cursor) =
        { phase := .shrinkTransition, index := (j + 1 : Nat) } := by
      rw [hcursor]
      rfl
    have hleft' : (v.length - ((j + 1 : Nat) : Int)).toNat = left := by omega
    exact ⟨(hframed.put_idle hentry hidle').moved _ _ _, htree, rfl, j + 1, hnext, hleft'⟩
  · rintro v ⟨hframed, htree, hretry, -⟩
    have hwaits : q.Waits n v.retryPending held v.initialTree := by
      rw [hretry]
      exact htree
    exact shrinkInitial_leads hq (hframed.moved _ _ _) rfl hwaits

end shrinking

theorem Lawful.hunt [BEq S] [BEq T] (hq : q.Lawful g f) :
    Hunt g q.put k q.first.hi q.Fails (q.Waiting k) (q.Testing k) where
  shrink n held v hv := by
    have hframed := hv.toFramed.moved v.cursor none v.retryPending
    unfold Advances
    cases hv.scans with
    | transitions j hcursor hretry htree =>
      have hphase : v.cursor.phase = .shrinkTransition := congrArg Cursor.phase hcursor
      have hindex : v.cursor.index = j := congrArg Cursor.index hcursor
      rw [yields_shrink hphase, shrinkIn, hindex]
      exact shrinkTransitions_leads hq hframed hcursor hretry htree rfl
    | initialState hphase htree =>
      rw [yields_shrink hphase]
      exact shrinkInitial_leads hq hframed hphase htree
    | done hphase hnearest =>
      rw [yields_shrink hphase]
      exact ⟨hframed.poses, hnearest⟩
  keep n d held v hv := by
    refine ⟨hv.toFramed, .initialState hv.phase ?_⟩
    rw [hv.settled]
    exact hv.tree.rests
  undo n d held v hv hheld hpass := by
    have hframed := hv.toFramed.put_shown
    rw [yields_complicate hv.edit, yields_restore_initial]
    refine (hv.tree.canRetry hq.seeks hq.upward hheld hpass).mono (fun retry tree h => ?_) fun _ _ h => h
    cases retry with
    | true => exact ⟨(hframed tree held).moved _ _ _, .initialState hv.phase h⟩
    | false => exact ⟨(hframed tree held).moved _ _ _, .done rfl h⟩
  poses _ _ _ _ hv := hv.poses
  le _ _ _ _ hv := hv.tree.le

end InitialQuest

end StateCheck.Sequence
