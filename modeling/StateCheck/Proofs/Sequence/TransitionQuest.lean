import StateCheck.Proofs.Sequence.Hunt

/-! A search for a threshold in a transition. Before its position and after it the trees are idle; at the position every
reduction tries a distance, and every undo tells the search that it passed. -/

namespace StateCheck.Sequence
variable {S T ι τ : Type} {g : Shrinker S T ι τ} {v : Sequence S T ι τ} {entry : Entry τ T}

structure TransitionQuest (S T ι τ : Type) extends Quest τ where
  shown : Nat → T
  initialState : S
  transitions : List T
  position : Nat
  Initials : ι → Prop
  Others : τ → Prop

namespace TransitionQuest

def put (q : TransitionQuest S T ι τ) (d : Nat) : Candidate S T :=
  ⟨q.initialState, q.transitions.set q.position (q.shown d)⟩

structure Framed (q : TransitionQuest S T ι τ) (k : Int) (shown : Nat) (v : Sequence S T ι τ) : Prop where
  poses : v.Poses k (q.put shown)
  initialTree : q.Initials v.initialTree
  others : ∀ j entry, v.entries[j]? = some entry → j ≠ q.position → q.Others entry.tree

inductive Scans (q : TransitionQuest S T ι τ) (n held j : Nat) (v : Sequence S T ι τ) : Prop
  | ahead (hle : j ≤ q.position) (hretry : v.retryPending = true → j = q.position)
      (htree : ∀ entry, v.entries[q.position]? = some entry → q.Waits n v.retryPending held entry.tree)
  | behind (hlt : q.position < j) (hretry : v.retryPending = false) (hnearest : q.Nearest held)

structure Waiting (q : TransitionQuest S T ι τ) (k : Int) (n held : Nat) (v : Sequence S T ι τ) : Prop
    extends q.Framed k held v where
  scans : ∃ j : Nat, v.cursor = { phase := .shrinkTransition, index := j } ∧ q.Scans n held j v

structure Testing (q : TransitionQuest S T ι τ) (k : Int) (held n d : Nat) (v : Sequence S T ι τ) : Prop
    extends q.Framed k d v where
  cursor : v.cursor = { phase := .shrinkTransition, index := q.position }
  settled : v.retryPending = false
  edit : v.lastEdit = some (.transition q.position (q.shown held))
  tree : ∀ entry, v.entries[q.position]? = some entry → q.Tests n d held entry.tree

variable {q : TransitionQuest S T ι τ} {f : Int → Except Fault T} {k : Int} {n d held j : Nat}

structure Lawful [BEq T] (q : TransitionQuest S T ι τ) (g : Shrinker S T ι τ) (f : Int → Except Fault T) : Prop where
  seeks : g.transition.Seeks f q.place q.first q.shown
  initials : g.initial.Idle q.Initials
  others : g.transition.Idle q.Others
  upward : ∀ d d', d ≤ d' → d' ≤ q.first.hi → q.Fails d → q.Fails d'
  accepts : ∀ d ≤ q.first.hi, g.rules.Accepts (q.put d).initial (q.put d).transitions

theorem Framed.searched (h : q.Framed k held v) (hk : (q.position : Int) ≤ k) :
    ∃ entry, v.entries[q.position]? = some entry := by
  have hreaches := h.poses.reaches (by omega)
  obtain ⟨entry, hentry, -⟩ := h.poses.entry_at (j := q.position) (by omega)
  exact ⟨entry, hentry⟩

theorem Framed.put_idle (h : q.Framed k held v) (hentry : v.entries[j]? = some entry) {tree : τ}
    (htree : j ≠ q.position → q.Others tree) : q.Framed k held (v.put j tree entry.transition) where
  poses := h.poses.put_same hentry tree
  initialTree := h.initialTree
  others j' entry' hentry' hne := by
    have hset : (v.entries.set j ⟨tree, entry.transition⟩)[j']? = some entry' := hentry'
    by_cases heq : j = j'
    · subst heq
      obtain rfl := eq_of_set hset
      exact htree hne
    · rw [List.getElem?_set_ne heq] at hset
      exact h.others j' entry' hset hne

theorem Framed.moved (h : q.Framed k held v) (cursor : Cursor) (lastEdit : Option (Edit S T)) (retry : Bool) :
    q.Framed k held { v with cursor := cursor, lastEdit := lastEdit, retryPending := retry } :=
  ⟨h.poses.moved cursor lastEdit retry, h.initialTree, h.others⟩

theorem Framed.shown_at (h : q.Framed k held v) (hentry : v.entries[q.position]? = some entry) :
    entry.transition = q.shown held := by
  have hbound : q.position < v.transitions.length := by
    rw [length_transitions]
    exact (List.getElem?_eq_some_iff.1 hentry).1
  have hat : v.transitions[q.position]? = some entry.transition := by
    rw [Sequence.transitions, List.getElem?_map, hentry]
    rfl
  rw [h.poses.transitions, put] at hat hbound
  rw [List.length_set] at hbound
  rw [List.getElem?_set_self hbound] at hat
  exact (Option.some.inj hat).symm

theorem Framed.put_shown (h : q.Framed k held v) (tree : τ) (d : Nat) :
    q.Framed k d (v.put q.position tree (q.shown d)) where
  poses := by
    have hposes := h.poses.put q.position tree (q.shown d)
    have hput : ({ q.put held with
        transitions := (q.put held).transitions.set q.position (q.shown d) } : Candidate S T) = q.put d :=
      congrArg (Candidate.mk q.initialState) (List.set_set ..)
    exact hput ▸ hposes
  initialTree := h.initialTree
  others j entry hentry hne := by
    have hset : (v.entries.set q.position ⟨tree, q.shown d⟩)[j]? = some entry := hentry
    rw [List.getElem?_set_ne (Ne.symm hne)] at hset
    exact h.others j entry hset hne

def Scanning (q : TransitionQuest S T ι τ) (k : Int) (n held left : Nat) (v : Sequence S T ι τ) : Prop :=
  q.Framed k held v ∧ ∃ j : Nat, v.cursor = { phase := .shrinkTransition, index := j } ∧
    (v.length - j).toNat = left ∧ q.Scans n held j v

theorem Framed.next {left : Nat} (hframed : q.Framed k held v)
    (hcursor : v.cursor = { phase := .shrinkTransition, index := j }) (hleft : (v.length - j).toNat = left + 1)
    (hentry : v.entries[j]? = some entry) {tree : τ} (htree : j ≠ q.position → q.Others tree)
    (hscans : q.Scans n held (j + 1) (v.put j tree entry.transition)) :
    q.Scanning k n held left { v.put j tree entry.transition with cursor.index := v.cursor.index + 1 } := by
  have hnext : ({ v.cursor with index := v.cursor.index + 1 } : Cursor) =
      { phase := .shrinkTransition, index := (j + 1 : Nat) } := by
    rw [hcursor]
    rfl
  have hleft' : (v.length - ((j + 1 : Nat) : Int)).toNat = left := by omega
  refine ⟨(hframed.put_idle hentry htree).moved _ _ _, j + 1, hnext, hleft', ?_⟩
  cases hscans with
  | ahead hle hretry htree => exact .ahead hle hretry htree
  | behind hlt hretry hnearest => exact .behind hlt hretry hnearest

section shrinking
variable [BEq T] (hq : q.Lawful g f) (hk : (q.position : Int) ≤ k)

include hq in
theorem Lawful.valid (hframed : q.Framed k held v) {d : Nat} (hd : d ≤ q.first.hi) (start : Int) :
    g.rules.isValid v.initialState ((before v.length v.transitions).set q.position (q.shown d)) start = .ok true := by
  have haccepts := (hq.accepts d hd).before v.length
  rw [← before_set, hframed.poses.transitions, put, List.set_set, hframed.poses.initialState]
  exact haccepts.isValid start

include hq in
theorem shrinkTransition_seeks (hframed : q.Framed k held v)
    (hcursor : v.cursor = { phase := .shrinkTransition, index := q.position })
    (hentry : v.entries[q.position]? = some entry) (hshown : entry.transition = q.shown held)
    (hwaits : q.Waits n v.retryPending held entry.tree) : (shrinkTransition g q.position).Yields v
      (fun edit? v' => edit?.elim
        (q.Nearest held ∧ ∃ tree, v' = v.put q.position tree entry.transition)
        fun edit => ∃ n' < n, ∃ d, q.Testing k held n' d { v' with lastEdit := some edit }) fun _ _ => False := by
  rw [yields_shrinkTransition hentry]
  refine (hwaits.propose hq.seeks).mono (fun proposed tree h => ?_) fun _ _ h => h
  cases proposed with
  | none => exact ⟨h, tree, rfl⟩
  | some t =>
    obtain ⟨n', hn, d, rfl, htests⟩ := h
    dsimp only
    rw [hq.valid hframed htests.le]
    refine ⟨n', hn, d, (hframed.put_shown tree d).moved _ _ _, hcursor, rfl, ?_, fun entry' hentry' => ?_⟩
    · rw [hshown]
    · obtain rfl := eq_of_set hentry'
      exact htests

include hq in
theorem Framed.pass {left : Nat} (hframed : q.Framed k held v)
    (hcursor : v.cursor = { phase := .shrinkTransition, index := j }) (hleft : (v.length - j).toNat = left + 1)
    (hentry : v.entries[j]? = some entry) (hne : j ≠ q.position) (hretry : v.retryPending = false)
    (hscans : ∀ tree, q.Scans n held (j + 1) (v.put j tree entry.transition)) :
    (shrinkTransition g j).Yields v
      (fun edit? v' => edit?.elim (q.Scanning k n held left { v' with cursor.index := v'.cursor.index + 1 })
        fun edit => ∃ n' < n, ∃ d, q.Testing k held n' d { v' with lastEdit := some edit }) fun _ _ => False := by
  refine (shrinkTransition_idle hq.others hentry (hframed.others j entry hentry hne) hretry).mono
    (fun edit? v' h => ?_) fun _ _ h => h
  obtain ⟨rfl, tree, htree, rfl⟩ := h
  exact hframed.next hcursor hleft hentry (fun _ => htree) (hscans tree)

include hq in
theorem Scanning.step {left : Nat} (hv : q.Scanning k n held (left + 1) v) :
    (shrinkTransition g v.cursor.index.toNat).Yields v
      (fun edit? v' => edit?.elim (q.Scanning k n held left { v' with cursor.index := v'.cursor.index + 1 })
        fun edit => ∃ n' < n, ∃ d, q.Testing k held n' d { v' with lastEdit := some edit }) fun _ _ => False := by
  obtain ⟨hframed, j, hcursor, hleft, hscans⟩ := hv
  have hlt : (j : Int) < v.length := by omega
  obtain ⟨entry, hentry, hshown⟩ := hframed.poses.entry_at hlt
  have hindex : v.cursor.index.toNat = j := by rw [hcursor, Int.toNat_natCast]
  rw [hindex]
  cases hscans with
  | behind hafter hretry hnearest =>
    exact hframed.pass hq hcursor hleft hentry (by omega) hretry fun _ => .behind (by omega) rfl hnearest
  | ahead hle hretry htree =>
    rcases Nat.lt_or_eq_of_le hle with hbefore | rfl
    · have hsettled : v.retryPending = false :=
        Bool.eq_false_iff.2 fun hpending => Nat.ne_of_lt hbefore (hretry hpending)
      refine hframed.pass hq hcursor hleft hentry (Nat.ne_of_lt hbefore) hsettled fun tree => ?_
      refine .ahead hbefore (fun hpending => by cases hpending) fun entry' hentry' => ?_
      have hset : (v.entries.set j ⟨tree, entry.transition⟩)[q.position]? = some entry' := hentry'
      rw [List.getElem?_set_ne (Nat.ne_of_lt hbefore)] at hset
      have hwaits := htree entry' hset
      rw [hsettled] at hwaits
      exact hwaits
    · have hheld := hframed.shown_at hentry
      refine (shrinkTransition_seeks hq hframed hcursor hentry hheld (htree entry hentry)).mono
        (fun edit? v' h => ?_) fun _ _ h => h
      cases edit? with
      | some edit => exact h
      | none =>
        obtain ⟨hnearest, tree, rfl⟩ := h
        exact hframed.next hcursor hleft hentry (fun hne => absurd rfl hne)
          (.behind (Nat.lt_succ_self _) rfl hnearest)

include hq hk in
theorem shrinkTransitions_leads {left : Nat} (hv : q.Scanning k n held left v) :
    Advances (q.Testing k held) k (q.put held) (q.Nearest held) n (shrinkTransitions g left) v := by
  refine yields_shrinkTransitions (fun left v hv => hv.step hq) (fun v hv => ?_) left hv
  obtain ⟨hframed, j, hcursor, hleft, hscans⟩ := hv
  have hreaches := hframed.poses.reaches (by omega)
  -- No transition is left, so the search lies behind.
  cases hscans with
  | ahead hle => omega
  | behind hlt hretry hnearest =>
    refine Act.Yields.mono (shrinkInitial_idle hq.initials (hframed.moved _ _ _).initialTree hretry)
      (fun moved v' h => ?_) fun _ _ h => h
    obtain ⟨rfl, tree, -, rfl⟩ := h
    have hposes := hframed.poses
    exact ⟨⟨hposes.initialState, hposes.transitions, hposes.trimmed, hposes.reaches, hposes.le⟩, hnearest⟩

end shrinking

theorem Testing.waiting (hv : q.Testing k held n d v) : q.Waiting k n d v where
  toFramed := hv.toFramed
  scans := by
    refine ⟨q.position, hv.cursor, .ahead (Nat.le_refl _) (fun _ => rfl) fun entry hentry => ?_⟩
    rw [hv.settled]
    exact (hv.tree entry hentry).rests

theorem Lawful.hunt [BEq S] [BEq T] (hq : q.Lawful g f) (hk : (q.position : Int) ≤ k) :
    Hunt g q.put k q.first.hi q.Fails (q.Waiting k) (q.Testing k) where
  shrink n held v hv := by
    obtain ⟨j, hcursor, hscans⟩ := hv.scans
    have hphase : v.cursor.phase = .shrinkTransition := congrArg Cursor.phase hcursor
    have hindex : v.cursor.index = j := congrArg Cursor.index hcursor
    unfold Advances
    rw [yields_shrink hphase, shrinkIn, hindex]
    refine shrinkTransitions_leads hq hk ⟨hv.toFramed.moved _ _ _, j, hcursor, rfl, ?_⟩
    cases hscans with
    | ahead hle hretry htree => exact .ahead hle hretry htree
    | behind hlt hretry hnearest => exact .behind hlt hretry hnearest
  keep _ _ _ _ hv := hv.waiting
  undo n d held v hv hheld hpass := by
    obtain ⟨entry, hentry⟩ := hv.toFramed.searched hk
    have hframed := hv.toFramed.put_shown
    rw [yields_complicate hv.edit, yields_restore_transition (v := { v with lastEdit := none }) hentry]
    refine ((hv.tree entry hentry).canRetry hq.seeks hq.upward hheld hpass).mono (fun retry tree h => ?_) fun _ _ h => h
    cases retry with
    | true =>
      refine ⟨(hframed tree held).moved _ _ _, q.position, hv.cursor, .ahead (Nat.le_refl _) (fun _ => rfl) ?_⟩
      intro entry' hentry'
      obtain rfl := eq_of_set hentry'
      exact h
    | false =>
      have hnext : ({ v.cursor with index := q.position + 1 } : Cursor) =
          { phase := .shrinkTransition, index := (q.position + 1 : Nat) } := by
        rw [hv.cursor]
        rfl
      exact ⟨(hframed tree held).moved _ _ _, q.position + 1, hnext, .behind (Nat.lt_succ_self _) hv.settled h⟩
  poses _ _ _ _ hv := hv.poses
  le n d held v hv := by
    obtain ⟨entry, hentry⟩ := hv.toFramed.searched hk
    exact (hv.tree entry hentry).le

end TransitionQuest

end StateCheck.Sequence
