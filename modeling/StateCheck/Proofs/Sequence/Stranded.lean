import StateCheck.Proofs.Sequence.Hunt
import StateCheck.Proofs.Sequence.RoundCases

/-! A reduction shows another candidate. A tree shows what its place holds, unless it waits to be retried with another
value. The flag for that names no tree: a truncation can cut off the place of the tree that waits, and then the retry
is made of the initial state, which was not moved. -/

namespace StateCheck

structure ValueTree.Brisk {σ α : Type} (t : ValueTree σ α) : Prop extends t.Total where
  moves : ∀ s, (t.simplify s).answer = .ok true → t.current (t.simplify s).state ≠ t.current s

namespace Search
variable {s : Search}

theorem value_of_moved (h : s.reposition.1 = true) : s.reposition.2.value ≠ s.value := by
  rcases reposition_cases s with ⟨-, hstays⟩ | ⟨hmiddle, hmoves⟩
  · rw [hstays] at h
    cases h
  · rw [hmoves]
    unfold value
    dsimp only
    split
    · omega
    · omega

theorem tree_brisk : tree.Brisk where
  current := nofun
  simplify := nofun
  complicate := nofun
  moves s h := by
    have hmoved : s.simplify.1 = true := Except.ok.inj h
    have hvalue : s.simplify.2.value ≠ s.value := by
      unfold simplify at hmoved ⊢
      split at hmoved
      · cases hmoved
      · rename_i hopen
        rw [if_neg hopen]
        exact value_of_moved hmoved
    intro hsame
    exact hvalue (Except.ok.inj hsame)

end Search

namespace ValueTree
variable {σ α : Type} {t : ValueTree σ α} {a : α} {s : σ}

/-- The tree shows what its place holds; one that is to be retried shows something else. -/
def Offers (t : ValueTree σ α) (a : α) (s : σ) : Bool → Prop
  | false => t.current s = .ok a
  | true => ∃ b, t.current s = .ok b ∧ b ≠ a

theorem yields_propose_true {Q : Option α → σ → Prop} {F : Fault → σ → Prop} : (t.propose true).Yields s Q F ↔
    (∀ a, t.current s = .ok a → Q (some a) s) ∧ ∀ e, t.current s = .error e → F e s := by
  show (Act.ask t.current >>= fun a => pure (some a) : Act σ (Option α)).Yields s Q F ↔ _
  rw [Act.yields_bind, Act.yields_ask]
  rfl

theorem Brisk.propose (ht : t.Brisk) {untried : Bool} (hs : t.Offers a s untried) :
    (t.propose untried).Yields s (fun proposed _ => ∀ b, proposed = some b → b ≠ a) fun _ _ => True := by
  have hask (s' : σ) (h : t.current s' ≠ .ok a) : (Act.ask t.current >>= fun b => pure (some b) :
      Act σ (Option α)).Yields s' (fun proposed _ => ∀ b, proposed = some b → b ≠ a) fun _ _ => True := by
    rw [Act.yields_bind, Act.yields_ask]
    refine ⟨?_, fun _ _ => trivial⟩
    rintro b hb _ ⟨⟩ rfl
    exact h hb
  cases untried with
  | true =>
    obtain ⟨b, hb, hne⟩ := hs
    apply hask
    rw [hb]
    intro hsame
    exact hne (Except.ok.inj hsame)
  | false =>
    have hshown : t.current s = .ok a := hs
    rw [propose_false, Act.yields_bind]
    refine (Act.yields_self _ s).mono (fun moved s' h => ?_) fun _ _ _ => trivial
    obtain ⟨hmoved, rfl⟩ := h
    cases moved with
    | true =>
      have hmoves := ht.moves s hmoved
      rw [hshown] at hmoves
      exact hask _ hmoves
    | false => exact nofun

theorem offers_of_canRetry [BEq α] [LawfulBEq α] (t : ValueTree σ α) (a : α) (s : σ) :
    (t.canRetry a).Yields s (fun retry s' => retry = true → t.Offers a s' true) fun _ _ => True := by
  unfold canRetry
  rw [Act.yields_bind]
  refine (Act.yields_trivial _ s).mono (fun moved s' _ => ?_) fun _ _ h => h
  cases moved with
  | true =>
    rw [if_pos rfl, Act.yields_bind, Act.yields_ask]
    refine ⟨fun b hb hne => ?_, fun _ _ => trivial⟩
    exact ⟨b, hb, bne_iff_ne.1 hne⟩
  | false => exact nofun

end ValueTree

def Cursor.Before (c : Cursor) (i : Nat) : Prop :=
  c.phase = .deleteTransition ∨ c.phase = .shrinkTransition ∧ c.index < i

namespace Sequence
variable {S T ι τ : Type} {g : Shrinker S T ι τ} {v v' : Sequence S T ι τ} {edit : Edit S T}

/-- The trees that are still to be moved show what their places hold; only the one at the cursor may wait to be
retried. -/
structure Poised (g : Shrinker S T ι τ) (v : Sequence S T ι τ) : Prop where
  ahead : ∀ (i : Nat) (entry : Entry τ T), v.cursor.Before i → v.entries[i]? = some entry →
    g.transition.current entry.tree = .ok entry.transition
  here : ∀ (i : Nat) (entry : Entry τ T), v.cursor = { phase := .shrinkTransition, index := i } →
    v.entries[i]? = some entry → g.transition.Offers entry.transition entry.tree v.retryPending
  early : v.cursor.phase.rank < Phase.shrinkInitialState.rank → g.initial.current v.initialTree = .ok v.initialState
  late : v.cursor.phase = .shrinkInitialState → g.initial.Offers v.initialState v.initialTree v.retryPending
  deleting : v.cursor.phase = .deleteTransition → v.retryPending = false
  edited : ∀ edit, v.lastEdit = some edit → v.retryPending = false

/-- The transition whose tree waits to be retried no longer counts. -/
def Stranded (v : Sequence S T ι τ) : Prop :=
  v.retryPending = true ∧ v.cursor.phase = .shrinkTransition ∧ v.length ≤ v.cursor.index

/-- A transition is to be deleted where none counts. -/
def Overdrawn (v : Sequence S T ι τ) : Prop :=
  v.cursor.phase = .deleteTransition ∧ v.minSize < v.length ∧ v.length ≤ 0

theorem no_edit (hlast : v.lastEdit = none) (edit : Edit S T) (hedit : v.lastEdit = some edit) :
    v.retryPending = false := by
  rw [hlast] at hedit
  cases hedit

namespace Poised

theorem early_of_transition (hv : Poised g v) (hphase : v.cursor.phase = .shrinkTransition) :
    g.initial.current v.initialTree = .ok v.initialState := by
  apply hv.early
  rw [hphase]
  decide

theorem entered (hv : Poised g v) (hphase : v.cursor.phase = .deleteTransition) (length : Int) :
    Poised g { v with length := length, cursor := { phase := .shrinkTransition, index := 0 } } := by
  have hretry := hv.deleting hphase
  refine ⟨fun i entry _ hentry => hv.ahead i entry (.inl hphase) hentry, fun i entry _ hentry => ?_, fun _ => ?_,
    fun hlate => ?_, fun _ => hretry, fun _ _ => hretry⟩
  · have hshown := hv.ahead i entry (.inl hphase) hentry
    dsimp only
    rw [hretry]
    exact hshown
  · apply hv.early
    rw [hphase]
    decide
  · cases hlate

theorem forget (hv : Poised g v) (length : Int) : Poised g { v with length := length, lastEdit := none } :=
  ⟨hv.ahead, hv.here, hv.early, hv.late, hv.deleting, no_edit rfl⟩

section transition
variable {i : Nat} {entry : Entry τ T}

theorem stays (hv : Poised g v) (hcursor : v.cursor = { phase := .shrinkTransition, index := i })
    (hentries : v'.entries = v.entries.set i entry) (hsame : v'.cursor = v.cursor)
    (hinitial : v'.initialTree = v.initialTree ∧ v'.initialState = v.initialState)
    (hoffers : g.transition.Offers entry.transition entry.tree v'.retryPending)
    (hedited : ∀ edit, v'.lastEdit = some edit → v'.retryPending = false) : Poised g v' := by
  have hphase : v.cursor.phase = .shrinkTransition := congrArg Cursor.phase hcursor
  have hindex : v.cursor.index = i := congrArg Cursor.index hcursor
  refine ⟨fun j entry' hbefore hentry => ?_, fun j entry' hhere hentry => ?_, fun _ => ?_, fun hlate => ?_,
    fun hdelete => ?_, hedited⟩
  · rw [hsame] at hbefore
    have hlt : v.cursor.index < j := by
      rcases hbefore with hdelete | ⟨-, hlt⟩
      · rw [hphase] at hdelete
        cases hdelete
      · exact hlt
    have hother : i ≠ j := by omega
    rw [hentries, List.getElem?_set_ne hother] at hentry
    exact hv.ahead j entry' hbefore hentry
  · rw [hsame, hcursor] at hhere
    have hij : i = j := Int.ofNat_inj.1 (congrArg Cursor.index hhere)
    rw [hentries, ← hij] at hentry
    obtain rfl := eq_of_set hentry
    exact hoffers
  · rw [hinitial.1, hinitial.2]
    exact hv.early_of_transition hphase
  · rw [hsame, hphase] at hlate
    cases hlate
  · rw [hsame, hphase] at hdelete
    cases hdelete

theorem passes (hv : Poised g v) (hcursor : v.cursor = { phase := .shrinkTransition, index := i })
    (hentries : v'.entries = v.entries.set i entry)
    (hnext : v'.cursor = { phase := .shrinkTransition, index := (i : Int) + 1 })
    (hinitial : v'.initialTree = v.initialTree ∧ v'.initialState = v.initialState)
    (hretry : v'.retryPending = false) : Poised g v' := by
  have hphase : v.cursor.phase = .shrinkTransition := congrArg Cursor.phase hcursor
  have hindex : v.cursor.index = i := congrArg Cursor.index hcursor
  have hphase' : v'.cursor.phase = .shrinkTransition := congrArg Cursor.phase hnext
  have hindex' : v'.cursor.index = (i : Int) + 1 := congrArg Cursor.index hnext
  have hahead (j : Nat) (entry' : Entry τ T) (hlt : i < j) (hentry : v'.entries[j]? = some entry') :
      g.transition.current entry'.tree = .ok entry'.transition := by
    have hbefore : v.cursor.Before j := .inr ⟨hphase, by omega⟩
    rw [hentries, List.getElem?_set_ne (Nat.ne_of_lt hlt)] at hentry
    exact hv.ahead j entry' hbefore hentry
  refine ⟨fun j entry' hbefore hentry => ?_, fun j entry' hhere hentry => ?_, fun _ => ?_, fun hlate => ?_,
    fun _ => hretry, fun _ _ => hretry⟩
  · rcases hbefore with hdelete | ⟨-, hlt⟩
    · rw [hphase'] at hdelete
      cases hdelete
    · exact hahead j entry' (by omega) hentry
  · have hj : v'.cursor.index = j := congrArg Cursor.index hhere
    rw [hretry]
    exact hahead j entry' (by omega) hentry
  · rw [hinitial.1, hinitial.2]
    exact hv.early_of_transition hphase
  · rw [hphase'] at hlate
    cases hlate

end transition

theorem of_late (hrank : Phase.shrinkInitialState.rank ≤ v.cursor.phase.rank)
    (hoffers : v.cursor.phase = .shrinkInitialState → g.initial.Offers v.initialState v.initialTree v.retryPending)
    (hedited : ∀ edit, v.lastEdit = some edit → v.retryPending = false) : Poised g v := by
  have hdelete : v.cursor.phase ≠ .deleteTransition := by
    intro hphase
    rw [hphase] at hrank
    exact absurd hrank (by decide)
  have htransition : v.cursor.phase ≠ .shrinkTransition := by
    intro hphase
    rw [hphase] at hrank
    exact absurd hrank (by decide)
  refine ⟨fun i entry hbefore _ => ?_, fun i entry hhere _ => ?_, fun hearly => ?_, hoffers,
    fun hphase => absurd hphase hdelete, hedited⟩
  · rcases hbefore with hphase | ⟨hphase, -⟩
    · exact absurd hphase hdelete
    · exact absurd hphase htransition
  · exact absurd (congrArg Cursor.phase hhere) htransition
  · exact absurd hearly (Nat.not_lt.2 hrank)

theorem of_done (hphase : v.cursor.phase = .done)
    (hedited : ∀ edit, v.lastEdit = some edit → v.retryPending = false) : Poised g v := by
  refine of_late ?_ (fun hlate => ?_) hedited
  · rw [hphase]
    decide
  · rw [hphase] at hlate
    cases hlate

end Poised

theorem Rounded.poised (h : Rounded g v none v') (hv : Poised g v) (hnot : ¬Stranded v) (hlast : v.lastEdit = none) :
    Poised g v' ∧ v'.retryPending = false := by
  cases h with
  | kept hphase => exact ⟨hv.entered hphase v.length, hv.deleting hphase⟩
  | passed hcursor hlt hentry tree => exact ⟨hv.passes hcursor rfl rfl ⟨rfl, rfl⟩ rfl, rfl⟩
  | beyond hphase hle =>
    have hretry : v.retryPending = false := by
      by_contra hpending
      exact hnot ⟨Bool.of_not_eq_false hpending, hphase, hle⟩
    have hshown := hv.early_of_transition hphase
    refine ⟨.of_late (Nat.le_refl _) (fun _ => ?_) (no_edit hlast), hretry⟩
    dsimp only
    rw [hretry]
    exact hshown
  | left hphase tree => exact ⟨.of_done rfl (no_edit hlast), rfl⟩

theorem Found.poised (h : Found g v edit v') (hv : Poised g v) : Poised g { v' with lastEdit := some edit } := by
  cases h with
  | deleted hphase hlong hvalid =>
    have hretry := hv.deleting hphase
    exact ⟨hv.ahead, hv.here, hv.early, hv.late, hv.deleting, fun _ _ => hretry⟩
  | @transition i entry t hcursor hlt hentry hproposed =>
    have hshown := (g.transition.yields_propose v.retryPending entry.tree).of_ok hproposed t rfl
    exact hv.stays hcursor rfl rfl ⟨rfl, rfl⟩ hshown fun _ _ => rfl
  | @initialState s hphase hproposed =>
    have hshown := (g.initial.yields_propose v.retryPending v.initialTree).of_ok hproposed s rfl
    exact .of_late (Nat.le_of_eq (congrArg Phase.rank hphase.symm)) (fun _ => hshown) fun _ _ => rfl

theorem Found.differs (hinitial : g.initial.Brisk) (htransition : g.transition.Brisk) (h : Found g v edit v')
    (hseated : Seated v) (hv : Poised g v) (hnot : ¬Overdrawn v) : v'.current ≠ v.current := by
  intro hsame
  cases h with
  | @deleted valid hphase hlong hvalid =>
    -- At a positive length fewer transitions are shown, however many the deletion took.
    have hpos : 0 < v.length := by
      by_contra hzero
      exact hnot ⟨hphase, hlong, Int.not_lt.1 hzero⟩
    have hle := hseated.le
    rw [← length_transitions] at hle
    have hbefore := length_before (Int.le_of_lt hpos) hle
    have hafter : ((before (min (v.length - 1) valid) v.transitions).length : Int) = min (v.length - 1) valid :=
      length_before (by omega) (by omega)
    have hcount : (before (min (v.length - 1) valid) v.transitions).length = (before v.length v.transitions).length :=
      congrArg (fun c : Candidate S T => c.transitions.length) hsame
    omega
  | @transition i entry t hcursor hlt hentry hproposed =>
    have hother := (htransition.propose (hv.here i entry hcursor hentry)).of_ok hproposed t rfl
    have hat : (before v.length (v.put i (g.transition.propose v.retryPending entry.tree).state t).transitions)[i]? =
        (before v.length v.transitions)[i]? := congrArg (fun c : Candidate S T => c.transitions[i]?) hsame
    have hold : v.transitions[i]? = some entry.transition := by
      rw [transitions, List.getElem?_map, hentry]
      rfl
    rw [getElem?_before hlt, getElem?_before hlt, transitions_put, hold] at hat
    exact hother (eq_of_set hat).symm
  | @initialState s hphase hproposed =>
    have hother := (hinitial.propose (hv.late hphase)).of_ok hproposed s rfl
    exact hother (congrArg Candidate.initial hsame)

theorem Rounded.not_deleting (h : Rounded g v none v') : v'.cursor.phase ≠ .deleteTransition := by
  cases h <;> nofun

theorem shrink_differs [BEq S] [BEq T] (hinitial : g.initial.Brisk) (htransition : g.transition.Brisk)
    (hseated : Seated v) (hv : Poised g v) (hnot : ¬Stranded v) : (shrink g).Yields v
      (fun moved v' => Poised g v' ∧ (moved = true → ¬Overdrawn v → v'.current ≠ v.current)) fun _ _ => True := by
  apply shrink_cases (fun u => (Poised g u ∧ ¬Stranded u) ∧ (¬Overdrawn v → ¬Overdrawn u)) hseated
    ⟨⟨hv.forget v.length, hnot⟩, id⟩
  -- A round that finds nothing settles the flag, so only its first round can meet a stranded retry.
  · rintro u u' hunderway ⟨⟨hposed, hnot⟩, -⟩ hrounded -
    obtain ⟨hposed', hretry⟩ := hrounded.poised hposed hnot hunderway.lastEdit
    have hfree : ¬Stranded u' := by
      rintro ⟨hpending, -⟩
      rw [hretry] at hpending
      cases hpending
    exact ⟨⟨hposed', hfree⟩, fun _ hdrawn => hrounded.not_deleting hdrawn.1⟩
  · rintro u u' moved hunderway ⟨⟨hposed, -⟩, hdrawn⟩ hrounded
    cases hrounded with
    | found hfound =>
      refine ⟨hfound.poised hposed, fun _ hlong => ?_⟩
      have hdiffers := hfound.differs hinitial htransition hunderway.toPlaced hposed (hdrawn hlong)
      have hcurrent : u.current = v.current := congrArg Shape.current hunderway.still.shape
      rw [hcurrent] at hdiffers
      exact hdiffers
    | done => exact ⟨hposed, nofun⟩

theorem shrink_stranded [BEq S] [BEq T] (hv : Poised g v) (hstranded : Stranded v) : (shrink g).Yields v
    (fun moved v' => Poised g v' ∧ v'.current = v.current ∧
      (g.rules.Accepts v.current.initial v.current.transitions → moved = true)) fun _ _ => True := by
  obtain ⟨hretry, hphase, hle⟩ := hstranded
  have hshown := hv.early_of_transition hphase
  have hleft : (v.length - v.cursor.index).toNat = 0 := by omega
  rw [yields_shrink hphase, shrinkIn, hleft]
  unfold shrinkTransitions
  rw [Act.yields_bind, yields_moveTo]
  unfold shrinkInitial
  rw [Act.yields_bind, yields_shrinkInitialState]
  dsimp only
  rw [hretry, ValueTree.yields_propose_true]
  refine ⟨fun s hs => ?_, fun _ _ => trivial⟩
  rw [hshown] at hs
  obtain rfl := Except.ok.inj hs
  dsimp only
  rw [Act.yields_lift]
  refine ⟨fun valid hvalid => ?_, fun _ _ => trivial⟩
  cases valid with
  | true => exact ⟨.of_late (Nat.le_refl _) (fun _ => hshown) fun _ _ => rfl, rfl, fun _ => rfl⟩
  | false =>
    refine ⟨.of_done rfl fun _ _ => rfl, rfl, fun haccepts => ?_⟩
    have haccepted := hvalid.symm.trans (haccepts.isValid 0)
    cases haccepted

theorem shrink_poised [BEq S] [BEq T] (hinitial : g.initial.Brisk) (htransition : g.transition.Brisk)
    (hseated : Seated v) (hv : Poised g v) : (shrink g).Yields v (fun _ v' => Poised g v') fun _ _ => True := by
  by_cases hstranded : Stranded v
  · exact (shrink_stranded hv hstranded).mono (fun _ _ h => h.1) fun _ _ h => h
  · exact (shrink_differs hinitial htransition hseated hv hstranded).mono (fun _ _ h => h.1) fun _ _ h => h

theorem restore_poised [BEq S] [LawfulBEq S] [BEq T] [LawfulBEq T] (hseated : Seated v) (hv : Poised g v)
    (hretry : v.retryPending = false) (hlast : v.lastEdit = none) (htracks : edit.Tracks v) :
    (restore g edit).Yields v (fun _ v' => Poised g v') fun _ _ => True := by
  cases edit with
  | deleted index length =>
    unfold restore
    rw [Act.yields_bind, Act.yields_modify, yields_moveTo]
    exact hv.entered htracks.1 length
  | transition i prior =>
    obtain ⟨hcursor, hlt⟩ := htracks
    have hphase : v.cursor.phase = .shrinkTransition := congrArg Cursor.phase hcursor
    have hindex : v.cursor.index = i := congrArg Cursor.index hcursor
    obtain ⟨entry, hentry, -⟩ := hseated.entry (by rwa [hindex])
    rw [hindex, Int.toNat_natCast] at hentry
    rw [yields_restore_transition hentry]
    refine (g.transition.offers_of_canRetry prior entry.tree).mono (fun retry tree hoffers => ?_) fun _ _ h => h
    cases retry with
    | true => exact hv.stays hcursor rfl rfl ⟨rfl, rfl⟩ (hoffers rfl) (no_edit hlast)
    | false => exact hv.passes hcursor rfl (congrArg (Cursor.mk · _) hphase) ⟨rfl, rfl⟩ hretry
  | initialState prior =>
    have hphase : v.cursor.phase = .shrinkInitialState := htracks
    rw [yields_restore_initial]
    refine (g.initial.offers_of_canRetry prior v.initialTree).mono (fun retry tree hoffers => ?_) fun _ _ h => h
    cases retry with
    | true =>
      have hrank := Nat.le_of_eq (congrArg Phase.rank hphase.symm)
      exact .of_late hrank (fun _ => hoffers rfl) (no_edit hlast)
    | false => exact .of_done rfl (no_edit hlast)

theorem complicate_poised [BEq S] [LawfulBEq S] [BEq T] [LawfulBEq T] (haligned : Aligned v) (hv : Poised g v) :
    (complicate g).Yields v (fun _ v' => Poised g v') fun _ _ => True := by
  cases hlast : v.lastEdit with
  | none =>
    obtain ⟨hanswer, hstate⟩ := complicate_of_no_edit (g := g) hlast
    rw [Act.yields_of_answer hanswer, hstate]
    exact hv
  | some edit =>
    have hseated : Seated { v with lastEdit := none } := ⟨haligned.trees, haligned.le, haligned.index⟩
    have htracks := tracks_forget (haligned.edit edit hlast)
    rw [yields_complicate hlast]
    exact restore_poised hseated (hv.forget v.length) (hv.edited edit hlast) rfl htracks

theorem Poised.cut (hv : Poised g v) (length : Int) : Poised g (v.cut length) := by
  unfold Sequence.cut
  split
  · exact hv
  · exact hv.forget _

theorem perform_answers [BEq S] [BEq T] (hg : g.Total) (move : Move) (v : Sequence S T ι τ) :
    (move.perform g).Yields v (fun _ _ => True) fun _ _ => False := by
  cases move with
  | shrink => exact (shrink_shrinks hg.tame v.trees_of_anything).mono (fun _ _ _ => trivial) fun _ _ h => h.1
  | complicate => exact (complicate_yields hg.tame v.trees_of_anything).mono (fun _ _ _ => trivial) fun _ _ h => h.1
  | truncate length =>
    rw [Move.perform, truncate_yields]
    trivial

theorem perform_poised [BEq S] [LawfulBEq S] [BEq T] [LawfulBEq T] (hrules : g.rules.Total)
    (hinitial : g.initial.Brisk) (htransition : g.transition.Brisk) (move : Move) (v : Sequence S T ι τ)
    (hv : Aligned v ∧ Poised g v) : (move.perform g).Yields v (fun _ v' => Aligned v' ∧ Poised g v')
      fun _ v' => Aligned v' ∧ Poised g v' := by
  obtain ⟨haligned, hposed⟩ := hv
  have htotal : g.Total := ⟨hrules, hinitial.toTotal, htransition.toTotal⟩
  have hanswers := perform_answers htotal move v
  have hposes : (move.perform g).Yields v (fun _ v' => Poised g v') fun _ _ => True := by
    cases move with
    | shrink => exact shrink_poised hinitial htransition haligned.toPlaced hposed
    | complicate => exact complicate_poised haligned hposed
    | truncate length =>
      rw [Move.perform, truncate_yields]
      exact hposed.cut length
  have hgoes := perform_goes (g := g) move haligned
  refine (Act.Yields.and hgoes (Act.Yields.and hposes hanswers)).mono (fun _ v' h => ?_) fun _ _ h => h.2.2.elim
  obtain ⟨⟨haligned', -⟩, hposed', -⟩ := h
  exact ⟨haligned', hposed'⟩

theorem start_poised {initialTree : ι} {s : S} {entries : List (Entry τ T)} (minSize : Int)
    (hinitial : g.initial.current initialTree = .ok s)
    (hentries : ∀ entry ∈ entries, g.transition.current entry.tree = .ok entry.transition) :
    Poised g (start initialTree s entries minSize) := by
  refine ⟨fun i entry _ hentry => ?_, fun i entry hhere _ => ?_, fun _ => hinitial, fun hlate => ?_, fun _ => rfl,
    no_edit rfl⟩
  · exact hentries entry (List.mem_of_getElem? hentry)
  · cases hhere
  · cases hlate

/-- Of integers that binary searches hold, a reduction shows another candidate, however the sequence was driven. Two
states are apart: a stranded retry leaves the candidate and still counts as a reduction, and with a negative minimum a
deletion can be overdrawn. -/
theorem reduction_differs (rules : Rules Int Int) (hrules : rules.Total) (initialTree : Search) (s : Int)
    (hinitial : Search.tree.current initialTree = .ok s) (entries : List (Entry Search Int))
    (hentries : ∀ entry ∈ entries, Search.tree.current entry.tree = .ok entry.transition) (minSize : Int)
    (moves : List Move) :
    let g : Shrinker Int Int Search Search := ⟨rules, Search.tree, Search.tree⟩
    let v := after g (start initialTree s entries minSize) moves
    let v' := (shrink g v).state
    (0 ≤ minSize → ¬Overdrawn v) ∧
    (Stranded v → v'.current = v.current ∧
      (rules.Accepts v.current.initial v.current.transitions → (shrink g v).answer = .ok true)) ∧
    (¬Stranded v → ¬Overdrawn v → (shrink g v).answer = .ok true → v'.current ≠ v.current) := by
  intro g v v'
  have hstart : Poised g (start initialTree s entries minSize) := start_poised minSize hinitial hentries
  have htracked : Aligned (start initialTree s entries minSize) :=
    tracked_start trivial s (fun _ _ => trivial) minSize
  have hperform := perform_poised (g := g) hrules Search.tree_brisk Search.tree_brisk
  obtain ⟨haligned, hposed⟩ : Aligned v ∧ Poised g v := after_keeps hperform moves ⟨htracked, hstart⟩
  have hminSize : v.minSize = minSize := after_minSize moves
  refine ⟨fun hmin hdrawn => ?_, fun hstranded => ?_, fun hnot hlong hshrink => ?_⟩
  · obtain ⟨-, hless, hnone⟩ := hdrawn
    omega
  · have htotal : g.Total := ⟨hrules, Search.tree_brisk.toTotal, Search.tree_brisk.toTotal⟩
    obtain ⟨moved, hanswer, -⟩ := (perform_answers htotal .shrink v).answers
    obtain ⟨-, hcurrent, hmoved⟩ := (shrink_stranded hposed hstranded).of_ok hanswer
    refine ⟨hcurrent, fun haccepts => ?_⟩
    rw [hmoved haccepts] at hanswer
    exact hanswer
  · have hdiffers := shrink_differs Search.tree_brisk Search.tree_brisk haligned.toPlaced hposed hnot
    exact (hdiffers.of_ok hshrink).2 rfl hlong

theorem adder_total : adder.Total := ⟨nofun, nofun⟩

def adderShrinker : Shrinker Int Int Search Search := ⟨adder, Search.tree, Search.tree⟩

theorem eight_shown (entry : Entry Search Int) (h : entry ∈ eight) :
    Search.tree.current entry.tree = .ok entry.transition := by
  obtain rfl := List.mem_singleton.1 h
  rfl

theorem eight_differs :
    let v := after adderShrinker (start (.start 0 0) 0 eight 0) [.shrink, .complicate]
    (shrink adderShrinker v).answer = .ok true ∧ ¬Stranded v ∧ (shrink adderShrinker v).state.current ≠ v.current := by
  intro v
  have hshrink : (shrink adderShrinker v).answer = .ok true := rfl
  have hnot : ¬Stranded v := by
    rintro ⟨hpending, -⟩
    cases hpending
  have hdiffers := reduction_differs adder adder_total (.start 0 0) 0 rfl eight eight_shown 0 [.shrink, .complicate]
  obtain ⟨hlong, -, hreal⟩ := hdiffers
  exact ⟨hshrink, hnot, hreal hnot (hlong (Int.le_refl 0)) hshrink⟩

/-- The eight is to be retried as a six when it is cut off: the next reduction is none. -/
theorem stranded_eight_repeats :
    let v := after adderShrinker (start (.start 0 0) 0 eight 0)
      [.shrink, .complicate, .shrink, .complicate, .truncate 0]
    Stranded v ∧ (shrink adderShrinker v).answer = .ok true ∧
    v.current = ⟨0, []⟩ ∧ (shrink adderShrinker v).state.current = ⟨0, []⟩ :=
  ⟨⟨rfl, rfl, Int.le_refl 0⟩, rfl, rfl, rfl⟩

end Sequence
end StateCheck
