import Mathlib.Data.Prod.Lex
import StateCheck.Proofs.Sequence.Rank
import StateCheck.Proofs.Sequence.Rounds
import StateCheck.Proofs.Sequence.Undo

/-! The order in which reductions are tried. Whatever the trees do, and whether they raise or not, the cursor
only goes on, and what lies behind it is not moved again. -/

namespace StateCheck

theorem Phase.eq_done {phase : Phase} (h : Phase.done.rank ≤ phase.rank) : phase = .done := by
  cases phase <;> first | rfl | exact absurd h (by decide)

namespace Cursor

def position (c : Cursor) : ℕ ×ₗ ℤ := toLex (c.phase.rank, c.index)

theorem position_le_of_phase {c c' : Cursor} (h : c.phase.rank < c'.phase.rank) : c.position ≤ c'.position :=
  Prod.Lex.toLex_le_toLex.2 (.inl h)

theorem position_le_of_index {c c' : Cursor} (hphase : c'.phase = c.phase) (hindex : c.index ≤ c'.index) :
    c.position ≤ c'.position :=
  Prod.Lex.toLex_le_toLex.2 (.inr ⟨congrArg Phase.rank hphase.symm, hindex⟩)

theorem position_lt_index {c : Cursor} {i : Nat} (hphase : c.phase = .shrinkTransition)
    (h : ({ phase := .shrinkTransition, index := i } : Cursor).position < c.position) : (i : Int) < c.index := by
  have hlt := (Prod.Lex.toLex_lt_toLex'.1 h).2
  exact hlt (congrArg Phase.rank hphase.symm)

end Cursor

namespace Sequence
variable {S T ι τ : Type} {g : Shrinker S T ι τ} {v v' v'' : Sequence S T ι τ}

/-- From `v` to `v'` the cursor went on, and what it had left before was not moved. -/
structure Onward (v v' : Sequence S T ι τ) : Prop where
  cursor : v.cursor.position ≤ v'.cursor.position
  left : ∀ i : Nat, ({ phase := .shrinkTransition, index := i } : Cursor).position < v.cursor.position →
    v'.entries[i]? = v.entries[i]?
  initial : v.cursor.phase = .done → v'.initialTree = v.initialTree ∧ v'.initialState = v.initialState

namespace Onward

theorem rank_le (h : Onward v v') : v.cursor.phase.rank ≤ v'.cursor.phase.rank :=
  (Prod.Lex.toLex_le_toLex'.1 h.cursor).1

theorem done (h : Onward v v') (hphase : v.cursor.phase = .done) : v'.cursor.phase = .done := by
  have hrank := h.rank_le
  rw [hphase] at hrank
  exact Phase.eq_done hrank

theorem trans (h : Onward v v') (h' : Onward v' v'') : Onward v v'' := by
  refine ⟨h.cursor.trans h'.cursor, fun i hi => ?_, fun hphase => ?_⟩
  · rw [h'.left i (hi.trans_le h.cursor), h.left i hi]
  · obtain ⟨htree, hstate⟩ := h.initial hphase
    obtain ⟨htree', hstate'⟩ := h'.initial (h.done hphase)
    exact ⟨htree'.trans htree, hstate'.trans hstate⟩

theorem of_parts (hcursor : v.cursor.position ≤ v'.cursor.position) (hentries : v'.entries = v.entries)
    (htree : v'.initialTree = v.initialTree) (hstate : v'.initialState = v.initialState) : Onward v v' :=
  ⟨hcursor, fun _ _ => by rw [hentries], fun _ => ⟨htree, hstate⟩⟩

theorem rfl : Onward v v := .of_parts (le_refl _) (Eq.refl _) (Eq.refl _) (Eq.refl _)

theorem of_entry {i : Nat} {entry : Entry τ T} (hphase : v.cursor.phase = .shrinkTransition)
    (hindex : v.cursor.index = i) (hcursor : v.cursor.position ≤ v'.cursor.position)
    (hentries : v'.entries = v.entries.set i entry) : Onward v v' := by
  refine ⟨hcursor, fun j hj => ?_, fun hdone => ?_⟩
  · have hlt := Cursor.position_lt_index hphase hj
    rw [hentries, List.getElem?_set_ne (by omega)]
  · rw [hphase] at hdone
    cases hdone

theorem of_initial (hphase : v.cursor.phase = .shrinkInitialState)
    (hcursor : v.cursor.position ≤ v'.cursor.position) (hentries : v'.entries = v.entries) : Onward v v' := by
  refine ⟨hcursor, fun _ _ => by rw [hentries], fun hdone => ?_⟩
  rw [hphase] at hdone
  cases hdone

end Onward

abbrev Seated (v : Sequence S T ι τ) : Prop := Placed (fun _ => True) (fun _ => True) v

abbrev Aligned (v : Sequence S T ι τ) : Prop := Tracked (fun _ => True) (fun _ => True) v

structure Attempted (v v' : Sequence S T ι τ) : Prop extends Placed (fun _ => True) (fun _ => True) v' where
  onward : Onward v v'
  cursor : v'.cursor = v.cursor
  lastEdit : v'.lastEdit = v.lastEdit

def Attempts (x : Act (Sequence S T ι τ) (Option (Edit S T))) (v : Sequence S T ι τ) : Prop :=
  x.Yields v (fun edit? v' => Attempted v v' ∧ ∀ edit, edit? = some edit → edit.Tracks v')
    fun _ v' => Attempted v v'

theorem deleteLast_attempts (hv : Seated v)
    (hphase : v.cursor.phase = .deleteTransition) : Attempts (deleteLast g) v := by
  have hstill : Attempted v v := ⟨hv, .rfl, rfl, rfl⟩
  unfold Attempts deleteLast
  rw [Act.yields_bind, Act.yields_get, Act.yields_ite]
  refine ⟨fun _ => ⟨hstill, nofun⟩, fun hlong => ?_⟩
  rw [Act.yields_bind, Act.yields_lift]
  refine ⟨fun valid _ => ?_, fun _ _ => hstill⟩
  rw [Act.yields_ite]
  refine ⟨fun _ => ⟨hstill, nofun⟩, fun _ => ?_⟩
  have hlength := hv.le
  refine ⟨⟨⟨hv.trees, ?_, hv.index⟩, .of_parts (le_refl _) rfl rfl rfl, rfl, rfl⟩, ?_⟩
  · show min (v.length - 1) (valid : Int) ≤ v.entries.length
    omega
  · rintro edit ⟨⟩
    exact ⟨hphase, hlength⟩

theorem shrinkTransition_attempts (hv : Seated v)
    (hphase : v.cursor.phase = .shrinkTransition) (hlt : v.cursor.index < v.length) :
    Attempts (shrinkTransition g v.cursor.index.toNat) v := by
  obtain ⟨entry, hentry, -⟩ := hv.entry hlt
  have hindex : (v.cursor.index.toNat : Int) = v.cursor.index := Int.toNat_of_nonneg hv.index
  have hput (tree : τ) (t : T) : Attempted v (v.put v.cursor.index.toNat tree t) :=
    ⟨hv.set trivial rfl rfl rfl hv.index, .of_entry hphase hindex.symm (le_refl _) rfl, rfl, rfl⟩
  unfold Attempts
  rw [yields_shrinkTransition hentry]
  refine (Act.yields_trivial _ _).mono (fun proposed tree _ => ?_) fun _ tree _ => hput tree _
  cases proposed with
  | none => exact ⟨hput tree _, nofun⟩
  | some t =>
    dsimp only
    rw [Act.yields_lift]
    refine ⟨fun valid _ => ?_, fun _ _ => hput tree _⟩
    cases valid with
    | false => exact ⟨hput tree _, nofun⟩
    | true =>
      rw [if_pos rfl]
      refine ⟨hput tree t, ?_⟩
      rintro edit ⟨⟩
      have hcursor : v.cursor = { phase := .shrinkTransition, index := (v.cursor.index.toNat : Int) } := by
        rw [hindex, ← hphase]
      have hbefore : (v.cursor.index.toNat : Int) < v.length := by rwa [hindex]
      exact ⟨hcursor, hbefore⟩

theorem shrinkInitialState_attempts (hv : Seated v)
    (hphase : v.cursor.phase = .shrinkInitialState) : Attempts (shrinkInitialState g) v := by
  have hput (tree : ι) (s : S) : Attempted v (v.putInitial tree s) :=
    ⟨⟨⟨trivial, hv.trees.2⟩, hv.le, hv.index⟩, .of_initial hphase (le_refl _) rfl, rfl, rfl⟩
  unfold Attempts
  rw [yields_shrinkInitialState]
  refine (Act.yields_trivial _ _).mono (fun proposed tree _ => ?_) fun _ tree _ => hput tree _
  cases proposed with
  | none => exact ⟨hput tree _, nofun⟩
  | some s =>
    dsimp only
    rw [Act.yields_lift]
    refine ⟨fun valid _ => ?_, fun _ _ => hput tree _⟩
    cases valid with
    | false => exact ⟨hput tree _, nofun⟩
    | true =>
      rw [if_pos rfl]
      refine ⟨hput tree s, ?_⟩
      rintro edit ⟨⟩
      exact hphase

def GoesOn {α : Type} (x : Act (Sequence S T ι τ) α) (ongoing : α → Prop) (v : Sequence S T ι τ) : Prop :=
  x.Yields v (fun a v' => Aligned v' ∧ Onward v v' ∧ (ongoing a → v'.lastEdit = none))
    fun _ v' => Aligned v' ∧ Onward v v' ∧ v'.cursor.phase ≠ .done

theorem GoesOn.since {α : Type} {x : Act (Sequence S T ι τ) α} {ongoing : α → Prop} (h : GoesOn x ongoing v')
    (honward : Onward v v') : x.Yields v'
      (fun a v'' => Aligned v'' ∧ Onward v v'' ∧ (ongoing a → v''.lastEdit = none))
      fun _ v'' => Aligned v'' ∧ Onward v v'' ∧ v''.cursor.phase ≠ .done :=
  h.mono (fun _ _ h => ⟨h.1, honward.trans h.2.1, h.2.2⟩) fun _ _ h => ⟨h.1, honward.trans h.2.1, h.2.2⟩

theorem settle_goesOn {x : Act (Sequence S T ι τ) (Option (Edit S T))} {next : Act (Sequence S T ι τ) Unit}
    (hx : Attempts x v) (hlast : v.lastEdit = none) (hphase : v.cursor.phase ≠ .done)
    (hnext : ∀ v', Attempted v v' → next.Yields v' (fun _ v'' => Seated v'' ∧
      Onward v' v'' ∧ v''.lastEdit = none) fun _ _ => False) :
    GoesOn (x >>= settleRound next) (· = none) v := by
  have hraised {v' : Sequence S T ι τ} (h : Attempted v v') :
      Aligned v' ∧ Onward v v' ∧ v'.cursor.phase ≠ .done := by
    refine ⟨h.toPlaced.tracked (h.lastEdit.trans hlast), h.onward, ?_⟩
    rw [h.cursor]
    exact hphase
  unfold GoesOn
  rw [Act.yields_bind]
  refine hx.mono (fun edit? v' h => ?_) fun _ _ h => hraised h
  obtain ⟨h, hedit⟩ := h
  cases edit? with
  | some edit =>
    rw [settleRound, Act.yields_bind, yields_accept]
    have honward : Onward v { v' with lastEdit := some edit } := h.onward.trans (.of_parts (le_refl _) rfl rfl rfl)
    exact ⟨h.toPlaced.edited (hedit edit rfl), honward, fun hnone => absurd hnone (Option.some_ne_none _)⟩
  | none =>
    rw [settleRound, Act.yields_bind]
    refine (hnext v' h).mono (fun _ v'' h' => ?_) fun _ _ h => h.elim
    obtain ⟨hplaced, honward, hnone⟩ := h'
    exact ⟨hplaced.tracked hnone, h.onward.trans honward, fun _ => hnone⟩

theorem moveTo_goes (hv : Seated v) (hlast : v.lastEdit = none) {phase : Phase}
    (hrank : v.cursor.phase.rank < phase.rank) : (moveTo phase).Yields v
      (fun _ v' => Seated v' ∧ Onward v v' ∧ v'.lastEdit = none)
      fun _ _ => False := by
  rw [yields_moveTo]
  have hmoved : Onward v { v with cursor := { phase := phase, index := 0 } } :=
    .of_parts (Cursor.position_le_of_phase hrank) rfl rfl rfl
  exact ⟨⟨hv.trees, hv.le, Int.le_refl _⟩, hmoved, hlast⟩

theorem round_goesOn (hv : Seated v) (hlast : v.lastEdit = none) :
    GoesOn (round g) (· = none) v := by
  have hmove {phase : Phase} (hrank : v.cursor.phase.rank < phase.rank) (v' : Sequence S T ι τ)
      (h : Attempted v v') : (moveTo phase).Yields v'
        (fun _ v'' => Seated v'' ∧ Onward v' v'' ∧ v''.lastEdit = none)
        fun _ _ => False := by
    refine moveTo_goes h.toPlaced (h.lastEdit.trans hlast) ?_
    rw [h.cursor]
    exact hrank
  unfold GoesOn
  rw [Act.yields_congr (round_eq v)]
  cases hphase : v.cursor.phase with
  | deleteTransition =>
    refine settle_goesOn (deleteLast_attempts hv hphase) hlast (by rw [hphase]; nofun) (hmove ?_)
    rw [hphase]
    decide
  | shrinkTransition =>
    dsimp only
    rw [Act.yields_ite]
    refine ⟨fun _ => ?_, fun hlt => ?_⟩
    · rw [Act.yields_bind]
      have hrank : v.cursor.phase.rank < Phase.shrinkInitialState.rank := by
        rw [hphase]
        decide
      refine (moveTo_goes hv hlast hrank).mono (fun _ v' h => ?_) fun _ _ h => h.elim
      exact ⟨h.1.tracked h.2.2, h.2.1, fun _ => h.2.2⟩
    · have hattempts := shrinkTransition_attempts (g := g) hv hphase (Int.not_le.1 hlt)
      refine settle_goesOn hattempts hlast (by rw [hphase]; nofun) fun v' h => ?_
      have hstepped : v'.cursor.position ≤ ({ v'.cursor with index := v'.cursor.index + 1 } : Cursor).position :=
        Cursor.position_le_of_index rfl (Int.le_add_one (Int.le_refl _))
      have hindex : 0 ≤ v'.cursor.index + 1 := Int.add_nonneg h.index (by decide)
      exact ⟨⟨h.trees, h.le, hindex⟩, .of_parts hstepped rfl rfl rfl, h.lastEdit.trans hlast⟩
  | shrinkInitialState =>
    refine settle_goesOn (shrinkInitialState_attempts hv hphase) hlast (by rw [hphase]; nofun) (hmove ?_)
    rw [hphase]
    decide
  | done => exact ⟨hv.tracked hlast, .rfl, nofun⟩

theorem rounds_goesOn (hv : Seated v) (hlast : v.lastEdit = none) (n : Nat) :
    GoesOn (rounds g n) (· = none) v := by
  induction n generalizing v with
  | zero => exact ⟨hv.tracked hlast, .rfl, fun _ => hlast⟩
  | succ n ih =>
    unfold GoesOn rounds
    rw [Act.yields_bind]
    refine (round_goesOn hv hlast).mono (fun ended v' h => ?_) fun _ _ h => h
    obtain ⟨haligned, honward, hongoing⟩ := h
    cases ended with
    | some moved => exact ⟨haligned, honward, nofun⟩
    | none => exact (ih haligned.toPlaced (hongoing rfl)).since honward

theorem shrinkWithin_goesOn (hv : Seated v) (n : Nat) : GoesOn (shrinkWithin g n) (· = none) v := by
  have hforgot : Onward v { v with lastEdit := none } := .of_parts (le_refl _) rfl rfl rfl
  have hseated : Seated { v with lastEdit := none } := ⟨hv.trees, hv.le, hv.index⟩
  have hrounds := rounds_goesOn (g := g) hseated rfl n
  unfold GoesOn shrinkWithin
  rw [Act.yields_bind, Act.yields_modify]
  exact hrounds.since hforgot

theorem shrink_goes [BEq S] [BEq T] (hv : Seated v) : (shrink g).Yields v
    (fun _ v' => Aligned v' ∧ Onward v v') fun _ v' => Aligned v' ∧ Onward v v' ∧ v'.cursor.phase ≠ .done := by
  have hwithin := shrinkWithin_goesOn (g := g) hv (v.length.toNat + (v.length - v.cursor.index).toNat + 4)
  unfold GoesOn at hwithin
  rw [Act.yields_congr (shrinkWithin_eq g v (Nat.le_refl _)), Act.yields_bind] at hwithin
  exact hwithin.mono (fun _ _ h => ⟨h.1, h.2.1⟩) fun _ _ h => h

theorem putBack_goes (hv : Seated v) (hlast : v.lastEdit = none) {i : Nat}
    (hcursor : v.cursor = { phase := .shrinkTransition, index := i }) (tree : τ) (prior : T) (retry : Bool) :
    Aligned (v.putBack i tree prior retry) ∧ Onward v (v.putBack i tree prior retry) := by
  have hphase : v.cursor.phase = .shrinkTransition := by rw [hcursor]
  have hindex : v.cursor.index = i := by rw [hcursor]
  cases retry with
  | true =>
    have hput : Seated (v.putBack i tree prior true) := hv.set trivial rfl rfl rfl hv.index
    exact ⟨hput.tracked hlast, .of_entry hphase hindex (le_refl _) rfl⟩
  | false =>
    have hput : Seated (v.putBack i tree prior false) :=
      hv.set trivial rfl rfl rfl (show 0 ≤ (i : Int) + 1 by omega)
    have hstepped : v.cursor.index ≤ (i : Int) + 1 := by omega
    exact ⟨hput.tracked hlast, .of_entry hphase hindex (Cursor.position_le_of_index rfl hstepped) rfl⟩

theorem putInitialBack_goes (hv : Seated v) (hlast : v.lastEdit = none)
    (hphase : v.cursor.phase = .shrinkInitialState) (tree : ι) (prior : S) (retry : Bool) :
    Aligned (v.putInitialBack tree prior retry) ∧ Onward v (v.putInitialBack tree prior retry) := by
  cases retry with
  | true =>
    have hput : Seated (v.putInitialBack tree prior true) := ⟨⟨trivial, hv.trees.2⟩, hv.le, hv.index⟩
    exact ⟨hput.tracked hlast, .of_initial hphase (le_refl _) rfl⟩
  | false =>
    have hput : Seated (v.putInitialBack tree prior false) := ⟨⟨trivial, hv.trees.2⟩, hv.le, Int.le_refl _⟩
    refine ⟨hput.tracked hlast, .of_initial hphase (Cursor.position_le_of_phase ?_) rfl⟩
    rw [hphase]
    show Phase.shrinkInitialState.rank < Phase.done.rank
    decide

def Goes {α : Type} (x : Act (Sequence S T ι τ) α) (v : Sequence S T ι τ) : Prop :=
  x.Yields v (fun _ v' => Aligned v' ∧ Onward v v') fun _ v' => Aligned v' ∧ Onward v v'

theorem restore_goes [BEq S] [BEq T] (hv : Seated v) (hlast : v.lastEdit = none) {edit : Edit S T}
    (htracks : edit.Tracks v) : Goes (restore g edit) v := by
  unfold Goes
  cases edit with
  | deleted index length =>
    obtain ⟨hphase, hlength⟩ := htracks
    have hrank : v.cursor.phase.rank < Phase.shrinkTransition.rank := by
      rw [hphase]
      decide
    unfold restore
    rw [Act.yields_bind, Act.yields_modify]
    have hmove := moveTo_goes (v := { v with length := length }) ⟨hv.trees, hlength, hv.index⟩ hlast hrank
    refine hmove.mono (fun _ v' h => ?_) fun _ _ h => h.elim
    have honward : Onward v { v with length := length } := .of_parts (le_refl _) rfl rfl rfl
    exact ⟨h.1.tracked h.2.2, honward.trans h.2.1⟩
  | transition i prior =>
    obtain ⟨hcursor, hlt⟩ := htracks
    have hphase : v.cursor.phase = .shrinkTransition := by rw [hcursor]
    have hindex : v.cursor.index = i := by rw [hcursor]
    obtain ⟨entry, hentry, -⟩ := hv.entry (by rwa [hindex])
    rw [hindex, Int.toNat_natCast] at hentry
    rw [yields_restore_transition hentry]
    refine (Act.yields_trivial _ _).mono (fun retry tree _ => ?_) fun _ tree _ => ?_
    · exact putBack_goes hv hlast hcursor tree prior retry
    · have hput : Seated { v with entries := v.entries.set i ⟨tree, prior⟩ } := hv.set trivial rfl rfl rfl hv.index
      exact ⟨hput.tracked hlast, .of_entry hphase hindex (le_refl _) rfl⟩
  | initialState prior =>
    rw [yields_restore_initial]
    refine (Act.yields_trivial _ _).mono (fun retry tree _ => ?_) fun _ tree _ => ?_
    · exact putInitialBack_goes hv hlast htracks tree prior retry
    · have hput : Seated { v with initialTree := tree, initialState := prior } :=
        ⟨⟨trivial, hv.trees.2⟩, hv.le, hv.index⟩
      exact ⟨hput.tracked hlast, .of_initial htracks (le_refl _) rfl⟩

theorem tracks_forget {edit : Edit S T} (h : edit.Tracks v) : edit.Tracks { v with lastEdit := none } := by
  cases edit with
  | deleted index length => exact h
  | transition i prior => exact h
  | initialState prior => exact h

theorem complicate_goes [BEq S] [BEq T] (hv : Aligned v) : Goes (complicate g) v := by
  unfold Goes complicate
  rw [Act.yields_bind, Act.yields_get]
  cases hlast : v.lastEdit with
  | none => exact ⟨hv, .rfl⟩
  | some edit =>
    have hforgot : Onward v { v with lastEdit := none } := .of_parts (le_refl _) rfl rfl rfl
    dsimp only
    rw [Act.yields_bind, Act.yields_set, Act.yields_bind]
    have hseated : Seated { v with lastEdit := none } := ⟨hv.trees, hv.le, hv.index⟩
    refine (restore_goes hseated rfl (tracks_forget (hv.edit edit hlast))).mono (fun _ v' h => ?_) fun _ v' h => ?_
    · rw [Act.yields_bind, Act.yields_log, Act.yields_pure]
      exact ⟨h.1, hforgot.trans h.2⟩
    · exact ⟨h.1, hforgot.trans h.2⟩

theorem cut_goes (hv : Aligned v) (length : Int) : Aligned (v.cut length) ∧ Onward v (v.cut length) := by
  refine ⟨(hv.cut (fun _ => 0) (fun _ => 0) length).1, ?_⟩
  unfold cut
  split
  · exact .rfl
  · exact .of_parts (le_refl _) rfl rfl rfl

theorem perform_goes [BEq S] [BEq T] (move : Move) (hv : Aligned v) : Goes (move.perform g) v := by
  cases move with
  | shrink => exact (shrink_goes hv.toPlaced).mono (fun _ _ h => h) fun _ _ h => ⟨h.1, h.2.1⟩
  | complicate => exact complicate_goes hv
  | truncate length =>
    unfold Goes
    rw [Move.perform, truncate_yields]
    exact cut_goes hv length

def after [BEq S] [BEq T] (g : Shrinker S T ι τ) (v : Sequence S T ι τ) (moves : List Move) : Sequence S T ι τ :=
  moves.foldl (fun v move => (move.perform g v).state) v

theorem after_goes [BEq S] [BEq T] (moves : List Move) (hv : Aligned v) :
    Aligned (after g v moves) ∧ Onward v (after g v moves) := by
  induction moves generalizing v with
  | nil => exact ⟨hv, .rfl⟩
  | cons move moves ih =>
    obtain ⟨haligned, honward⟩ := Act.Yields.state (perform_goes (g := g) move hv)
    obtain ⟨haligned', honward'⟩ := ih haligned
    exact ⟨haligned', honward.trans honward'⟩

theorem Aligned.no_edit (hv : Aligned v) (hphase : v.cursor.phase = .done) : v.lastEdit = none := by
  cases hlast : v.lastEdit with
  | none => rfl
  | some edit =>
    have htracks := hv.edit edit hlast
    cases edit with
    | deleted index length => simp [Edit.Tracks, hphase] at htracks
    | transition i prior => simp [htracks.1] at hphase
    | initialState prior => simp [Edit.Tracks, hphase] at htracks

theorem shrink_of_done [BEq S] [BEq T] (hphase : v.cursor.phase = .done) :
    (shrink g v).answer = .ok false ∧ (shrink g v).state.current = v.current := by
  have hended : (shrink g).Yields v (fun moved v' => moved = false ∧ v'.current = v.current) fun _ _ => False := by
    unfold shrink
    rw [Act.yields_bind, Act.yields_modify, Act.yields_bind, Act.yields_get]
    dsimp only
    rw [hphase]
    exact ⟨rfl, rfl⟩
  obtain ⟨moved, hanswer, rfl, hcurrent⟩ := hended.answers
  exact ⟨hanswer, hcurrent⟩

theorem shrink_ends [BEq S] [BEq T] (hv : Aligned v) :
    ((shrink g v).answer = .ok false ↔ (shrink g v).state.cursor.phase = .done) ∧
    ((shrink g v).answer = .ok false → (shrink g v).state.current = v.current) ∧
    ((shrink g v).answer = .ok true → ∃ edit, (shrink g v).state.lastEdit = some edit ∧
      edit.Tracks (shrink g v).state) := by
  have hgoes := shrink_goes (g := g) hv.toPlaced
  have hshrinks := shrink_shrinks g.tame_of_anything v.trees_of_anything
  cases hanswer : (shrink g v).answer with
  | error e =>
    obtain ⟨-, -, hphase⟩ := hgoes.of_error hanswer
    exact ⟨⟨nofun, fun h => absurd h hphase⟩, nofun, nofun⟩
  | ok moved =>
    obtain ⟨haligned, -⟩ := hgoes.of_ok hanswer
    obtain ⟨-, hshrunk⟩ := hshrinks.of_ok hanswer
    cases moved with
    | false =>
      obtain ⟨-, hshape, hphase⟩ := hshrunk.ended rfl
      exact ⟨⟨fun _ => hphase, fun _ => rfl⟩, fun _ => congrArg Shape.current hshape, nofun⟩
    | true =>
      obtain ⟨edit, hlast, -⟩ := hshrunk.edited rfl
      refine ⟨⟨nofun, fun hphase => ?_⟩, nofun, fun _ => ⟨edit, hlast, haligned.edit edit hlast⟩⟩
      rw [haligned.no_edit hphase] at hlast
      cases hlast

/-- However a sequence is driven, its cursor goes on from phase to phase and what it left stays as it is. A shrink
makes its edit at the cursor, or else ends with the candidate it had; and past the end nothing moves. -/
theorem phases_never_revisited [BEq S] [BEq T] (g : Shrinker S T ι τ) (initialTree : ι) (initialState : S)
    (entries : List (Entry τ T)) (minSize : Int) (earlier later : List Move) :
    let v := after g (start initialTree initialState entries minSize) earlier
    let v' := after g v later
    Onward v v' ∧
    ((shrink g v').answer = .ok false ↔ (shrink g v').state.cursor.phase = .done) ∧
    ((shrink g v').answer = .ok false → (shrink g v').state.current = v'.current) ∧
    ((shrink g v').answer = .ok true → ∃ edit, (shrink g v').state.lastEdit = some edit ∧
      edit.Tracks (shrink g v').state) ∧
    (v.cursor.phase = .done →
      (shrink g v').answer = .ok false ∧ (shrink g v').state.current = v'.current ∧
      (complicate g v').answer = .ok false ∧ (complicate g v').state.current = v'.current) := by
  intro v v'
  have hstart : Aligned (start initialTree initialState entries minSize) :=
    tracked_start trivial initialState (fun _ _ => trivial) minSize
  have hv : Aligned v := (after_goes earlier hstart).1
  obtain ⟨hv', honward⟩ := after_goes (g := g) later hv
  obtain ⟨hends, hcurrent, hedits⟩ := shrink_ends (g := g) hv'
  refine ⟨honward, hends, hcurrent, hedits, fun hphase => ?_⟩
  have hdone : v'.cursor.phase = .done := honward.done hphase
  obtain ⟨hshrink, hshrunk⟩ := shrink_of_done (g := g) hdone
  obtain ⟨hcomplicate, hsame⟩ := complicate_of_no_edit (g := g) (hv'.no_edit hdone)
  exact ⟨hshrink, hshrunk, hcomplicate, congrArg current hsame⟩

end Sequence
end StateCheck
