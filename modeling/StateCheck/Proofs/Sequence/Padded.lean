import StateCheck.Proofs.Coupled
import StateCheck.Proofs.Sequence.Order

/-! Sequences that keep transitions which no longer count. As long as lengths count from the front, nothing that is
done to a sequence sees what lies behind its length. -/

namespace StateCheck

theorem before_append {α : Type} {n : Int} (hn : 0 ≤ n) {items : List α} (hle : n ≤ items.length) (rest : List α) :
    before n (items ++ rest) = before n items := by
  have hbound : n.toNat ≤ items.length := by omega
  rw [before, before, if_pos hn, if_pos hn, List.take_append_of_le_length hbound]

namespace Sequence
variable {S T ι τ : Type} {g : Shrinker S T ι τ} {v v' : Sequence S T ι τ} {rest : List (Entry τ T)}

def padded (rest : List (Entry τ T)) (v : Sequence S T ι τ) : Sequence S T ι τ :=
  { v with entries := v.entries ++ rest, startLength := v.startLength + rest.length }

abbrev Pads (rest : List (Entry τ T)) (v v' : Sequence S T ι τ) : Prop := v' = v.padded rest

theorem transitions_padded (rest : List (Entry τ T)) (v : Sequence S T ι τ) :
    (v.padded rest).transitions = v.transitions ++ rest.map (·.transition) := List.map_append ..

theorem before_padded {n : Int} (hn : 0 ≤ n) (hle : n ≤ v.entries.length) :
    before n (v.padded rest).transitions = before n v.transitions := by
  rw [transitions_padded]
  exact before_append hn (by rwa [length_transitions]) _

theorem current_padded (hlength : 0 ≤ v.length) (hle : v.length ≤ v.entries.length) :
    (v.padded rest).current = v.current :=
  congrArg (Candidate.mk v.initialState) (before_padded hlength hle)

theorem entry_padded {i : Nat} {entry : Entry τ T} (hentry : v.entries[i]? = some entry) :
    (v.padded rest).entries[i]? = some entry := by
  have hi := (List.getElem?_eq_some_iff.1 hentry).1
  exact (List.getElem?_append_left hi).trans hentry

theorem entries_set_padded {i : Nat} {entry : Entry τ T} (hentry : v.entries[i]? = some entry) (new : Entry τ T) :
    (v.entries ++ rest).set i new = v.entries.set i new ++ rest :=
  List.set_append_left i new (List.getElem?_eq_some_iff.1 hentry).1

theorem put_padded {i : Nat} {entry : Entry τ T} (hentry : v.entries[i]? = some entry) (tree : τ) (t : T) :
    (v.padded rest).put i tree t = (v.put i tree t).padded rest := by
  unfold put padded
  rw [entries_set_padded hentry]

theorem set_padded {i : Nat} {entry : Entry τ T} (hentry : v.entries[i]? = some entry) (new : Entry τ T) :
    { v.padded rest with entries := (v.padded rest).entries.set i new } =
      ({ v with entries := v.entries.set i new } : Sequence S T ι τ).padded rest := by
  unfold padded
  rw [entries_set_padded hentry]

theorem putBack_padded {i : Nat} {entry : Entry τ T} (hentry : v.entries[i]? = some entry) (tree : τ) (prior : T)
    (retry : Bool) : (v.padded rest).putBack i tree prior retry = (v.putBack i tree prior retry).padded rest := by
  cases retry with
  | true =>
    unfold putBack padded
    rw [entries_set_padded hentry]
  | false =>
    unfold putBack padded
    rw [entries_set_padded hentry]

theorem cut_padded (length : Int) (v : Sequence S T ι τ) : (v.padded rest).cut length = (v.cut length).padded rest := by
  by_cases hle : v.length ≤ max length v.minSize
  · have hcut : v.cut length = v := if_pos hle
    rw [hcut]
    exact if_pos hle
  · have hcut : v.cut length = { v with length := max length v.minSize, lastEdit := none } := if_neg hle
    rw [hcut]
    exact if_neg hle

theorem deleteLast_padded (hle : v.length ≤ v.entries.length) (hmin : 0 ≤ v.minSize) :
    Act.Coupled (Pads rest) (deleteLast g) (deleteLast g) v (v.padded rest) := by
  intro Q E h
  unfold deleteLast at h ⊢
  rw [Act.yields_bind, Act.yields_get, Act.yields_ite] at h ⊢
  refine ⟨fun hshort => ⟨v, rfl, h.1 hshort⟩, fun hlong => ?_⟩
  have hlength : v.minSize < v.length := Int.not_le.1 hlong
  have hbefore : before (v.length - 1) (v.padded rest).transitions = before (v.length - 1) v.transitions :=
    before_padded (by omega) (by omega)
  have hkept := h.2 hlong
  rw [Act.yields_bind, Act.yields_lift] at hkept ⊢
  refine ⟨fun valid hvalid => ?_, fun e he => ⟨v, rfl, hkept.2 e (hbefore ▸ he)⟩⟩
  have hdeleted := hkept.1 valid (hbefore ▸ hvalid)
  rw [Act.yields_ite] at hdeleted ⊢
  exact ⟨fun hrefused => ⟨v, rfl, hdeleted.1 hrefused⟩, fun hdone => ⟨_, rfl, hdeleted.2 hdone⟩⟩

theorem shrinkTransition_padded {i : Nat} {entry : Entry τ T} (hentry : v.entries[i]? = some entry)
    (hlength : 0 ≤ v.length) (hle : v.length ≤ v.entries.length) :
    Act.Coupled (Pads rest) (shrinkTransition g i) (shrinkTransition g i) v (v.padded rest) := by
  intro Q E h
  rw [yields_shrinkTransition hentry] at h
  rw [yields_shrinkTransition (entry_padded hentry)]
  refine h.mono (fun proposed tree h => ?_) fun e tree h => ⟨_, put_padded hentry tree _, h⟩
  cases proposed with
  | none => exact ⟨_, put_padded hentry tree _, h⟩
  | some t =>
    dsimp only at h ⊢
    have hbefore : before (v.padded rest).length (v.padded rest).transitions = before v.length v.transitions :=
      before_padded hlength hle
    rw [hbefore]
    rw [Act.yields_lift] at h ⊢
    refine ⟨fun valid hvalid => ?_, fun e he => ⟨_, put_padded hentry tree _, h.2 e he⟩⟩
    have hQ := h.1 valid hvalid
    cases valid with
    | true => exact ⟨_, put_padded hentry tree t, hQ⟩
    | false => exact ⟨_, put_padded hentry tree _, hQ⟩

theorem shrinkInitialState_padded (hlength : 0 ≤ v.length) (hle : v.length ≤ v.entries.length) :
    Act.Coupled (Pads rest) (shrinkInitialState g) (shrinkInitialState g) v (v.padded rest) := by
  intro Q E h
  rw [yields_shrinkInitialState] at h ⊢
  refine h.mono (fun proposed tree h => ?_) fun e tree h => ⟨_, rfl, h⟩
  cases proposed with
  | none => exact ⟨_, rfl, h⟩
  | some s =>
    dsimp only at h ⊢
    have hbefore : before (v.padded rest).length (v.padded rest).transitions = before v.length v.transitions :=
      before_padded hlength hle
    rw [hbefore]
    rw [Act.yields_lift] at h ⊢
    refine ⟨fun valid hvalid => ?_, fun e he => ⟨_, rfl, h.2 e he⟩⟩
    have hQ := h.1 valid hvalid
    cases valid with
    | true => exact ⟨_, rfl, hQ⟩
    | false => exact ⟨_, rfl, hQ⟩

theorem accept_padded (edit : Edit S T) (v : Sequence S T ι τ) :
    Act.Coupled (Pads rest) (accept edit) (accept edit) v (v.padded rest) := Act.coupled_of_eq rfl rfl

theorem moveTo_padded (phase : Phase) (v : Sequence S T ι τ) :
    Act.Coupled (Pads rest) (moveTo phase) (moveTo phase) v (v.padded rest) := Act.coupled_of_eq rfl rfl

theorem settle_padded {x : Act (Sequence S T ι τ) (Option (Edit S T))} {next : Act (Sequence S T ι τ) Unit}
    (hx : Act.Coupled (Pads rest) x x v (v.padded rest))
    (hnext : ∀ v', Act.Coupled (Pads rest) next next v' (v'.padded rest)) :
    Act.Coupled (Pads rest) (x >>= settleRound next) (x >>= settleRound next) v (v.padded rest) := by
  refine hx.andThen fun edit? v' _ hpads => ?_
  cases hpads
  cases edit? with
  | some edit => exact (accept_padded edit v').andThen fun moved _ _ hpads => Act.coupled_pure _ hpads
  | none => exact (hnext v').andThen fun _ _ _ hpads => Act.coupled_pure _ hpads

structure Forward (v : Sequence S T ι τ) : Prop extends Placed (fun _ => True) (fun _ => True) v where
  minSize : 0 ≤ v.minSize
  nonneg : 0 ≤ v.length

theorem round_padded (hv : Forward v) : Act.Coupled (Pads rest) (round g) (round g) v (v.padded rest) := by
  refine Act.Coupled.congr ?_ (round_eq v) (round_eq (v.padded rest))
  have hcursor : (v.padded rest).cursor = v.cursor := rfl
  have hlength : (v.padded rest).length = v.length := rfl
  rw [hcursor, hlength]
  cases v.cursor.phase with
  | deleteTransition => exact settle_padded (deleteLast_padded hv.le hv.minSize) (moveTo_padded _)
  | shrinkTransition =>
    dsimp only
    split
    · exact (moveTo_padded _ v).andThen fun _ _ _ hpads => Act.coupled_pure _ hpads
    · rename_i hlt
      obtain ⟨entry, hentry, -⟩ := hv.entry (Int.not_le.1 hlt)
      exact settle_padded (shrinkTransition_padded hentry hv.nonneg hv.le) fun _ => Act.coupled_modify rfl
  | shrinkInitialState => exact settle_padded (shrinkInitialState_padded hv.nonneg hv.le) (moveTo_padded _)
  | done => exact Act.coupled_pure _ rfl

theorem settle_still {phase : Phase} {x : Act (Sequence S T ι τ) (Option (Edit S T))}
    {next : Act (Sequence S T ι τ) Unit} {E : Fault → Sequence S T ι τ → Prop}
    (hx : x.Yields v (fun edit? v' => v'.Trees (fun _ => True) (fun _ => True) ∧ Attempt g.rules phase v edit? v') E)
    (hnext : ∀ v', next.Yields v' (fun _ v'' => Still v' v'') fun _ _ => True) :
    (x >>= settleRound next).Yields v (fun ended v' => ended = none → Still v v') fun _ _ => True := by
  rw [Act.yields_bind]
  refine hx.mono (fun edit? v' h => ?_) fun _ _ _ => trivial
  obtain ⟨-, h⟩ := h
  cases edit? with
  | some edit => exact fun hended => absurd hended (Option.some_ne_none _)
  | none =>
    have hquiet : Quiet v v' := h
    rw [settleRound, Act.yields_bind]
    exact (hnext v').mono (fun _ _ h' _ => hquiet.toStill.trans h') fun _ _ h => h

theorem truncate_padded (length : Int) (v : Sequence S T ι τ) :
    Act.Coupled (Pads rest) (truncate length) (truncate length) v (v.padded rest) := by
  intro Q E h
  rw [truncate_yields] at h ⊢
  exact ⟨_, cut_padded length v, h⟩

structure Upright (v : Sequence S T ι τ) : Prop where
  aligned : Aligned v
  minSize : 0 ≤ v.minSize
  nonneg : Covers (fun f => 0 ≤ f.length) v

theorem Upright.forward (hv : Upright v) : Forward v := ⟨hv.aligned.toPlaced, hv.minSize, hv.nonneg.1⟩

theorem Upright.cut (hv : Upright v) (length : Int) : Upright (v.cut length) := by
  have hmin := hv.minSize
  refine ⟨(cut_goes hv.aligned length).1, ?_, hv.nonneg.cut length fun _ => ?_⟩
  · rwa [minSize_cut]
  · show 0 ≤ max length v.minSize
    omega

theorem Reduces.nonneg {rules : Rules S T} {minSize : Int} {f f' : Shape S T} {edit : Edit S T} (hmin : 0 ≤ minSize)
    (h : Reduces rules minSize f edit f') (hf : 0 ≤ f.length) : 0 ≤ f'.length := by
  cases h with
  | delete _ _ hkept => exact Int.le_trans hmin hkept
  | transition => exact hf
  | initialState => exact hf

variable [BEq S] [BEq T]

theorem round_still (g : Shrinker S T ι τ) (v : Sequence S T ι τ) :
    (round g).Yields v (fun ended v' => ended = none → Still v v') fun _ _ => True := by
  have htame := g.tame_of_anything
  have htrees := v.trees_of_anything
  have hmove (phase : Phase) (v' : Sequence S T ι τ) :
      (moveTo phase).Yields v' (fun _ v'' => Still v' v'') fun _ _ => True := ⟨rfl, rfl, rfl⟩
  rw [Act.yields_congr (round_eq v)]
  cases v.cursor.phase with
  | deleteTransition => exact settle_still (deleteLast_yields htame.rules htrees) (hmove _)
  | shrinkTransition =>
    dsimp only
    rw [Act.yields_ite]
    refine ⟨fun _ _ => ⟨rfl, rfl, rfl⟩, fun _ => ?_⟩
    exact settle_still (shrinkTransition_yields htame.rules htame.transition htrees _) fun _ => ⟨rfl, rfl, rfl⟩
  | shrinkInitialState => exact settle_still (shrinkInitialState_yields htame.rules htame.initial htrees) (hmove _)
  | done => exact fun hended => absurd hended (Option.some_ne_none _)

theorem round_forward (hv : Forward v) (hlast : v.lastEdit = none) : (round g).Yields v
    (fun ended v' => ended = none → Forward v' ∧ v'.lastEdit = none) fun _ _ => True := by
  refine ((round_goesOn hv.toPlaced hlast).and (round_still g v)).mono (fun ended v' h hended => ?_)
    fun _ _ _ => trivial
  obtain ⟨⟨haligned, -, hnone⟩, hstill⟩ := h
  have hlength : v'.length = v.length := congrArg Shape.length (hstill hended).shape
  refine ⟨⟨haligned.toPlaced, ?_, ?_⟩, hnone hended⟩
  · rw [(hstill hended).minSize]
    exact hv.minSize
  · rw [hlength]
    exact hv.nonneg

theorem rounds_padded (hv : Forward v) (hlast : v.lastEdit = none) (n : Nat) :
    Act.Coupled (Pads rest) (rounds g n) (rounds g n) v (v.padded rest) := by
  induction n generalizing v with
  | zero => exact Act.coupled_pure _ rfl
  | succ n ih =>
    unfold rounds
    refine (round_padded hv).bind ((round_forward hv hlast).mono (fun ended v' h => ?_) fun _ _ h => h)
    rintro _ rfl
    cases ended with
    | some moved => exact Act.coupled_pure _ rfl
    | none =>
      obtain ⟨hforward, hnone⟩ := h rfl
      exact ih hforward hnone

theorem shrink_padded (hv : Forward v) : Act.Coupled (Pads rest) (shrink g) (shrink g) v (v.padded rest) := by
  have hforgot : Forward { v with lastEdit := none } :=
    ⟨⟨hv.trees, hv.le, hv.index⟩, hv.minSize, hv.nonneg⟩
  have hwithin (n : Nat) : Act.Coupled (Pads rest) (shrinkWithin g n) (shrinkWithin g n) v (v.padded rest) := by
    unfold shrinkWithin
    refine Act.Coupled.bind (Act.coupled_modify rfl) ?_
    rw [Act.yields_modify]
    rintro _ rfl
    exact rounds_padded hforgot rfl n
  have hbound := Nat.le_refl (v.length.toNat + (v.length - v.cursor.index).toNat + 4)
  refine Act.coupled_bind_pure (Option.some_injective Bool) ?_
  exact (hwithin _).congr (shrinkWithin_eq g v hbound).symm (shrinkWithin_eq g (v.padded rest) hbound).symm

theorem restore_padded (hv : Aligned v) {edit : Edit S T} (htracks : edit.Tracks v) :
    Act.Coupled (Pads rest) (restore g edit) (restore g edit) v (v.padded rest) := by
  cases edit with
  | deleted index length => exact Act.coupled_of_eq rfl rfl
  | transition i prior =>
    obtain ⟨hcursor, hlt⟩ := htracks
    have hindex : v.cursor.index = i := by rw [hcursor]
    obtain ⟨entry, hentry, -⟩ := hv.entry (by rwa [hindex])
    rw [hindex, Int.toNat_natCast] at hentry
    intro Q E h
    rw [yields_restore_transition hentry] at h
    rw [yields_restore_transition (entry_padded hentry)]
    refine h.mono (fun retry tree h => ?_) fun e tree h => ⟨_, set_padded hentry ⟨tree, prior⟩, h⟩
    exact ⟨_, putBack_padded hentry tree prior retry, h⟩
  | initialState prior =>
    intro Q E h
    rw [yields_restore_initial] at h ⊢
    refine h.mono (fun retry tree h => ?_) fun e tree h => ⟨_, rfl, h⟩
    cases retry with
    | true => exact ⟨_, rfl, h⟩
    | false => exact ⟨_, rfl, h⟩

theorem complicate_padded (hv : Aligned v) :
    Act.Coupled (Pads rest) (complicate g) (complicate g) v (v.padded rest) := by
  unfold complicate
  refine Act.coupled_get ?_
  have hlast' : (v.padded rest).lastEdit = v.lastEdit := rfl
  rw [hlast']
  cases hlast : v.lastEdit with
  | none => exact Act.coupled_pure _ rfl
  | some edit =>
    have hforgot : Aligned { v with lastEdit := none } := Placed.tracked ⟨hv.trees, hv.le, hv.index⟩ rfl
    have htracks := tracks_forget (hv.edit edit hlast)
    refine Act.Coupled.bind (Act.coupled_set rfl) ?_
    rw [Act.yields_set]
    rintro _ rfl
    refine (restore_padded hforgot htracks).andThen fun _ _ _ hpads => ?_
    exact (Act.coupled_log _ hpads).andThen fun _ _ _ hpads => Act.coupled_pure _ hpads

theorem shrink_upright (hv : Upright v) : (shrink g).Yields v (fun _ v' => Upright v') fun _ _ => True := by
  have hshrinks := shrink_shrinks g.tame_of_anything v.trees_of_anything
  refine ((shrink_goes (g := g) hv.aligned.toPlaced).and hshrinks).mono (fun moved v' h => ?_) fun _ _ _ => trivial
  obtain ⟨⟨haligned, -⟩, -, hshrunk⟩ := h
  refine ⟨haligned, hshrunk.minSize ▸ hv.minSize, hv.nonneg.shrunk hshrunk fun edit _ hreduces => ?_⟩
  exact hreduces.nonneg hv.minSize hv.nonneg.1

theorem complicate_upright (hv : Upright v) : (complicate g).Yields v (fun _ v' => Upright v') fun _ _ => True := by
  have hcomplicates := complicate_yields g.tame_of_anything v.trees_of_anything
  refine ((complicate_goes (g := g) hv.aligned).and hcomplicates).mono (fun moved v' h => ?_) fun _ _ _ => trivial
  obtain ⟨⟨haligned, -⟩, -, hcomplicated⟩ := h
  exact ⟨haligned, hcomplicated.minSize ▸ hv.minSize, hv.nonneg.complicated hcomplicated⟩

end Sequence
end StateCheck
