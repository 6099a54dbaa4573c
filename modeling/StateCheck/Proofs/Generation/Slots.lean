import StateCheck.Proofs.Steady

/-! The slots of a sequence as they are filled, with the transitions that were drawn for them and refused. A slot is
given up after so many refusals, and the sequence after so many slots given up in a row. -/

namespace StateCheck.Model
variable {S T ρ : Type} [WordSource ρ] {model : Model S T} {settings : Settings}

/-- The transitions that were drawn for a slot in a state and refused, and the one that was allowed, if any was. -/
structure Slot (model : Model S T) where
  state : S
  refused : List T
  taken : Option model.Entry

def drawSlot (model : Model S T) (s : S) : Nat → Act ρ (Slot model)
  | 0 => pure ⟨s, [], none⟩
  | tries + 1 => do
    let (tree, t) ← (model.next s).drawn
    if ← Act.lift (model.allows s t) then pure ⟨s, [], some ⟨⟨s, tree⟩, t⟩⟩
    else do
      let slot ← drawSlot model s tries
      pure { slot with refused := t :: slot.refused }

def fillSlots (model : Model S T) (settings : Settings) : Nat → Nat → Nat → S → Act ρ (List (Slot model))
  | 0, _, _, _ => pure []
  | left + 1, number, unfilled, s => do
    let slot ← model.drawSlot s settings.maxPreconditionRetries
    match slot.taken with
    | none =>
      Act.log (.slotUnfillable number (unfilled + 1))
      if settings.maxUnfillableSlots ≤ unfilled + 1 then pure [slot]
      else do
        let rest ← fillSlots model settings left (number + 1) (unfilled + 1) s
        pure (slot :: rest)
    | some entry =>
      let s' ← Act.lift (model.apply s entry.transition)
      let rest ← fillSlots model settings left (number + 1) 0 s'
      pure (slot :: rest)

theorem drawTransition_eq (model : Model S T) (s : S) (tries : Nat) :
    (model.drawTransition s tries : Act ρ _) = model.drawSlot s tries >>= fun slot => pure slot.taken := by
  induction tries with
  | zero => rfl
  | succ tries ih =>
    unfold drawTransition drawSlot Strategy.drawn
    simp only [bind_assoc, pure_bind]
    refine bind_congr fun tree => bind_congr fun t => bind_congr fun allowed => ?_
    cases allowed with
    | true => rfl
    | false => simp only [Bool.false_eq_true, if_false, bind_assoc, pure_bind, ih]

theorem fill_eq (model : Model S T) (settings : Settings) (left number unfilled : Nat) (s : S) :
    (model.fill settings left number unfilled s : Act ρ _) =
      model.fillSlots settings left number unfilled s >>= fun slots => pure (slots.filterMap Slot.taken) := by
  induction left generalizing number unfilled s with
  | zero => rfl
  | succ left ih =>
    unfold fill fillSlots
    rw [drawTransition_eq]
    simp only [bind_assoc, pure_bind]
    refine bind_congr fun slot => ?_
    cases htaken : slot.taken with
    | none =>
      dsimp only
      rw [bind_assoc]
      refine bind_congr fun _ => ?_
      split
      · simp [htaken]
      · simp [ih, htaken]
    | some entry =>
      dsimp only
      rw [bind_assoc]
      refine bind_congr fun s' => ?_
      simp [ih, htaken]

inductive Raises (model : Model S T) (ρ : Type) [WordSource ρ] : Fault → Prop
  | initial {source : ρ} {e : Fault} (h : (model.initial.drawn source).answer = .error e) : Raises model ρ e
  | next {s : S} {source : ρ} {e : Fault} (h : ((model.next s).drawn source).answer = .error e) : Raises model ρ e
  | allows {s : S} {t : T} {e : Fault} (h : model.allows s t = .error e) : Raises model ρ e
  | apply {s : S} {t : T} {e : Fault} (h : model.apply s t = .error e) : Raises model ρ e

def Proposes (model : Model S T) (ρ : Type) [WordSource ρ] (s : S) (t : T) : Prop :=
  ∃ (source : ρ) (tree : (model.next s).State), ((model.next s).drawn source).answer = .ok (tree, t)

structure Slot.Unfillable (settings : Settings) (ρ : Type) [WordSource ρ] (slot : Slot model) : Prop where
  taken : slot.taken = none
  tries : slot.refused.length = settings.maxPreconditionRetries
  refused : ∀ t ∈ slot.refused, model.Proposes ρ slot.state t ∧ model.allows slot.state t = .ok false

structure Slot.Drawn (ρ : Type) [WordSource ρ] (tries : Nat) (s : S) (slot : Slot model) : Prop where
  state : slot.state = s
  refused : ∀ t ∈ slot.refused, model.Proposes ρ s t ∧ model.allows s t = .ok false
  tries : slot.taken = none → slot.refused.length = tries
  taken : ∀ entry ∈ slot.taken, model.Proposes ρ s entry.transition ∧ model.allows s entry.transition = .ok true

theorem Slot.Drawn.unfillable {s : S} {slot : Slot model} (h : slot.Drawn ρ settings.maxPreconditionRetries s)
    (hnone : slot.taken = none) : slot.Unfillable settings ρ :=
  ⟨hnone, h.tries hnone, h.state ▸ h.refused⟩

theorem drawSlot_yields (s : S) (tries : Nat) (source : ρ) :
    (model.drawSlot s tries).Yields source (fun slot _ => slot.Drawn ρ tries s) fun e _ => model.Raises ρ e := by
  induction tries generalizing source with
  | zero => exact ⟨rfl, nofun, fun _ => rfl, nofun⟩
  | succ tries ih =>
    unfold drawSlot
    rw [Act.yields_bind]
    refine (Act.yields_self _ source).mono (fun drawn source' hdrawn => ?_) fun e _ he => .next he.1
    have hproposes : model.Proposes ρ s drawn.2 := ⟨source, drawn.1, hdrawn.1⟩
    rw [Act.yields_bind, Act.yields_lift]
    refine ⟨fun allowed hallowed => ?_, fun e he => .allows he⟩
    cases allowed with
    | true =>
      refine ⟨rfl, nofun, nofun, ?_⟩
      rintro entry ⟨⟩
      exact ⟨hproposes, hallowed⟩
    | false =>
      rw [if_neg Bool.false_ne_true, Act.yields_bind]
      refine (ih source').mono (fun slot _ hslot => ?_) fun _ _ h => h
      exact ⟨hslot.state, List.forall_mem_cons.2 ⟨⟨hproposes, hallowed⟩, hslot.refused⟩,
        fun hnone => congrArg Nat.succ (hslot.tries hnone), hslot.taken⟩

def Threaded (model : Model S T) (settings : Settings) (ρ : Type) [WordSource ρ] : S → List (Slot model) → Prop
  | _, [] => True
  | s, slot :: rest => slot.Drawn ρ settings.maxPreconditionRetries s ∧
    match slot.taken with
    | none => model.Threaded settings ρ s rest
    | some entry => ∃ s', model.apply s entry.transition = .ok s' ∧ model.Threaded settings ρ s' rest

theorem Threaded.unfillable {s : S} {slots : List (Slot model)} (h : model.Threaded settings ρ s slots) :
    ∀ slot ∈ slots, slot.taken = none → slot.Unfillable settings ρ := by
  induction slots generalizing s with
  | nil => exact nofun
  | cons slot rest ih =>
    obtain ⟨hdrawn, hrest⟩ := h
    refine List.forall_mem_cons.2 ⟨hdrawn.unfillable, ?_⟩
    split at hrest
    · exact ih hrest
    · obtain ⟨s', -, hrest⟩ := hrest
      exact ih hrest

/-- None of the last slots is filled, and with the `unfilled` ones before all of them they are as many as end a
sequence. -/
def EndsUnfilled (settings : Settings) (unfilled : Nat) (slots : List (Slot model)) : Prop :=
  ∃ front last, slots = front ++ last ∧ (∀ slot ∈ last, slot.taken = none) ∧
    (last.length = settings.maxUnfillableSlots ∨ front = [] ∧ unfilled + last.length = settings.maxUnfillableSlots)

theorem EndsUnfilled.none {unfilled : Nat} {slot : Slot model} {rest : List (Slot model)}
    (h : EndsUnfilled settings (unfilled + 1) rest) (hnone : slot.taken = none) :
    EndsUnfilled settings unfilled (slot :: rest) := by
  obtain ⟨front, last, rfl, hlast, hcount | ⟨rfl, hcount⟩⟩ := h
  · exact ⟨slot :: front, last, rfl, hlast, .inl hcount⟩
  · refine ⟨[], slot :: last, rfl, List.forall_mem_cons.2 ⟨hnone, hlast⟩, .inr ⟨rfl, ?_⟩⟩
    rw [List.length_cons]
    omega

theorem EndsUnfilled.some {unfilled : Nat} {slot : Slot model} {rest : List (Slot model)}
    (h : EndsUnfilled settings 0 rest) : EndsUnfilled settings unfilled (slot :: rest) := by
  obtain ⟨front, last, rfl, hlast, hcount⟩ := h
  refine ⟨slot :: front, last, rfl, hlast, .inl ?_⟩
  rcases hcount with hcount | ⟨-, hcount⟩
  · exact hcount
  · exact (Nat.zero_add _).symm.trans hcount

structure Filled (settings : Settings) (ρ : Type) [WordSource ρ] (left unfilled : Nat) (s : S)
    (slots : List (Slot model)) : Prop where
  threaded : model.Threaded settings ρ s slots
  length : slots.length ≤ left
  ends : slots.length < left → EndsUnfilled settings unfilled slots

theorem fillSlots_yields (left number : Nat) {unfilled : Nat} (hunfilled : unfilled < settings.maxUnfillableSlots)
    (s : S) (source : ρ) : (model.fillSlots settings left number unfilled s).Yields source
      (fun slots _ => Filled settings ρ left unfilled s slots) fun e _ => model.Raises ρ e := by
  induction left generalizing number unfilled s source with
  | zero => exact ⟨trivial, Nat.le_refl 0, fun h => absurd h (Nat.not_lt_zero 0)⟩
  | succ left ih =>
    unfold fillSlots
    rw [Act.yields_bind]
    refine (drawSlot_yields s _ source).mono (fun slot source' hslot => ?_) fun _ _ h => h
    cases htaken : slot.taken with
    | none =>
      dsimp only
      rw [Act.yields_bind, Act.yields_log, Act.yields_ite]
      refine ⟨fun hmax => ?_, fun hmax => ?_⟩
      · refine ⟨⟨hslot, ?_⟩, Nat.succ_le_succ (Nat.zero_le left), fun _ => ?_⟩
        · simp only [htaken, Threaded]
        · refine ⟨[], [slot], rfl, List.forall_mem_singleton.2 htaken, .inr ⟨rfl, ?_⟩⟩
          exact Nat.le_antisymm hunfilled hmax
      · rw [Act.yields_bind]
        refine (ih _ (Nat.lt_of_not_le hmax) s source').mono (fun rest _ hrest => ?_) fun _ _ h => h
        refine ⟨⟨hslot, ?_⟩, Nat.succ_le_succ hrest.length, fun hlength => ?_⟩
        · simp only [htaken]
          exact hrest.threaded
        · exact (hrest.ends (Nat.lt_of_succ_lt_succ hlength)).none htaken
    | some entry =>
      dsimp only
      rw [Act.yields_bind, Act.yields_lift]
      refine ⟨fun s' hs' => ?_, fun e he => .apply he⟩
      rw [Act.yields_bind]
      refine (ih _ settings.maxUnfillableSlots_pos s' source').mono (fun rest _ hrest => ?_) fun _ _ h => h
      refine ⟨⟨hslot, ?_⟩, Nat.succ_le_succ hrest.length, fun hlength => ?_⟩
      · simp only [htaken]
        exact ⟨s', hs', hrest.threaded⟩
      · exact (hrest.ends (Nat.lt_of_succ_lt_succ hlength)).some

namespace Filled
variable {left : Nat} {s : S} {slots : List (Slot model)}

theorem unfillable (h : Filled settings ρ left 0 s slots) (hlength : slots.length < left) :
    ∃ front last, slots = front ++ last ∧ last.length = settings.maxUnfillableSlots ∧
      ∀ slot ∈ last, slot.Unfillable settings ρ := by
  obtain ⟨front, last, rfl, hlast, hcount⟩ := h.ends hlength
  refine ⟨front, last, rfl, by omega, fun slot hslot => ?_⟩
  exact h.threaded.unfillable slot (List.mem_append_right front hslot) (hlast slot hslot)

theorem exists_unfillable (h : Filled settings ρ left 0 s slots)
    (hshort : (slots.filterMap Slot.taken).length < left) : ∃ slot ∈ slots, slot.Unfillable settings ρ := by
  by_cases hlength : slots.length < left
  · obtain ⟨front, last, rfl, hcount, hlast⟩ := h.unfillable hlength
    have hpos : 0 < last.length := hcount ▸ settings.maxUnfillableSlots_pos
    obtain ⟨slot, hslot⟩ := List.exists_mem_of_length_pos hpos
    exact ⟨slot, List.mem_append_right front hslot, hlast slot hslot⟩
  · have hlost : (slots.filterMap Slot.taken).length ≠ slots.length := by
      have := h.length
      omega
    rw [Ne, List.filterMap_length_eq_length, Classical.not_forall] at hlost
    obtain ⟨slot, hlost⟩ := hlost
    rw [Classical.not_imp, Option.not_isSome_iff_eq_none] at hlost
    exact ⟨slot, hlost.1, h.threaded.unfillable slot hlost.1 hlost.2⟩

end Filled
end StateCheck.Model
