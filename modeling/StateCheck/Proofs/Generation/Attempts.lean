import StateCheck.Proofs.Generation.Slots

/-! Generating gives up exactly when as many attempts as it has are all too short, and an attempt is short only where
slots were given up. -/

namespace StateCheck.Model
variable {S T ρ : Type} [WordSource ρ] {model : Model S T} {settings : Settings}

structure Attempt (model : Model S T) where
  tree : model.initial.State
  initial : S
  target : Int
  slots : List (Slot model)

def Attempt.entries (a : Attempt model) : List model.Entry := a.slots.filterMap Slot.taken

def Attempt.sequence (settings : Settings) (a : Attempt model) : model.Sequence :=
  .start a.tree a.initial a.entries settings.minSize

def attempt (model : Model S T) (settings : Settings) : Act ρ (Attempt model) := do
  let (tree, s) ← model.initial.drawn
  let target ← Random.between settings.minSize settings.maxSize
  let slots ← model.fillSlots settings target.toNat 0 0 s
  pure ⟨tree, s, target, slots⟩

theorem generateWithin_succ (left number longest : Nat) :
    (model.generateWithin settings (left + 1) number longest : Act ρ _) = (do
      let a ← model.attempt settings
      if settings.minSize ≤ a.entries.length then
        Act.log (.generated a.entries.length number)
        pure (a.sequence settings)
      else
        Act.log (.attemptTooShort number a.entries.length settings.minSize)
        model.generateWithin settings left (number + 1) (max longest a.entries.length)) := by
  rw [generateWithin]
  unfold attempt Strategy.drawn
  simp only [bind_assoc, pure_bind, fill_eq, Attempt.entries, Attempt.sequence]
  rfl

structure Attempt.Made (settings : Settings) (ρ : Type) [WordSource ρ] (a : Attempt model) : Prop where
  target : settings.minSize ≤ a.target ∧ a.target ≤ settings.maxSize
  filled : Filled settings ρ a.target.toNat 0 a.initial a.slots

theorem attempt_yields (source : ρ) : (model.attempt settings).Yields source
    (fun a _ => a.Made settings ρ) fun e _ => model.Raises ρ e := by
  have hsizes : (settings.minSize : Int) ≤ settings.maxSize := Int.ofNat_le.2 settings.minSize_le_maxSize
  unfold attempt
  rw [Act.yields_bind]
  refine (Act.yields_self _ source).mono (fun drawn source' _ => ?_) fun e _ he => .initial he.1
  rw [Act.yields_bind]
  refine ((Strategy.between_yields _ _ source').and (Random.between_answers _ _ source')).mono
    (fun target source'' htarget => ?_) fun _ _ h => h.2.elim
  rw [Act.yields_bind]
  refine (fillSlots_yields _ _ settings.maxUnfillableSlots_pos _ source'').mono (fun slots _ hslots => ?_)
    fun _ _ h => h
  exact ⟨htarget.1 hsizes, hslots⟩

namespace Attempt.Made
variable {a : Attempt model}

theorem length_le (h : a.Made settings ρ) : (a.slots.length : Int) ≤ a.target := by
  have hlength := h.filled.length
  have htarget := h.target.1
  omega

theorem length_eq (h : a.Made settings ρ) (hrefused : ∀ slot ∈ a.slots, slot.refused = []) :
    (a.entries.length : Int) = a.target := by
  have hfull : ¬ a.entries.length < a.target.toNat := by
    intro hshort
    obtain ⟨slot, hslot, hunfillable⟩ := h.filled.exists_unfillable hshort
    have htries := hunfillable.tries
    rw [hrefused slot hslot] at htries
    exact absurd htries (Nat.ne_of_lt settings.maxPreconditionRetries_pos)
  have hentries : a.entries.length ≤ a.slots.length := List.length_filterMap_le Slot.taken a.slots
  have htarget := h.target.1
  have hlength := h.length_le
  omega

end Attempt.Made

theorem generateWithin_error (left number longest : Nat) (source : ρ) {e : Fault} (he : ¬ model.Raises ρ e) :
    (model.generateWithin settings left number longest source).answer = .error e ↔
      ∃ attempts, (Act.times (model.attempt settings) left source).answer = .ok attempts ∧
        (∀ a ∈ attempts, a.entries.length < settings.minSize) ∧
        e = .generationExhausted (.int settings.minSize)
          (.int ((attempts.map fun a => a.entries.length).foldl max longest : Nat))
          (.int settings.maxGenerationAttempts) := by
  induction left generalizing number longest source with
  | zero =>
    refine ⟨?_, ?_⟩
    · rintro ⟨⟩
      exact ⟨[], rfl, nofun, rfl⟩
    · rintro ⟨attempts, ⟨⟩, -, rfl⟩
      rfl
  | succ left ih =>
    rw [generateWithin_succ, Act.answer_bind]
    simp only [Act.answer_times_succ]
    have hmade : (model.attempt settings).Yields source (fun a _ => a.Made settings ρ) fun e _ => model.Raises ρ e :=
      attempt_yields source
    cases hattempt : (model.attempt settings source).answer with
    | error e' =>
      have hraises : model.Raises ρ e' := hmade.of_error hattempt
      refine ⟨?_, ?_⟩
      · rintro ⟨⟩
        exact absurd hraises he
      · rintro ⟨_, ⟨a, rest, ⟨⟩, -⟩, -⟩
    | ok a =>
      by_cases hlong : settings.minSize ≤ a.entries.length
      · dsimp only
        rw [if_pos hlong]
        refine ⟨nofun, ?_⟩
        rintro ⟨attempts, ⟨a', rest, ⟨⟩, -, rfl⟩, hshort, -⟩
        exact absurd hlong (Nat.not_le_of_lt (hshort a List.mem_cons_self))
      · dsimp only
        rw [if_neg hlong, Act.answer_bind]
        refine (ih ..).trans ⟨?_, ?_⟩
        · rintro ⟨rest, hrest, hshort, rfl⟩
          exact ⟨a :: rest, ⟨a, rest, rfl, hrest, rfl⟩,
            List.forall_mem_cons.2 ⟨Nat.lt_of_not_le hlong, hshort⟩, rfl⟩
        · rintro ⟨attempts, ⟨a', rest, ⟨⟩, hrest, rfl⟩, hshort, rfl⟩
          exact ⟨rest, hrest, (List.forall_mem_cons.1 hshort).2, rfl⟩

theorem max?_attempts {attempts : List (Attempt model)} (hattempts : attempts ≠ []) :
    (attempts.map fun a => a.entries.length).max? =
      some ((attempts.map fun a => a.entries.length).foldl max 0) := by
  cases attempts with
  | nil => exact absurd rfl hattempts
  | cons a rest => rw [List.map_cons, List.max?_cons', List.foldl_cons, Nat.zero_max]

theorem generate_error (source : ρ) {e : Fault} (he : ¬ model.Raises ρ e) :
    (model.generate settings source).answer = .error e ↔
      ∃ attempts longest,
        (Act.times (model.attempt settings) settings.maxGenerationAttempts source).answer = .ok attempts ∧
        (∀ a ∈ attempts, a.entries.length < settings.minSize) ∧
        (attempts.map fun a => a.entries.length).max? = some longest ∧
        e = .generationExhausted (.int settings.minSize) (.int longest) (.int settings.maxGenerationAttempts) := by
  have hlength : (Act.times (model.attempt settings) settings.maxGenerationAttempts).Yields source
      (fun attempts _ => attempts.length = settings.maxGenerationAttempts) fun _ _ => True :=
    Act.yields_times_length (fun source => Act.yields_trivial _ source) _ source
  have hmax {attempts : List (Attempt model)} (hattempts :
      (Act.times (model.attempt settings) settings.maxGenerationAttempts source).answer = .ok attempts) :=
    max?_attempts (List.ne_nil_of_length_pos
      ((hlength.of_ok hattempts).symm ▸ settings.maxGenerationAttempts_pos))
  refine (generateWithin_error _ _ _ source he).trans ⟨?_, ?_⟩
  · rintro ⟨attempts, hattempts, hshort, rfl⟩
    exact ⟨attempts, _, hattempts, hshort, hmax hattempts, rfl⟩
  · rintro ⟨attempts, longest, hattempts, hshort, hlongest, rfl⟩
    rw [hmax hattempts] at hlongest
    cases hlongest
    exact ⟨attempts, hattempts, hshort, rfl⟩

theorem generate_of_attempt {source : ρ} {a : Attempt model}
    (hattempt : (model.attempt settings source).answer = .ok a) (hlong : settings.minSize ≤ a.entries.length) :
    (model.generate settings source).answer = .ok (a.sequence settings) := by
  obtain ⟨left, hleft⟩ := Nat.exists_eq_add_one_of_ne_zero (Nat.ne_of_gt settings.maxGenerationAttempts_pos)
  unfold generate
  rw [hleft, generateWithin_succ, Act.answer_bind, hattempt]
  dsimp only
  rw [if_pos hlong]
  rfl

/-- A fault that is none of the model's own comes of generating exactly if all attempts are too short, and tells how
long the longest of them is. An attempt falls short of its target only where all draws for a slot were refused in its
state, and ends before its last slot only where that happened for so many slots in a row. -/
theorem generate_gives_up (model : Model S T) (settings : Settings) (source : ρ) :
    (∀ e, ¬ model.Raises ρ e → ((model.generate settings source).answer = .error e ↔
      ∃ attempts longest,
        (Act.times (model.attempt settings) settings.maxGenerationAttempts source).answer = .ok attempts ∧
        (∀ a ∈ attempts, a.entries.length < settings.minSize) ∧
        (attempts.map fun a => a.entries.length).max? = some longest ∧ longest < settings.minSize ∧
        e = .generationExhausted (.int settings.minSize) (.int longest) (.int settings.maxGenerationAttempts))) ∧
    (∀ n, (Act.times (model.attempt settings) n).Yields source
      (fun attempts _ => attempts.length = n ∧ ∀ a ∈ attempts,
        (settings.minSize ≤ a.target ∧ a.target ≤ settings.maxSize) ∧
        model.Threaded settings ρ a.initial a.slots ∧ a.slots.length ≤ a.target ∧
        (a.entries.length < a.target → ∃ slot ∈ a.slots, slot.Unfillable settings ρ) ∧
        (a.slots.length < a.target → ∃ front last, a.slots = front ++ last ∧
          last.length = settings.maxUnfillableSlots ∧ ∀ slot ∈ last, slot.Unfillable settings ρ))
      fun e _ => model.Raises ρ e) ∧
    ∀ a, (model.attempt settings source).answer = .ok a → (∀ slot ∈ a.slots, slot.refused = []) →
      (model.generate settings source).answer = .ok (a.sequence settings) ∧ a.entries.length = a.target := by
  refine ⟨fun e he => ?_, fun n => ?_, fun a hattempt hrefused => ?_⟩
  · rw [generate_error source he]
    refine exists_congr fun attempts => exists_congr fun longest => and_congr_right fun _ => ?_
    refine and_congr_right fun hshort => and_congr_right fun hlongest => ⟨fun h => ⟨?_, h⟩, fun h => h.2⟩
    obtain ⟨a, ha, rfl⟩ := List.mem_map.1 (List.max?_mem hlongest)
    exact hshort a ha
  · have hmade (source : ρ) : (model.attempt settings).Yields source
        (fun a _ => a.Made settings ρ) fun e _ => model.Raises ρ e := attempt_yields source
    have hlength := Act.yields_times_length (fun source => (hmade source).mono (fun _ _ _ => trivial) fun _ _ h => h)
      n source
    refine (hlength.and (Act.yields_times_all hmade n source)).mono (fun attempts _ h => ?_) fun _ _ h => h.1
    refine ⟨h.1, fun a ha => ?_⟩
    have hmade := h.2 a ha
    exact ⟨hmade.target, hmade.filled.threaded, hmade.length_le,
      fun hshort => hmade.filled.exists_unfillable (Int.lt_toNat.2 hshort),
      fun hshort => hmade.filled.unfillable (Int.lt_toNat.2 hshort)⟩
  · have hmade : a.Made settings ρ := (attempt_yields source).of_ok hattempt
    have hlength := hmade.length_eq hrefused
    have htarget := hmade.target.1
    exact ⟨generate_of_attempt hattempt (by omega), hlength⟩

def bounded : Model Int Int where
  apply s t := .ok (s + t)
  allows s _ := .ok (s < 2)
  name := "Bounded"
  initial := .just 1 "1"
  next _ := .just 1 "1"

example : (match (bounded.generate { minSize := 2 } ([] : List UInt32)).answer with
    | .error (.generationExhausted _ (.int longest) _) => some longest
    | _ => none) = some 1 := by
  decide +kernel

end StateCheck.Model
