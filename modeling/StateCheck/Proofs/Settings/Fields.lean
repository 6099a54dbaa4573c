import StateCheck.Proofs.Yields
import StateCheck.Settings.Validation

/-! What each field takes from what it is given. Settings come about from given values exactly if every field takes its
own, by itself, and the sizes are in order. -/

namespace StateCheck.Settings

namespace Field

def convert : Field → Setting → Reading Setting
  | maxShrinkTime, setting => setting.asFloat.map .real
  | verbose, setting => setting.asBool.map .bool
  | seed, setting => setting.asIntOrNull.map fun n => n.elim .null .int
  | _, setting => setting.asInt.map .int

def Admits : Field → Setting → Prop
  | cases, .int n | maxPreconditionRetries, .int n | maxUnfillableSlots, .int n
  | maxGenerationAttempts, .int n => 1 ≤ n
  | minSize, .int n | maxShrinkIters, .int n => 0 ≤ n
  | maxShrinkTime, .real x => ¬ x < 0
  | _, _ => True

def Takes (field : Field) : Option Setting → Setting → Prop
  | none, v => v = field.default
  | some setting, v => field.convert setting = .ok v ∧ field.Admits v

end Field

def Rejected (given : Given) : Prop :=
  (∃ field : Field, ∀ v, ¬ field.Takes (given field) v) ∨
  ∃ lo hi, Field.minSize.Takes (given .minSize) (.int lo) ∧ Field.maxSize.Takes (given .maxSize) (.int hi) ∧ hi < lo

section
variable {α β : Type} {given : Given} {field : Field} {default b : β} {kind : Setting → Reading α}
  {range : α → Except String β} {shown : α → Value} {wrap : α → Setting} {view : β → Setting}

theorem readAs_eq_ok : readAs given field default kind range shown = .ok (.ok b) ↔
    (given field = none ∧ b = default) ∨
    ∃ setting a, given field = some setting ∧ kind setting = .ok a ∧ range a = .ok b := by
  unfold readAs
  cases hgiven : given field with
  | none => simp [eq_comm]
  | some setting =>
    cases hkind : kind setting with
    | error c => simp [hkind]
    | ok a => cases hrange : range a <;> simp [hkind, hrange]

structure Field.ReadBy (field : Field) (default : β) (kind : Setting → Reading α) (range : α → Except String β)
    (wrap : α → Setting) (view : β → Setting) : Prop where
  convert : ∀ setting, field.convert setting = (kind setting).map wrap
  admits : ∀ a, field.Admits (wrap a) → ∃ b, range a = .ok b
  admitted : ∀ a b, range a = .ok b → field.Admits (wrap a) ∧ wrap a = view b
  default : view default = field.default
  injective : Function.Injective view

theorem Field.ReadBy.exists_of_takes (h : field.ReadBy default kind range wrap view) (shown : α → Value) {v : Setting}
    (htakes : field.Takes (given field) v) :
    ∃ b, v = view b ∧ readAs given field default kind range shown = .ok (.ok b) := by
  simp only [readAs_eq_ok]
  cases hgiven : given field with
  | none =>
    rw [hgiven] at htakes
    exact ⟨default, htakes.trans h.default.symm, .inl ⟨rfl, rfl⟩⟩
  | some setting =>
    rw [hgiven] at htakes
    obtain ⟨hconvert, hadmits⟩ := htakes
    rw [h.convert] at hconvert
    cases hkind : kind setting with
    | error c =>
      rw [hkind] at hconvert
      cases hconvert
    | ok a =>
      rw [hkind] at hconvert
      cases hconvert
      obtain ⟨b, hb⟩ := h.admits a hadmits
      exact ⟨b, (h.admitted a b hb).2, .inr ⟨setting, a, rfl, hkind, hb⟩⟩

theorem Field.ReadBy.takes_iff (h : field.ReadBy default kind range wrap view) :
    field.Takes (given field) (view b) ↔ readAs given field default kind range shown = .ok (.ok b) := by
  refine ⟨fun htakes => ?_, fun hread => ?_⟩
  · obtain ⟨b', hb', hread⟩ := h.exists_of_takes shown htakes
    rwa [h.injective hb']
  · rcases readAs_eq_ok.1 hread with ⟨hgiven, rfl⟩ | ⟨setting, a, hgiven, hkind, hrange⟩
    · rw [hgiven]
      exact h.default
    · obtain ⟨hadmits, hview⟩ := h.admitted a b hrange
      rw [hgiven]
      refine ⟨?_, hview ▸ hadmits⟩
      rw [h.convert, hkind, ← hview]
      rfl

theorem Field.ReadBy.exists_view (h : field.ReadBy default kind range wrap view)
    (htaken : ∃ v, field.Takes (given field) v) : ∃ b, field.Takes (given field) (view b) := by
  obtain ⟨v, hv⟩ := htaken
  obtain ⟨b, rfl, -⟩ := h.exists_of_takes (fun _ => .none) hv
  exact ⟨b, hv⟩

end

theorem positive_read {field : Field} (hconvert : ∀ setting, field.convert setting = setting.asInt.map .int)
    (hadmits : ∀ n, field.Admits (.int n) ↔ 1 ≤ n) {default : { n : Nat // 0 < n }}
    (hdefault : .int default.1 = field.default) :
    field.ReadBy default Setting.asInt positive .int fun n => .int n.1 where
  convert := hconvert
  admits n h := by
    have hpos : 0 < n.toNat := by have := (hadmits n).1 h; omega
    exact ⟨_, dif_pos hpos⟩
  admitted n b h := by
    unfold positive at h
    split at h
    · cases h
      rename_i hpos
      exact ⟨(hadmits n).2 (by omega), congrArg Setting.int (by dsimp only; omega)⟩
    · cases h
  default := hdefault
  injective a b h := Subtype.ext (Int.ofNat_inj.1 (Setting.int.inj h))

theorem natural_read {field : Field} (hconvert : ∀ setting, field.convert setting = setting.asInt.map .int)
    (hadmits : ∀ n, field.Admits (.int n) ↔ 0 ≤ n) {default : Nat} (hdefault : .int default = field.default) :
    field.ReadBy default Setting.asInt natural .int fun n => .int n where
  convert := hconvert
  admits n h := ⟨_, if_neg (Int.not_lt.2 ((hadmits n).1 h))⟩
  admitted n _ h := by
    unfold natural at h
    split at h
    · cases h
    · cases h
      rename_i hneg
      have hn := Int.not_lt.1 hneg
      exact ⟨(hadmits n).2 hn, congrArg Setting.int (Int.toNat_of_nonneg hn).symm⟩
  default := hdefault
  injective a b h := Int.ofNat_inj.1 (Setting.int.inj h)

theorem any_read {α : Type} {field : Field} {default : α} {kind : Setting → Reading α} {range : α → Except String α}
    {wrap : α → Setting} (hconvert : ∀ setting, field.convert setting = (kind setting).map wrap)
    (hrange : ∀ a, range a = .ok a) (hadmits : ∀ a, field.Admits (wrap a)) (hdefault : wrap default = field.default)
    (hwrap : Function.Injective wrap) : field.ReadBy default kind range wrap wrap where
  convert := hconvert
  admits a _ := ⟨a, hrange a⟩
  admitted a _ h := ⟨hadmits a, congrArg wrap (Except.ok.inj ((hrange a).symm.trans h))⟩
  default := hdefault
  injective := hwrap

theorem duration_read : Field.maxShrinkTime.ReadBy 0 Setting.asFloat duration .real .real where
  convert _ := rfl
  admits x h := ⟨x, if_neg h⟩
  admitted x b h := by
    unfold duration at h
    split at h
    · cases h
    · cases h
      rename_i hneg
      exact ⟨hneg, rfl⟩
  default := rfl
  injective _ _ := Setting.real.inj

theorem seed_injective : Function.Injective fun n : Option Int => n.elim Setting.null .int := by
  rintro (_ | a) (_ | b) h <;> cases h <;> rfl

theorem cases_read : Field.cases.ReadBy ⟨256, by decide⟩ Setting.asInt positive .int fun n => .int n.1 :=
  positive_read (fun _ => rfl) (fun _ => Iff.rfl) rfl

theorem minSize_read : Field.minSize.ReadBy 1 Setting.asInt natural .int fun n => .int n :=
  natural_read (fun _ => rfl) (fun _ => Iff.rfl) rfl

theorem maxSize_read : Field.maxSize.ReadBy 20 Setting.asInt anyInt .int .int :=
  any_read (fun _ => rfl) (fun _ => rfl) (fun _ => trivial) rfl fun _ _ => Setting.int.inj

theorem maxPreconditionRetries_read :
    Field.maxPreconditionRetries.ReadBy ⟨16, by decide⟩ Setting.asInt positive .int fun n => .int n.1 :=
  positive_read (fun _ => rfl) (fun _ => Iff.rfl) rfl

theorem maxUnfillableSlots_read :
    Field.maxUnfillableSlots.ReadBy ⟨3, by decide⟩ Setting.asInt positive .int fun n => .int n.1 :=
  positive_read (fun _ => rfl) (fun _ => Iff.rfl) rfl

theorem maxGenerationAttempts_read :
    Field.maxGenerationAttempts.ReadBy ⟨8, by decide⟩ Setting.asInt positive .int fun n => .int n.1 :=
  positive_read (fun _ => rfl) (fun _ => Iff.rfl) rfl

theorem maxShrinkIters_read : Field.maxShrinkIters.ReadBy 4096 Setting.asInt natural .int fun n => .int n :=
  natural_read (fun _ => rfl) (fun _ => Iff.rfl) rfl

theorem verbose_read : Field.verbose.ReadBy false Setting.asBool .ok .bool .bool :=
  any_read (fun _ => rfl) (fun _ => rfl) (fun _ => trivial) rfl fun _ _ => Setting.bool.inj

theorem seed_read : Field.seed.ReadBy none Setting.asIntOrNull .ok (fun n => n.elim .null .int)
    fun n => n.elim .null .int :=
  any_read (fun _ => rfl) (fun _ => rfl) (fun _ => trivial) rfl seed_injective

def readings (s : Settings) : Readings where
  cases := .ok ⟨s.cases, s.cases_pos⟩
  minSize := .ok s.minSize
  maxSize := .ok s.maxSize
  maxPreconditionRetries := .ok ⟨s.maxPreconditionRetries, s.maxPreconditionRetries_pos⟩
  maxUnfillableSlots := .ok ⟨s.maxUnfillableSlots, s.maxUnfillableSlots_pos⟩
  maxGenerationAttempts := .ok ⟨s.maxGenerationAttempts, s.maxGenerationAttempts_pos⟩
  maxShrinkIters := .ok s.maxShrinkIters
  maxShrinkTime := .ok s.maxShrinkTime
  verbose := .ok s.verbose
  seed := .ok s.seed

theorem Readings.settings_eq_ok {r : Readings} {s : Settings} : r.settings = .ok s ↔ r = s.readings := by
  refine ⟨fun h => ?_, ?_⟩
  · unfold Readings.settings at h
    split at h
    · split at h
      · cases h
        rename_i hle
        have hmax := Int.toNat_of_nonneg (Int.le_trans (Int.natCast_nonneg _) hle)
        simp only [readings, hmax]
      · cases h
    · cases h
  · rintro rfl
    exact dif_pos (Int.ofNat_le.2 s.minSize_le_maxSize)

theorem readAll_eq_ok {given : Given} {s : Settings} :
    readAll given = .ok s.readings ↔ ∀ field : Field, field.Takes (given field) (s.value field) := by
  refine ⟨fun h field => ?_, fun h => ?_⟩
  · simp only [readAll, bind_eq_ok] at h
    obtain ⟨cases, hcases, minSize, hminSize, maxSize, hmaxSize, retries, hretries, slots, hslots, attempts, hattempts,
      iters, hiters, time, htime, verbose, hverbose, seed, hseed, hr⟩ := h
    cases hr
    cases field with
    | cases => exact cases_read.takes_iff.2 hcases
    | minSize => exact minSize_read.takes_iff.2 hminSize
    | maxSize => exact maxSize_read.takes_iff.2 hmaxSize
    | maxPreconditionRetries => exact maxPreconditionRetries_read.takes_iff.2 hretries
    | maxUnfillableSlots => exact maxUnfillableSlots_read.takes_iff.2 hslots
    | maxGenerationAttempts => exact maxGenerationAttempts_read.takes_iff.2 hattempts
    | maxShrinkIters => exact maxShrinkIters_read.takes_iff.2 hiters
    | maxShrinkTime => exact duration_read.takes_iff.2 htime
    | verbose => exact verbose_read.takes_iff.2 hverbose
    | seed => exact seed_read.takes_iff.2 hseed
  · simp only [readAll, bind_eq_ok]
    exact ⟨.ok ⟨s.cases, s.cases_pos⟩, cases_read.takes_iff.1 (h .cases),
      _, minSize_read.takes_iff.1 (h .minSize), _, maxSize_read.takes_iff.1 (h .maxSize),
      .ok ⟨s.maxPreconditionRetries, s.maxPreconditionRetries_pos⟩,
      maxPreconditionRetries_read.takes_iff.1 (h .maxPreconditionRetries),
      .ok ⟨s.maxUnfillableSlots, s.maxUnfillableSlots_pos⟩,
      maxUnfillableSlots_read.takes_iff.1 (h .maxUnfillableSlots),
      .ok ⟨s.maxGenerationAttempts, s.maxGenerationAttempts_pos⟩,
      maxGenerationAttempts_read.takes_iff.1 (h .maxGenerationAttempts),
      _, maxShrinkIters_read.takes_iff.1 (h .maxShrinkIters), _, duration_read.takes_iff.1 (h .maxShrinkTime),
      _, verbose_read.takes_iff.1 (h .verbose), _, seed_read.takes_iff.1 (h .seed), rfl⟩

theorem ofGiven_eq_ok {given : Given} {s : Settings} :
    ofGiven given = .ok s ↔ ∀ field : Field, field.Takes (given field) (s.value field) := by
  rw [← readAll_eq_ok, ofGiven, bind_eq_ok]
  refine ⟨fun ⟨r, hread, hsettings⟩ => ?_, fun hread => ⟨_, hread, Readings.settings_eq_ok.2 rfl⟩⟩
  rw [hread, Readings.settings_eq_ok.1 hsettings]

theorem Field.Takes.unique {field : Field} {given : Option Setting} {v v' : Setting} (h : field.Takes given v)
    (h' : field.Takes given v') : v = v' := by
  cases given with
  | none => exact h.trans h'.symm
  | some setting => exact Except.ok.inj (h.1.symm.trans h'.1)

theorem exists_of_not_rejected {given : Given} (h : ¬ Rejected given) :
    ∃ s : Settings, ∀ field : Field, field.Takes (given field) (s.value field) := by
  obtain ⟨htakes, hsizes⟩ := not_or.1 h
  have htaken (field : Field) : ∃ v, field.Takes (given field) v :=
    Classical.not_forall_not.1 fun hnone => htakes ⟨field, hnone⟩
  obtain ⟨cases, hcases⟩ := cases_read.exists_view (htaken .cases)
  obtain ⟨minSize, hminSize⟩ := minSize_read.exists_view (htaken .minSize)
  obtain ⟨maxSize, hmaxSize⟩ := maxSize_read.exists_view (htaken .maxSize)
  obtain ⟨retries, hretries⟩ := maxPreconditionRetries_read.exists_view (htaken .maxPreconditionRetries)
  obtain ⟨slots, hslots⟩ := maxUnfillableSlots_read.exists_view (htaken .maxUnfillableSlots)
  obtain ⟨attempts, hattempts⟩ := maxGenerationAttempts_read.exists_view (htaken .maxGenerationAttempts)
  obtain ⟨iters, hiters⟩ := maxShrinkIters_read.exists_view (htaken .maxShrinkIters)
  obtain ⟨time, htime⟩ := duration_read.exists_view (htaken .maxShrinkTime)
  obtain ⟨verbose, hverbose⟩ := verbose_read.exists_view (htaken .verbose)
  obtain ⟨seed, hseed⟩ := seed_read.exists_view (htaken .seed)
  have hle : (minSize : Int) ≤ maxSize := Int.not_lt.1 fun hlt => hsizes ⟨_, _, hminSize, hmaxSize, hlt⟩
  have hmax : (maxSize.toNat : Int) = maxSize := by omega
  let s : Settings :=
    { cases := cases.1, minSize := minSize, maxSize := maxSize.toNat, maxPreconditionRetries := retries.1,
      maxUnfillableSlots := slots.1, maxGenerationAttempts := attempts.1, maxShrinkIters := iters,
      maxShrinkTime := time, verbose := verbose, seed := seed, cases_pos := cases.2,
      maxPreconditionRetries_pos := retries.2, maxUnfillableSlots_pos := slots.2,
      maxGenerationAttempts_pos := attempts.2, minSize_le_maxSize := by omega }
  refine ⟨s, fun field => ?_⟩
  cases field with
  | cases => exact hcases
  | minSize => exact hminSize
  | maxSize =>
    show Field.maxSize.Takes (given .maxSize) (.int (maxSize.toNat : Int))
    rw [hmax]
    exact hmaxSize
  | maxPreconditionRetries => exact hretries
  | maxUnfillableSlots => exact hslots
  | maxGenerationAttempts => exact hattempts
  | maxShrinkIters => exact hiters
  | maxShrinkTime => exact htime
  | verbose => exact hverbose
  | seed => exact hseed

theorem ofGiven_eq_error {given : Given} : (∃ e, ofGiven given = .error e) ↔ Rejected given := by
  refine ⟨fun ⟨e, he⟩ => ?_, fun h => ?_⟩
  · by_cases h : Rejected given
    · exact h
    · obtain ⟨s, hs⟩ := exists_of_not_rejected h
      rw [ofGiven_eq_ok.2 hs] at he
      cases he
  · cases hsettings : ofGiven given with
    | error e => exact ⟨e, rfl⟩
    | ok s =>
      have hs := ofGiven_eq_ok.1 hsettings
      rcases h with ⟨field, hnone⟩ | ⟨lo, hi, hlo, hhi, hlt⟩
      · exact (hnone _ (hs field)).elim
      · have hmin := Setting.int.inj (hlo.unique (hs .minSize))
        have hmax := Setting.int.inj (hhi.unique (hs .maxSize))
        have hle := s.minSize_le_maxSize
        omega

end StateCheck.Settings
