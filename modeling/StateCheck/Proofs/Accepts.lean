import StateCheck.Candidate
import StateCheck.Proofs.Yields

/-! Which transition sequences a model accepts, and that the fold looking for the first transition that
is not allowed decides this. -/

namespace StateCheck.Rules
variable {S T : Type}

/-- Every transition is allowed in the state folded from those before it. -/
def Accepts (rules : Rules S T) : S → List T → Prop
  | _, [] => True
  | s, t :: rest =>
    rules.allows s t = .ok true ∧ ∃ s', rules.apply s t = .ok s' ∧ rules.Accepts s' rest

structure RaiseOnly (rules : Rules S T) (E : Fault → Prop) : Prop where
  apply : ∀ s t e, rules.apply s t = .error e → E e
  allows : ∀ s t e, rules.allows s t = .error e → E e

def Total (rules : Rules S T) : Prop := rules.RaiseOnly fun _ => False

variable {rules : Rules S T} {s : S} {ts : List T}

theorem Accepts.take (h : rules.Accepts s ts) (n : Nat) : rules.Accepts s (ts.take n) := by
  induction ts generalizing s n with
  | nil => simpa using h
  | cons t rest ih =>
    cases n with
    | zero => exact trivial
    | succ n =>
      obtain ⟨hallowed, s', hs', hrest⟩ := h
      exact ⟨hallowed, s', hs', ih hrest n⟩

def guard (rules : Rules S T) (start : Int) (position : Nat) (s : S) (t : T) : Except Fault Bool :=
  if start ≤ position then rules.allows s t else .ok true

theorem firstInvalidFrom_cons (start : Int) (position : Nat) (s : S) (t : T) (rest : List T) :
    rules.firstInvalidFrom start position s (t :: rest) =
      (rules.guard start position s t >>= fun allowed =>
        if allowed then rules.apply s t >>= fun s' =>
          rules.firstInvalidFrom start (position + 1) s' rest
        else .ok (some position)) := by
  unfold guard
  rw [firstInvalidFrom]
  split <;> rfl

theorem guard_of_allows {start : Int} {position : Nat} {t : T} (h : rules.allows s t = .ok true) :
    rules.guard start position s t = .ok true := by
  unfold guard
  split
  · exact h
  · rfl

theorem firstInvalidFrom_of_accepts (h : rules.Accepts s ts) (start : Int) (position : Nat) :
    rules.firstInvalidFrom start position s ts = .ok none := by
  induction ts generalizing s position with
  | nil => rfl
  | cons t rest ih =>
    obtain ⟨hallowed, s', hs', hrest⟩ := h
    rw [firstInvalidFrom_cons, bind_eq_ok]
    refine ⟨true, guard_of_allows hallowed, ?_⟩
    rw [if_pos rfl, bind_eq_ok]
    exact ⟨s', hs', ih hrest _⟩

/-- Transitions before `start` are folded without a check, so they must be known to be accepted. -/
theorem accepts_of_firstInvalidFrom {start : Int} {position : Nat}
    (h : rules.firstInvalidFrom start position s ts = .ok none)
    (hbefore : rules.Accepts s (ts.take (start - position).toNat)) : rules.Accepts s ts := by
  induction ts generalizing s position with
  | nil => exact trivial
  | cons t rest ih =>
    rw [firstInvalidFrom_cons, bind_eq_ok] at h
    obtain ⟨allowed, hguard, h⟩ := h
    cases allowed with
    | false => cases h
    | true =>
      rw [if_pos rfl, bind_eq_ok] at h
      obtain ⟨s', hs', h⟩ := h
      by_cases hstart : start ≤ position
      · rw [guard, if_pos hstart] at hguard
        refine ⟨hguard, s', hs', ih h ?_⟩
        rw [show (start - ((position + 1 : Nat) : Int)).toNat = 0 by omega]
        exact trivial
      · rw [show (start - position).toNat = (start - ((position + 1 : Nat) : Int)).toNat + 1 by omega]
          at hbefore
        obtain ⟨hallowed, s'', hs'', hrest⟩ := hbefore
        rw [hs'] at hs''
        cases hs''
        exact ⟨hallowed, s', hs', ih h hrest⟩

theorem accepts_take_of_firstInvalidFrom {start : Int} {position found : Nat}
    (hstart : start ≤ position) (h : rules.firstInvalidFrom start position s ts = .ok (some found)) :
    ∃ n, found = position + n ∧ n < ts.length ∧ rules.Accepts s (ts.take n) := by
  induction ts generalizing s position with
  | nil => cases h
  | cons t rest ih =>
    rw [firstInvalidFrom_cons, bind_eq_ok, guard, if_pos hstart] at h
    obtain ⟨allowed, hallowed, h⟩ := h
    cases allowed with
    | false =>
      cases h
      exact ⟨0, rfl, Nat.zero_lt_succ _, trivial⟩
    | true =>
      rw [if_pos rfl, bind_eq_ok] at h
      obtain ⟨s', hs', h⟩ := h
      obtain ⟨n, rfl, hn, hrest⟩ := ih (by omega) h
      exact ⟨n + 1, by omega, Nat.succ_lt_succ hn, hallowed, s', hs', hrest⟩

theorem RaiseOnly.firstInvalidFrom {E : Fault → Prop} (hrules : rules.RaiseOnly E) {start : Int}
    {position : Nat} {e : Fault} (h : rules.firstInvalidFrom start position s ts = .error e) : E e := by
  induction ts generalizing s position with
  | nil => cases h
  | cons t rest ih =>
    rw [firstInvalidFrom_cons, bind_eq_error] at h
    rcases h with h | ⟨allowed, -, h⟩
    · unfold guard at h
      split at h
      · exact hrules.allows _ _ _ h
      · cases h
    · cases allowed with
      | false => cases h
      | true =>
        rw [if_pos rfl, bind_eq_error] at h
        rcases h with h | ⟨s', -, h⟩
        · exact hrules.apply _ _ _ h
        · exact ih h

theorem firstInvalid_eq_none_iff : rules.firstInvalid s ts 0 = .ok none ↔ rules.Accepts s ts :=
  ⟨fun h => accepts_of_firstInvalidFrom h trivial, fun h => firstInvalidFrom_of_accepts h 0 0⟩

theorem isValid_eq_true_iff {start : Int} :
    rules.isValid s ts start = .ok true ↔ rules.firstInvalid s ts start = .ok none := by
  unfold isValid
  rcases rules.firstInvalid s ts start with _ | _ | _ <;> simp [Except.map]

theorem accepts_of_isValid {start : Nat} (h : rules.isValid s ts start = .ok true)
    (hbefore : rules.Accepts s (ts.take start)) : rules.Accepts s ts :=
  accepts_of_firstInvalidFrom (isValid_eq_true_iff.1 h) (by simpa using hbefore)

theorem isValid_zero_iff : rules.isValid s ts 0 = .ok true ↔ rules.Accepts s ts :=
  isValid_eq_true_iff.trans firstInvalid_eq_none_iff

theorem accepts_longestValid {n : Nat} (h : rules.longestValid s ts = .ok n) :
    n ≤ ts.length ∧ rules.Accepts s (ts.take n) := by
  unfold longestValid at h
  cases hfound : rules.firstInvalid s ts 0 with
  | error e =>
    rw [hfound] at h
    cases h
  | ok found =>
    rw [hfound] at h
    cases found with
    | none =>
      cases h
      exact ⟨Nat.le_refl _, (firstInvalid_eq_none_iff.1 hfound).take _⟩
    | some found =>
      cases h
      obtain ⟨n, rfl, hn, haccepts⟩ := accepts_take_of_firstInvalidFrom (Int.le_refl _) hfound
      simpa using ⟨Nat.le_of_lt hn, haccepts⟩

theorem RaiseOnly.isValid {E : Fault → Prop} (hrules : rules.RaiseOnly E) {start : Int} {e : Fault}
    (h : rules.isValid s ts start = .error e) : E e := by
  unfold Rules.isValid at h
  cases hfound : rules.firstInvalid s ts start with
  | error e' =>
    rw [hfound] at h
    cases h
    exact hrules.firstInvalidFrom hfound
  | ok found =>
    rw [hfound] at h
    cases h

theorem RaiseOnly.longestValid {E : Fault → Prop} (hrules : rules.RaiseOnly E) {e : Fault}
    (h : rules.longestValid s ts = .error e) : E e := by
  unfold Rules.longestValid at h
  cases hfound : rules.firstInvalid s ts 0 with
  | error e' =>
    rw [hfound] at h
    cases h
    exact hrules.firstInvalidFrom hfound
  | ok found =>
    rw [hfound] at h
    cases h

end StateCheck.Rules
