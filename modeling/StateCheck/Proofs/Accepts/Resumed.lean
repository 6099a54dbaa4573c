import StateCheck.Proofs.Replay.Faults
import StateCheck.Proofs.Sequence.Moves

/-! A check that starts behind a front which is known to be accepted, and the longest accepted front. -/

namespace StateCheck.Rules
variable {S T : Type} {rules : Rules S T} {s : S} {xs ys ts : List T} {i : Nat}

theorem guard_of_le {start : Int} {position : Nat} (h : start ≤ position) (s : S) (t : T) :
    rules.guard start position s t = rules.allows s t := if_pos h

theorem firstInvalidFrom_of_le {start : Int} {position : Nat} (h : start ≤ position) (s : S) (ts : List T) :
    rules.firstInvalidFrom start position s ts = rules.firstInvalidFrom 0 position s ts := by
  induction ts generalizing s position with
  | nil => rfl
  | cons t rest ih =>
    have hnext : start ≤ ((position + 1 : Nat) : Int) := by omega
    rw [firstInvalidFrom_cons, firstInvalidFrom_cons, guard_of_le h, guard_of_le (Int.natCast_nonneg _)]
    simp only [ih hnext]

theorem Accepts.meets (h : rules.Accepts s (ts.take i)) (hi : i < ts.length) :
    ∃ s', rules.Meets s ts i s' ts[i] := by
  induction ts generalizing s i with
  | nil => exact absurd hi (Nat.not_lt_zero i)
  | cons t rest ih =>
    cases i with
    | zero => exact ⟨s, .here s t rest⟩
    | succ i =>
      obtain ⟨hallows, s', happly, hrest⟩ := h
      obtain ⟨s'', hmeets⟩ := ih hrest (Nat.lt_of_succ_lt_succ hi)
      exact ⟨s'', .later hallows happly hmeets⟩

theorem Accepts.firstInvalid_eq (h : rules.Accepts s (ys.take i)) :
    rules.firstInvalid s ys i = rules.firstInvalid s ys 0 := by
  rcases Nat.lt_or_ge i ys.length with hi | hi
  · obtain ⟨s', hmeets⟩ := h.meets hi
    unfold firstInvalid
    rw [hmeets.firstInvalidFrom, hmeets.firstInvalidFrom]
    exact firstInvalidFrom_of_le (by omega) s' _
  · rw [List.take_of_length_le hi] at h
    rw [firstInvalid, firstInvalid, firstInvalidFrom_of_accepts h, firstInvalidFrom_of_accepts h]

theorem take_eq_of_agree {n : Nat} (h : ∀ i < n, ∀ t, ys[i]? = some t → xs[i]? = some t) :
    ys.take n = (xs.take n).take ys.length := by
  refine List.ext_getElem? fun i => ?_
  rw [List.getElem?_take, List.getElem?_take, List.getElem?_take]
  by_cases hi : i < n
  · by_cases hlength : i < ys.length
    · rw [if_pos hi, if_pos hlength, if_pos hi, h i hi _ (List.getElem?_eq_getElem hlength)]
      exact List.getElem?_eq_getElem hlength
    · rw [if_pos hi, if_neg hlength]
      exact List.getElem?_eq_none (Nat.le_of_not_lt hlength)
  · rw [if_neg hi, if_neg hi]
    split <;> rfl

theorem Refuses.not_accepts {t : T} (h : rules.Refuses s ts i t) {m : Nat} (hm : i < m) :
    ¬ rules.Accepts s (ts.take m) := by
  obtain ⟨s', hmeets, hrefused⟩ := h
  induction hmeets generalizing m with
  | here s t rest =>
    obtain ⟨m, rfl⟩ := Nat.exists_eq_succ_of_ne_zero (Nat.ne_of_gt hm)
    rintro ⟨hallowed, -⟩
    rw [hrefused] at hallowed
    cases hallowed
  | @later s s' s'' t t' rest i hallows happly hrest ih =>
    obtain ⟨m, rfl⟩ := Nat.exists_eq_succ_of_ne_zero (Nat.ne_zero_of_lt hm)
    rintro ⟨-, u, hu, haccepts⟩
    obtain rfl := Except.ok.inj (hu.symm.trans happly)
    exact ih (Nat.lt_of_succ_lt_succ hm) hrefused haccepts

theorem Total.fold_cases (hrules : rules.Total) (s : S) (ts : List T) :
    rules.Accepts s ts ∨ ∃ i t, rules.Refuses s ts i t := by
  rcases Rules.fold_cases (fun s t e => hrules.allows s t e) s ts with haccepts | hrefuses | ⟨i, e, s', t, -, -, hbreaks⟩
  · exact .inl haccepts
  · exact .inr hrefuses
  · exact (hrules.apply s' t e hbreaks).elim

theorem Total.firstInvalid (hrules : rules.Total) (s : S) (ts : List T) :
    ∃ found, rules.firstInvalid s ts 0 = .ok found := by
  rcases hrules.fold_cases s ts with haccepts | ⟨i, t, hrefuses⟩
  · exact ⟨none, firstInvalid_eq_none_iff.2 haccepts⟩
  · exact ⟨some i, hrefuses.firstInvalid⟩

theorem Total.longestValid (hrules : rules.Total) (s : S) (ts : List T) : ∃ n, rules.longestValid s ts = .ok n ∧
    n ≤ ts.length ∧ ∀ m ≤ ts.length, rules.Accepts s (ts.take m) ↔ m ≤ n := by
  rcases hrules.fold_cases s ts with haccepts | ⟨i, t, hrefuses⟩
  · refine ⟨ts.length, ?_, Nat.le_refl _, fun m hm => iff_of_true (haccepts.take m) hm⟩
    rw [Rules.longestValid, firstInvalid_eq_none_iff.2 haccepts]
    rfl
  · have hlongest : rules.longestValid s ts = .ok i := by
      rw [Rules.longestValid, hrefuses.firstInvalid]
      rfl
    obtain ⟨hi, haccepts⟩ := accepts_longestValid hlongest
    refine ⟨i, hlongest, hi, fun m _ => ⟨fun hm => ?_, fun hm => ?_⟩⟩
    · exact Nat.le_of_not_lt fun hlt => hrefuses.not_accepts hlt hm
    · have htake := haccepts.take m
      rwa [List.take_take, Nat.min_eq_left hm] at htake

/-- Where the front of one sequence is accepted, a check of another one that agrees with it there may start behind that
front. The accepted fronts of a sequence are those up to the longest. -/
theorem resumed_check_agrees (hrules : rules.Total) :
    (∀ (s : S) (xs ys : List T) (i : Nat), rules.Accepts s (xs.take i) →
      (∀ j < i, ∀ t, ys[j]? = some t → xs[j]? = some t) →
      ∃ found, rules.firstInvalid s ys i = .ok found ∧ rules.firstInvalid s ys 0 = .ok found) ∧
    ∀ (s : S) (ts : List T), ∃ n, rules.longestValid s ts = .ok n ∧ n ≤ ts.length ∧
      ∀ m ≤ ts.length, rules.Accepts s (ts.take m) ↔ m ≤ n := by
  refine ⟨fun s xs ys i hfront hagree => ?_, hrules.longestValid⟩
  have haccepts : rules.Accepts s (ys.take i) := by
    rw [take_eq_of_agree hagree]
    exact hfront.take _
  obtain ⟨found, hfound⟩ := hrules.firstInvalid s ys
  exact ⟨found, haccepts.firstInvalid_eq.trans hfound, hfound⟩

theorem emptied_purse_refuses :
    let refused := [true, false, false, true]
    (∃ found, Sequence.purse.firstInvalid 0 refused 2 = .ok found ∧
      Sequence.purse.firstInvalid 0 refused 0 = .ok found) ∧
    Sequence.purse.firstInvalid 0 refused 0 = .ok (some 2) ∧
    ∀ m ≤ 4, Sequence.purse.Accepts 0 (refused.take m) ↔ m ≤ 2 := by
  obtain ⟨hresumes, hlongest⟩ := resumed_check_agrees Sequence.purseShrinker_total.rules
  have hfront : Sequence.purse.Accepts 0 ([true, false, true].take 2) := ⟨rfl, _, rfl, rfl, _, rfl, trivial⟩
  refine ⟨hresumes 0 [true, false, true] _ 2 hfront (by decide), rfl, ?_⟩
  obtain ⟨n, hn, -, hfronts⟩ := hlongest 0 [true, false, false, true]
  obtain rfl : 2 = n := Except.ok.inj hn
  exact hfronts

end StateCheck.Rules
