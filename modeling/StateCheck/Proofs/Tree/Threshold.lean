import StateCheck.Proofs.Sequence.Moves
import StateCheck.Proofs.Tree.Search

/-! Binary search for a threshold. Every distance that was tried tells on which side of it the threshold lies, so the
search ends at the nearest distance that fails. -/

namespace StateCheck

namespace Search
variable {first : Search} {lo distance hi : Nat}

def within (first : Search) (lo distance hi : Nat) : Search := { first with lo := lo, distance := distance, hi := hi }

theorem simplify_within (hlo : lo < distance) (hhi : distance ≤ hi) :
    (first.within lo distance hi).simplify = (true, first.within lo ((lo + distance) / 2) distance) := by
  have hopen : ¬hi ≤ lo := by omega
  have hmoves : (lo + distance) / 2 ≠ distance := by omega
  exact (if_neg hopen).trans (reposition_of_ne hmoves)

theorem simplify_narrow : (first.within distance distance hi).simplify.1 = false := by
  unfold simplify
  split
  · rfl
  · have hstays : (distance + distance) / 2 = distance := by omega
    exact congrArg Prod.fst (reposition_of_eq hstays)

theorem complicate_within (hlo : lo ≤ distance) (hhi : distance < hi) :
    (first.within lo distance hi).complicate =
      (true, first.within (distance + 1) ((distance + 1 + hi) / 2) hi) :=
  complicate_of_lt hlo hhi

end Search

namespace ValueTree
variable {σ ρ α : Type}

structure Mirrors (t : ValueTree σ α) (u : ValueTree ρ α) (place : ρ → σ) : Prop where
  current : ∀ s, t.current (place s) = u.current s
  simplify : ∀ s, t.simplify (place s) =
    ⟨(u.simplify s).answer, place (u.simplify s).state, (u.simplify s).notes⟩
  complicate : ∀ s, t.complicate (place s) =
    ⟨(u.complicate s).answer, place (u.complicate s).state, (u.complicate s).notes⟩

theorem Mirrors.yields_simplify {t : ValueTree σ α} {u : ValueTree ρ α} {place : ρ → σ} (ht : t.Mirrors u place) {s : ρ}
    {Q : Bool → σ → Prop} {E : Fault → σ → Prop} : t.simplify.Yields (place s) Q E ↔
      u.simplify.Yields s (fun moved s' => Q moved (place s')) fun e s' => E e (place s') := by
  unfold Act.Yields
  rw [ht.simplify]

theorem Mirrors.yields_complicate {t : ValueTree σ α} {u : ValueTree ρ α} {place : ρ → σ} (ht : t.Mirrors u place)
    {s : ρ} {Q : Bool → σ → Prop} {E : Fault → σ → Prop} : t.complicate.Yields (place s) Q E ↔
      u.complicate.Yields s (fun moved s' => Q moved (place s')) fun e s' => E e (place s') := by
  unfold Act.Yields
  rw [ht.complicate]

theorem tagged_mirrors {κ : Type} {State : κ → Type} (trees : (k : κ) → ValueTree (State k) α) (k : κ) :
    (tagged trees).Mirrors (trees k) (Sigma.mk k) := ⟨fun _ => rfl, fun _ => rfl, fun _ => rfl⟩

def Idle (t : ValueTree σ α) (I : σ → Prop) : Prop :=
  ∀ s, I s → t.simplify.Yields s (fun moved s' => moved = false ∧ I s') fun _ _ => False

theorem Idle.propose {t : ValueTree σ α} {I : σ → Prop} (ht : t.Idle I) {s : σ} (hs : I s) :
    (t.propose false).Yields s (fun proposed s' => proposed = none ∧ I s') fun _ _ => False := by
  rw [propose_false, Act.yields_bind]
  refine (ht s hs).mono (fun moved s' h => ?_) fun _ _ h => h
  obtain ⟨rfl, hs'⟩ := h
  exact ⟨rfl, hs'⟩

/-- The tree searches from `first` toward the target, by way of `f`, and `shown` are the values that it passes. No two
of them are taken for each other. -/
structure Seeks [BEq α] (t : ValueTree σ α) (f : Int → Except Fault α) (place : Search → σ) (first : Search)
    (shown : Nat → α) : Prop where
  mirrors : t.Mirrors (Search.tree.map f) place
  shows : ∀ d ≤ first.hi, f (first.valueAt d) = .ok (shown d)
  apart : ∀ d ≤ first.hi, ∀ d' ≤ first.hi, (shown d == shown d') = true → d = d'

end ValueTree

theorem Search.seeks {σ : Type} {t : ValueTree σ Int} {place : Search → σ} (ht : t.Mirrors tree place)
    (first : Search) : t.Seeks .ok place first first.valueAt where
  mirrors := ht
  shows _ _ := rfl
  apart d _ d' _ hsame := by
    have hvalue := eq_of_beq hsame
    unfold valueAt at hvalue
    split at hvalue <;> omega

theorem Search.narrow_idle : tree.Idle fun s => s.hi ≤ s.lo := by
  intro s hs
  have hstays : s.simplify = (false, s) := if_pos hs
  show (Act.ofMove Search.simplify).Yields s _ _
  rw [Act.yields_ofMove, hstays]
  exact ⟨rfl, hs⟩

structure Quest (σ : Type) where
  place : Search → σ
  first : Search
  Fails : Nat → Prop

namespace Quest
variable {σ α : Type} {q : Quest σ} {n d held : Nat} {s : σ}

def Nearest (q : Quest σ) (held : Nat) : Prop := ∀ d < held, ¬q.Fails d

def Rests (q : Quest σ) (n held : Nat) (s : σ) : Prop :=
  ∃ lo hi, s = q.place (q.first.within lo held hi) ∧ lo ≤ held ∧ held ≤ hi ∧ hi ≤ q.first.hi ∧
    (lo < held → held - lo < n) ∧ q.Nearest lo

def Tests (q : Quest σ) (n d held : Nat) (s : σ) : Prop :=
  ∃ lo, s = q.place (q.first.within lo d held) ∧ lo ≤ d ∧ d ≤ held ∧ held ≤ q.first.hi ∧ (d = held → lo = held) ∧
    held - lo ≤ n ∧ q.Nearest lo

def Waits (q : Quest σ) (n : Nat) (untried : Bool) (held : Nat) (s : σ) : Prop :=
  if untried then ∃ n' < n, ∃ d, q.Tests n' d held s else q.Rests n held s

theorem Tests.le (h : q.Tests n d held s) : d ≤ q.first.hi := by
  obtain ⟨lo, -, -, hd, hheld, -⟩ := h
  omega

theorem Tests.rests (h : q.Tests n d held s) : q.Rests n d s := by
  obtain ⟨lo, rfl, hlo, hd, hheld, hagain, hn, hbelow⟩ := h
  exact ⟨lo, held, rfl, hlo, hd, hheld, by omega, hbelow⟩

theorem rests_first (hplace : s = q.place q.first) (hlo : q.first.lo = 0) (hstart : q.first.distance = q.first.hi)
    (hn : q.first.hi < n) : q.Rests n q.first.hi s := by
  refine ⟨0, q.first.hi, ?_, Nat.zero_le _, Nat.le_refl _, Nat.le_refl _, fun _ => hn, fun d hd => by omega⟩
  rw [hplace, ← hlo]
  exact congrArg (fun d => q.place { q.first with distance := d }) hstart

variable [BEq α] {t : ValueTree σ α} {f : Int → Except Fault α} {shown : Nat → α}

theorem Tests.current (ht : t.Seeks f q.place q.first shown) (h : q.Tests n d held s) :
    t.current s = .ok (shown d) := by
  have hd := h.le
  obtain ⟨lo, rfl, -⟩ := h
  rw [ht.mirrors.current]
  exact ht.shows d hd

theorem Rests.simplify (ht : t.Seeks f q.place q.first shown) (hs : q.Rests n held s) : t.simplify.Yields s
    (fun moved s' => if moved then ∃ n' < n, ∃ d, q.Tests n' d held s' else q.Nearest held) fun _ _ => False := by
  obtain ⟨lo, hi, rfl, hlo, hhi, hfirst, hn, hbelow⟩ := hs
  rw [ht.mirrors.yields_simplify]
  show (Act.ofMove Search.simplify).Yields _ _ _
  rw [Act.yields_ofMove]
  rcases Nat.lt_or_eq_of_le hlo with hlt | rfl
  · rw [Search.simplify_within hlt hhi, if_pos rfl]
    exact ⟨held - lo, hn hlt, (lo + held) / 2, lo, rfl, by omega, by omega, by omega, by omega, Nat.le_refl _, hbelow⟩
  · rw [Search.simplify_narrow, if_neg Bool.false_ne_true]
    exact hbelow

theorem Waits.propose (ht : t.Seeks f q.place q.first shown) {untried : Bool} (hs : q.Waits n untried held s) :
    (t.propose untried).Yields s
      (fun proposed s' => proposed.elim (q.Nearest held) fun a => ∃ n' < n, ∃ d, a = shown d ∧ q.Tests n' d held s')
      fun _ _ => False := by
  have hask {s' : σ} {n' d : Nat} (hn : n' < n) (hs' : q.Tests n' d held s') :
      (Act.ask t.current >>= fun a => pure (some a) : Act σ (Option α)).Yields s'
        (fun proposed s'' => proposed.elim (q.Nearest held) fun a =>
          ∃ n' < n, ∃ d, a = shown d ∧ q.Tests n' d held s'') fun _ _ => False := by
    rw [Act.yields_bind, Act.yields_ask, hs'.current ht]
    refine ⟨?_, fun _ he => by cases he⟩
    rintro a ⟨⟩
    exact ⟨n', hn, d, rfl, hs'⟩
  cases untried with
  | true =>
    obtain ⟨n', hn, d, hs'⟩ := hs
    exact hask hn hs'
  | false =>
    rw [ValueTree.propose_false, Act.yields_bind]
    refine (Rests.simplify ht hs).mono (fun moved s' h => ?_) fun _ _ h => h
    cases moved with
    | true =>
      obtain ⟨n', hn, d, hs'⟩ := h
      exact hask hn hs'
    | false => exact h

theorem Tests.canRetry (ht : t.Seeks f q.place q.first shown)
    (hup : ∀ d d', d ≤ d' → d' ≤ q.first.hi → q.Fails d → q.Fails d') (hs : q.Tests n d held s)
    (hheld : q.Fails held) (hpass : ¬q.Fails d) : (t.canRetry (shown held)).Yields s
      (fun retry s' => if retry then q.Waits n true held s' else q.Nearest held) fun _ _ => False := by
  have hfirst := hs.le
  obtain ⟨lo, rfl, hlo, hd, hrange, -, hn, -⟩ := hs
  have hlt : d < held := Nat.lt_of_le_of_ne hd fun heq => hpass (heq ▸ hheld)
  -- What was tried passed, so whatever is nearer passes as well.
  have hbelow : q.Nearest (d + 1) := fun d' hd' hfails => hpass (hup d' d (Nat.le_of_lt_succ hd') hfirst hfails)
  have htests : q.Tests (n - 1) ((d + 1 + held) / 2) held
      (q.place (q.first.within (d + 1) ((d + 1 + held) / 2) held)) :=
    ⟨d + 1, rfl, by omega, by omega, hrange, by omega, by omega, hbelow⟩
  unfold ValueTree.canRetry
  rw [Act.yields_bind, ht.mirrors.yields_complicate]
  show (Act.ofMove Search.complicate).Yields _ _ _
  rw [Act.yields_ofMove, Search.complicate_within hlo hlt, if_pos rfl, Act.yields_bind, Act.yields_ask,
    htests.current ht]
  refine ⟨?_, fun _ he => by cases he⟩
  rintro a ⟨⟩
  rw [Act.yields_pure]
  cases hsame : shown ((d + 1 + held) / 2) == shown held with
  | false =>
    rw [bne, hsame]
    exact ⟨n - 1, by omega, _, htests⟩
  | true =>
    -- The middle is the distance held, so nothing lies between.
    have hmiddle := ht.apart _ htests.le held hrange hsame
    have hnext : held ≤ d + 1 := by omega
    rw [bne, hsame]
    exact fun d' hd' => hbelow d' (Nat.lt_of_lt_of_le hd' hnext)

end Quest
end StateCheck
