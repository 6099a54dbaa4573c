import StateCheck.Proofs.Tree.Rank
import StateCheck.Proofs.Tree.Search
import Mathlib.Logic.Function.Iterate

/-! Binary search under any driver. While the interval is open, its far end is what the latest simplification set out
from; complicating climbs up to it, and stops there. -/

namespace StateCheck.Search
variable {s u v : Search} {first target : Int}

theorem simplify_moved (hs : s.Ranged) (hmoved : s.simplify.1 = true) : s.lo < s.distance ∧ s.distance ≤ s.hi ∧
    s.simplify.2 = { s with hi := s.distance, distance := (s.lo + s.distance) / 2 } := by
  rcases simplify_cases hs with ⟨hlo, hhi, h⟩ | ⟨hi, -, -, h⟩
  · exact ⟨hlo, hhi, congrArg Prod.snd h⟩
  · rw [h] at hmoved
    cases hmoved

theorem complicate_moved (hs : s.Ranged) (hmoved : s.complicate.1 = true) : s.lo ≤ s.distance ∧ s.distance < s.hi ∧
    s.complicate.2 = { s with lo := s.distance + 1, distance := (s.distance + 1 + s.hi) / 2 } := by
  rcases complicate_cases hs with ⟨hlo, hhi, h⟩ | ⟨lo, -, h⟩
  · exact ⟨hlo, hhi, congrArg Prod.snd h⟩
  · rw [h] at hmoved
    cases hmoved

def SameWay (s u : Search) : Prop := u.target = s.target ∧ u.above = s.above

theorem SameWay.trans (h : SameWay s u) (h' : SameWay u v) : SameWay s v := ⟨h'.1.trans h.1, h'.2.trans h.2⟩

theorem SameWay.value (h : SameWay s u) : u.value = s.valueAt u.distance := by
  unfold Search.value valueAt
  rw [h.1, h.2]

theorem valueAt_inj {a b : Nat} : s.valueAt a = s.valueAt b ↔ a = b := by
  unfold valueAt
  split <;> omega

theorem SameWay.value_inj (h : SameWay s u) (h' : SameWay s v) : u.value = v.value ↔ u.distance = v.distance := by
  rw [h.value, h'.value, valueAt_inj]

theorem natAbs_value_sub (s : Search) : (s.value - s.target).natAbs = s.distance := by
  unfold value
  split <;> omega

theorem SameWay.gap (h : SameWay (start first target) u) : (u.value - target).natAbs = u.distance := by
  have htarget : u.target = target := h.1
  rw [← htarget, natAbs_value_sub]

theorem SameWay.between (h : SameWay (start first target) u) (hle : u.distance ≤ (first - target).natAbs) :
    min target first ≤ u.value ∧ u.value ≤ max target first := by
  rw [h.value]
  unfold valueAt start
  by_cases habove : target ≤ first
  · simp only [habove, decide_true, if_true]
    omega
  · simp only [habove, decide_false, Bool.false_eq_true, if_false]
    omega

def climb (k : Nat) (s : Search) : Search := (fun s => s.complicate.2)^[k] s

theorem climb_succ (k : Nat) (s : Search) : climb (k + 1) s = climb k s.complicate.2 := rfl

theorem climb_ends (hlo : s.lo ≤ s.distance) (hhi : s.distance ≤ s.hi) (hclosed : s.distance = s.hi → s.hi ≤ s.lo) :
    ∃ n ≤ s.hi - s.lo, ∀ k, ((climb k s).complicate.1 = true ↔ k < n) ∧ ((climb k s).distance = s.hi ↔ n ≤ k) ∧
      (climb k s).distance ≤ s.hi ∧ SameWay s (climb k s) := by
  generalize hwidth : s.hi - s.lo = width
  induction width using Nat.strongRecOn generalizing s with
  | ind width ih =>
    rcases Nat.lt_or_eq_of_le hhi with hlt | heq
    · have hmoves := complicate_of_lt hlo hlt
      have hless : s.hi - (s.distance + 1) < width := by omega
      obtain ⟨n, hn, hclimb⟩ := ih _ hless (s := s.complicate.2) (by rw [hmoves]; dsimp only; omega)
        (by rw [hmoves]; dsimp only; omega) (by rw [hmoves]; dsimp only; omega) (by rw [hmoves])
      refine ⟨n + 1, by omega, fun k => ?_⟩
      cases k with
      | zero =>
        have hmoved : s.complicate.1 = true := by rw [hmoves]
        exact ⟨iff_of_true hmoved (Nat.succ_pos n), iff_of_false (Nat.ne_of_lt hlt) (Nat.not_succ_le_zero n), hhi,
          rfl, rfl⟩
      | succ k =>
        obtain ⟨hgoes, hreached, hle, hway⟩ := hclimb k
        have hfar : s.complicate.2.hi = s.hi := by rw [hmoves]
        have hside : SameWay s s.complicate.2 := by
          rw [hmoves]
          exact ⟨rfl, rfl⟩
        rw [climb_succ, ← hfar]
        exact ⟨hgoes.trans Nat.succ_lt_succ_iff.symm, hreached.trans Nat.succ_le_succ_iff.symm, hle, hside.trans hway⟩
    · have hstays := complicate_of_closed (hclosed heq)
      refine ⟨0, Nat.zero_le _, fun k => ?_⟩
      have hclimb : climb k s = s := Function.iterate_fixed (congrArg Prod.snd hstays) k
      rw [hclimb, hstays]
      exact ⟨iff_of_false Bool.false_ne_true (Nat.not_lt_zero k), iff_of_true heq (Nat.zero_le k), hhi, rfl, rfl⟩

theorem simplify_climbs (hs : s.Ranged) (hmoved : s.simplify.1 = true) :
    ∃ n, 0 < n ∧ n ≤ s.simplify.2.hi - s.simplify.2.lo ∧ ∀ k,
      ((climb k s.simplify.2).complicate.1 = true ↔ k < n) ∧ ((climb k s.simplify.2).value = s.value ↔ n ≤ k) ∧
      (climb k s.simplify.2).distance ≤ s.distance ∧ SameWay s (climb k s.simplify.2) := by
  obtain ⟨hlo, -, hmoves⟩ := simplify_moved hs hmoved
  have hway : SameWay s s.simplify.2 := by
    rw [hmoves]
    exact ⟨rfl, rfl⟩
  have hend : s.simplify.2.hi = s.distance := by rw [hmoves]
  have hlow : s.simplify.2.lo ≤ s.simplify.2.distance := by
    rw [hmoves]
    dsimp only
    omega
  have hhigh : s.simplify.2.distance < s.simplify.2.hi := by
    rw [hmoves]
    dsimp only
    omega
  obtain ⟨n, hn, hclimb⟩ := climb_ends hlow (Nat.le_of_lt hhigh) fun heq => absurd heq (Nat.ne_of_lt hhigh)
  refine ⟨n, Nat.pos_of_ne_zero fun hzero => ?_, hn, fun k => ?_⟩
  · have hreached : s.simplify.2.distance = s.simplify.2.hi := (hclimb 0).2.1.2 (Nat.le_of_eq hzero)
    exact Nat.ne_of_lt hhigh hreached
  · obtain ⟨hgoes, hreached, hle, hclimbway⟩ := hclimb k
    rw [hend] at hreached hle
    exact ⟨hgoes, ((hway.trans hclimbway).value_inj ⟨rfl, rfl⟩).trans hreached, hle, hway.trans hclimbway⟩

structure Drive where
  search : Search
  origin : Option Search := none

namespace Drive

def next (d : Drive) : ValueTree.Call → Drive
  | .simplify => ⟨d.search.simplify.2, if d.search.simplify.1 then some d.search else d.origin⟩
  | .complicate => ⟨d.search.complicate.2, d.origin⟩

def run : List ValueTree.Call → Drive → Drive
  | [], d => d
  | call :: rest, d => run rest (d.next call)

/-- As long as there is something to back off to, the far end is the origin. -/
structure Sound (first target : Int) (d : Drive) : Prop where
  ranged : d.search.Ranged
  le : d.search.distance ≤ d.search.hi
  way : SameWay (start first target) d.search
  far : d.search.hi ≤ (first - target).natAbs
  origin : d.search.lo ≤ d.search.distance → d.search.distance < d.search.hi →
    ∃ u, d.origin = some u ∧ SameWay (start first target) u ∧ u.distance = d.search.hi

variable {d : Drive}

theorem Sound.simplify (h : d.Sound first target) : (d.next .simplify).Sound first target := by
  obtain ⟨hranged, hle, hway, hfar, horigin⟩ := h
  unfold next
  rcases simplify_cases hranged with ⟨hlo, -, hmoves⟩ | ⟨hi, hclosed, hhi, hstays⟩
  · rw [hmoves]
    dsimp only
    refine ⟨.inr ⟨?_, ?_⟩, ?_, hway, ?_, fun _ _ => ⟨d.search, rfl, hway, rfl⟩⟩
    all_goals
      dsimp only
      omega
  · rw [hstays]
    dsimp only
    refine ⟨.inl hclosed, ?_, hway, ?_, fun hlo hhi => ?_⟩
    all_goals
      dsimp only at *
      omega

theorem Sound.complicate (h : d.Sound first target) : (d.next .complicate).Sound first target := by
  obtain ⟨hranged, hle, hway, hfar, horigin⟩ := h
  unfold next
  rcases complicate_cases hranged with ⟨hlo, hhi, hmoves⟩ | ⟨lo, hclosed, hstays⟩
  · rw [hmoves]
    refine ⟨.inr ⟨?_, ?_⟩, ?_, hway, hfar, fun _ _ => horigin hlo hhi⟩
    all_goals
      dsimp only
      omega
  · rw [hstays]
    refine ⟨.inl hclosed, hle, hway, hfar, fun hlo hhi => ?_⟩
    dsimp only at hlo hhi
    omega

theorem Sound.run (h : d.Sound first target) (calls : List ValueTree.Call) :
    (Drive.run calls d).Sound first target := by
  induction calls generalizing d with
  | nil => exact h
  | cons call rest ih =>
    cases call with
    | simplify => exact ih h.simplify
    | complicate => exact ih h.complicate

theorem start_sound (first target : Int) : Sound first target ⟨start first target, none⟩ where
  ranged := start_ranged first target
  le := Nat.le_refl _
  way := ⟨rfl, rfl⟩
  far := Nat.le_refl _
  origin _ hlt := absurd hlt (Nat.lt_irrefl _)

theorem Sound.nearer (h : d.Sound first target) (hmoved : d.search.simplify.1 = true) :
    (d.search.simplify.2.value - target).natAbs < (d.search.value - target).natAbs := by
  have hway : SameWay (start first target) d.search.simplify.2 := h.simplify.way
  obtain ⟨hlo, -, hmoves⟩ := simplify_moved h.ranged hmoved
  have hmiddle : d.search.simplify.2.distance = (d.search.lo + d.search.distance) / 2 := by rw [hmoves]
  rw [hway.gap, h.way.gap]
  omega

theorem Sound.farther (h : d.Sound first target) (hmoved : d.search.complicate.1 = true) :
    (d.search.value - target).natAbs < (d.search.complicate.2.value - target).natAbs ∧
      ∃ u, d.origin = some u ∧ (d.search.complicate.2.value - target).natAbs ≤ (u.value - target).natAbs := by
  have hway : SameWay (start first target) d.search.complicate.2 := h.complicate.way
  obtain ⟨hlo, hhi, hmoves⟩ := complicate_moved h.ranged hmoved
  obtain ⟨u, hu, huway, hdistance⟩ := h.origin hlo hhi
  have hmiddle : d.search.complicate.2.distance = (d.search.distance + 1 + d.search.hi) / 2 := by rw [hmoves]
  rw [hway.gap, h.way.gap]
  refine ⟨by omega, u, hu, ?_⟩
  rw [huway.gap]
  omega

end Drive

/-- In whatever order a search is driven, it stays between the target and the start, and each move goes the right way:
simplifying nearer to the target, complicating away from it but not past what the latest simplification set out from.
After a simplification, complicating again and again goes exactly there, and is refused from then on. -/
theorem bisection_monotone (first target : Int) (calls : List ValueTree.Call) :
    let d := Drive.run calls ⟨start first target, none⟩
    let s := d.search
    (min target first ≤ s.value ∧ s.value ≤ max target first) ∧
    (s.simplify.1 = true → (s.simplify.2.value - target).natAbs < (s.value - target).natAbs) ∧
    (s.complicate.1 = true → (s.value - target).natAbs < (s.complicate.2.value - target).natAbs ∧
      ∃ u, d.origin = some u ∧ (s.complicate.2.value - target).natAbs ≤ (u.value - target).natAbs) ∧
    (s.simplify.1 = true → ∃ n, 0 < n ∧ ∀ k,
      ((climb k s.simplify.2).complicate.1 = true ↔ k < n) ∧ ((climb k s.simplify.2).value = s.value ↔ n ≤ k)) := by
  intro d s
  have hsound : d.Sound first target := (Drive.start_sound first target).run calls
  have hwithin := hsound.way.between (Nat.le_trans hsound.le hsound.far)
  refine ⟨hwithin, hsound.nearer, hsound.farther, fun hmoved => ?_⟩
  obtain ⟨n, hpos, -, hclimb⟩ := simplify_climbs hsound.ranged hmoved
  exact ⟨n, hpos, fun k => ⟨(hclimb k).1, (hclimb k).2.1⟩⟩

end StateCheck.Search
