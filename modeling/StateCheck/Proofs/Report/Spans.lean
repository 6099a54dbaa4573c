import Mathlib.Data.List.Chain
import StateCheck.Report.Console

/-! Runs of equal labels with the positions they stand for. -/

namespace StateCheck.Console

theorem runs_isChain (labels : List String) : (runs labels).IsChain fun run next => run.1 ≠ next.1 := by
  induction labels with
  | nil => exact .nil
  | cons label rest ih =>
    unfold runs
    split
    · rename_i next n more h
      rw [h] at ih
      split
      · -- One more of the same label leaves what follows the run.
        cases more with
        | nil => exact .singleton _
        | cons run more =>
          rw [List.isChain_cons_cons] at ih ⊢
          exact ih
      · rename_i hne
        exact .cons_cons hne ih
    · exact .singleton _

theorem runs_pos (labels : List String) : ∀ run ∈ runs labels, 0 < run.2 := by
  induction labels with
  | nil => exact nofun
  | cons label rest ih =>
    unfold runs
    split
    · rename_i next n more h
      rw [h] at ih
      split
      · exact List.forall_mem_cons.2 ⟨Nat.succ_pos n, (List.forall_mem_cons.1 ih).2⟩
      · exact List.forall_mem_cons.2 ⟨Nat.one_pos, ih⟩
    · exact List.forall_mem_singleton.2 Nat.one_pos

structure Span where
  first : Nat
  count : Nat
  label : String

def Span.Covers (s : Span) (position : Nat) : Prop := s.first ≤ position ∧ position < s.first + s.count

def spansFrom : Nat → List (String × Nat) → List Span
  | _, [] => []
  | first, (label, count) :: rest => ⟨first, count, label⟩ :: spansFrom (first + count) rest

def spans (labels : List String) : List Span := spansFrom 0 (runs labels)

theorem spansFrom_expand (first : Nat) (runs : List (String × Nat)) :
    (spansFrom first runs).flatMap (fun s => List.replicate s.count s.label) =
      runs.flatMap fun run => List.replicate run.2 run.1 := by
  induction runs generalizing first with
  | nil => rfl
  | cons run rest ih => rw [spansFrom, List.flatMap_cons, List.flatMap_cons, ih]

theorem spansFrom_positions (first : Nat) (runs : List (String × Nat)) :
    (spansFrom first runs).flatMap (fun s => List.range' s.first s.count) =
      List.range' first (runs.flatMap fun run => List.replicate run.2 run.1).length := by
  induction runs generalizing first with
  | nil => rfl
  | cons run rest ih =>
    rw [spansFrom, List.flatMap_cons, List.flatMap_cons, ih, List.length_append, List.length_replicate,
      ← List.range'_append_1]

theorem spansFrom_pos {runs : List (String × Nat)} (h : ∀ run ∈ runs, 0 < run.2) (first : Nat) :
    ∀ s ∈ spansFrom first runs, 0 < s.count := by
  induction runs generalizing first with
  | nil => exact nofun
  | cons run rest ih =>
    obtain ⟨hrun, hrest⟩ := List.forall_mem_cons.1 h
    exact List.forall_mem_cons.2 ⟨hrun, ih hrest _⟩

theorem spansFrom_isChain {runs : List (String × Nat)} (h : runs.IsChain fun run next => run.1 ≠ next.1)
    (first : Nat) : (spansFrom first runs).IsChain fun s next => s.label ≠ next.label := by
  induction runs generalizing first with
  | nil => exact .nil
  | cons run rest ih =>
    cases rest with
    | nil => exact .singleton _
    | cons next rest =>
      rw [List.isChain_cons_cons] at h
      exact .cons_cons h.1 (ih h.2 _)

/-- The spans come one after the other and their labels, written out, are the labels given; none of them could be
longer. -/
structure Partition (labels : List String) (spans : List Span) : Prop where
  expand : spans.flatMap (fun s => List.replicate s.count s.label) = labels
  positions : spans.flatMap (fun s => List.range' s.first s.count) = List.range labels.length
  nonempty : ∀ s ∈ spans, 0 < s.count
  maximal : spans.IsChain fun s next => s.label ≠ next.label

theorem Partition.le_length {labels : List String} {spans : List Span} (h : Partition labels spans) {s : Span}
    (hs : s ∈ spans) : s.first + s.count ≤ labels.length := by
  have hpos := h.nonempty s hs
  have hlast : s.first + (s.count - 1) ∈ List.range' s.first s.count := List.mem_range'_1.2 (by omega)
  have hrange : s.first + (s.count - 1) ∈ List.range labels.length := h.positions ▸ List.mem_flatMap.2 ⟨s, hs, hlast⟩
  rw [List.mem_range] at hrange
  omega

theorem partition_spans (labels : List String) : Partition labels (spans labels) where
  expand := (spansFrom_expand 0 _).trans (runs_expand labels)
  positions := by
    rw [spans, spansFrom_positions, runs_expand, List.range_eq_range']
  nonempty := spansFrom_pos (runs_pos labels) 0
  maximal := spansFrom_isChain (runs_isChain labels) 0

theorem spansFrom_first_le (first : Nat) (runs : List (String × Nat)) :
    ∀ s ∈ spansFrom first runs, first ≤ s.first := by
  induction runs generalizing first with
  | nil => exact nofun
  | cons run rest ih =>
    refine List.forall_mem_cons.2 ⟨Nat.le_refl first, fun s hs => ?_⟩
    exact Nat.le_trans (Nat.le_add_right first run.2) (ih _ s hs)

theorem spansFrom_split {runs : List (String × Nat)} (first : Nat) {k : Nat} {label : String}
    (h : (runs.flatMap fun run => List.replicate run.2 run.1)[k]? = some label) :
    ∃ before s after, spansFrom first runs = before ++ s :: after ∧ s.Covers (first + k) ∧ s.label = label ∧
      (∀ earlier ∈ before, earlier.first + earlier.count ≤ first + k) ∧ ∀ later ∈ after, first + k < later.first := by
  induction runs generalizing first k with
  | nil => cases h
  | cons run rest ih =>
    rw [List.flatMap_cons] at h
    by_cases hk : k < run.2
    · rw [List.getElem?_append_left (by rwa [List.length_replicate]), List.getElem?_replicate_of_lt hk] at h
      cases h
      have hbefore : first + k < first + run.2 := Nat.add_lt_add_left hk first
      refine ⟨[], _, _, rfl, ⟨Nat.le_add_right first k, hbefore⟩, rfl, nofun, fun later hlater => ?_⟩
      exact Nat.lt_of_lt_of_le hbefore (spansFrom_first_le _ rest later hlater)
    · have hle : run.2 ≤ k := Nat.le_of_not_lt hk
      rw [List.getElem?_append_right (by rwa [List.length_replicate]), List.length_replicate] at h
      obtain ⟨before, s, after, hspans, hcovers, hlabel, hbefore, hafter⟩ := ih (first + run.2) h
      have hposition : first + run.2 + (k - run.2) = first + k := by omega
      rw [hposition] at hcovers hbefore hafter
      refine ⟨⟨first, run.2, run.1⟩ :: before, s, after, ?_, hcovers, hlabel,
        List.forall_mem_cons.2 ⟨Nat.add_le_add_left hle first, hbefore⟩, hafter⟩
      rw [spansFrom, hspans, List.cons_append]

end StateCheck.Console
