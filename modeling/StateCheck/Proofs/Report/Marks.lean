import StateCheck.Proofs.Report.Spans

/-! What the renderings of a failure mark: the transition at the index of the report and no other, and none at all if
the failure was that of the initial state or of the teardown. -/

namespace StateCheck

namespace Console
variable {failing : Int}

def passed (s : Span) : String := s!"  [green]✓[/green] {span s.first s.count}  {runText s.label s.count}"

def failed (s : Span) (j : Int) : String :=
  let place := if s.count = 1 then "" else s!" (#{j})"
  s!"  [red]✗ {span s.first s.count}  {runText s.label s.count}[/red]  [dim]failed here{place}[/dim]"

def crossed (line : String) : Bool := "  [red]✗ ".toList.isPrefixOf line.toList

theorem crossed_passed (s : Span) : crossed (passed s) = false := by
  have hgreen (positions text : String) : crossed s!"  [green]✓[/green] {positions}  {text}" = false := by
    simp only [crossed, String.toList_append, toString]
    rfl
  exact hgreen _ _

theorem crossed_failed (s : Span) (j : Int) : crossed (failed s j) = true := by
  have hred (positions text place : String) :
      crossed s!"  [red]✗ {positions}  {text}[/red]  [dim]failed here{place}[/dim]" = true := by
    simp only [crossed, String.toList_append, toString]
    rfl
  exact hred _ _ _

theorem countP_crossed_passed (spans : List Span) : (spans.map passed).countP crossed = 0 := by
  rw [List.countP_eq_zero]
  intro line hline
  obtain ⟨s, -, rfl⟩ := List.mem_map.1 hline
  rw [crossed_passed]
  exact Bool.false_ne_true

theorem runLines_eq (failing : Int) (first : Nat) (runs : List (String × Nat)) :
    runLines failing first runs = (spansFrom first runs).map fun s => runLine failing s.first s.label s.count := by
  induction runs generalizing first with
  | nil => rfl
  | cons run rest ih => rw [runLines, spansFrom, List.map_cons, ih]

theorem runLine_of_covers {s : Span} (h : s.first ≤ failing ∧ failing < s.first + s.count) :
    runLine failing s.first s.label s.count = failed s (failing - s.first + 1) := if_pos h

theorem map_runLine_of_not {spans : List Span}
    (h : ∀ s ∈ spans, ¬ (s.first ≤ failing ∧ failing < s.first + s.count)) :
    spans.map (fun s => runLine failing s.first s.label s.count) = spans.map passed :=
  List.map_congr_left fun s hs => if_neg (h s hs)

end Console

namespace FailureReport
open Console
variable {r : FailureReport} {k : Nat} {t : Value}

theorem transition_ne (index : Int) (n : Nat) :
    s!"transition {index}/{n}" ≠ "initial state" ∧ s!"transition {index}/{n}" ≠ "teardown" := by
  refine ⟨fun h => ?_, fun h => ?_⟩
  · have hlists := congrArg String.toList h
    simp only [String.toList_append, toString] at hlists
    cases hlists
  · have hlists := congrArg String.toList h
    simp only [String.toList_append, toString] at hlists
    cases hlists

theorem location_cases (r : FailureReport) :
    (r.index = -1 ∧ r.location = "initial state") ∨
    (r.transitions.length ≤ r.index ∧ r.location = "teardown") ∨
    (r.index ≠ -1 ∧ r.index < r.transitions.length ∧
      r.location = s!"transition {r.index + 1}/{r.transitions.length}") := by
  unfold location
  by_cases hinitial : r.index = -1
  · exact .inl ⟨hinitial, if_pos hinitial⟩
  · rw [if_neg hinitial]
    by_cases hteardown : (r.transitions.length : Int) ≤ r.index
    · exact .inr (.inl ⟨hteardown, if_pos hteardown⟩)
    · exact .inr (.inr ⟨hinitial, Int.lt_of_not_ge hteardown, if_neg hteardown⟩)

theorem location_eq_initial (r : FailureReport) : r.location = "initial state" ↔ r.index = -1 := by
  rcases r.location_cases with ⟨hindex, hlocation⟩ | ⟨hindex, hlocation⟩ | ⟨hindex, -, hlocation⟩
  · exact iff_of_true hlocation hindex
  · exact iff_of_false (by rw [hlocation]; decide) (by omega)
  · exact iff_of_false (hlocation ▸ (transition_ne _ _).1) hindex

theorem location_eq_teardown (r : FailureReport) :
    r.location = "teardown" ↔ r.transitions.length ≤ r.index := by
  rcases r.location_cases with ⟨hindex, hlocation⟩ | ⟨hindex, hlocation⟩ | ⟨-, hindex, hlocation⟩
  · exact iff_of_false (by rw [hlocation]; decide) (by omega)
  · exact iff_of_true hlocation hindex
  · exact iff_of_false (hlocation ▸ (transition_ne _ _).2) (Int.not_le.2 hindex)

theorem location_eq_transition (hinitial : r.index ≠ -1) (hteardown : r.index < r.transitions.length) :
    r.location = s!"transition {r.index + 1}/{r.transitions.length}" := by
  rcases r.location_cases with ⟨hindex, -⟩ | ⟨hindex, -⟩ | ⟨-, -, hlocation⟩
  · exact absurd hindex hinitial
  · exact absurd hindex (Int.not_le.2 hteardown)
  · exact hlocation

def summaryAround (r : FailureReport) (lines : List String) : String :=
  "\n".intercalate <|
    ["Test failed at " ++ r.location ++ ": " ++ headline r.cause, "", "Minimal failing input:",
      s!"  initial state: {r.initial.shown}", s!"  transitions ({r.transitions.length}):"] ++
    lines ++
    ["", s!"  seed={seedShown r.seed} case={r.case} ({r.effort}" ++
      (if r.timedOut then ", shrink budget exhausted" else "") ++ ")"]

def plainLines (r : FailureReport) : List String :=
  r.transitions.mapIdx fun position t => s!"    {position}: {t.shown}"

theorem getElem?_summaryLines (index : Int) (position : Nat) (ts : List Value) (i : Nat) :
    (summaryLines index position ts)[i]? = ts[i]?.map fun t =>
      s!"    {position + i}: {t.shown}" ++
        if ((position + i : Nat) : Int) = index then "  <-- failed here" else "" := by
  induction ts generalizing position i with
  | nil => rfl
  | cons t rest ih =>
    cases i with
    | zero => rfl
    | succ i =>
      rw [summaryLines, List.getElem?_cons_succ, List.getElem?_cons_succ, ih, Nat.add_right_comm, Nat.add_assoc]

theorem summaryLines_marked (hk : r.index = k) :
    summaryLines r.index 0 r.transitions = r.plainLines.modify k (· ++ "  <-- failed here") := by
  refine List.ext_getElem? fun i => ?_
  rw [getElem?_summaryLines, List.getElem?_modify, plainLines, List.getElem?_mapIdx, Nat.zero_add, hk]
  cases r.transitions[i]? with
  | none => rfl
  | some t =>
    by_cases hi : k = i
    · subst hi
      simp
    · have hne : (i : Int) ≠ k := by omega
      simp [hi, hne]

theorem summaryLines_plain (hindex : r.index < 0 ∨ r.transitions.length ≤ r.index) :
    summaryLines r.index 0 r.transitions = r.plainLines := by
  refine List.ext_getElem? fun i => ?_
  rw [getElem?_summaryLines, plainLines, List.getElem?_mapIdx, Nat.zero_add]
  refine Option.map_congr fun t ht => ?_
  have hi : i < r.transitions.length := (List.getElem?_eq_some_iff.1 ht).1
  have hne : (i : Int) ≠ r.index := by omega
  rw [if_neg hne, String.append_empty]

def labels (r : FailureReport) : List String := r.transitions.map Value.shown

theorem transitionLines_marked (hk : r.index = k) (ht : r.transitions[k]? = some t) :
    ∃ before s after, ∃ j : Int, spans r.labels = before ++ s :: after ∧ s.Covers k ∧ s.label = t.shown ∧
      s.first + j - 1 = r.index ∧ transitionLines r = before.map passed ++ failed s j :: after.map passed := by
  have hlabel : ((runs r.labels).flatMap fun run => List.replicate run.2 run.1)[k]? = some t.shown := by
    rw [runs_expand, labels, List.getElem?_map, ht]
    rfl
  obtain ⟨before, s, after, hspans, hcovers, hshown, hbefore, hafter⟩ := spansFrom_split 0 hlabel
  rw [Nat.zero_add] at hcovers hbefore hafter
  refine ⟨before, s, after, k - s.first + 1, hspans, hcovers, hshown, by omega, ?_⟩
  have hmarked : s.first ≤ (k : Int) ∧ (k : Int) < s.first + s.count := by
    have := hcovers.1
    have := hcovers.2
    omega
  have hplainBefore : ∀ s ∈ before, ¬ (s.first ≤ (k : Int) ∧ (k : Int) < s.first + s.count) := by
    intro s hs
    have := hbefore s hs
    omega
  have hplainAfter : ∀ s ∈ after, ¬ (s.first ≤ (k : Int) ∧ (k : Int) < s.first + s.count) := by
    intro s hs
    have := hafter s hs
    omega
  show runLines r.index 0 (runs r.labels) = _
  rw [hk, runLines_eq, hspans, List.map_append, List.map_cons, map_runLine_of_not hplainBefore,
    map_runLine_of_not hplainAfter, runLine_of_covers hmarked]

theorem transitionLines_plain (hindex : r.index < 0 ∨ r.transitions.length ≤ r.index) :
    transitionLines r = (spans r.labels).map passed := by
  show runLines r.index 0 (runs r.labels) = _
  rw [runLines_eq]
  refine map_runLine_of_not fun s hs => ?_
  have hle : s.first + s.count ≤ r.labels.length := (partition_spans r.labels).le_length hs
  rw [labels, List.length_map] at hle
  omega

structure MarksAt (r : FailureReport) (k : Nat) (t : Value) : Prop where
  location : r.location = s!"transition {k + 1}/{r.transitions.length}"
  failing : r.failing? = some t
  summary : r.summary = r.summaryAround (r.plainLines.modify k (· ++ "  <-- failed here"))
  console : ∃ before s after, ∃ j : Int, spans r.labels = before ++ s :: after ∧ s.Covers k ∧ s.label = t.shown ∧
    s.first + j - 1 = r.index ∧ transitionLines r = before.map passed ++ failed s j :: after.map passed
  crossed : (transitionLines r).countP Console.crossed = 1

structure MarksNone (r : FailureReport) : Prop where
  failing : r.failing? = none
  summary : r.summary = r.summaryAround r.plainLines
  console : transitionLines r = (spans r.labels).map passed
  crossed : (transitionLines r).countP Console.crossed = 0

theorem marksAt (hk : r.index = k) (ht : r.transitions[k]? = some t) : r.MarksAt k t := by
  have hlength : k < r.transitions.length := (List.getElem?_eq_some_iff.1 ht).1
  have hconsole := transitionLines_marked hk ht
  refine ⟨?_, ?_, congrArg r.summaryAround (summaryLines_marked hk), hconsole, ?_⟩
  · rw [location_eq_transition (by omega) (by omega), hk]
    rfl
  · rw [failing?, hk, if_pos (Int.natCast_nonneg k), Int.toNat_natCast, ht]
  · obtain ⟨before, s, after, j, -, -, -, -, hlines⟩ := hconsole
    rw [hlines, List.countP_append, List.countP_cons, countP_crossed_passed, countP_crossed_passed, crossed_failed]
    rfl

theorem marksNone (hindex : r.index < 0 ∨ r.transitions.length ≤ r.index) : r.MarksNone := by
  have hconsole := transitionLines_plain hindex
  refine ⟨?_, congrArg r.summaryAround (summaryLines_plain hindex), hconsole, ?_⟩
  · unfold failing?
    split
    · exact List.getElem?_eq_none (by omega)
    · rfl
  · rw [hconsole, countP_crossed_passed]

/-- The location, the failing transition, the summary and the lines of the console tell of one position: that of the
index of the report. The lines of the console stand for all positions in order, equal neighbours in one. -/
theorem renderings_agree (r : FailureReport) :
    (r.location = "initial state" ↔ r.index = -1) ∧ (r.location = "teardown" ↔ r.transitions.length ≤ r.index) ∧
    Partition r.labels (spans r.labels) ∧
    (∀ (k : Nat) (t : Value), r.index = k → r.transitions[k]? = some t → r.MarksAt k t) ∧
    (r.index = -1 ∨ r.transitions.length ≤ r.index → r.MarksNone) := by
  refine ⟨r.location_eq_initial, r.location_eq_teardown, partition_spans _, fun k t hk ht => marksAt hk ht,
    fun hindex => marksNone ?_⟩
  omega

example : transitionLines
    { initial := .int 0, transitions := [.int 5, .int 5, .int 5, .int 7], index := 1, cause := .ofText .assertion "" } =
    ["  [red]✗ 0..2  5 ×3[/red]  [dim]failed here (#2)[/dim]", "  [green]✓[/green] 3  7"] := by
  decide +kernel

end FailureReport
end StateCheck
