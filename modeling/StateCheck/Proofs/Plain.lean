import StateCheck.Proofs.Draws
import StateCheck.Proofs.Tree.PlainParts
import Mathlib.Tactic.Choose

/-! Strategies that draw plain trees. A compound strategy does if one of its parts does and the others draw trees that
are stuck. -/

namespace StateCheck.Strategy
variable {α β : Type}

def Constant (s : Strategy α) : Prop := s.Draws s.tree.Stuck

theorem constant_just (a : α) (shown : String) : (just a shown).Constant := ⟨fun _ => ValueTree.fixed_stuck a⟩

theorem Constant.map {s : Strategy α} (hs : s.Constant) (f : α → Except Fault β) (name : String) :
    (s.map f name).Constant :=
  ⟨fun source => (hs.draw source).mono (fun _ _ h => h.map f) fun _ _ h => h⟩

/-- Strategies of plain trees, with the relation of what is shown to what may be tried in its place. -/
inductive Plain : {α : Type} → [BEq α] → Strategy α → (α → α → Prop) → Prop
  | constant {α : Type} [BEq α] {s : Strategy α} (hs : s.Constant) : Plain s fun _ _ => False
  | integers {lo hi : Int} (hle : lo ≤ hi) :
      Plain (integers lo hi) fun a b => (lo ≤ a ∧ a ≤ hi) ∧ lo ≤ b ∧ b ≤ hi
  | map {α β : Type} [BEq α] [LawfulBEq α] [BEq β] [ReflBEq β] {s : Strategy α} {R : α → α → Prop}
      {f : α → Except Fault β} (hs : Plain s R) (hf : ValueTree.Separates R f) (name : String) :
      Plain (s.map f name) fun c d => Relation.Map R f f (.ok c) (.ok d)
  | filter {α : Type} [BEq α] [LawfulBEq α] {s : Strategy α} {R : α → α → Prop} (hs : Plain s R)
      (accepts : α → Except Fault Bool) (whence : String) : Plain (s.filter accepts whence) R
  | oneOf {α : Type} [BEq α] [ReflBEq α] {first : Nat × Strategy α} {others : List (Nat × Strategy α)}
      {R : α → α → Prop} (hfirst : Plain first.2 R) (hothers : ∀ o ∈ others, o.2.Constant) :
      Plain (oneOf (first :: others)) fun _ _ => True
  | tuples {α : Type} [BEq α] [LawfulBEq α] {parts : List (Strategy α)} (j : Fin parts.length) {R : α → α → Prop}
      (hj : Plain (parts.get j) R) (hothers : ∀ i, i ≠ j → (parts.get i).Constant) :
      Plain (tuples parts) fun as bs => ∃ a b, R a b ∧ as[(j : Nat)]? = some a ∧ bs = as.set j b
  | titled {α : Type} [BEq α] {s : Strategy α} {R : α → α → Prop} (hs : Plain s R) (shown : String) :
      Plain { s with shown := shown } R

example : Plain (oneOf [(2, integers 0 9), (1, (just 5 "5").map (fun n => .ok (-n)) "opposite")]) fun _ _ => True := by
  refine .oneOf (.integers (by decide)) fun option hoption => ?_
  obtain rfl := List.mem_singleton.1 hoption
  exact (constant_just 5 "5").map _ _

structure DrawsHeld [BEq α] (s : Strategy α) (A : Stages s.State α) (R : α → α → Prop) : Prop where
  plain : s.tree.Plain A R
  draws : s.Draws fun tree => ∀ a, s.tree.current tree = .ok a → A.held a tree

theorem Constant.drawsHeld [BEq α] {s : Strategy α} (hs : s.Constant) (R : α → α → Prop) :
    s.DrawsHeld s.tree.stuckAt R :=
  ⟨s.tree.stuckAt_plain R, ⟨fun source => (hs.draw source).mono (fun _ _ htree _ ha => ⟨htree, ha⟩) fun _ _ h => h⟩⟩

structure HeldPart {κ : Type} (strategies : κ → Strategy α) (A : (i : κ) → Stages (strategies i).State α) (j : κ)
    (tree : (i : κ) × (strategies i).State) : Prop where
  held : ∀ a, (ValueTree.tagged fun i => (strategies i).tree).current tree = .ok a →
    (ValueTree.tagStages A).held a tree
  stuck : tree.1 ≠ j → (ValueTree.tagged fun i => (strategies i).tree).Stuck tree

theorem draws_parts [BEq α] {κ : Type} (strategies : κ → Strategy α) {j : κ} {R : α → α → Prop}
    (hj : ∃ A, (strategies j).DrawsHeld A R) (hothers : ∀ i, i ≠ j → (strategies i).Constant) :
    ∃ A, (ValueTree.tagged fun i => (strategies i).tree).Plain (ValueTree.tagStages A) R ∧
      ∀ i, (strategies i).Draws fun tree => HeldPart strategies A j ⟨i, tree⟩ := by
  have hheld (i : κ) : ∃ A, (strategies i).DrawsHeld A R := by
    by_cases hi : i = j
    · exact hi ▸ hj
    · exact ⟨_, (hothers i hi).drawsHeld R⟩
  choose A hA using hheld
  refine ⟨A, .tagged fun i => (hA i).plain, fun i => ⟨fun source => ?_⟩⟩
  by_cases hi : i = j
  · exact ((hA i).draws.draw source).mono (fun tree _ htree => ⟨htree, fun hi' => absurd hi hi'⟩) fun _ _ h => h
  · exact (((hA i).draws.draw source).and ((hothers i hi).draw source)).mono
      (fun tree _ htree => ⟨htree.1, fun _ => htree.2.tagged⟩) fun _ _ h => h.1

theorem kind_of_getElem? {parts : List (Strategy α)} {trees : List (Field parts)}
    (hkinds : trees.map Sigma.fst = List.finRange parts.length) {k : Nat} {tree : Field parts}
    (htree : trees[k]? = some tree) : (tree.1 : Nat) = k := by
  have hat : (trees.map Sigma.fst)[k]? = some tree.1 := by rw [List.getElem?_map, htree, Option.map_some]
  rw [hkinds] at hat
  obtain ⟨hk, hkind⟩ := List.getElem?_eq_some_iff.1 hat
  rw [← hkind, List.getElem_finRange]
  rfl

theorem Plain.drawsHeld [BEq α] {s : Strategy α} {R : α → α → Prop} (h : s.Plain R) : ∃ A, s.DrawsHeld A R := by
  induction h with
  | constant hs => exact ⟨_, hs.drawsHeld _⟩
  | @integers lo hi hle =>
    refine ⟨_, Search.tree_plain lo hi, draws_integers fun n hn a ha => ?_⟩
    obtain rfl : n = a := (Search.value_start n _).symm.trans (Except.ok.inj ha)
    exact Search.start_held (hn hle) (by omega)
  | map hs hf name ih =>
    obtain ⟨A, hplain, hdraws⟩ := ih
    refine ⟨_, hplain.map hf, ⟨fun source => ?_⟩⟩
    refine (hdraws.draw source).mono (fun tree _ htree b hb => ?_) fun _ _ h => h
    obtain ⟨a, ha, hmade⟩ := bind_eq_ok.1 hb
    exact ⟨a, hmade, htree a ha⟩
  | filter hs accepts whence ih =>
    obtain ⟨A, hplain, hdraws⟩ := ih
    refine ⟨_, hplain.filter accepts whence, ⟨fun source => ?_⟩⟩
    refine ((hdraws.filter accepts whence).draw source).mono (fun tree _ htree a ha => ?_) fun _ _ h => h
    obtain ⟨a', ha', haccepted⟩ := bind_eq_ok.1 htree.2
    obtain rfl := Except.ok.inj (ha'.symm.trans ha)
    exact ⟨haccepted, .inl (htree.1 _ ha)⟩
  | @oneOf α _ _ first others R hfirst hothers ih =>
    have hothers' (i : Fin (first :: others).length) (hi : i ≠ 0) : ((first :: others).get i).2.Constant := by
      cases i using Fin.cases with
      | zero => exact absurd rfl hi
      | succ i => exact hothers _ (List.get_mem others i)
    obtain ⟨A, hplain, hdraws⟩ := draws_parts (fun i => ((first :: others).get i).2) (j := 0) ih hothers'
    have hzero {i : Fin (first :: others).length} : i = 0 ↔ (i : Nat) = 0 := Fin.ext_iff
    refine ⟨_, Pick.tree_plain hplain ⟨fun hs ha => (redraw_holds hdraws hs).2.held _ ha, fun hi hs => ?_⟩,
      draws_oneOf hdraws fun seed tree htree a ha => ⟨tree, rfl, ?_⟩⟩
    · obtain ⟨rfl, htree⟩ := redraw_holds hdraws hs
      exact htree.stuck (mt hzero.1 hi)
    · dsimp only [Pick.stagesAt]
      split
      · exact htree.held a ha
      · rename_i hi
        exact ⟨htree.stuck (mt hzero.1 hi), ha⟩
  | @tuples α _ _ parts j R hj hothers ih =>
    obtain ⟨A, hplain, hdraws⟩ := draws_parts parts.get ih hothers
    refine ⟨_, Fields.tree_plain hplain j, draws_tuples hdraws fun trees hkinds htrees as has => ⟨Nat.zero_le _, ?_⟩⟩
    -- The field that moves stands at its own position, and there alone.
    have hlt : (j : Nat) < trees.length := by
      rw [← List.length_map Sigma.fst, hkinds, List.length_finRange]
      exact j.isLt
    have hmoving : trees[(j : Nat)]? = some trees[(j : Nat)] := List.getElem?_eq_getElem hlt
    have hrow := (Fields.current_tree _).symm.trans has
    obtain ⟨a, ha, -⟩ := Row.all_get hrow (Row.shown_get hmoving)
    have hheld := (htrees _ (List.mem_of_getElem? hmoving)).held a ha
    refine ⟨a, ⟨fun k tree hk htree => ?_, _, hmoving, hheld⟩, ?_⟩
    · exact (htrees tree (List.mem_of_getElem? htree)).stuck fun heq =>
        hk ((kind_of_getElem? hkinds htree).symm.trans (congrArg Fin.val heq))
    · rw [← ha, Fields.set_same (Row.shown_get hmoving)]
      exact hrow
  | titled hs shown ih =>
    obtain ⟨A, hplain, hdraws⟩ := ih
    exact ⟨A, hplain, ⟨hdraws.draw⟩⟩

theorem plain_booleans : ∃ R, booleans.Plain R := by
  refine ⟨_, .map (.integers Int.one_nonneg) ?_ _⟩
  rintro a b _ _ ⟨⟨ha, ha'⟩, hb, hb'⟩ ⟨⟩ ⟨⟩ hsame
  have hiff := decide_eq_decide.1 (eq_of_beq hsame)
  omega

theorem plain_sampledFrom [BEq α] [LawfulBEq α] {values : List α} (hdistinct : values.Nodup) (hvalues : values ≠ []) :
    ∃ R, (sampledFrom values).Plain R := by
  have hlength := List.length_pos_iff.2 hvalues
  refine ⟨_, .map (.integers (by omega)) ?_ _⟩
  rintro a b c d ⟨⟨ha, ha'⟩, hb, hb'⟩ hc hd hsame
  have hat {i : Int} {v : α} (hv : (values[i.toNat]?).elim (.error (.ofText .index "tuple index out of range")) .ok =
      (.ok v : Except Fault α)) : values[i.toNat]? = some v := by
    cases hi : values[i.toNat]? with
    | none =>
      rw [hi] at hv
      cases hv
    | some v' =>
      rw [hi] at hv
      exact congrArg some (Except.ok.inj hv)
  have hindex : values[a.toNat]? = values[b.toNat]? := by rw [hat hc, hat hd, eq_of_beq hsame]
  have hlt : a.toNat < values.length := by omega
  have := (List.getElem?_inj hlt hdistinct).1 hindex
  omega

end StateCheck.Strategy
