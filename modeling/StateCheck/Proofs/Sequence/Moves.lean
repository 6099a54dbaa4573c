import StateCheck.Proofs.Sequence.Steps

/-! Sequences driven by any moves in any order: what is shown stays accepted by the model, and no shorter
and no longer than it may be. -/

namespace StateCheck

structure ValueTree.Total {σ α : Type} (t : ValueTree σ α) : Prop where
  current : ∀ s e, t.current s ≠ .error e
  simplify : ∀ s e, (t.simplify s).answer ≠ .error e
  complicate : ∀ s e, (t.complicate s).answer ≠ .error e

theorem ValueTree.propose_false {σ α : Type} (t : ValueTree σ α) : t.propose false = (do
    if ← t.simplify then
      let a ← Act.ask t.current
      pure (some a)
    else pure none) := rfl

theorem ValueTree.Total.tame {σ α : Type} [BEq α] {t : ValueTree σ α} (ht : t.Total) :
    t.Tame (fun _ => True) fun _ => False where
  propose untried s _ := by
    have hask (s : σ) : (Act.ask t.current >>= fun a => pure (some a) : Act σ (Option α)).Yields s
        (fun _ _ => True) fun _ _ => False := by
      rw [Act.yields_bind, Act.yields_ask]
      exact ⟨fun _ _ => trivial, fun e he => ht.current s e he⟩
    cases untried with
    | true => exact hask s
    | false =>
      rw [propose_false, Act.yields_bind]
      refine (Act.yields_of_never_raises (ht.simplify s)).mono (fun found s' _ => ?_) (fun _ _ h => h)
      rw [Act.yields_ite]
      exact ⟨fun _ => hask s', fun _ => trivial⟩
  canRetry a s _ := by
    unfold canRetry
    rw [Act.yields_bind]
    refine (Act.yields_of_never_raises (ht.complicate s)).mono (fun moved s' _ => ?_) (fun _ _ h => h)
    rw [Act.yields_ite, Act.yields_bind, Act.yields_ask]
    exact ⟨fun _ => ⟨fun _ _ => trivial, fun e he => ht.current s' e he⟩, fun _ => trivial⟩

structure Shrinker.Total {S T ι τ : Type} (g : Shrinker S T ι τ) : Prop where
  rules : g.rules.Total
  initial : g.initial.Total
  transition : g.transition.Total

theorem Shrinker.Total.tame {S T ι τ : Type} [BEq S] [BEq T] {g : Shrinker S T ι τ} (hg : g.Total) :
    g.Tame (fun _ => True) (fun _ => True) fun _ => False :=
  ⟨hg.rules, hg.initial.tame, hg.transition.tame⟩

namespace Sequence
variable {S T ι τ : Type} {rules : Rules S T} {v v' : Sequence S T ι τ}

inductive Move where
  | shrink
  | complicate
  | truncate (length : Int)

def Move.perform [BEq S] [BEq T] (g : Shrinker S T ι τ) : Move → Act (Sequence S T ι τ) Bool
  | shrink => Sequence.shrink g
  | complicate => Sequence.complicate g
  | truncate length => Sequence.truncate length

/-- `P` holds of what the sequence shows, and of what it shows once the latest edit is undone. -/
def Covers (P : Shape S T → Prop) (v : Sequence S T ι τ) : Prop :=
  P v.shape ∧ ∀ edit, v.lastEdit = some edit → P (edit.undo v.shape)

variable {P : Shape S T → Prop}

theorem Covers.shrunk {moved : Bool} (h : Covers P v) (hv : Shrunk rules v moved v')
    (hP : ∀ edit, edit.phase = v'.cursor.phase → Reduces rules v.minSize v.shape edit v'.shape → P v'.shape) :
    Covers P v' := by
  cases moved with
  | true =>
    obtain ⟨edit, hlast, hphase, hreduces⟩ := hv.edited rfl
    refine ⟨hP edit hphase hreduces, ?_⟩
    intro edit' hlast'
    rw [hlast] at hlast'
    cases hlast'
    rw [hreduces.undo]
    exact h.1
  | false =>
    obtain ⟨hlast, hshape, -⟩ := hv.ended rfl
    refine ⟨hshape ▸ h.1, ?_⟩
    intro edit hedit
    rw [hlast] at hedit
    cases hedit

theorem Covers.complicated {moved : Bool} (h : Covers P v) (hv : Complicated v moved v') : Covers P v' := by
  cases hlast : v.lastEdit with
  | none =>
    obtain ⟨-, rfl⟩ := hv.none hlast
    exact h
  | some edit =>
    obtain ⟨-, hrestored⟩ := hv.some edit hlast
    refine ⟨hrestored.shape ▸ h.2 edit hlast, ?_⟩
    intro edit' hedit'
    rw [hrestored.lastEdit] at hedit'
    cases hedit'

theorem Covers.cut (h : Covers P v) (length : Int)
    (hP : max length v.minSize < v.length → P { v.shape with length := max length v.minSize }) :
    Covers P (v.cut length) := by
  unfold Sequence.cut
  split
  · exact h
  · exact ⟨hP (by omega), nofun⟩

def Shape.Accepted (rules : Rules S T) (f : Shape S T) : Prop :=
  rules.Accepts f.initial (before f.length f.transitions)

/-- A deletion at a length that is not positive shows transitions again that were left out. -/
theorem Reduces.accepted {minSize : Int} {f f' : Shape S T} {edit : Edit S T}
    (h : Reduces rules minSize f edit f') (hf : f.Accepted rules)
    (hwhole : edit.phase = .deleteTransition → rules.Accepts f.initial f.transitions) :
    f'.Accepted rules := by
  cases h with
  | delete => exact (hwhole rfl).before _
  | @transition i prior t hprior hvalid =>
    have htake : ((before f.length f.transitions).set i t).take i = (before f.length f.transitions).take i :=
      List.take_set_of_le (Nat.le_refl i)
    have haccepts := Rules.accepts_of_isValid hvalid (htake ▸ hf.take i)
    simpa [Shape.Accepted, before, List.take_set, apply_ite (List.set · i t)] using haccepts
  | initialState hvalid => exact Rules.isValid_zero_iff.1 hvalid

theorem Reduces.accepted_of_nonneg {minSize : Int} {f f' : Shape S T} {edit : Edit S T} (hmin : 0 ≤ minSize)
    (h : Reduces rules minSize f edit f') (hf : f.Accepted rules) : f'.Accepted rules := by
  have hreduces := h
  cases h with
  | @delete valid hlength hvalid hkept =>
    have haccepts := (Rules.accepts_longestValid hvalid).2.take (min (f.length - 1) valid).toNat
    rw [List.take_take, Nat.min_eq_left (by omega), before_take _ (by omega)] at haccepts
    rw [Shape.Accepted, before, if_pos (by dsimp only; omega)]
    exact haccepts
  | transition =>
    refine hreduces.accepted hf ?_
    intro hphase
    cases hphase
  | initialState =>
    refine hreduces.accepted hf ?_
    intro hphase
    cases hphase

theorem Shape.Accepted.cut {f : Shape S T} (hf : f.Accepted rules) {length : Int} (hlength : 0 ≤ length)
    (hle : length ≤ f.length) : ({ f with length := length } : Shape S T).Accepted rules := by
  have htake := before_take length.toNat (show (length.toNat : Int) ≤ f.length by omega) f.transitions
  show rules.Accepts f.initial (before length f.transitions)
  rw [before, if_pos hlength, ← htake]
  exact hf.take _

/-- The model accepts what the sequence shows, also after an undo, and as long as deletions go on it
accepts all of the transitions. -/
structure Sound (rules : Rules S T) (v : Sequence S T ι τ) : Prop where
  accepted : Covers (Shape.Accepted rules) v
  phase : ∀ edit, v.lastEdit = some edit → edit.phase = v.cursor.phase
  whole : v.cursor.phase = .deleteTransition → rules.Accepts v.shape.initial v.shape.transitions

theorem Phase.eq_delete {phase : Phase} (h : phase.rank ≤ Phase.deleteTransition.rank) :
    phase = .deleteTransition := by
  cases phase <;> first | rfl | exact absurd h (by decide)

theorem Sound.shrunk {moved : Bool} (h : Sound rules v) (hv : Shrunk rules v moved v') : Sound rules v' := by
  have hdelete (hphase : v'.cursor.phase = .deleteTransition) : v.cursor.phase = .deleteTransition :=
    Phase.eq_delete (hphase ▸ hv.rank_le)
  -- An edit that deleted means that deletions still went on, with all transitions accepted.
  refine ⟨h.accepted.shrunk hv fun edit hphase hreduces => ?_, ?_, ?_⟩
  · exact hreduces.accepted h.accepted.1 fun hedit => h.whole (hdelete (hphase ▸ hedit))
  · intro edit hedit
    cases moved with
    | true =>
      obtain ⟨edit', hedit', hphase, -⟩ := hv.edited rfl
      rw [hedit'] at hedit
      cases hedit
      exact hphase
    | false =>
      rw [(hv.ended rfl).1] at hedit
      cases hedit
  · intro hphase
    have hwhole := h.whole (hdelete hphase)
    cases moved with
    | true =>
      obtain ⟨edit, -, hedit, hreduces⟩ := hv.edited rfl
      generalize v'.shape = f at hreduces
      cases hreduces with
      | delete => exact hwhole
      | transition => exact absurd (hedit.trans hphase) nofun
      | initialState => exact absurd (hedit.trans hphase) nofun
    | false =>
      rw [(hv.ended rfl).2.1]
      exact hwhole

theorem Sound.complicated {moved : Bool} (h : Sound rules v) (hv : Complicated v moved v') :
    Sound rules v' := by
  refine ⟨h.accepted.complicated hv, ?_, ?_⟩
  · intro edit hedit
    cases hlast : v.lastEdit with
    | none =>
      obtain ⟨-, rfl⟩ := hv.none hlast
      exact h.phase edit hedit
    | some edit' =>
      rw [(hv.some edit' hlast).2.lastEdit] at hedit
      cases hedit
  · intro hphase
    cases hlast : v.lastEdit with
    | none =>
      obtain ⟨-, rfl⟩ := hv.none hlast
      exact h.whole hphase
    | some edit =>
      obtain ⟨-, hrestored⟩ := hv.some edit hlast
      have hdelete : v.cursor.phase = .deleteTransition :=
        Phase.eq_delete (hphase ▸ hrestored.rank_le (h.phase edit hlast))
      have := hrestored.deleted ((h.phase edit hlast).trans hdelete)
      rw [hphase] at this
      cases this

theorem Sound.cut (h : Sound rules v) {length : Int} (hlength : 0 ≤ max length v.minSize) :
    Sound rules (v.cut length) := by
  have haccepted := h.accepted.cut length fun hlt => h.accepted.1.cut hlength (Int.le_of_lt hlt)
  refine ⟨haccepted, ?_, ?_⟩
  all_goals unfold Sequence.cut
  · split
    · exact h.phase
    · exact nofun
  · split <;> exact h.whole

/-- As many transitions as at first, and a length that is the first one or lies between the minimum and it. -/
structure Shape.Within (minSize : Int) (total : Nat) (start : Int) (f : Shape S T) : Prop where
  count : f.transitions.length = total
  range : f.length = start ∨ minSize ≤ f.length ∧ f.length < start

namespace Shape.Within
variable {minSize start : Int} {total : Nat} {f f' : Shape S T}

theorem cut (h : f.Within minSize total start) {length : Int} (hmin : minSize ≤ length)
    (hlt : length < f.length) : ({ f with length := length } : Shape S T).Within minSize total start := by
  have hrange := h.range
  exact ⟨h.count, .inr ⟨hmin, by dsimp only; omega⟩⟩

theorem reduces {edit : Edit S T} (h : f.Within minSize total start)
    (hreduces : Reduces rules minSize f edit f') : f'.Within minSize total start := by
  cases hreduces with
  | delete _ _ hkept => exact h.cut hkept (by omega)
  | transition => exact ⟨by simpa using h.count, h.range⟩
  | initialState => exact ⟨h.count, h.range⟩

theorem current (h : f.Within minSize total total) :
    min minSize total ≤ f.current.transitions.length ∧ f.current.transitions.length ≤ total := by
  obtain ⟨htotal, hrange⟩ := h
  have hbefore := length_before_le f.length f.transitions
  refine ⟨?_, htotal ▸ hbefore⟩
  by_cases hlength : 0 ≤ f.length
  · rw [Shape.current, before, if_pos hlength, List.length_take]
    omega
  · omega

end Shape.Within

theorem perform_tame [BEq S] [BEq T] {g : Shrinker S T ι τ} {I : ι → Prop} {J : τ → Prop} {E : Fault → Prop}
    (hg : g.Tame I J E) {move : Move} {minSize : Int}
    (hmove : ∀ length, move = .truncate length → 0 ≤ max length minSize) (htrees : v.Trees I J)
    (hv : Sound g.rules v ∧ v.minSize = minSize) : (move.perform g).Yields v
      (fun _ v' => v'.Trees I J ∧ Sound g.rules v' ∧ v'.minSize = minSize) fun e _ => E e := by
  obtain ⟨hv, rfl⟩ := hv
  cases move with
  | shrink =>
    refine (shrink_shrinks hg htrees).mono (fun _ _ h => ?_) (fun _ _ h => h.1)
    exact ⟨h.1, hv.shrunk h.2, h.2.minSize⟩
  | complicate =>
    refine (complicate_yields hg htrees).mono (fun _ _ h => ?_) (fun _ _ h => h.1)
    exact ⟨h.1, hv.complicated h.2, h.2.minSize⟩
  | truncate length =>
    rw [Move.perform, truncate_yields]
    exact ⟨htrees.cut length, hv.cut (hmove length rfl), minSize_cut length v⟩

theorem perform_sound [BEq S] [BEq T] {g : Shrinker S T ι τ} (hg : g.Total) {move : Move} {minSize : Int}
    (hmove : ∀ length, move = .truncate length → 0 ≤ max length minSize)
    (hv : Sound g.rules v ∧ v.minSize = minSize) : (move.perform g).Yields v
      (fun _ v' => Sound g.rules v' ∧ v'.minSize = minSize) fun _ _ => False :=
  (perform_tame hg.tame hmove ⟨trivial, fun _ _ => trivial⟩ hv).mono (fun _ _ h => h.2) fun _ _ h => h

theorem perform_within [BEq S] [BEq T] {g : Shrinker S T ι τ} (hg : g.Total) (move : Move) {minSize start : Int}
    {total : Nat} (hv : Covers (Shape.Within minSize total start) v ∧ v.minSize = minSize) :
    (move.perform g).Yields v
      (fun _ v' => Covers (Shape.Within minSize total start) v' ∧ v'.minSize = minSize) fun _ _ => False := by
  obtain ⟨hv, rfl⟩ := hv
  have htrees : v.Trees (fun _ => True) (fun _ => True) := ⟨trivial, fun _ _ => trivial⟩
  cases move with
  | shrink =>
    refine (shrink_shrinks hg.tame htrees).mono (fun _ _ h => ⟨?_, h.2.minSize⟩) (fun _ _ h => h.1)
    exact hv.shrunk h.2 fun _ _ hreduces => hv.1.reduces hreduces
  | complicate =>
    refine (complicate_yields hg.tame htrees).mono (fun _ _ h => ?_) (fun _ _ h => h.1)
    exact ⟨hv.complicated h.2, h.2.minSize⟩
  | truncate length =>
    rw [Move.perform, truncate_yields]
    exact ⟨hv.cut length fun hlt => hv.1.cut (Int.le_max_right ..) hlt, minSize_cut length v⟩

theorem start_sound (initialTree : ι) {initialState : S} {entries : List (Entry τ T)} (minSize : Int)
    (h : rules.Accepts initialState (entries.map (·.transition))) :
    Sound rules (start initialTree initialState entries minSize) :=
  ⟨⟨h.before _, nofun⟩, nofun, fun _ => h⟩

theorem start_within (initialTree : ι) (initialState : S) (entries : List (Entry τ T)) (minSize : Int) :
    Covers (Shape.Within minSize entries.length entries.length)
      (start initialTree initialState entries minSize) :=
  ⟨⟨length_transitions _, .inl rfl⟩, nofun⟩

/-- Driven by any moves, a sequence that starts accepted stays so, as long as no truncation asks for a
negative length; and it is never longer than at the start, nor shorter than the minimum. -/
theorem moves_keep_accepted [BEq S] [BEq T] {g : Shrinker S T ι τ} (hg : g.Total) (initialTree : ι)
    (initialState : S) (entries : List (Entry τ T)) (minSize : Int)
    (hstart : g.rules.Accepts initialState (entries.map (·.transition))) (moves : List Move) :
    let run := Act.each (Move.perform g) moves (start initialTree initialState entries minSize)
    (∃ answers, run.answer = .ok answers) ∧
    ((∀ length, .truncate length ∈ moves → 0 ≤ max length minSize) →
      g.rules.Accepts run.state.current.initial run.state.current.transitions) ∧
    min minSize entries.length ≤ run.state.current.transitions.length ∧
    run.state.current.transitions.length ≤ entries.length := by
  intro run
  -- Any moves keep the size, and so none raises; acceptance needs what is known of the truncations.
  have hwithin := Act.yields_each (fun move (_ : move ∈ moves) _ => perform_within hg move)
    ⟨start_within initialTree initialState entries minSize, rfl⟩
  obtain ⟨answers, hanswers, ⟨hcovers, -⟩⟩ := hwithin.answers
  refine ⟨⟨answers, hanswers⟩, ?_, hcovers.1.current⟩
  intro hmoves
  have hperform (move : Move) (hmove : move ∈ moves) (v : Sequence S T ι τ)
      (hv : Sound g.rules v ∧ v.minSize = minSize) :=
    perform_sound hg (fun length h => hmoves length (h ▸ hmove)) hv
  have hsound := Act.yields_each hperform ⟨start_sound initialTree minSize hstart, rfl⟩
  exact (hsound.of_ok hanswers).1.accepted.1

def purse : Rules Nat Bool where
  apply coins t := .ok (if t then coins + 1 else coins - 1)
  allows coins t := .ok (t || decide (0 < coins))

def purseShrinker : Shrinker Nat Bool Unit Search where
  rules := purse
  initial := .fixed 1
  transition := Search.tree.map fun n => .ok (decide (0 < n))

theorem purseShrinker_total : purseShrinker.Total where
  rules := ⟨nofun, nofun⟩
  initial := ⟨nofun, nofun, nofun⟩
  transition := ⟨nofun, nofun, nofun⟩

def purseEntries : List (Entry Search Bool) :=
  [⟨.start 1 0, true⟩, ⟨.start 0 0, false⟩, ⟨.start 0 0, false⟩]

theorem purse_accepts : purse.Accepts 1 (purseEntries.map (·.transition)) :=
  ⟨rfl, _, rfl, rfl, _, rfl, rfl, _, rfl, trivial⟩

theorem moves_keep_purse_accepted :
    let run := Act.each (Move.perform purseShrinker) [.shrink, .complicate, .shrink, .truncate 1]
      (start () 1 purseEntries 1)
    purse.Accepts run.state.current.initial run.state.current.transitions ∧
    run.state.current.transitions.length ≤ 3 := by
  have h := moves_keep_accepted purseShrinker_total () 1 purseEntries 1 purse_accepts
    [.shrink, .complicate, .shrink, .truncate 1]
  exact ⟨h.2.1 fun length hlength => by simp_all, h.2.2.2⟩

/-- A negative minimum lets a truncation bring back transitions that were never checked again. -/
theorem truncate_below_zero_unsound :
    let run := Act.each (Move.perform purseShrinker)
      [.truncate 1, .shrink, .complicate, .shrink, .truncate (-1)] (start () 1 purseEntries (-2))
    run.state.current = ⟨1, [false, false]⟩ ∧ ¬ purse.Accepts 1 [false, false] := by
  refine ⟨rfl, ?_⟩
  rintro ⟨-, _, h, h', -⟩
  cases h
  cases h'

def adder : Rules Int Int where
  apply s t := .ok (s + t)
  allows _ _ := .ok true

def eight : List (Entry Search Int) := [⟨.start 8 0, 8⟩]

end Sequence
end StateCheck
