import StateCheck.Proofs.Backoff
import StateCheck.Proofs.Tree.Bisection
import StateCheck.Proofs.Tree.Keeps

/-! Where simplifying a filtered integer leads: to the first value on the way back that is accepted. If none is before
the value it set out from, the move succeeds and leads nowhere. -/

namespace StateCheck

namespace Search
variable {p : Int → Bool} {target : Int} {s : Search}

structure Headed (target : Int) (s : Search) : Prop where
  ranged : s.Ranged
  le : s.distance ≤ s.hi
  target : s.target = target

theorem Headed.simplify (hs : s.Headed target) :
    s.simplify.2.Headed target ∧ (s.simplify.1 = false → s.simplify.2.value = s.value) := by
  have hranged := (simplify_falls hs.ranged).1
  have hle := hs.le
  rcases simplify_cases hs.ranged with ⟨hlo, -, h⟩ | ⟨hi, -, hhi, h⟩
  · rw [h] at hranged ⊢
    exact ⟨⟨hranged, by dsimp only; omega, hs.target⟩, nofun⟩
  · rw [h] at hranged ⊢
    exact ⟨⟨hranged, by dsimp only; omega, hs.target⟩, fun _ => rfl⟩

theorem Headed.complicate (hs : s.Headed target) :
    s.complicate.2.Headed target ∧ (s.complicate.1 = false → s.complicate.2.value = s.value) := by
  have hranged := (complicate_falls hs.ranged).1
  rcases complicate_cases hs.ranged with ⟨-, hhi, h⟩ | ⟨lo, -, h⟩
  · rw [h] at hranged ⊢
    exact ⟨⟨hranged, by dsimp only; omega, hs.target⟩, nofun⟩
  · rw [h] at hranged ⊢
    exact ⟨⟨hranged, hs.le, hs.target⟩, fun _ => rfl⟩

theorem tree_keeps_headed (target : Int) : tree.Keeps (Headed target) where
  simplify _ hs := ⟨hs.simplify.1, fun hmoved => congrArg Except.ok (hs.simplify.2 hmoved)⟩
  complicate _ hs := ⟨hs.complicate.1, fun hmoved => congrArg Except.ok (hs.complicate.2 hmoved)⟩

def total (p : Int → Bool) (n : Int) : Except Fault Bool := .ok (p n)

theorem settle_climbs (whence : String) {k fuel : Nat} (rejects : Nat)
    (hrefused : ∀ j < k, p (climb j s).value = false ∧ (climb j s).complicate.1 = true)
    (haccepted : p (climb k s).value = true) (hfuel : k < fuel) :
    (tree.settle (total p) whence fuel rejects).Yields s (fun _ s' => s' = climb k s) fun _ _ => False := by
  induction k generalizing s fuel rejects with
  | zero =>
    cases fuel with
    | zero => exact absurd hfuel (Nat.not_lt_zero _)
    | succ fuel =>
      have hvalue : (tree.current s >>= total p) = .ok true := congrArg Except.ok haccepted
      unfold ValueTree.settle
      rw [Act.yields_bind, Act.yields_ask, hvalue]
      refine ⟨?_, fun _ he => by cases he⟩
      rintro acceptable ⟨⟩
      rfl
  | succ k ih =>
    cases fuel with
    | zero => exact absurd hfuel (Nat.not_lt_zero _)
    | succ fuel =>
      obtain ⟨hrefused₀, hmoves⟩ := hrefused 0 (Nat.succ_pos k)
      have hvalue : (tree.current s >>= total p) = .ok false := congrArg Except.ok hrefused₀
      unfold ValueTree.settle
      rw [Act.yields_bind, Act.yields_ask, hvalue]
      refine ⟨?_, fun _ he => by cases he⟩
      rintro acceptable ⟨⟩
      rw [if_neg Bool.false_ne_true, Act.yields_bind]
      show (Act.ofMove complicate).Yields s _ _
      have hmoved : s.complicate.1 = true := hmoves
      rw [Act.yields_ofMove, if_pos hmoved]
      exact ih (rejects + 1) (fun j hj => hrefused (j + 1) (Nat.succ_lt_succ hj)) haccepted
        (Nat.lt_of_succ_lt_succ hfuel)

/-- A filtered simplification succeeds if the plain one does, and leads to the first accepted value of the climb. What
it set out from is accepted, so the climb need not go on beyond that. -/
theorem Headed.simplify_filtered (whence : String) (hs : s.Headed target) (hp : p s.value = true) :
    (tree.filter (total p) whence).simplify.Yields s
      (fun moved s' => moved = s.simplify.1 ∧ if moved then
          ∃ k, s' = climb k s.simplify.2 ∧ p s'.value = true ∧ ∀ j < k, p (climb j s.simplify.2).value = false
        else s'.value = s.value) fun _ _ => False := by
  show (tree.settled (total p) whence (Act.ofMove Search.simplify)).Yields s _ _
  unfold ValueTree.settled
  rw [Act.yields_bind, Act.yields_ofMove]
  cases hmoved : s.simplify.1 with
  | false => exact ⟨rfl, hs.simplify.2 hmoved⟩
  | true =>
    rw [if_pos rfl, Act.yields_bind, Act.yields_get, Act.yields_bind]
    obtain ⟨n, -, hn, hclimb⟩ := simplify_climbs hs.ranged hmoved
    have hexists : ∃ k, p (climb k s.simplify.2).value = true := ⟨n, by rwa [(hclimb n).2.1.2 (Nat.le_refl n)]⟩
    have hrefused (j : Nat) (hj : j < Nat.find hexists) : p (climb j s.simplify.2).value = false :=
      Bool.eq_false_iff.2 (Nat.find_min hexists hj)
    have hle : Nat.find hexists ≤ n := Nat.find_min' hexists (by rwa [(hclimb n).2.1.2 (Nat.le_refl n)])
    have hsettles := settle_climbs whence 0
      (fun j hj => ⟨hrefused j hj, (hclimb j).1.2 (Nat.lt_of_lt_of_le hj hle)⟩) (Nat.find_spec hexists)
      (Nat.lt_succ_of_le (Nat.le_trans hle hn))
    refine hsettles.mono (fun _ s' hlands => ?_) fun _ _ h => h
    rw [hlands]
    exact ⟨rfl, _, rfl, Nat.find_spec hexists, hrefused⟩

theorem Headed.climb_nearer (hs : s.Headed target) (hmoved : s.simplify.1 = true) {k : Nat}
    (haccepted : p (climb k s.simplify.2).value = true) (hrefused : ∀ j < k, p (climb j s.simplify.2).value = false) :
    (((climb k s.simplify.2).value - target).natAbs < (s.value - target).natAbs ∨
      (climb k s.simplify.2).value = s.value) ∧
    (((climb k s.simplify.2).value - target).natAbs < (s.value - target).natAbs ↔
      ∃ j, (climb j s.simplify.2).value ≠ s.value ∧ p (climb j s.simplify.2).value = true) := by
  obtain ⟨n, -, -, hclimb⟩ := simplify_climbs hs.ranged hmoved
  obtain ⟨-, hreached, hle, hway⟩ := hclimb k
  have hgap : (s.value - target).natAbs = s.distance := hs.target ▸ natAbs_value_sub s
  have hgap' : ((climb k s.simplify.2).value - target).natAbs = (climb k s.simplify.2).distance := by
    rw [← hs.target, ← hway.1, natAbs_value_sub]
  have hsame := hway.value_inj ⟨rfl, rfl⟩
  rw [hgap, hgap']
  refine ⟨?_, fun hnearer => ⟨k, ?_, haccepted⟩, ?_⟩
  · rcases Nat.lt_or_eq_of_le hle with hlt | heq
    · exact .inl hlt
    · exact .inr (hsame.2 heq)
  · exact fun heq => Nat.ne_of_lt hnearer (hsame.1 heq)
  · rintro ⟨j, hother, hacceptedj⟩
    -- The first accepted value comes no later than this one, and this one comes before the end.
    have hbefore : j < n := Nat.lt_of_not_le fun hge => hother ((hclimb j).2.1.2 hge)
    have hfirst : k ≤ j := Nat.le_of_not_lt fun hlt => by simp [hrefused j hlt] at hacceptedj
    refine Nat.lt_of_le_of_ne hle fun heq => ?_
    exact absurd (hreached.1 (hsame.2 heq)) (by omega)

structure Upheld (target : Int) (p : Int → Bool) (s : Search) : Prop where
  headed : s.Headed target
  here : p s.value = true
  robust : tree.Robust (fun _ => False) (fun n => total p n = .ok true) s

theorem Upheld.perform (whence : String) (hs : s.Upheld target p) (call : ValueTree.Call) :
    (call.perform (tree.filter (total p) whence)).Yields s (fun _ s' => s'.Upheld target p) fun _ _ => False := by
  have haccepted : tree.Accepted (total p) s := by
    rintro n ⟨⟩
    exact congrArg Except.ok hs.here
  have hkeeps := ((tree_keeps_headed target).filter (total p) whence).perform ⟨hs.headed, haccepted⟩ call
  have hrobust : (call.perform (tree.filter (total p) whence)).Yields s
      (fun _ s' => tree.Robust (fun _ => False) (fun n => total p n = .ok true) s') fun _ _ => False :=
    (hs.robust.perform_raises (fun n => ⟨p n, rfl⟩) call).mono (fun _ _ h => h) fun _ _ h => h.1
  refine (hkeeps.and hrobust).mono (fun _ s' h => ?_) fun _ _ h => h.2
  obtain ⟨⟨hheaded, haccepted'⟩, hrobust'⟩ := h
  exact ⟨hheaded, Except.ok.inj (haccepted' s'.value rfl), hrobust'⟩

theorem Upheld.each (whence : String) (hs : s.Upheld target p) (calls : List ValueTree.Call) :
    (Act.each (ValueTree.Call.perform (tree.filter (total p) whence)) calls).Yields s
      (fun _ s' => s'.Upheld target p) fun _ _ => False :=
  Act.yields_each (fun call _ _ hs => hs.perform whence call) hs

theorem draws_upheld (lo hi : Int) (p : Int → Bool) (whence : String) :
    ((Strategy.integers lo hi).filter (total p) whence).Draws (Upheld (min (max 0 lo) hi) p) := by
  have hrobust := Strategy.draws_accepted_robust (Strategy.Reliable.integers (E := fun _ => False) lo hi).drawsFresh
    (total p) whence
  have hheaded : (Strategy.integers lo hi).Draws (Headed (min (max 0 lo) hi)) :=
    Strategy.draws_integers fun n _ => ⟨start_ranged n _, Nat.le_refl _, rfl⟩
  refine ⟨fun source => ?_⟩
  refine (((hheaded.filter (total p) whence).draw source).and (hrobust.draw source)).mono (fun s _ h => ?_)
    fun _ _ _ => trivial
  obtain ⟨⟨hheaded', haccepted⟩, hrobust'⟩ := h
  exact ⟨hheaded', Except.ok.inj haccepted, hrobust'⟩

end Search

/-- However a filtered integer was driven, no call raises, and one more simplification either is refused and leaves the
value, or leads to an accepted value, which is nearer to the target or the same. It is nearer if and only if another of
the values that the plain search passes on its way back is accepted. -/
theorem Strategy.filtered_integer_nears (lo hi : Int) (p : Int → Bool) (whence : String) :
    let filtered := (integers lo hi).filter (Search.total p) whence
    let gap (n : Int) := (n - min (max 0 lo) hi).natAbs
    filtered.Draws fun tree => ∀ calls : List ValueTree.Call,
      let reached := Act.each (ValueTree.Call.perform filtered.tree) calls tree
      let s : Search := reached.state
      let simplified := filtered.tree.simplify s
      let s' : Search := simplified.state
      let tried (k : Nat) := (s.simplify.2.climb k).value
      (∃ answers, reached.answer = .ok answers) ∧ p s.value = true ∧
      (simplified.answer = .ok false ∧ s'.value = s.value ∨
        simplified.answer = .ok true ∧ p s'.value = true ∧ (gap s'.value < gap s.value ∨ s'.value = s.value) ∧
          (gap s'.value < gap s.value ↔ ∃ k, tried k ≠ s.value ∧ p (tried k) = true)) := by
  intro filtered gap
  refine ⟨fun source => ((Search.draws_upheld lo hi p whence).draw source).mono (fun tree _ htree calls => ?_)
    fun _ _ _ => trivial⟩
  have hcalls := htree.each whence calls
  obtain ⟨answers, hanswers, hs⟩ := hcalls.answers
  obtain ⟨moved, hanswer, hmoved, hlands⟩ := (hs.headed.simplify_filtered whence hs.here).answers
  refine ⟨⟨answers, hanswers⟩, hs.here, ?_⟩
  cases moved with
  | false => exact .inl ⟨hanswer, hlands⟩
  | true =>
    obtain ⟨k, hstate, haccepted, hrefused⟩ := hlands
    have hfirst : p (Search.climb k _).value = true := hstate ▸ haccepted
    have hnearer := hs.headed.climb_nearer hmoved.symm hfirst hrefused
    refine .inr ⟨hanswer, haccepted, ?_⟩
    rw [← hstate] at hnearer
    exact hnearer

def Strategy.ones : Strategy Int := (integers 0 1).filter (Search.total (· == 1)) "one"

/-- The one is simplified to zero, which is refused, and back to one: the move succeeds and the value is what it
was. -/
theorem Strategy.lone_value_stands : ∃ tree : Search, (ones.draw ([0x40000000] : List UInt32)).answer = .ok tree ∧
    let simplified := ones.tree.simplify tree
    let s' : Search := simplified.state
    simplified.answer = .ok true ∧ tree.value = 1 ∧ s'.value = 1 := by
  have hmoves : ((ones.draw ([0x40000000] : List UInt32)).answer.toOption.map fun tree : Search =>
      let simplified := ones.tree.simplify tree
      let s' : Search := simplified.state
      (simplified.answer.toOption, tree.value, s'.value)) = some (some true, 1, 1) := by decide +kernel
  obtain ⟨tree, htree, hmoves⟩ := Option.map_eq_some_iff.1 hmoves
  simp only [Prod.mk.injEq, toOption_eq_some] at hmoves
  exact ⟨tree, toOption_eq_some.1 htree, hmoves⟩

end StateCheck
