import StateCheck.Proofs.Sequence.Moves

/-! Shrinking as a loop of rounds. A round tries one reduction, or moves the cursor on when there is none; so
the phases and the transitions ahead bound the rounds. -/

namespace StateCheck.Sequence
variable {S T ι τ : Type} {g : Shrinker S T ι τ} {v : Sequence S T ι τ}

def settleRound (next : Act (Sequence S T ι τ) Unit) :
    Option (Edit S T) → Act (Sequence S T ι τ) (Option Bool)
  | some edit => do
    let moved ← accept edit
    pure (some moved)
  | none => do
    next
    pure none

def stepIndex : Act (Sequence S T ι τ) Unit :=
  Act.modify fun v => { v with cursor.index := v.cursor.index + 1 }

def round (g : Shrinker S T ι τ) : Act (Sequence S T ι τ) (Option Bool) := do
  let v ← Act.get
  match v.cursor.phase with
  | .deleteTransition => do
    let edit? ← deleteLast g
    settleRound (moveTo .shrinkTransition) edit?
  | .shrinkTransition =>
    if v.length ≤ v.cursor.index then do
      moveTo .shrinkInitialState
      pure none
    else do
      let edit? ← shrinkTransition g v.cursor.index.toNat
      settleRound stepIndex edit?
  | .shrinkInitialState => do
    let edit? ← shrinkInitialState g
    settleRound (moveTo .done) edit?
  | .done => pure (some false)

def rounds (g : Shrinker S T ι τ) : Nat → Act (Sequence S T ι τ) (Option Bool)
  | 0 => pure none
  | n + 1 => do
    match ← round g with
    | some moved => pure (some moved)
    | none => rounds g n

def shrinkWithin (g : Shrinker S T ι τ) (n : Nat) : Act (Sequence S T ι τ) (Option Bool) := do
  Act.modify fun v => { v with lastEdit := none }
  rounds g n

theorem rounds_succ (n : Nat) {x : Act (Sequence S T ι τ) (Option Bool)} (h : round g v = x v) :
    rounds g (n + 1) v = (x >>= fun
      | some moved => pure (some moved)
      | none => rounds g n) v :=
  Act.bind_eq h ((Act.yields_self _ _).mono (fun _ _ _ => rfl) fun _ _ _ => trivial)

theorem round_eq (v : Sequence S T ι τ) : round g v =
    (match v.cursor.phase with
    | .deleteTransition => deleteLast g >>= settleRound (moveTo .shrinkTransition)
    | .shrinkTransition =>
      if v.length ≤ v.cursor.index then moveTo .shrinkInitialState >>= fun _ => pure none
      else shrinkTransition g v.cursor.index.toNat >>= settleRound stepIndex
    | .shrinkInitialState => shrinkInitialState g >>= settleRound (moveTo .done)
    | .done => pure (some false)) v := rfl

theorem rounds_of_attempt (n : Nat) {x : Act (Sequence S T ι τ) (Option (Edit S T))}
    {next : Act (Sequence S T ι τ) Unit} {f : Option (Edit S T) → Act (Sequence S T ι τ) Bool}
    {y : Act (Sequence S T ι τ) Bool} (hround : round g v = (x >>= settleRound next) v)
    (hsome : ∀ edit, f (some edit) = accept edit) (hnone : f none = next >>= fun _ => y)
    (hrest : x.Yields v (fun edit? v' => edit? = none → next.Yields v'
      (fun _ v'' => rounds g n v'' = (y >>= fun moved => pure (some moved)) v'') fun _ _ => True) fun _ _ => True) :
    rounds g (n + 1) v = ((x >>= f) >>= fun moved => pure (some moved)) v := by
  rw [rounds_succ n hround, bind_assoc, bind_assoc]
  refine Act.bind_eq rfl (hrest.mono (fun edit? v' h => ?_) fun _ _ h => h)
  cases edit? with
  | some edit =>
    rw [hsome, settleRound]
    simp only [bind_assoc, pure_bind]
  | none =>
    rw [hnone, settleRound, bind_assoc, bind_assoc]
    refine Act.bind_eq rfl ((h rfl).mono (fun _ v'' h => ?_) fun _ _ h => h)
    rw [pure_bind]
    exact h

theorem rounds_done (n : Nat) (hphase : v.cursor.phase = .done) :
    rounds g (n + 1) v = ((pure false : Act (Sequence S T ι τ) Bool) >>= fun moved => pure (some moved)) v := by
  have hround : round g v = (pure (some false) : Act (Sequence S T ι τ) _) v := by rw [round_eq, hphase]
  rw [rounds_succ n hround]
  rfl

theorem rounds_initial (n : Nat) (hphase : v.cursor.phase = .shrinkInitialState) :
    rounds g (n + 2) v = (shrinkInitial g >>= fun moved => pure (some moved)) v := by
  have hround : round g v = (shrinkInitialState g >>= settleRound (moveTo .done)) v := by rw [round_eq, hphase]
  refine rounds_of_attempt (n + 1) hround (fun _ => rfl) rfl ?_
  exact (Act.yields_trivial _ _).mono (fun _ _ _ _ => rounds_done n rfl) fun _ _ h => h

theorem rounds_transitions [BEq S] [BEq T] (n left : Nat) (hphase : v.cursor.phase = .shrinkTransition)
    (hleft : (v.length - v.cursor.index).toNat = left) :
    rounds g (n + left + 3) v = (shrinkTransitions g left >>= fun moved => pure (some moved)) v := by
  have htame := g.tame_of_anything
  -- An attempt that gives nothing leaves the cursor and the length, so one transition fewer is ahead.
  induction left generalizing v with
  | zero =>
    have hround : round g v = (moveTo .shrinkInitialState >>= fun _ => pure none) v := by
      rw [round_eq, hphase]
      exact congrFun (if_pos (by omega)) v
    rw [rounds_succ _ hround]
    unfold shrinkTransitions
    rw [bind_assoc, bind_assoc]
    exact Act.bind_eq rfl (rounds_initial n rfl)
  | succ left ih =>
    have hround : round g v = (shrinkTransition g v.cursor.index.toNat >>= settleRound stepIndex) v := by
      rw [round_eq, hphase]
      exact congrFun (if_neg (by omega)) v
    have hstep : shrinkTransitions g (left + 1) v = (shrinkTransition g v.cursor.index.toNat >>= fun
        | some edit => accept edit
        | none => stepIndex >>= fun _ => shrinkTransitions g left) v := rfl
    rw [Act.bind_eq hstep ((Act.yields_self _ _).mono (fun _ _ _ => rfl) fun _ _ _ => trivial)]
    refine rounds_of_attempt (n + left + 3) hround (fun _ => rfl) rfl ?_
    refine (shrinkTransition_yields htame.rules htame.transition v.trees_of_anything _).mono
      (fun edit? v' h hedit => ?_) fun _ _ _ => trivial
    subst hedit
    have hquiet : Quiet v v' := h.2
    have hlength : v'.length = v.length := congrArg Shape.length hquiet.shape
    refine ih ?_ ?_
    · exact (congrArg Cursor.phase hquiet.cursor).trans hphase
    · show (v'.length - (v'.cursor.index + 1)).toNat = left
      rw [hlength, hquiet.cursor]
      omega

theorem rounds_delete [BEq S] [BEq T] (n : Nat) (hphase : v.cursor.phase = .deleteTransition) :
    rounds g (n + v.length.toNat + 4) v = (delete g >>= fun moved => pure (some moved)) v := by
  have htame := g.tame_of_anything
  have hround : round g v = (deleteLast g >>= settleRound (moveTo .shrinkTransition)) v := by rw [round_eq, hphase]
  refine rounds_of_attempt (n + v.length.toNat + 3) hround (fun _ => rfl) rfl ?_
  refine (deleteLast_yields htame.rules v.trees_of_anything).mono (fun edit? v' h hedit => ?_)
    fun _ _ _ => trivial
  subst hedit
  have hquiet : Quiet v v' := h.2
  have hlength : v'.length = v.length := congrArg Shape.length hquiet.shape
  rw [← hlength]
  refine rounds_transitions n _ rfl ?_
  show (v'.length - 0).toNat = v'.length.toNat
  rw [Int.sub_zero]

/-- The loop ends by itself, and what it answers and leaves is what `shrink` does. -/
theorem shrinkWithin_eq [BEq S] [BEq T] (g : Shrinker S T ι τ) (v : Sequence S T ι τ) {n : Nat}
    (hn : v.length.toNat + (v.length - v.cursor.index).toNat + 4 ≤ n) :
    shrinkWithin g n v = (shrink g >>= fun moved => pure (some moved)) v := by
  unfold shrinkWithin shrink
  rw [bind_assoc]
  refine Act.bind_eq rfl ?_
  rw [Act.yields_modify]
  obtain ⟨k, rfl⟩ := Nat.exists_eq_add_of_le' hn
  generalize hforgot : ({ v with lastEdit := none } : Sequence S T ι τ) = w
  have hlength : w.length = v.length := by rw [← hforgot]
  have hcursor : w.cursor = v.cursor := by rw [← hforgot]
  rw [← hlength, ← hcursor]
  show _ = ((match w.cursor.phase with
    | .deleteTransition => delete g
    | .shrinkTransition => shrinkTransitions g (w.length - w.cursor.index).toNat
    | .shrinkInitialState => shrinkInitial g
    | .done => pure false) >>= fun moved => pure (some moved)) w
  generalize hleft : (w.length - w.cursor.index).toNat = left
  cases hphase : w.cursor.phase with
  | deleteTransition =>
    rw [show k + (w.length.toNat + left + 4) = k + left + w.length.toNat + 4 by omega]
    exact rounds_delete _ hphase
  | shrinkTransition =>
    rw [show k + (w.length.toNat + left + 4) = k + w.length.toNat + 1 + left + 3 by omega]
    exact rounds_transitions _ left hphase hleft
  | shrinkInitialState =>
    rw [← Nat.add_assoc]
    exact rounds_initial _ hphase
  | done =>
    rw [← Nat.add_assoc]
    exact rounds_done _ hphase

end StateCheck.Sequence
