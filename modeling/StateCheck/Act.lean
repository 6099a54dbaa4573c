import StateCheck.Note

/-!
Steps on a state that may raise and may log. The state a step leaves is kept when it raises, so what a
failed step already did is not lost.
-/

namespace StateCheck

structure Result (σ α : Type) where
  answer : Except Fault α
  state : σ
  notes : List Note := []

def Act (σ α : Type) : Type := σ → Result σ α

namespace Act
variable {σ τ α β : Type}

instance : Monad (Act σ) where
  pure a := fun s => ⟨.ok a, s, []⟩
  bind x f := fun s =>
    match x s with
    | ⟨.error e, s', notes⟩ => ⟨.error e, s', notes⟩
    | ⟨.ok a, s', notes⟩ =>
      let r := f a s'
      ⟨r.answer, r.state, notes ++ r.notes⟩

@[simp] theorem pure_apply (a : α) (s : σ) : (pure a : Act σ α) s = ⟨.ok a, s, []⟩ := rfl

theorem bind_apply (x : Act σ α) (f : α → Act σ β) (s : σ) : (x >>= f) s =
    match x s with
    | ⟨.error e, s', notes⟩ => ⟨.error e, s', notes⟩
    | ⟨.ok a, s', notes⟩ => ⟨(f a s').answer, (f a s').state, notes ++ (f a s').notes⟩ := rfl

theorem bind_of_ok {x : Act σ α} {f : α → Act σ β} {s s' : σ} {a : α} {notes : List Note}
    (h : x s = ⟨.ok a, s', notes⟩) :
    (x >>= f) s = ⟨(f a s').answer, (f a s').state, notes ++ (f a s').notes⟩ := by
  rw [bind_apply, h]

theorem bind_of_error {x : Act σ α} {f : α → Act σ β} {s s' : σ} {e : Fault} {notes : List Note}
    (h : x s = ⟨.error e, s', notes⟩) : (x >>= f) s = ⟨.error e, s', notes⟩ := by
  rw [bind_apply, h]

instance : LawfulMonad (Act σ) := LawfulMonad.mk' (Act σ)
  (fun x => by
    funext s
    show (x >>= pure) s = x s
    rw [bind_apply]
    split <;> simp_all)
  (fun a f => by
    funext s
    rw [bind_apply]
    simp)
  (fun x f g => by
    funext s
    simp only [bind_apply]
    rcases x s with ⟨_ | a, s', notes⟩
    · rfl
    · dsimp only
      generalize f a s' = r
      rcases r with ⟨_ | b, s'', notes'⟩ <;> simp)

def raise (e : Fault) : Act σ α := fun s => ⟨.error e, s, []⟩

def lift : Except Fault α → Act σ α
  | .ok a => pure a
  | .error e => raise e

def get : Act σ σ := fun s => ⟨.ok s, s, []⟩

def set (s : σ) : Act σ Unit := fun _ => ⟨.ok (), s, []⟩

def modify (f : σ → σ) : Act σ Unit := fun s => ⟨.ok (), f s, []⟩

def log (note : Note) : Act σ Unit := fun s => ⟨.ok (), s, [note]⟩

def ask (f : σ → Except Fault α) : Act σ α := fun s => ⟨f s, s, []⟩

def ofMove (f : σ → α × σ) : Act σ α := fun s => ⟨.ok (f s).1, (f s).2, []⟩

def on (part : σ → τ) (put : τ → σ → σ) (x : Act τ α) : Act σ α := fun s =>
  let r := x (part s)
  ⟨r.answer, put r.state s, r.notes⟩

def attempt (x : Act σ α) : Act σ (Except Fault α) := fun s =>
  let r := x s
  ⟨.ok r.answer, r.state, r.notes⟩

@[simp] theorem raise_apply (e : Fault) (s : σ) : (raise e : Act σ α) s = ⟨.error e, s, []⟩ := rfl

@[simp] theorem lift_apply (x : Except Fault α) (s : σ) : (lift x : Act σ α) s = ⟨x, s, []⟩ := by
  cases x <;> rfl

@[simp] theorem get_apply (s : σ) : (get : Act σ σ) s = ⟨.ok s, s, []⟩ := rfl

@[simp] theorem set_apply (s s' : σ) : set s s' = ⟨.ok (), s, []⟩ := rfl

@[simp] theorem modify_apply (f : σ → σ) (s : σ) : modify f s = ⟨.ok (), f s, []⟩ := rfl

@[simp] theorem log_apply (note : Note) (s : σ) : log note s = ⟨.ok (), s, [note]⟩ := rfl

@[simp] theorem ask_apply (f : σ → Except Fault α) (s : σ) : ask f s = ⟨f s, s, []⟩ := rfl

@[simp] theorem ofMove_apply (f : σ → α × σ) (s : σ) :
    ofMove f s = ⟨.ok (f s).1, (f s).2, []⟩ := rfl

def each (f : α → Act σ β) : List α → Act σ (List β)
  | [] => pure []
  | a :: rest => do
    let b ← f a
    let bs ← each f rest
    pure (b :: bs)

def times (x : Act σ α) : Nat → Act σ (List α)
  | 0 => pure []
  | n + 1 => do
    let a ← x
    let rest ← times x n
    pure (a :: rest)

/-- Runs a step at most `n` times and collects the answers up to the fault that ends it, if one does. -/
def collect (x : Act σ α) : Nat → Act σ (List α × Option Fault)
  | 0 => pure ([], none)
  | n + 1 => do
    match ← attempt x with
    | .ok a =>
      let (rest, e) ← collect x n
      pure (a :: rest, e)
    | .error e => pure ([], some e)

end Act
end StateCheck
