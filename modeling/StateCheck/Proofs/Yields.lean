import StateCheck.Tree.Basic

/-! What a step leads to, as a transformer of predicates: one on the answer and the state that comes
with it, one on the fault and the state that a step leaves when it raises. -/

namespace StateCheck

def Act.Yields {σ α : Type} (x : Act σ α) (s : σ) (Q : α → σ → Prop) (E : Fault → σ → Prop) : Prop :=
  match (x s).answer with
  | .ok a => Q a (x s).state
  | .error e => E e (x s).state

namespace Act.Yields
variable {σ α : Type} {x : Act σ α} {s : σ} {Q Q' : α → σ → Prop} {E E' : Fault → σ → Prop}

theorem of_ok {a : α} (h : x.Yields s Q E) (hx : (x s).answer = .ok a) : Q a (x s).state := by
  simpa only [Act.Yields, hx] using h

theorem of_error {e : Fault} (h : x.Yields s Q E) (hx : (x s).answer = .error e) :
    E e (x s).state := by
  simpa only [Act.Yields, hx] using h

theorem mono (h : x.Yields s Q E) (hQ : ∀ a s', Q a s' → Q' a s') (hE : ∀ e s', E e s' → E' e s') :
    x.Yields s Q' E' := by
  unfold Act.Yields at h ⊢
  split at h
  · exact hQ _ _ h
  · exact hE _ _ h

theorem and (h : x.Yields s Q E) (h' : x.Yields s Q' E') :
    x.Yields s (fun a s' => Q a s' ∧ Q' a s') (fun e s' => E e s' ∧ E' e s') := by
  unfold Act.Yields at h h' ⊢
  split at h
  · rename_i hx
    rw [hx] at h'
    exact ⟨h, h'⟩
  · rename_i hx
    rw [hx] at h'
    exact ⟨h, h'⟩

theorem state {P : σ → Prop} (h : x.Yields s (fun _ s' => P s') fun _ s' => P s') : P (x s).state := by
  unfold Act.Yields at h
  split at h
  · exact h
  · exact h

theorem answers (h : x.Yields s Q fun _ _ => False) : ∃ a, (x s).answer = .ok a ∧ Q a (x s).state := by
  unfold Act.Yields at h
  split at h
  · exact ⟨_, ‹_›, h⟩
  · exact h.elim

end Act.Yields

namespace Act
variable {σ τ α β : Type} {Q : α → σ → Prop} {E : Fault → σ → Prop} {s : σ}

theorem yields_self (x : Act σ α) (s : σ) :
    x.Yields s (fun a s' => (x s).answer = .ok a ∧ (x s).state = s')
      (fun e s' => (x s).answer = .error e ∧ (x s).state = s') := by
  unfold Yields
  split
  · exact ⟨‹_›, rfl⟩
  · exact ⟨‹_›, rfl⟩

theorem yields_trivial (x : Act σ α) (s : σ) : x.Yields s (fun _ _ => True) fun _ _ => True :=
  (x.yields_self s).mono (fun _ _ _ => trivial) fun _ _ _ => trivial

theorem yields_of_never_raises {x : Act σ α} (hx : ∀ e, (x s).answer ≠ .error e) :
    x.Yields s (fun _ _ => True) fun _ _ => False :=
  (x.yields_self s).mono (fun _ _ _ => trivial) (fun e _ h => hx e h.1)

theorem yields_of_answer {x : Act σ α} {a : α} (h : (x s).answer = .ok a) :
    x.Yields s Q E ↔ Q a (x s).state := by
  unfold Yields
  rw [h]

theorem yields_iff {x : Act σ α} {Q' : α → σ → Prop} {E' : Fault → σ → Prop} (hQ : ∀ a s', Q a s' ↔ Q' a s')
    (hE : ∀ e s', E e s' ↔ E' e s') : x.Yields s Q E ↔ x.Yields s Q' E' :=
  ⟨fun h => h.mono (fun a s' => (hQ a s').1) fun e s' => (hE e s').1,
    fun h => h.mono (fun a s' => (hQ a s').2) fun e s' => (hE e s').2⟩

theorem yields_congr {x y : Act σ α} (h : x s = y s) : x.Yields s Q E ↔ y.Yields s Q E := by
  unfold Yields
  rw [h]

theorem answer_bind (x : Act σ α) (f : α → Act σ β) (s : σ) : ((x >>= f) s).answer =
    match (x s).answer with
    | .ok a => (f a (x s).state).answer
    | .error e => .error e := by
  rw [bind_apply]
  rcases x s with ⟨_ | a, s', notes⟩ <;> rfl

@[simp] theorem yields_pure (a : α) : (pure a : Act σ α).Yields s Q E ↔ Q a s := Iff.rfl

@[simp] theorem yields_bind (x : Act σ α) (f : α → Act σ β) (R : β → σ → Prop) :
    (x >>= f).Yields s R E ↔ x.Yields s (fun a s' => (f a).Yields s' R E) E := by
  unfold Yields
  rw [bind_apply]
  rcases x s with ⟨_ | a, s', notes⟩ <;> rfl

theorem yields_after {x : Act σ α} {f : α → Act σ β} {R : β → σ → Prop}
    (h : ∀ a s', (f a).Yields s' R fun _ _ => True) : (x >>= f).Yields s R fun _ _ => True := by
  rw [yields_bind]
  exact (x.yields_trivial s).mono (fun a s' _ => h a s') fun _ _ h => h

theorem bind_eq {x y : Act σ α} {f g : α → Act σ β} (hxy : x s = y s)
    (h : x.Yields s (fun a s' => f a s' = g a s') fun _ _ => True) : (x >>= f) s = (y >>= g) s := by
  unfold Yields at h
  rw [bind_apply, bind_apply, ← hxy]
  rcases hx : x s with ⟨_ | a, s', notes⟩
  · rfl
  · rw [hx] at h
    dsimp only at h ⊢
    rw [h]

@[simp] theorem yields_raise (e : Fault) : (raise e : Act σ α).Yields s Q E ↔ E e s := Iff.rfl

@[simp] theorem yields_lift (x : Except Fault α) :
    (lift x : Act σ α).Yields s Q E ↔ (∀ a, x = .ok a → Q a s) ∧ ∀ e, x = .error e → E e s := by
  cases x <;> simp [lift]

@[simp] theorem yields_get {R : σ → σ → Prop} : (get : Act σ σ).Yields s R E ↔ R s s := Iff.rfl

@[simp] theorem yields_set {R : Unit → σ → Prop} (s' : σ) : (set s').Yields s R E ↔ R () s' := Iff.rfl

@[simp] theorem yields_modify {R : Unit → σ → Prop} (f : σ → σ) :
    (modify f).Yields s R E ↔ R () (f s) := Iff.rfl

@[simp] theorem yields_log {R : Unit → σ → Prop} (note : Note) : (log note).Yields s R E ↔ R () s :=
  Iff.rfl

@[simp] theorem yields_ask (f : σ → Except Fault α) :
    (ask f).Yields s Q E ↔ (∀ a, f s = .ok a → Q a s) ∧ ∀ e, f s = .error e → E e s := by
  unfold Yields
  rw [ask_apply]
  cases f s <;> simp

@[simp] theorem yields_ofMove (f : σ → α × σ) : (ofMove f).Yields s Q E ↔ Q (f s).1 (f s).2 := Iff.rfl

@[simp] theorem yields_on (part : σ → τ) (put : τ → σ → σ) (x : Act τ α) :
    (on part put x).Yields s Q E ↔
      x.Yields (part s) (fun a t => Q a (put t s)) (fun e t => E e (put t s)) := Iff.rfl

@[simp] theorem yields_attempt (x : Act σ α) {R : Except Fault α → σ → Prop} :
    (attempt x).Yields s R E ↔ x.Yields s (fun a s' => R (.ok a) s') (fun e s' => R (.error e) s') := by
  unfold Yields attempt
  rcases x s with ⟨_ | a, s', notes⟩ <;> rfl

theorem yields_ite (c : Prop) [Decidable c] (x y : Act σ α) :
    (if c then x else y).Yields s Q E ↔ (c → x.Yields s Q E) ∧ (¬c → y.Yields s Q E) := by
  split <;> simp_all

theorem yields_onItem {items : List τ} {item : τ} {i : Nat} (hi : items[i]? = some item) (outside : α)
    (x : Act τ α) {R : α → List τ → Prop} {F : Fault → List τ → Prop} :
    (onItem i outside x).Yields items R F ↔
      x.Yields item (fun a item' => R a (items.set i item')) (fun e item' => F e (items.set i item')) := by
  unfold Yields onItem
  rw [hi]

theorem yields_onItem_outside {items : List τ} {i : Nat} (hi : items[i]? = none) (outside : α)
    (x : Act τ α) {R : α → List τ → Prop} {F : Fault → List τ → Prop} :
    (onItem i outside x).Yields items R F ↔ R outside items := by
  unfold Yields onItem
  rw [hi]

theorem yields_each {f : α → Act σ β} {Inv : σ → Prop} {items : List α}
    (hstep : ∀ a ∈ items, ∀ s, Inv s → (f a).Yields s (fun _ s' => Inv s') E) (hs : Inv s) :
    (each f items).Yields s (fun _ s' => Inv s') E := by
  induction items generalizing s with
  | nil => exact hs
  | cons a rest ih =>
    unfold each
    rw [yields_bind]
    refine (hstep a List.mem_cons_self s hs).mono (fun _ s' hs' => ?_) (fun _ _ h => h)
    rw [yields_bind]
    exact ih (fun a ha => hstep a (List.mem_cons_of_mem _ ha)) hs'

theorem yields_each_all {f : α → Act σ β} {R : β → Prop} {items : List α}
    (hf : ∀ a ∈ items, ∀ s, (f a).Yields s (fun b _ => R b) E) (s : σ) :
    (each f items).Yields s (fun bs _ => ∀ b ∈ bs, R b) E := by
  induction items generalizing s with
  | nil => exact nofun
  | cons a rest ih =>
    unfold each
    rw [yields_bind]
    refine (hf a List.mem_cons_self s).mono (fun b s' hb => ?_) (fun _ _ h => h)
    rw [yields_bind]
    refine (ih (fun a ha => hf a (List.mem_cons_of_mem _ ha)) s').mono (fun bs _ hbs => ?_) (fun _ _ h => h)
    exact List.forall_mem_cons.2 ⟨hb, hbs⟩

theorem yields_each_map {f : α → Act σ β} {g : β → α} {items : List α}
    (hf : ∀ a ∈ items, ∀ s, (f a).Yields s (fun b _ => g b = a) E) (s : σ) :
    (each f items).Yields s (fun bs _ => bs.map g = items) E := by
  induction items generalizing s with
  | nil => exact rfl
  | cons a rest ih =>
    unfold each
    rw [yields_bind]
    refine (hf a List.mem_cons_self s).mono (fun b s' hb => ?_) (fun _ _ h => h)
    rw [yields_bind]
    refine (ih (fun a ha => hf a (List.mem_cons_of_mem _ ha)) s').mono (fun bs _ hbs => ?_) (fun _ _ h => h)
    rw [yields_pure, List.map_cons, hb, hbs]

theorem yields_times_all {x : Act σ α} {R : α → Prop} (hx : ∀ s, x.Yields s (fun a _ => R a) E) (n : Nat) (s : σ) :
    (times x n).Yields s (fun as _ => ∀ a ∈ as, R a) E := by
  induction n generalizing s with
  | zero => exact nofun
  | succ n ih =>
    unfold times
    rw [yields_bind]
    refine (hx s).mono (fun a s' ha => ?_) (fun _ _ h => h)
    rw [yields_bind]
    refine (ih s').mono (fun as _ has => ?_) (fun _ _ h => h)
    exact List.forall_mem_cons.2 ⟨ha, has⟩

theorem yields_times_length {x : Act σ α} (hx : ∀ s, x.Yields s (fun _ _ => True) E) (n : Nat) (s : σ) :
    (times x n).Yields s (fun as _ => as.length = n) E := by
  induction n generalizing s with
  | zero => exact rfl
  | succ n ih =>
    unfold times
    rw [yields_bind]
    refine (hx s).mono (fun a s' _ => ?_) (fun _ _ h => h)
    rw [yields_bind]
    exact (ih s').mono (fun as _ has => congrArg Nat.succ has) (fun _ _ h => h)

theorem answer_times_succ (x : Act σ α) (n : Nat) (s : σ) {as : List α} :
    (times x (n + 1) s).answer = .ok as ↔ ∃ a rest, (x s).answer = .ok a ∧
      (times x n (x s).state).answer = .ok rest ∧ as = a :: rest := by
  have htimes : times x (n + 1) = x >>= fun a => times x n >>= fun rest => pure (a :: rest) := rfl
  rw [htimes, answer_bind]
  cases (x s).answer with
  | error e =>
    refine ⟨nofun, ?_⟩
    rintro ⟨a, rest, ha, -⟩
    cases ha
  | ok a =>
    dsimp only
    rw [answer_bind]
    cases (times x n (x s).state).answer with
    | error e =>
      refine ⟨nofun, ?_⟩
      rintro ⟨a, rest, -, hrest, -⟩
      cases hrest
    | ok rest =>
      refine ⟨?_, ?_⟩
      · intro h
        cases h
        exact ⟨a, rest, rfl, rfl, rfl⟩
      · rintro ⟨a', rest', ha, hrest, rfl⟩
        cases ha
        cases hrest
        rfl

end Act

section Except
variable {α β : Type} {x : Except Fault α} {f : α → Except Fault β}

theorem bind_eq_ok {b : β} : (x >>= f) = .ok b ↔ ∃ a, x = .ok a ∧ f a = .ok b := by
  cases x with
  | error e =>
    refine ⟨?_, ?_⟩
    · intro h
      cases h
    · intro ⟨a, ha, _⟩
      cases ha
  | ok a =>
    refine ⟨fun h => ⟨a, rfl, h⟩, ?_⟩
    intro ⟨a', ha, h⟩
    cases ha
    exact h

theorem bind_eq_error {e : Fault} :
    (x >>= f) = .error e ↔ x = .error e ∨ ∃ a, x = .ok a ∧ f a = .error e := by
  cases x with
  | error e' =>
    refine ⟨?_, ?_⟩
    · intro h
      cases h
      exact .inl rfl
    · intro h
      rcases h with h | ⟨a, ha, -⟩
      · cases h
        rfl
      · cases ha
  | ok a =>
    refine ⟨fun h => .inr ⟨a, rfl, h⟩, ?_⟩
    intro h
    rcases h with h | ⟨a', ha, h⟩
    · cases h
    · cases ha
      exact h

theorem toOption_eq_some {a : α} : x.toOption = some a ↔ x = .ok a := by
  cases x with
  | error e => exact ⟨nofun, nofun⟩
  | ok b => exact ⟨fun h => congrArg Except.ok (Option.some.inj h), fun h => congrArg some (Except.ok.inj h)⟩

theorem exists_of_found {x : Except Fault (Option α)} {f : α → β} {b : β} (h : x.toOption.join.map f = some b) :
    ∃ a, x = .ok (some a) ∧ f a = b := by
  cases x with
  | error e => cases h
  | ok a? =>
    cases a? with
    | none => cases h
    | some a => exact ⟨a, rfl, Option.some.inj h⟩

end Except
end StateCheck
