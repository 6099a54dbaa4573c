import StateCheck.Proofs.Yields

/-! Two runs side by side, on states that are related: the second one answers, raises and leaves what the first one
does. -/

namespace StateCheck.Act
variable {σ τ α β : Type} {R : σ → τ → Prop} {x x' : Act σ α} {y y' : Act τ α} {f : α → Act σ β} {g : α → Act τ β}
  {s : σ} {t : τ}

/-- What is sure to come of `x` comes of `y` as well, but for the relation of the states. -/
def Coupled (R : σ → τ → Prop) (x : Act σ α) (y : Act τ α) (s : σ) (t : τ) : Prop :=
  ∀ Q E, x.Yields s Q E →
    y.Yields t (fun a t' => ∃ s', R s' t' ∧ Q a s') fun e t' => ∃ s', R s' t' ∧ E e s'

theorem Coupled.answer (h : Coupled R x y s t) : (y t).answer = (x s).answer := by
  have hself := h _ _ (x.yields_self s)
  cases hanswer : (y t).answer with
  | ok a =>
    obtain ⟨s', -, ha, -⟩ := hself.of_ok hanswer
    exact ha.symm
  | error e =>
    obtain ⟨s', -, he, -⟩ := hself.of_error hanswer
    exact he.symm

theorem coupled_of_eq (hanswer : (y t).answer = (x s).answer) (hstate : R (x s).state (y t).state) :
    Coupled R x y s t := by
  intro Q E h
  unfold Yields at h ⊢
  rw [hanswer]
  split at h
  · exact ⟨_, hstate, h⟩
  · exact ⟨_, hstate, h⟩

theorem Coupled.congr (h : Coupled R x y s t) (hx : x' s = x s) (hy : y' t = y t) : Coupled R x' y' s t := by
  intro Q E hyields
  rw [yields_congr hy]
  exact h Q E ((yields_congr hx).1 hyields)

theorem coupled_pure (a : α) (h : R s t) : Coupled R (pure a) (pure a) s t := coupled_of_eq rfl h

theorem coupled_log (note : Note) (h : R s t) : Coupled R (log note) (log note) s t := coupled_of_eq rfl h

theorem coupled_set {s' : σ} {t' : τ} (h : R s' t') : Coupled R (set s') (set t') s t := coupled_of_eq rfl h

theorem coupled_modify {φ : σ → σ} {ψ : τ → τ} (h : R (φ s) (ψ t)) : Coupled R (modify φ) (modify ψ) s t :=
  coupled_of_eq rfl h

theorem coupled_get {k : σ → Act σ β} {l : τ → Act τ β} (h : Coupled R (k s) (l t) s t) :
    Coupled R (get >>= k) (get >>= l) s t := by
  intro Q E hyields
  rw [yields_bind, yields_get] at hyields ⊢
  exact h Q E hyields

theorem Coupled.bind (hx : Coupled R x y s t)
    (hf : x.Yields s (fun a s' => ∀ t', R s' t' → Coupled R (f a) (g a) s' t') fun _ _ => True) :
    Coupled R (x >>= f) (y >>= g) s t := by
  intro Q E h
  rw [yields_bind] at h ⊢
  refine (hx _ _ (h.and hf)).mono (fun a t' h => ?_) fun e t' h => ?_
  · obtain ⟨s', hR, hyields, hcoupled⟩ := h
    exact hcoupled t' hR Q E hyields
  · obtain ⟨s', hR, he, -⟩ := h
    exact ⟨s', hR, he⟩

theorem Coupled.andThen (hx : Coupled R x y s t) (hf : ∀ a s' t', R s' t' → Coupled R (f a) (g a) s' t') :
    Coupled R (x >>= f) (y >>= g) s t :=
  hx.bind ((x.yields_trivial s).mono (fun a s' _ t' => hf a s' t') fun _ _ h => h)

theorem coupled_bind_pure {φ : α → β} (hφ : Function.Injective φ)
    (h : Coupled R (x >>= fun a => pure (φ a)) (y >>= fun a => pure (φ a)) s t) : Coupled R x y s t := by
  intro Q E hyields
  have hbind : (x >>= fun a => pure (φ a)).Yields s (fun b s' => ∀ a, φ a = b → Q a s') E := by
    rw [yields_bind]
    exact hyields.mono (fun a s' hQ a' ha => hφ ha ▸ hQ) fun _ _ h => h
  have hcoupled := h _ _ hbind
  rw [yields_bind] at hcoupled
  refine hcoupled.mono (fun a t' h => ?_) fun _ _ h => h
  obtain ⟨s', hR, hQ⟩ := h
  exact ⟨s', hR, hQ a rfl⟩

theorem coupled_on {ρ ω : Type} {P : ρ → ω → Prop} {part : ρ → σ} {put : σ → ρ → ρ} {part' : ω → τ} {put' : τ → ω → ω}
    {r : ρ} {w : ω} (hx : Coupled R x y (part r) (part' w)) (hput : ∀ s' t', R s' t' → P (put s' r) (put' t' w)) :
    Coupled P (on part put x) (on part' put' y) r w := by
  intro Q E h
  rw [yields_on] at h ⊢
  refine (hx _ _ h).mono (fun a t' h => ?_) fun e t' h => ?_
  · obtain ⟨s', hR, hQ⟩ := h
    exact ⟨_, hput s' t' hR, hQ⟩
  · obtain ⟨s', hR, hE⟩ := h
    exact ⟨_, hput s' t' hR, hE⟩

end StateCheck.Act
