import StateCheck.Settings.Named

/-! Values put after, and in place of, others. A test on names may pass several spellings of one name; here no two
that pass are there. -/

namespace StateCheck.Named
variable {α : Type} {p : String → Bool} {pairs others : Named α} {name : String} {value : α} {pair : String × α}

def first? (pairs : Named α) (p : String → Bool) : Option α := (pairs.find? fun pair => p pair.1).map (·.2)

def last? (pairs : Named α) (p : String → Bool) : Option α := first? pairs.reverse p

def Alike (p : String → Bool) (pairs : Named α) : Prop :=
  ∀ a ∈ pairs, ∀ b ∈ pairs, p a.1 → p b.1 → a.1 = b.1

theorem Alike.mono (h : Alike p others) (hsub : ∀ pair ∈ pairs, pair ∈ others) : Alike p pairs :=
  fun a ha b hb => h a (hsub a ha) b (hsub b hb)

theorem first?_cons (pair : String × α) (pairs : Named α) (p : String → Bool) :
    first? (pair :: pairs) p = if p pair.1 then some pair.2 else first? pairs p := by
  unfold first?
  rw [List.find?_cons]
  cases p pair.1 <;> rfl

theorem last?_cons (pair : String × α) (pairs : Named α) (p : String → Bool) :
    last? (pair :: pairs) p = (last? pairs p).or (first? [pair] p) := by
  unfold last? first?
  rw [List.reverse_cons, List.find?_append, Option.map_or]

theorem first?_of_none (h : ∀ pair ∈ pairs, ¬ p pair.1) : first? pairs p = none := by
  rw [first?, List.find?_eq_none.2 h]
  rfl

theorem first?_filter {f : String × α → Bool} (h : ∀ pair ∈ pairs, p pair.1 → f pair) :
    first? (pairs.filter f) p = first? pairs p := by
  induction pairs with
  | nil => rfl
  | cons pair rest ih =>
    have hrest := ih fun pair hpair => h pair (List.mem_cons_of_mem _ hpair)
    by_cases hp : p pair.1
    · rw [List.filter_cons_of_pos (h pair List.mem_cons_self hp), first?_cons, first?_cons, if_pos hp, if_pos hp]
    · rw [first?_cons, if_neg hp, ← hrest, List.filter_cons]
      split
      · rw [first?_cons, if_neg hp]
      · rfl

theorem mem_of_mem_insert (h : pair ∈ pairs.insert name value) : pair = (name, value) ∨ pair ∈ pairs := by
  induction pairs with
  | nil => exact .inl (List.mem_singleton.1 h)
  | cons first rest ih =>
    unfold insert at h
    split at h
    · exact (List.mem_cons.1 h).imp_right (List.mem_cons_of_mem first)
    · rcases List.mem_cons.1 h with rfl | h
      · exact .inr List.mem_cons_self
      · exact (ih h).imp_right (List.mem_cons_of_mem first)

theorem mem_of_mem_union (h : pair ∈ pairs.union others) : pair ∈ pairs ∨ pair ∈ others := by
  induction others generalizing pairs with
  | nil => exact .inl h
  | cons other rest ih =>
    rcases ih h with h | h
    · rcases mem_of_mem_insert h with rfl | h
      · exact .inr List.mem_cons_self
      · exact .inl h
    · exact .inr (List.mem_cons_of_mem other h)

theorem first?_insert (h : p name → ∀ pair ∈ pairs, p pair.1 → pair.1 = name) :
    first? (pairs.insert name value) p = (first? [(name, value)] p).or (first? pairs p) := by
  induction pairs with
  | nil => exact (Option.or_none).symm
  | cons pair rest ih =>
    have hrest := ih fun hname pair hpair => h hname pair (List.mem_cons_of_mem _ hpair)
    rw [insert, first?_cons, first?_cons]
    split
    · rename_i hsame
      rw [← eq_of_beq hsame, first?_cons]
      by_cases hp : p pair.1
      · simp only [if_pos hp]
        rfl
      · simp only [if_neg hp]
        rfl
    · rename_i hother
      by_cases hp : p pair.1
      · have hname : ¬ p name := fun hname => hother (beq_iff_eq.2 (h hname pair List.mem_cons_self hp))
        rw [first?_cons, if_pos hp, if_neg hname, if_pos hp]
        rfl
      · rw [first?_cons, if_neg hp, if_neg hp, hrest, first?_cons]

theorem first?_union (h : Alike p (pairs ++ others)) :
    first? (pairs.union others) p = (last? others p).or (first? pairs p) := by
  induction others generalizing pairs with
  | nil => rfl
  | cons other rest ih =>
    have hmem : ∀ pair ∈ pairs.insert other.1 other.2 ++ rest, pair ∈ pairs ++ other :: rest := by
      intro pair hpair
      rcases List.mem_append.1 hpair with hpair | hpair
      · rcases mem_of_mem_insert hpair with rfl | hpair
        · exact List.mem_append_right _ List.mem_cons_self
        · exact List.mem_append_left _ hpair
      · exact List.mem_append_right _ (List.mem_cons_of_mem _ hpair)
    have hinsert : p other.1 → ∀ pair ∈ pairs, p pair.1 → pair.1 = other.1 := fun hother pair hpair hp =>
      h pair (List.mem_append_left _ hpair) other (List.mem_append_right _ List.mem_cons_self) hp hother
    have hunion : pairs.union (other :: rest) = (pairs.insert other.1 other.2).union rest := rfl
    rw [hunion, ih (h.mono hmem), first?_insert hinsert, last?_cons, Option.or_assoc]

end StateCheck.Named
