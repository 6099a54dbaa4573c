import StateCheck.Text.Letters

/-! Plain letters in one case: the small ones tell the same texts apart as the capitals. Elsewhere they do not; the sign
for kelvin is a k in small letters alone, and the long s is an s in capitals alone. -/

namespace StateCheck.Text
variable {cs : List Char}

def Plain (cs : List Char) : Prop := ∀ c ∈ cs, c.toNat < 0x80

instance (cs : List Char) : Decidable (Plain cs) :=
  decidable_of_iff (cs.all fun c => c.toNat < 0x80) (by simp [Plain])

theorem Plain.forall {P : Char → Prop} (h : Plain cs) (hP : ∀ n < 0x80, P (Char.ofNat n)) : ∀ c ∈ cs, P c := by
  intro c hc
  have hn := hP c.toNat (h c hc)
  rwa [Char.ofNat_toNat] at hn

theorem Plain.map_lowerChar (h : Plain cs) : cs.map lowerChar = cs.map Char.toLower :=
  List.map_congr_left (h.forall (by decide))

theorem Plain.flatMap_upperChars (h : Plain cs) : cs.flatMap upperChars = cs.map Char.toUpper := by
  have hchars : ∀ c ∈ cs, upperChars c = [c.toUpper] := h.forall (by decide)
  clear h
  induction cs with
  | nil => rfl
  | cons c rest ih =>
    rw [List.flatMap_cons, hchars c List.mem_cons_self, ih fun c hc => hchars c (List.mem_cons_of_mem _ hc)]
    rfl

theorem Plain.map_toUpper (h : Plain cs) : (cs.map Char.toLower).map Char.toUpper = cs.map Char.toUpper := by
  rw [List.map_map]
  exact List.map_congr_left (h.forall (by decide))

theorem Plain.map_toLower (h : Plain cs) : (cs.map Char.toUpper).map Char.toLower = cs.map Char.toLower := by
  rw [List.map_map]
  exact List.map_congr_left (h.forall (by decide))

theorem upper_eq_iff {s t : String} (hs : Plain s.toList) (ht : Plain t.toList) :
    upper s = upper t ↔ lower s = lower t := by
  unfold upper lower
  rw [String.ofList_inj, String.ofList_inj, hs.flatMap_upperChars, ht.flatMap_upperChars, hs.map_lowerChar,
    ht.map_lowerChar]
  refine ⟨fun h => ?_, fun h => ?_⟩
  · rw [← hs.map_toLower, ← ht.map_toLower, h]
  · rw [← hs.map_toUpper, ← ht.map_toUpper, h]

end StateCheck.Text
