import StateCheck.Text.Blank
import StateCheck.Text.Emoji.Flags
import StateCheck.Text.Emoji.Names
import StateCheck.Text.Emoji.People
import StateCheck.Text.Letters

/-!
Names of pictures between colons, such as `:bug:`, are shown as the pictures. A name may end in `-text` or
`-emoji`, which ask for the sign or the picture; its case does not matter.
-/

namespace StateCheck.Text.Emoji

def chart : List (String × String) := named ++ people ++ tonedPeople ++ flags

def variants : List (String × Char) := [("-text", '\ufe0e'), ("-emoji", '\ufe0f')]

def picture? (name : List Char) : Option (List Char) :=
  let variant := variants.find? fun (ending, _) => ending.toList.isSuffixOf name
  let stem := name.take (name.length - (variant.elim 0 fun (ending, _) => ending.length))
  (chart.lookup (lower (String.ofList stem))).map fun picture =>
    picture.toList ++ (variant.map (·.2)).toList

def name? : List Char → Option (List Char × List Char)
  | [] => none
  | c :: rest =>
    if c = ':' then some ([], rest)
    else if isGap c then none
    else (name? rest).map fun p => (c :: p.1, p.2)

theorem name?_append {cs name rest : List Char} (h : name? cs = some (name, rest)) :
    name ++ ':' :: rest = cs := by
  induction cs generalizing name with
  | nil => simp [name?] at h
  | cons c cs ih =>
    unfold name? at h
    split at h
    · simp_all
    · split at h
      · simp at h
      · obtain ⟨p, hp, he⟩ := Option.map_eq_some_iff.1 h
        simp only [Prod.mk.injEq] at he
        obtain ⟨rfl, rfl⟩ := he
        simp [ih hp]

def draw : List Char → List Char
  | [] => []
  | c :: rest =>
    if c = ':' then
      match _h : name? rest with
      | some (name, after) => (picture? name).getD (':' :: name ++ [':']) ++ draw after
      | none => c :: draw rest
    else c :: draw rest
termination_by cs => cs.length
decreasing_by
  · have := congrArg List.length (name?_append _h)
    simp only [List.length_append, List.length_cons] at this ⊢
    omega
  all_goals simp

end StateCheck.Text.Emoji
