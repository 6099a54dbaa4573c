import StateCheck.Text.Emoji

/-!
Text with style tags in brackets. A tag is a bracket, a small letter or one of `#/@`, and what follows up
to the closing bracket; backslashes in front of it escape it, and each other.
-/

namespace StateCheck.Text.Markup

def startsTag (c : Char) : Bool := ('a' ≤ c && c ≤ 'z') || c = '#' || c = '/' || c = '@'

def closing : List Char → Option (List Char × List Char)
  | [] => none
  | ']' :: rest => some ([']'], rest)
  | c :: rest => if c = '[' then none else (closing rest).map fun p => (c :: p.1, p.2)

def tag? : List Char → Option (List Char × List Char)
  | '[' :: c :: rest =>
    if startsTag c then (closing rest).map fun p => ('[' :: c :: p.1, p.2) else none
  | _ => none

theorem closing_append {cs tag rest : List Char} (h : closing cs = some (tag, rest)) :
    tag ++ rest = cs := by
  induction cs generalizing tag with
  | nil => simp [closing] at h
  | cons c cs ih =>
    unfold closing at h
    split at h
    · simp at h
    · rename_i heq
      injection heq with h1 h2
      subst h1 h2
      simp only [Option.some.injEq, Prod.mk.injEq] at h
      obtain ⟨rfl, rfl⟩ := h
      rfl
    · rename_i heq
      injection heq with h1 h2
      subst h1 h2
      split at h
      · simp at h
      · obtain ⟨p, hp, he⟩ := Option.map_eq_some_iff.1 h
        simp only [Prod.mk.injEq] at he
        obtain ⟨rfl, rfl⟩ := he
        have := ih hp
        simp [this]

theorem tag?_append {cs tag rest : List Char} (h : tag? cs = some (tag, rest)) : tag ++ rest = cs := by
  unfold tag? at h
  split at h
  · split at h
    · obtain ⟨p, hp, he⟩ := Option.map_eq_some_iff.1 h
      simp only [Prod.mk.injEq] at he
      obtain ⟨rfl, rfl⟩ := he
      simp [closing_append hp]
    · simp at h
  · simp at h

def isBackslash (c : Char) : Bool := c = '\\'

def backslashes (n : Nat) : List Char := List.replicate n '\\'

/-- A text piece by piece: `onTag` gets the backslashes before a tag and the tag, `onText` the
text between. `fuel` is at least the length. -/
def mapTags (onTag : Nat → List Char → List Char) (onText : List Char → List Char) :
    Nat → List Char → List Char → List Char
  | 0, seen, _ => onText seen.reverse
  | _ + 1, seen, [] => onText seen.reverse
  | fuel + 1, seen, c :: rest =>
    let slashes := ((c :: rest).takeWhile isBackslash).length
    match tag? ((c :: rest).drop slashes) with
    | some (tag, rest) => onText seen.reverse ++ onTag slashes tag ++ mapTags onTag onText fuel [] rest
    | none =>
      let taken := max 1 slashes
      mapTags onTag onText fuel (((c :: rest).take taken).reverse ++ seen) ((c :: rest).drop taken)

def escape (s : String) : String :=
  let cs := s.toList
  let escaped := mapTags (fun n tag => backslashes (2 * n + 1) ++ tag) id (cs.length + 1) [] cs
  match escaped.reverse with
  | '\\' :: '\\' :: _ => String.ofList escaped
  | '\\' :: _ => String.ofList (escaped ++ ['\\'])
  | _ => String.ofList escaped

def unescapeBrackets : List Char → List Char
  | '\\' :: '[' :: rest => '[' :: unescapeBrackets rest
  | c :: rest => c :: unescapeBrackets rest
  | [] => []

/-- The text that is seen: tags are gone, escaped ones are as they were, and names of pictures that no tag
parts are drawn. -/
def render (s : String) : String :=
  let cs := s.toList
  let onTag (n : Nat) (tag : List Char) : List Char :=
    backslashes (n / 2) ++ if n % 2 = 1 then Emoji.draw tag else []
  let onText (text : List Char) : List Char := Emoji.draw (unescapeBrackets text)
  String.ofList (mapTags onTag onText (cs.length + 1) [] cs)

end StateCheck.Text.Markup
