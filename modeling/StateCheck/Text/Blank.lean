/-!
White space, and cutting it off.
-/

namespace StateCheck.Text

def isBlank (c : Char) : Bool :=
  let n := c.toNat
  (9 ≤ n && n ≤ 13) || n = 0x20 || n = 0x85 || n = 0xa0 || n = 0x1680 || (0x2000 ≤ n && n ≤ 0x200a) ||
    n = 0x2028 || n = 0x2029 || n = 0x202f || n = 0x205f || n = 0x3000

def isGap (c : Char) : Bool := isBlank c || (0x1c ≤ c.toNat && c.toNat ≤ 0x1f)

theorem isBlank_of_isWhitespace (c : Char) (h : c.isWhitespace = true) : isBlank c = true := by
  simp only [Char.isWhitespace, Bool.or_eq_true, decide_eq_true_eq] at h
  rcases h with ((h | h) | h) | h <;> subst h <;> decide

def trimStart (isCut : Char → Bool) (cs : List Char) : List Char := cs.dropWhile isCut

def trimEnd (isCut : Char → Bool) (cs : List Char) : List Char :=
  (cs.reverse.dropWhile isCut).reverse

def trim (isCut : Char → Bool) (cs : List Char) : List Char := trimEnd isCut (trimStart isCut cs)

end StateCheck.Text
