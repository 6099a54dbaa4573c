/-!
Rounding a quotient of naturals to the nearest integer, a tie to the even neighbour; and the scales of
binary and decimal digits.
-/

namespace StateCheck.Numeric

def nearest (num den : Nat) : Nat :=
  let q := num / den
  let twice := 2 * (num % den)
  if twice > den ∨ (twice = den ∧ q % 2 = 1) then q + 1 else q

theorem nearest_close (num den : Nat) (h : 0 < den) :
    2 * (nearest num den * den) ≤ 2 * num + den ∧ 2 * num ≤ 2 * (nearest num den * den) + den := by
  have hq := Nat.div_add_mod num den
  have hm := Nat.mod_lt num h
  have hc : den * (num / den) = num / den * den := Nat.mul_comm _ _
  have hs : (num / den + 1) * den = num / den * den + den := by rw [Nat.add_mul, Nat.one_mul]
  dsimp only [nearest]
  split
  · rw [hs]
    omega
  · omega

def pow2 (n : Nat) : Nat := Nat.pow 2 n

def pow10 (n : Nat) : Nat := Nat.pow 10 n

def nearest53 (n : Nat) : Nat :=
  let extra := n.log2 + 1 - 53
  nearest n (pow2 extra) * pow2 extra

end StateCheck.Numeric
