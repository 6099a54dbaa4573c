/-!
Letters of the Latin alphabet in one case. Names of settings, of variables and of pictures are compared in
it: the first two hold letters without marks alone, the others also some with marks.
-/

namespace StateCheck.Text

def lowerChar (c : Char) : Char :=
  let n := c.toNat
  if n = 0x212a then 'k'
  else if n = 0x212b then 'å'
  else if 0xc0 ≤ n && n ≤ 0xde && n ≠ 0xd7 then Char.ofNat (n + 0x20)
  else c.toLower

def lower (s : String) : String := String.ofList (s.toList.map lowerChar)

/-- The dotless i and the long s have plain capitals; the sharp s and the ligatures have several. -/
def upperChars (c : Char) : List Char :=
  match c.toNat with
  | 0xdf => ['S', 'S']
  | 0x131 => ['I']
  | 0x17f => ['S']
  | 0xfb00 => ['F', 'F']
  | 0xfb01 => ['F', 'I']
  | 0xfb02 => ['F', 'L']
  | 0xfb03 => ['F', 'F', 'I']
  | 0xfb04 => ['F', 'F', 'L']
  | 0xfb05 | 0xfb06 => ['S', 'T']
  | _ => [c.toUpper]

def upper (s : String) : String := String.ofList (s.toList.flatMap upperChars)

end StateCheck.Text
