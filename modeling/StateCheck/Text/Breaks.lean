/-!
Breaks between the lines of a text.
-/

namespace StateCheck.Text

def plainBreaks : List Char → List Char
  | [] => []
  | '\r' :: '\n' :: rest => '\n' :: plainBreaks rest
  | c :: rest => (if c = '\r' then '\n' else c) :: plainBreaks rest

theorem return_not_mem_plainBreaks (cs : List Char) : '\r' ∉ plainBreaks cs := by
  fun_induction plainBreaks cs with
  | case1 => simp
  | case2 rest ih => simpa using ih
  | case3 c rest _ ih => by_cases h : c = '\r' <;> simp [h, ih, eq_comm]

end StateCheck.Text
