import StateCheck.Text.Printable

/-!
Quoted text. The quote is the single one unless the text holds a single and no double quote; the quote
in use, the backslash and every character without a printed form are escaped.
-/

namespace StateCheck.Text

def hexDigit (n : Nat) : Char := (Nat.toDigits 16 n).headD '0'

def hexDigits : Nat → Nat → String
  | 0, _ => ""
  | width + 1, n => hexDigits width (n / 16) ++ (hexDigit (n % 16)).toString

def singleQuote : Char := '\''

def doubleQuote : Char := '"'

def quoteFor (s : String) : Char :=
  if s.contains singleQuote && !s.contains doubleQuote then doubleQuote else singleQuote

def numbered (c : Char) : String :=
  let n := c.toNat
  if n < 0x100 then "\\x" ++ hexDigits 2 n
  else if n < 0x10000 then "\\u" ++ hexDigits 4 n
  else "\\U" ++ hexDigits 8 n

def escaped (quote c : Char) : String :=
  if c = quote then "\\" ++ quote.toString
  else if c = '\\' then "\\\\"
  else if c = '\n' then "\\n"
  else if c = '\r' then "\\r"
  else if c = '\t' then "\\t"
  else if isPrintable c then c.toString
  else numbered c

def quoted (s : String) : String :=
  let quote := quoteFor s
  quote.toString ++ String.join (s.toList.map (escaped quote)) ++ quote.toString

end StateCheck.Text
