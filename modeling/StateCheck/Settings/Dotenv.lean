import StateCheck.Settings.Sources

/-!
Variables files: lines `NAME=value`, with comments after a number sign. A line that cannot be read is
passed over. A value may name other variables, which then stand for their values.
-/

namespace StateCheck.Settings.Dotenv
open Text

def isBreak (c : Char) : Bool := c = '\n' || c = '\r'

def isBlankInLine (c : Char) : Bool := isGap c && !isBreak c

def skipBlanks (cs : List Char) : List Char := cs.dropWhile isBlankInLine

def nextLine (cs : List Char) : List Char :=
  match cs.dropWhile fun c => !isBreak c with
  | '\r' :: '\n' :: rest => rest
  | _ :: rest => rest
  | [] => []

def endLine? (cs : List Char) : Option (List Char) :=
  match skipBlanks cs with
  | [] => some []
  | c :: rest => if c = '#' || isBreak c then some (nextLine (c :: rest)) else none

/-- The text up to the closing quote and what follows it. A quote after a backslash closes only if no
other one does. -/
def closing? (quote : Char) : List Char → Option (List Char × List Char)
  | [] => none
  | [c] => if c = quote then some ([], []) else none
  | c :: d :: rest =>
    if c = quote then some ([], d :: rest)
    else if c = '\\' && d = quote then
      match closing? quote rest with
      | some (inner, after) => some (c :: d :: inner, after)
      | none => some ([c], rest)
    else (closing? quote (d :: rest)).map fun p => (c :: p.1, p.2)

def escape? (double : Bool) (c : Char) : Option Char :=
  if c = '\\' || c = '\'' then some c
  else if !double then none
  else match c with
    | '"' => some '"'
    | 'a' => some (Char.ofNat 7)
    | 'b' => some (Char.ofNat 8)
    | 'f' => some (Char.ofNat 12)
    | 'n' => some '\n'
    | 'r' => some '\r'
    | 't' => some '\t'
    | 'v' => some (Char.ofNat 11)
    | _ => none

def unescape (double : Bool) : List Char → List Char
  | [] => []
  | [c] => [c]
  | c :: d :: rest =>
    match if c = '\\' then escape? double d else none with
    | some e => e :: unescape double rest
    | none => c :: unescape double (d :: rest)

def dropComment : List Char → List Char
  | [] => []
  | c :: rest =>
    if isGap c && (rest.dropWhile isGap).head? = some '#' then [] else c :: dropComment rest

def value? (cs : List Char) : Option (List Char × List Char) :=
  match cs with
  | '\'' :: rest => (closing? '\'' rest).map fun p => (unescape false p.1, p.2)
  | '"' :: rest => (closing? '"' rest).map fun p => (unescape true p.1, p.2)
  | cs =>
    let line := cs.takeWhile fun c => !isBreak c
    some (trimEnd isGap (dropComment line), cs.drop line.length)

def dropExport (cs : List Char) : List Char :=
  let word := "export".toList
  let rest := cs.drop word.length
  if cs.take word.length = word && rest.head?.any isBlankInLine then skipBlanks rest else cs

def endsName (c : Char) : Bool := c = '=' || c = '#' || isGap c

def name? (cs : List Char) : Option (List Char × List Char) :=
  match cs with
  | '\'' :: rest =>
    let name := rest.takeWhile (· ≠ '\'')
    match rest.drop name.length with
    | _ :: after => if name.isEmpty then none else some (name, after)
    | [] => none
  | cs =>
    let name := cs.takeWhile fun c => !endsName c
    if name.isEmpty then none else some (name, cs.drop name.length)

def binding (cs : List Char) : Except (List Char) ((List Char × Option (List Char)) × List Char) :=
  match name? (dropExport cs) with
  | none => .error (dropExport cs)
  | some (name, rest) =>
    match skipBlanks rest with
    | '=' :: rest =>
      let start := skipBlanks rest
      match value? start with
      | none => .error start
      | some (value, rest) =>
        match endLine? rest with
        | some after => .ok ((name, some value), after)
        | none => .error rest
    | rest =>
      match endLine? rest with
      | some after => .ok ((name, none), after)
      | none => .error rest

def bindings : Nat → List Char → List (List Char × Option (List Char))
  | 0, _ => []
  | fuel + 1, cs =>
    match trimStart isGap cs with
    | [] => []
    | '#' :: rest => bindings fuel (nextLine rest)
    | cs =>
      match binding cs with
      | .ok (pair, after) => pair :: bindings fuel after
      | .error rest => bindings fuel (nextLine rest)

def namesEnd (c : Char) : Bool := c = '}' || c = ':'

def reference? (cs : List Char) : Option ((List Char × List Char) × List Char) :=
  let name := cs.takeWhile fun c => !namesEnd c
  match cs.drop name.length with
  | '}' :: rest => some ((name, []), rest)
  | ':' :: '-' :: rest =>
    let default := rest.takeWhile (· ≠ '}')
    match rest.drop default.length with
    | _ :: rest => some ((name, default), rest)
    | [] => none
  | _ => none

def lookup (known : Variables) (name default : String) : String :=
  match known.reverse.find? fun pair => pair.1 == name with
  | some pair => pair.2.getD ""
  | none => default

def expand (known : Variables) : Nat → List Char → String
  | 0, _ => ""
  | _, [] => ""
  | fuel + 1, '$' :: '{' :: rest =>
    match reference? rest with
    | some ((name, default), rest) =>
      lookup known (String.ofList name) (String.ofList default) ++ expand known fuel rest
    | none => "$\x7b" ++ expand known fuel rest
  | fuel + 1, c :: rest => c.toString ++ expand known fuel rest

def addBinding (environment pairs : Variables) (b : List Char × Option (List Char)) : Variables :=
  pairs.insert (String.ofList b.1) (b.2.map fun cs => expand (environment ++ pairs) (cs.length + 1) cs)

def read (environment : Variables) (content : String) : Variables :=
  (bindings (content.length + 1) content.toList).foldl (addBinding environment) []

end StateCheck.Settings.Dotenv
