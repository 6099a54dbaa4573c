import StateCheck.Value

/-!
Faults of the operating system. Two to five arguments are a number, a text, a file, nothing of note and
another file; any other count means nothing. The number tells the fault's type more exactly.
-/

namespace StateCheck.SystemFault

def connectionNames : List (List Int × String) :=
  [([32, 108], "BrokenPipeError"), ([103], "ConnectionAbortedError"),
    ([104], "ConnectionResetError"), ([111], "ConnectionRefusedError")]

def otherNames : List (List Int × String) :=
  [([11, 114, 115], "BlockingIOError"), ([10], "ChildProcessError"), ([17], "FileExistsError"),
    ([2], "FileNotFoundError"), ([4], "InterruptedError"), ([21], "IsADirectoryError"),
    ([20], "NotADirectoryError"), ([1, 13], "PermissionError"), ([3], "ProcessLookupError"),
    ([110], "TimeoutError")]

def isNumbered (args : List Value) : Bool := decide (2 ≤ args.length) && decide (args.length ≤ 5)

def nameIn? (names : List (List Int × String)) (args : List Value) : Option String :=
  if !isNumbered args then none
  else (args.head?.bind Value.number?).bind fun n => (names.find? (·.1.contains n)).map (·.2)

def lineage (args : List Value) : List String :=
  match nameIn? connectionNames args, nameIn? otherNames args with
  | some name, _ => [name, "ConnectionError"]
  | none, some name => [name]
  | none, none => []

def file? : Value → Option String
  | .none => none
  | v => some v.shown

def files (args : List Value) : List String :=
  match (args[2]?).bind file?, (args[4]?).bind file? with
  | some file, some other => [file, other]
  | some file, none => [file]
  | none, _ => []

def message? (args : List Value) : Option String :=
  match isNumbered args, args with
  | true, number :: text :: _ =>
    let front := "[Errno " ++ number.plain ++ "] " ++ text.plain
    match files args with
    | [] => some front
    | files => some (front ++ ": " ++ " -> ".intercalate files)
  | _, _ => none

def shownArgs (args : List Value) : List Value :=
  if isNumbered args && !(files args).isEmpty then args.take 2 else args

def isDirectory (path : String) : List Value := [.int 21, .text "Is a directory", .text path]

end StateCheck.SystemFault
