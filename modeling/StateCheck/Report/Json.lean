import StateCheck.Report.Basic
import StateCheck.Text.Quoted

/-!
JSON documents, with the members of an object in their given order, and reports as such documents.
Text keeps printable ASCII only; all else is escaped by its UTF-16 units.
-/

namespace StateCheck

inductive Json where
  | null
  | bool (b : Bool)
  | int (n : Int)
  | text (s : String)
  | list (items : List Json)
  | object (members : List (String × Json))

namespace Json

def unit (n : Nat) : String := "\\u" ++ Text.hexDigits 4 n

def escaped (c : Char) : String :=
  let n := c.toNat
  if c = '"' then "\\\""
  else if c = '\\' then "\\\\"
  else if c = '\n' then "\\n"
  else if c = '\r' then "\\r"
  else if c = '\t' then "\\t"
  else if n = 8 then "\\b"
  else if n = 12 then "\\f"
  else if 0x20 ≤ n && n ≤ 0x7e then c.toString
  else if n < 0x10000 then unit n
  else unit (0xd800 + (n - 0x10000) / 0x400) ++ unit (0xdc00 + (n - 0x10000) % 0x400)

def quoted (s : String) : String := "\"" ++ String.join (s.toList.map escaped) ++ "\""

def newline (indent : Option Nat) (depth : Nat) : String :=
  match indent with
  | none => ""
  | some width => "\n" ++ String.ofList (List.replicate (width * depth) ' ')

def separator (indent : Option Nat) (depth : Nat) : String :=
  if indent.isSome then "," ++ newline indent depth else ", "

def enclosed (indent : Option Nat) (depth : Nat) (left right : String) (parts : List String) : String :=
  if parts.isEmpty then left ++ right
  else
    left ++ newline indent (depth + 1) ++ (separator indent (depth + 1)).intercalate parts ++
      newline indent depth ++ right

mutual

def write (indent : Option Nat) (depth : Nat) : Json → String
  | null => "null"
  | bool true => "true"
  | bool false => "false"
  | int n => toString n
  | text s => quoted s
  | list items => enclosed indent depth "[" "]" (writeAll indent (depth + 1) items)
  | object members => enclosed indent depth "\x7b" "\x7d" (writeMembers indent (depth + 1) members)

def writeAll (indent : Option Nat) (depth : Nat) : List Json → List String
  | [] => []
  | item :: rest => write indent depth item :: writeAll indent depth rest

def writeMembers (indent : Option Nat) (depth : Nat) : List (String × Json) → List String
  | [] => []
  | (name, item) :: rest =>
    (quoted name ++ ": " ++ write indent depth item) :: writeMembers indent depth rest

end

end Json

namespace FailureReport

def toJson (r : FailureReport) : Json :=
  .object <|
    [("initial_state", .text r.initial.shown),
      ("transitions", .list (r.transitions.map fun t => .text t.shown)),
      ("index", .int r.index),
      ("location", .text r.location),
      ("cause", .object [("type", .text r.cause.typeName), ("message", .text r.cause.message)]),
      ("seed", r.seed.elim .null .int),
      ("case", .int r.case),
      ("original_length", .int r.startLength),
      ("shrink_iterations", .int r.shrinkIterations),
      ("timed_out", .bool r.timedOut)] ++
    (r.timestamp.map fun t => ("timestamp", Json.text t.shown)).toList

def jsonText (r : FailureReport) (indent : Option Nat) : String := r.toJson.write indent 0

def jsonFile (reports : List FailureReport) (indent : Option Nat) : String :=
  String.join (reports.map fun r => r.jsonText indent ++ "\n")

end FailureReport
end StateCheck
