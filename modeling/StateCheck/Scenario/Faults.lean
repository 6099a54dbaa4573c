import StateCheck.Fault

/-!
Faults by the names of their types and the arguments that they are built from.
-/

namespace StateCheck.Scenario

structure Signature where
  needed : List String
  more : Nat := 0

namespace Signature

def ofName? : String → Option Signature
  | "ConfigValidationError" => some ⟨["message", "field"], 1⟩
  | "GenerationExhausted" => some ⟨["min_size", "generated", "attempts"], 0⟩
  | "PreconditionViolation" => some ⟨["index", "transition"], 0⟩
  | "TooManyRejects" => some ⟨["whence", "rejects"], 0⟩
  | _ => none

def listed : List String → String
  | [] => ""
  | [a] => Text.quoted a
  | [a, b] => Text.quoted a ++ " and " ++ Text.quoted b
  | names => ", ".intercalate (names.dropLast.map Text.quoted) ++ ", and " ++
      (names.getLast?.map Text.quoted).getD ""

def missing (name : String) (names : List String) : Fault :=
  let ending := if names.length = 1 then "" else "s"
  .ofText .type s!"{name}.__init__() missing {names.length} required positional argument{ending}: {listed names}"

/-- The fault itself counts as an argument. -/
def surplus (name : String) (s : Signature) (given : Nat) : Fault :=
  let least := s.needed.length + 1
  let most := if s.more = 0 then toString least else s!"from {least} to {least + s.more}"
  .ofText .type s!"{name}.__init__() takes {most} positional arguments but {given + 1} were given"

def fault? (name : String) (given : Nat) : Option Fault :=
  match ofName? name with
  | none => none
  | some s =>
    if s.needed.length + s.more < given then some (surplus name s given)
    else if given < s.needed.length then some (missing name (s.needed.drop given))
    else none

end Signature

def faultNamed? (name : String) (args : List Value) : Option Fault :=
  match name, args with
  | "LockstepError", args => some (.engine args)
  | "ConfigValidationError", [message, field] => some (.settingInvalid message field .none)
  | "ConfigValidationError", [message, field, v] => some (.settingInvalid message field v)
  | "GenerationExhausted", [a, b, c] => some (.generationExhausted a b c)
  | "PreconditionViolation", [index, t] => some (.preconditionViolated index t)
  | "TooManyRejects", [whence, n] => some (.tooManyRejects whence n)
  | name, args => (Fault.Kind.ofName? name).map fun kind => .raised kind args

def faultOf? (name : String) (args : List Value) : Option (Except Fault Fault) :=
  match Signature.fault? name args.length with
  | some e => some (.error e)
  | none => (faultNamed? name args).map .ok

end StateCheck.Scenario
