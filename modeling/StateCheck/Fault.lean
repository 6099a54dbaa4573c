import StateCheck.SystemFault

/-!
What can go wrong, by cause. `Fault.message` is the one place that words a cause; `Fault.escapes` tells
the two that no replay may turn into a test failure.
-/

namespace StateCheck

inductive Fault.Kind where
  | assertion | value | runtime | key | connection | os | index | type | missingAttribute
  | zeroDivision | overflow | general | interrupt | exit
  deriving DecidableEq, Repr

namespace Fault.Kind

def name : Kind → String
  | assertion => "AssertionError"
  | value => "ValueError"
  | runtime => "RuntimeError"
  | key => "KeyError"
  | connection => "ConnectionError"
  | os => "OSError"
  | index => "IndexError"
  | type => "TypeError"
  | missingAttribute => "AttributeError"
  | zeroDivision => "ZeroDivisionError"
  | overflow => "OverflowError"
  | general => "Exception"
  | interrupt => "KeyboardInterrupt"
  | exit => "SystemExit"

def all : List Kind :=
  [assertion, value, runtime, key, connection, os, index, type, missingAttribute,
    zeroDivision, overflow, general, interrupt, exit]

def ofName? (s : String) : Option Kind := all.find? (·.name == s)

theorem ofName?_name (k : Kind) : ofName? k.name = some k := by cases k <;> decide

end Fault.Kind

inductive Complaint where
  | intType | intParsing | intParsingSize | intFromFloat | finiteNumber
  | floatType | floatParsing | boolType | boolParsing | frozen
  deriving DecidableEq, Repr

def Complaint.name : Complaint → String
  | intType => "int_type"
  | intParsing => "int_parsing"
  | intParsingSize => "int_parsing_size"
  | intFromFloat => "int_from_float"
  | finiteNumber => "finite_number"
  | floatType => "float_type"
  | floatParsing => "float_parsing"
  | boolType => "bool_type"
  | boolParsing => "bool_parsing"
  | frozen => "frozen_instance"

inductive Fault where
  | raised (kind : Fault.Kind) (args : List Value)
  | engine (args : List Value)
  | settingInvalid (message field value : Value)
  | settingsRefused (complaints : List (String × Complaint))
  | settingsUnreadable
  | generationExhausted (minSize generated attempts : Value)
  | preconditionViolated (index transition : Value)
  | tooManyRejects (whence rejects : Value)

namespace Fault

def ofText (kind : Kind) (message : String) : Fault := raised kind [.text message]

def typeName : Fault → String
  | raised .os args => (SystemFault.lineage args).head?.getD Kind.os.name
  | raised kind _ => kind.name
  | engine _ => "LockstepError"
  | settingInvalid .. => "ConfigValidationError"
  | settingsRefused _ => "ValidationError"
  | settingsUnreadable => "YAMLError"
  | generationExhausted .. => "GenerationExhausted"
  | preconditionViolated .. => "PreconditionViolation"
  | tooManyRejects .. => "TooManyRejects"

def argsMessage : List Value → String
  | [] => ""
  | [v] => v.plain
  | args => (Value.tuple args).shown

def message : Fault → String
  | raised .key [v] => v.shown
  | raised .os args | raised .connection args => (SystemFault.message? args).getD (argsMessage args)
  | raised _ args => argsMessage args
  | engine args => argsMessage args
  | settingInvalid message field value =>
    field.plain ++ ": " ++ message.plain ++ " (got " ++ value.shown ++ ")"
  | settingsRefused _ => ""
  | settingsUnreadable => ""
  | generationExhausted minSize generated attempts =>
    "Could not generate " ++ minSize.plain ++ " valid transition(s) after " ++ attempts.plain ++
    " attempt(s); the longest sequence produced had " ++ generated.plain ++ ".\n" ++
    "  - Does transition_strategy(state) only propose transitions that can pass precondition()?\n" ++
    "  - Is min_size reachable from every initial state?"
  | preconditionViolated index transition =>
    "Transition " ++ index.plain ++ " (" ++ transition.shown ++
    ") does not satisfy its precondition against the state folded from the preceding transitions."
  | tooManyRejects whence rejects =>
    "Filter '" ++ whence.plain ++ "' rejected " ++ rejects.plain ++ " values in a row"

def args : Fault → List Value
  | raised .os args | raised .connection args => SystemFault.shownArgs args
  | raised _ args => args
  | engine args => args
  | fault => [.text fault.message]

def shown (fault : Fault) : String :=
  fault.typeName ++ "(" ++ Value.commas (fault.args.map Value.shown) ++ ")"

def attributes : Fault → List (String × Value)
  | settingInvalid _ field value => [("field", field), ("value", value)]
  | generationExhausted minSize generated attempts =>
    [("min_size", minSize), ("generated", generated), ("attempts", attempts)]
  | preconditionViolated index transition => [("index", index), ("transition", transition)]
  | tooManyRejects whence rejects => [("whence", whence), ("rejects", rejects)]
  | _ => []

def Kind.above : Kind → List String
  | interrupt | exit => []
  | general => []
  | key | index => ["LookupError", "Exception"]
  | connection => ["OSError", "Exception"]
  | zeroDivision | overflow => ["ArithmeticError", "Exception"]
  | _ => ["Exception"]

def lineage : Fault → List String
  | raised .os args => SystemFault.lineage args ++ (Kind.os.name :: (Kind.os.above ++ ["BaseException"]))
  | raised kind _ => kind.name :: (kind.above ++ ["BaseException"])
  | engine _ => ["LockstepError", "Exception", "BaseException"]
  | fault => [fault.typeName, "LockstepError", "Exception", "BaseException"]

/-- Interrupts and exits are not failures of the system under test: they end the whole run. -/
def escapes : Fault → Bool
  | raised .interrupt _ => true
  | raised .exit _ => true
  | _ => false

end Fault
end StateCheck
