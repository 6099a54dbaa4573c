import StateCheck.Settings.Basic
import StateCheck.Settings.Setting

/-!
From given values to settings. Fields are read in their order: a value out of range is raised at once,
values that are no number at all are collected and raised together after the last field.
-/

namespace StateCheck

namespace Settings

inductive Field where
  | cases | minSize | maxSize | maxPreconditionRetries | maxUnfillableSlots | maxGenerationAttempts
  | maxShrinkIters | maxShrinkTime | verbose | seed
  deriving DecidableEq, Repr

namespace Field

def name : Field → String
  | cases => "cases"
  | minSize => "min_size"
  | maxSize => "max_size"
  | maxPreconditionRetries => "max_precondition_retries"
  | maxUnfillableSlots => "max_unfillable_slots"
  | maxGenerationAttempts => "max_generation_attempts"
  | maxShrinkIters => "max_shrink_iters"
  | maxShrinkTime => "max_shrink_time"
  | verbose => "verbose"
  | seed => "seed"

def all : List Field :=
  [cases, minSize, maxSize, maxPreconditionRetries, maxUnfillableSlots, maxGenerationAttempts,
    maxShrinkIters, maxShrinkTime, verbose, seed]

theorem mem_all (field : Field) : field ∈ all := by cases field <;> decide

theorem name_injective {a b : Field} (h : a.name = b.name) : a = b := by
  cases a <;> cases b <;> first | rfl | exact absurd h (by decide)

end Field

def positive (n : Int) : Except String { n : Nat // 0 < n } :=
  if h : 0 < n.toNat then .ok ⟨n.toNat, h⟩ else .error "must be at least 1"

def natural (n : Int) : Except String Nat :=
  if n < 0 then .error "must not be negative" else .ok n.toNat

def anyInt (n : Int) : Except String Int := .ok n

def duration (x : Float) : Except String Float :=
  if x < 0 then .error "must not be negative" else .ok x

abbrev Given : Type := Field → Option Setting

abbrev Reading (α : Type) : Type := Except Complaint α

def readAs {α β : Type} (given : Given) (field : Field) (default : β) (kind : Setting → Reading α)
    (range : α → Except String β) (shown : α → Value) : Except Fault (Reading β) :=
  match given field with
  | none => .ok (.ok default)
  | some setting =>
    match kind setting with
    | .error complaint => .ok (.error complaint)
    | .ok a =>
      match range a with
      | .ok b => .ok (.ok b)
      | .error message => .error (.settingInvalid (.text message) (.text field.name) (shown a))

def readInt {β : Type} (given : Given) (field : Field) (default : β) (range : Int → Except String β) :
    Except Fault (Reading β) :=
  readAs given field default Setting.asInt range .int

def complaint {α : Type} (field : Field) : Reading α → List (String × Complaint)
  | .ok _ => []
  | .error c => [(field.name, c)]

structure Readings where
  cases : Reading { n : Nat // 0 < n }
  minSize : Reading Nat
  maxSize : Reading Int
  maxPreconditionRetries : Reading { n : Nat // 0 < n }
  maxUnfillableSlots : Reading { n : Nat // 0 < n }
  maxGenerationAttempts : Reading { n : Nat // 0 < n }
  maxShrinkIters : Reading Nat
  maxShrinkTime : Reading Float
  verbose : Reading Bool
  seed : Reading (Option Int)

def readAll (given : Given) : Except Fault Readings := do
  let cases ← readInt given .cases ⟨256, by decide⟩ positive
  let minSize ← readInt given .minSize 1 natural
  let maxSize ← readInt given .maxSize 20 anyInt
  let maxPreconditionRetries ← readInt given .maxPreconditionRetries ⟨16, by decide⟩ positive
  let maxUnfillableSlots ← readInt given .maxUnfillableSlots ⟨3, by decide⟩ positive
  let maxGenerationAttempts ← readInt given .maxGenerationAttempts ⟨8, by decide⟩ positive
  let maxShrinkIters ← readInt given .maxShrinkIters 4096 natural
  let maxShrinkTime ←
    readAs given .maxShrinkTime 0 Setting.asFloat duration fun x => .real (Numeric.text x)
  let verbose ← readAs given .verbose false Setting.asBool .ok .bool
  let seed ← readAs given .seed none Setting.asIntOrNull .ok fun n => n.elim .none .int
  .ok { cases, minSize, maxSize, maxPreconditionRetries, maxUnfillableSlots, maxGenerationAttempts,
        maxShrinkIters, maxShrinkTime, verbose, seed }

def Readings.complaints (r : Readings) : List (String × Complaint) :=
  complaint .cases r.cases ++ complaint .minSize r.minSize ++ complaint .maxSize r.maxSize ++
  complaint .maxPreconditionRetries r.maxPreconditionRetries ++
  complaint .maxUnfillableSlots r.maxUnfillableSlots ++
  complaint .maxGenerationAttempts r.maxGenerationAttempts ++
  complaint .maxShrinkIters r.maxShrinkIters ++ complaint .maxShrinkTime r.maxShrinkTime ++
  complaint .verbose r.verbose ++ complaint .seed r.seed

/-- The size range is looked at only when every field could be read. -/
def Readings.settings (r : Readings) : Except Fault Settings :=
  match r with
  | ⟨.ok cases, .ok minSize, .ok maxSize, .ok retries, .ok slots, .ok attempts, .ok iters, .ok time,
      .ok verbose, .ok seed⟩ =>
    if h : (minSize : Int) ≤ maxSize then .ok
      { cases := cases.1, minSize := minSize, maxSize := maxSize.toNat,
        maxPreconditionRetries := retries.1, maxUnfillableSlots := slots.1,
        maxGenerationAttempts := attempts.1, maxShrinkIters := iters, maxShrinkTime := time,
        verbose := verbose, seed := seed, cases_pos := cases.2, maxPreconditionRetries_pos := retries.2,
        maxUnfillableSlots_pos := slots.2, maxGenerationAttempts_pos := attempts.2,
        minSize_le_maxSize := by omega }
    else .error <|
      .settingInvalid (.text s!"must be >= min_size ({minSize})") (.text Field.maxSize.name) (.int maxSize)
  | r => .error (.settingsRefused r.complaints)

def ofGiven (given : Given) : Except Fault Settings := do
  let readings ← readAll given
  readings.settings

def value (s : Settings) : Field → Setting
  | .cases => .int s.cases
  | .minSize => .int s.minSize
  | .maxSize => .int s.maxSize
  | .maxPreconditionRetries => .int s.maxPreconditionRetries
  | .maxUnfillableSlots => .int s.maxUnfillableSlots
  | .maxGenerationAttempts => .int s.maxGenerationAttempts
  | .maxShrinkIters => .int s.maxShrinkIters
  | .maxShrinkTime => .real s.maxShrinkTime
  | .verbose => .bool s.verbose
  | .seed => s.seed.elim .null .int

def Field.default (field : Field) : Setting := value {} field

def assign (name : String) : Fault := .settingsRefused [(name, .frozen)]

end Settings
end StateCheck
