import StateCheck.Settings.Named
import StateCheck.Settings.Validation
import StateCheck.Text.Letters

/-!
Where settings come from. For each field by itself, keyword values beat the environment, the environment
beats the variables file, and that beats the default. Names match whatever their case.
-/

namespace StateCheck.Settings

def variableStem : String := "LOCKSTEP_"

def variableName (field : Field) : String := Text.lower (variableStem ++ field.name)

/-- Names that begin with an underscore are left aside: they are options for reading the settings, such as the stem of
the variables' names, and would be unknown names here. -/
abbrev Keywords : Type := Named Setting

/-- The value of the first name that is the field's but for its case. -/
def Keywords.find? (keywords : Keywords) (field : Field) : Option Setting :=
  (List.find? (fun pair => Text.lower pair.1 == field.name) keywords).map (·.2)

/-- A variable may have no value. -/
abbrev Variables : Type := Named (Option String)

namespace Variables

def find? (pairs : Variables) (field : Field) : Option Setting :=
  ((pairs.reverse.find? fun pair => Text.lower pair.1 == variableName field).bind (·.2)).map .text

def holds (pairs : Variables) (field : Field) : Bool :=
  pairs.any fun pair => Text.upper pair.1 == Text.upper (variableStem ++ field.name)

end Variables

structure Sources where
  environment : Variables := []
  dotenv : Variables := []

def Sources.given (sources : Sources) (keywords : Keywords) : Given := fun field =>
  keywords.find? field <|> sources.environment.find? field <|> sources.dotenv.find? field

def ofKeywords (sources : Sources) (keywords : Keywords) : Except Fault Settings :=
  ofGiven (sources.given keywords)

def keywords (s : Settings) : Keywords := Field.all.map fun field => (field.name, s.value field)

def override (sources : Sources) (s : Settings) (overrides : Keywords) : Except Fault Settings :=
  ofKeywords sources (s.keywords.union overrides)

def chosen (sources : Sources) (base : Option Settings) (overrides : Keywords) : Except Fault Settings :=
  base.elim (ofKeywords sources overrides) fun s => s.override sources overrides

end StateCheck.Settings
