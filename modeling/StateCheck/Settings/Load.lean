import StateCheck.Settings.Directory
import StateCheck.Settings.Dotenv
import StateCheck.Settings.Meaning
import StateCheck.Text.Breaks

/-!
Loading settings from a configuration file. A file's value counts as a keyword value, so it is dropped
where the environment sets the field, and replaced where a keyword value is given.
-/

namespace StateCheck.Settings

def textOf (content : String) : String := String.ofList (Text.plainBreaks content.toList)

def mapping (path : String) : Setting → Except Fault (List (Setting × Setting))
  | .map pairs => .ok pairs
  | setting =>
    if setting.isVoid then .ok []
    else .error <|
      .settingInvalid (.text "config file must contain a YAML mapping")
        (.text (Directory.plainPath path)) (.text setting.kindName)

def keyword : Setting × Setting → Except Fault (String × Setting)
  | (.text name, setting) => .ok (name, setting)
  | _ => .error (.ofText .type "keywords must be strings")

/-- Drops the keys of fields that the environment sets. -/
def unshadowed (environment : Variables) (pairs : Keywords) : Keywords :=
  pairs.filter fun pair => !Field.all.any fun field => field.name == pair.1 && environment.holds field

def fileKeywords (environment : Variables) (files : Directory) (path : String) :
    Except Fault Keywords := do
  match ← files.read path with
  | none => .ok []
  | some content => do
    let setting ← Setting.ofDocument (textOf content)
    let pairs ← mapping path setting
    let keywords ← pairs.mapM keyword
    .ok (unshadowed environment (Named.union [] keywords))

def dotenvName : String := ".env"

def Sources.ofDirectory (environment : Variables) (files : Directory) : Sources :=
  { environment := environment
    dotenv := ((files.lookup dotenvName).map fun content => Dotenv.read environment (textOf content)).getD [] }

def load (environment : Variables) (files : Directory) (path : Option String) (overrides : Keywords) :
    Except Fault Settings := do
  let file ← path.elim (.ok []) (fileKeywords environment files)
  ofKeywords (Sources.ofDirectory environment files) (Named.union file overrides)

end StateCheck.Settings
