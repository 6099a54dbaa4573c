import Mathlib
import StateCheck.Proofs.Settings.Fields
import StateCheck.Proofs.Settings.Named
import StateCheck.Proofs.Text.Letters
import StateCheck.Settings.Load

/-! Which source a field's value comes from, when settings are loaded: the overrides before the environment, and that
before the file. The file's values go in as keyword values, and what the environment sets is taken out of them by its
name; a name in other letters is not found there, and yet is the field's. -/

namespace StateCheck.Settings
variable {environment : Variables} {files : Directory} {path : Option String} {file overrides : Keywords}
  {field : Field}

namespace Field

def isNamed (field : Field) (name : String) : Bool := Text.lower name == field.name

def isVariable (field : Field) (name : String) : Bool := Text.lower name == Text.lower (variableStem ++ field.name)

theorem isNamed_name (field : Field) : field.isNamed field.name := by cases field <;> decide

end Field

def preferred (overrides : Keywords) (environment : Variables) (file : Keywords) : Given := fun field =>
  overrides.last? field.isNamed <|> (environment.last? field.isVariable).join.map .text <|>
    file.last? field.isNamed

/-- Every variable has a value, and its name is a field's in capitals exactly if it is in small letters. -/
structure Variables.Regular (environment : Variables) : Prop where
  valued : ∀ pair ∈ environment, pair.2.isSome
  named : ∀ pair ∈ environment, ∀ field : Field,
    Text.upper pair.1 = Text.upper (variableStem ++ field.name) ↔ field.isVariable pair.1

/-- No field is spelled in two ways, and none that the environment sets is spelled in other letters in the file. -/
structure Spelled (overrides : Keywords) (environment : Variables) (file : Keywords) : Prop where
  alike : ∀ field : Field, Named.Alike field.isNamed (file ++ overrides)
  own : ∀ field : Field, environment.holds field → ∀ pair ∈ file, field.isNamed pair.1 → pair.1 = field.name

inductive Directory.Gives (files : Directory) : Option String → Keywords → Prop
  | unnamed : Gives files none []
  | missing {path : String} (hread : files.read path = .ok none) : Gives files (some path) []
  | void {path content : String} {setting : Setting} (hread : files.read path = .ok (some content))
      (hdocument : Setting.ofDocument (textOf content) = .ok setting) (hvoid : setting.isVoid) :
      Gives files (some path) []
  | mapping {path content : String} {file : Keywords} (hread : files.read path = .ok (some content))
      (hdocument : Setting.ofDocument (textOf content) = .ok (.map (file.map fun pair => (.text pair.1, pair.2)))) :
      Gives files (some path) file

theorem mapping_of_void {path : String} {setting : Setting} (h : setting.isVoid) : mapping path setting = .ok [] := by
  unfold mapping
  split
  · exact congrArg Except.ok (List.isEmpty_iff.1 h)
  · exact if_pos h

theorem mapM_keyword (file : Keywords) :
    (file.map fun pair => ((.text pair.1, pair.2) : Setting × Setting)).mapM keyword = .ok file := by
  induction file with
  | nil => rfl
  | cons pair rest ih =>
    rw [List.map_cons, List.mapM_cons, ih]
    rfl

theorem fileKeywords_of_content {path content : String} {setting : Setting} {pairs : List (Setting × Setting)}
    (hread : files.read path = .ok (some content)) (hdocument : Setting.ofDocument (textOf content) = .ok setting)
    (hmapping : mapping path setting = .ok pairs) (hkeywords : pairs.mapM keyword = .ok file) :
    fileKeywords environment files path = .ok (unshadowed environment (Named.union [] file)) :=
  bind_eq_ok.2 ⟨_, hread, bind_eq_ok.2 ⟨_, hdocument, bind_eq_ok.2 ⟨_, hmapping,
    bind_eq_ok.2 ⟨_, hkeywords, rfl⟩⟩⟩⟩

theorem fileKeywords_of_gives (h : files.Gives path file) :
    path.elim (.ok []) (fileKeywords environment files) = .ok (unshadowed environment (Named.union [] file)) := by
  cases h with
  | unnamed => rfl
  | missing hread => exact bind_eq_ok.2 ⟨_, hread, rfl⟩
  | void hread hdocument hvoid => exact fileKeywords_of_content hread hdocument (mapping_of_void hvoid) rfl
  | mapping hread hdocument => exact fileKeywords_of_content hread hdocument rfl (mapM_keyword file)

theorem load_of_gives (h : files.Gives path file) : load environment files path overrides =
    ofKeywords (.ofDirectory environment files) ((unshadowed environment (Named.union [] file)).union overrides) := by
  unfold load
  rw [fileKeywords_of_gives h]
  rfl

theorem mem_of_mem_unshadowed {pair : String × Setting} (h : pair ∈ unshadowed environment (Named.union [] file)) :
    pair ∈ file := by
  rcases Named.mem_of_mem_union (List.mem_filter.1 h).1 with h | h
  · cases h
  · exact h

theorem Variables.find?_eq (environment : Variables) (field : Field) :
    environment.find? field = (environment.last? field.isVariable).join.map .text := by
  show ((environment.reverse.find? fun pair => field.isVariable pair.1).bind (·.2)).map Setting.text = _
  unfold Named.last? Named.first?
  cases environment.reverse.find? fun pair => field.isVariable pair.1 <;> rfl

theorem Variables.Regular.of_plain (hvalued : ∀ pair ∈ environment, pair.2.isSome)
    (hplain : ∀ pair ∈ environment, Text.Plain pair.1.toList) : environment.Regular where
  valued := hvalued
  named pair hpair field := by
    have hname : Text.Plain (variableStem ++ field.name).toList := by cases field <;> decide
    rw [Text.upper_eq_iff (hplain pair hpair) hname]
    exact beq_iff_eq.symm

/-- In small letters the sign for kelvin is that of a variable, in capitals it is not. -/
example : ¬ Variables.Regular [("LOC\u212aSTEP_SEED", some "9")] := fun h =>
  absurd ((h.named _ List.mem_cons_self .seed).2 (by decide)) (by decide)

theorem Variables.Regular.find?_isSome (h : environment.Regular) :
    (environment.find? field).isSome ↔ environment.holds field := by
  unfold find? holds
  rw [Option.isSome_map, List.any_eq_true]
  refine ⟨fun hfound => ?_, fun ⟨pair, hpair, hname⟩ => ?_⟩
  · obtain ⟨value, hvalue⟩ := Option.isSome_iff_exists.1 hfound
    obtain ⟨pair, hpair, -⟩ := Option.bind_eq_some_iff.1 hvalue
    have hmem := List.mem_reverse.1 (List.mem_of_find?_eq_some hpair)
    have hlower := List.find?_some hpair
    exact ⟨pair, hmem, beq_iff_eq.2 ((h.named pair hmem field).2 hlower)⟩
  · have hlower := (h.named pair hpair field).1 (eq_of_beq hname)
    cases hfound : environment.reverse.find? fun pair => Text.lower pair.1 == variableName field with
    | none => exact absurd hlower (List.find?_eq_none.1 hfound pair (List.mem_reverse.2 hpair))
    | some found => exact h.valued found (List.mem_reverse.1 (List.mem_of_find?_eq_some hfound))

theorem first?_unshadowed_of_holds (h : Spelled overrides environment file) (hholds : environment.holds field) :
    (unshadowed environment (Named.union [] file)).first? field.isNamed = none := by
  refine Named.first?_of_none fun pair hpair hname => ?_
  have hown := h.own field hholds pair (mem_of_mem_unshadowed hpair) hname
  have hkept := (List.mem_filter.1 hpair).2
  have hshadowed : Field.all.any (fun field => field.name == pair.1 && environment.holds field) :=
    List.any_eq_true.2 ⟨field, Field.mem_all field, by simp [hown, hholds]⟩
  rw [hshadowed] at hkept
  cases hkept

theorem first?_unshadowed_of_not_holds (h : Spelled overrides environment file) (hholds : ¬ environment.holds field) :
    (unshadowed environment (Named.union [] file)).first? field.isNamed = file.last? field.isNamed := by
  have hkept : ∀ pair ∈ Named.union [] file, field.isNamed pair.1 →
      !Field.all.any fun field => field.name == pair.1 && environment.holds field := by
    intro pair _ hname
    rw [Bool.not_eq_true', List.any_eq_false]
    rintro other - hother
    obtain ⟨hsame, hother⟩ := Bool.and_eq_true_iff.1 hother
    rw [← eq_of_beq hsame] at hname
    have hnames : other.name = field.name := (eq_of_beq other.isNamed_name).symm.trans (eq_of_beq hname)
    exact hholds (Field.name_injective hnames ▸ hother)
  have halike : Named.Alike field.isNamed ([] ++ file) := (h.alike field).mono fun pair => List.mem_append_left _
  unfold unshadowed
  rw [Named.first?_filter hkept, Named.first?_union halike]
  exact Option.or_none

theorem given_eq_preferred (hdotenv : files.lookup dotenvName = none) (henvironment : environment.Regular)
    (hspelled : Spelled overrides environment file) :
    (Sources.ofDirectory environment files).given
      ((unshadowed environment (Named.union [] file)).union overrides) = preferred overrides environment file := by
  funext field
  have hnone : (Sources.ofDirectory environment files).dotenv.find? field = none := by
    unfold Sources.ofDirectory
    rw [hdotenv]
    rfl
  have halike : Named.Alike field.isNamed (unshadowed environment (Named.union [] file) ++ overrides) := by
    refine (hspelled.alike field).mono fun pair hpair => ?_
    rcases List.mem_append.1 hpair with hpair | hpair
    · exact List.mem_append_left _ (mem_of_mem_unshadowed hpair)
    · exact List.mem_append_right _ hpair
  have hkeyword : Keywords.find? ((unshadowed environment (Named.union [] file)).union overrides) field =
      (overrides.last? field.isNamed).or ((unshadowed environment (Named.union [] file)).first? field.isNamed) :=
    Named.first?_union halike
  show (Keywords.find? _ field <|> environment.find? field <|>
    (Sources.ofDirectory environment files).dotenv.find? field) = _
  unfold preferred
  rw [hkeyword, hnone, ← Variables.find?_eq]
  by_cases hholds : environment.holds field
  · obtain ⟨v, hv⟩ := Option.isSome_iff_exists.1 (henvironment.find?_isSome.2 hholds)
    rw [first?_unshadowed_of_holds hspelled hholds, hv]
    cases overrides.last? field.isNamed <;> rfl
  · have hv := Option.not_isSome_iff_eq_none.1 (mt henvironment.find?_isSome.1 hholds)
    rw [first?_unshadowed_of_not_holds hspelled hholds, hv]
    cases overrides.last? field.isNamed with
    | none => cases file.last? field.isNamed <;> rfl
    | some v => rfl

/-- Each field takes the value of the first source that has one, whatever the other fields and names are; this says
nothing of names that begin with an underscore, which stand for options here left aside. Loading raises exactly if a
value that is taken is refused, or the sizes that are taken are not in order. -/
theorem load_prefers_sources (hdotenv : files.lookup dotenvName = none) (hfile : files.Gives path file)
    (henvironment : environment.Regular) (hspelled : Spelled overrides environment file) :
    (∀ s, load environment files path overrides = .ok s ↔
      ∀ field : Field, field.Takes (preferred overrides environment file field) (s.value field)) ∧
    ((∃ e, load environment files path overrides = .error e) ↔ Rejected (preferred overrides environment file)) := by
  rw [load_of_gives hfile, ofKeywords, given_eq_preferred hdotenv henvironment hspelled]
  exact ⟨fun s => ofGiven_eq_ok, ofGiven_eq_error⟩

def sampleOverrides : Keywords := [("seed", .int 5), ("depth", .null)]

def sampleEnvironment : Variables := [("lockstep_cases", some "7"), ("LOCKSTEP_SEED", some "nine")]

def sampleKeywords : Keywords := [("cases", .int 0), ("min_size", .int 2)]

def sampleFiles : Directory := [("lockstep.yaml", "cases: 0\nmin_size: 2\n")]

theorem sampleFiles_give : sampleFiles.Gives (some "lockstep.yaml") sampleKeywords := by
  have hdocument : Setting.ofDocument (textOf "cases: 0\nmin_size: 2\n") =
      .ok (.map (sampleKeywords.map fun pair => (.text pair.1, pair.2))) := by cbv
  exact .mapping rfl hdocument

theorem sample_spelled : Spelled sampleOverrides sampleEnvironment sampleKeywords where
  alike field := by
    unfold Named.Alike
    cases field <;> decide
  own field := by cases field <;> decide

theorem load_prefers_valid_sources :
    load sampleEnvironment sampleFiles (some "lockstep.yaml") sampleOverrides =
      .ok { cases := 7, minSize := 2, seed := some 5 } := by
  have henvironment : sampleEnvironment.Regular := .of_plain (by decide) (by decide)
  refine ((load_prefers_sources rfl sampleFiles_give henvironment sample_spelled).1 _).2 fun field => ?_
  cases field with
  | cases => exact show Field.cases.Takes (some (.text "7")) (.int 7) from ⟨rfl, show (1 : Int) ≤ 7 by decide⟩
  | minSize => exact show Field.minSize.Takes (some (.int 2)) (.int 2) from ⟨rfl, show (0 : Int) ≤ 2 by decide⟩
  | seed => exact show Field.seed.Takes (some (.int 5)) (.int 5) from ⟨rfl, trivial⟩
  | maxSize | maxPreconditionRetries | maxUnfillableSlots | maxGenerationAttempts | maxShrinkIters | maxShrinkTime
  | verbose => exact show Field.Takes _ none _ from rfl

/-- In other letters than the field's own, the file's value comes before the environment's and the overrides'. -/
theorem capital_beats_sources :
    (let environment : Variables := [("LOCKSTEP_SEED", some "9")]
    let files : Directory := [("lockstep.yaml", "Seed: 4\n")]
    files.Gives (some "lockstep.yaml") [("Seed", .int 4)] ∧
      Field.seed.Takes (preferred [] environment [("Seed", .int 4)] .seed) (.int 9) ∧
      load environment files (some "lockstep.yaml") [] = .ok { seed := some 4 }) ∧
    let files : Directory := [("lockstep.yaml", "Cases: 40\n")]
    files.Gives (some "lockstep.yaml") [("Cases", .int 40)] ∧
      Field.cases.Takes (preferred [("cases", .int 2)] [] [("Cases", .int 40)] .cases) (.int 2) ∧
      load [] files (some "lockstep.yaml") [("cases", .int 2)] = .ok { cases := 40 } := by
  have hseed : Setting.ofDocument (textOf "Seed: 4\n") = .ok (.map
      (([("Seed", .int 4)] : Keywords).map fun pair => (.text pair.1, pair.2))) := by cbv
  have hcases : Setting.ofDocument (textOf "Cases: 40\n") = .ok (.map
      (([("Cases", .int 40)] : Keywords).map fun pair => (.text pair.1, pair.2))) := by cbv
  refine ⟨⟨.mapping rfl hseed, And.intro rfl trivial, ?_⟩, .mapping rfl hcases,
    And.intro rfl (show (1 : Int) ≤ 2 by decide), ?_⟩
  · rw [load_of_gives (.mapping rfl hseed)]
    rfl
  · rw [load_of_gives (.mapping rfl hcases)]
    rfl

end StateCheck.Settings
