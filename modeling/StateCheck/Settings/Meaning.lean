import StateCheck.Document.Merged
import StateCheck.Settings.Scalar

/-!
What a document's node is worth as a setting. Collections are filled after all that lies as deep as they
do, so a fault nearer to the root comes before those deeper down.
-/

namespace StateCheck.Settings
open Document

abbrev Faults : Type := List (Option Fault)

namespace Faults

def one (e : Fault) : Faults := [some e]

def inside (faults : Faults) : Faults := none :: faults

def beside : Faults → Faults → Faults
  | [], others => others
  | faults, [] => faults
  | e :: faults, d :: others => (e <|> d) :: beside faults others

def first? (faults : Faults) : Option Fault := faults.findSome? id

end Faults

structure Worth where
  setting : Setting
  faults : Faults := []

namespace Worth

def refused : Worth := ⟨.null, Faults.one .settingsUnreadable⟩

def unfilled (setting : Setting) (e : Fault) : Worth := ⟨setting, (Faults.one e).inside⟩

def ofExcept : Except Fault Setting → Worth
  | .ok setting => ⟨setting, []⟩
  | .error e => ⟨.null, Faults.one e⟩

def settings (ws : List Worth) : List Setting := ws.map (·.setting)

def within (ws : List Worth) : Faults := Faults.inside (ws.foldr (fun w faults => w.faults.beside faults) [])

def key (w : Worth) : Worth :=
  match w.setting with
  | .list _ | .map _ | .set _ => { w with faults := w.faults.beside (Faults.one .settingsUnreadable) }
  | _ => w

def ofScalar (kind : Kind) (node : Node) : Worth :=
  match node.text with
  | .error e => ⟨.null, Faults.one e⟩
  | .ok s =>
    if kind = .timestamp ∧ node.isMapping then
      ⟨.null, Faults.one (.ofText .type "expected string or bytes-like object, got 'list'")⟩
    else ofExcept (Scalar.read kind s)

def singles (worth : Node → Worth) (items : List Node) : List Worth :=
  items.flatMap fun
    | .mapping _ [(k, v)] => [worth k, worth v]
    | _ => [refused]

def pairs (worth : Node → Worth) (ps : List (Node × Node)) : List (Worth × Worth) :=
  ps.map fun (k, v) => ((worth k).key, worth v)

def flat (ps : List (Worth × Worth)) : List Worth := ps.flatMap fun (k, v) => [k, v]

def ofPairs (worth : Node → Worth) (fill : List (Worth × Worth) → Setting) : Node → Worth
  | .mapping kind ps =>
    match (Node.mapping kind ps).merged with
    | .error e => unfilled (fill []) e
    | .ok ps => ⟨fill (pairs worth ps), within (flat (pairs worth ps))⟩
  | _ => unfilled (fill []) .settingsUnreadable

def mapOf (ps : List (Worth × Worth)) : Setting := .map (ps.map fun (k, v) => (k.setting, v.setting))

def setOf (ps : List (Worth × Worth)) : Setting := .set (ps.map fun (k, _) => k.setting)

def ofItems (parts : List Node → List Worth) : Node → Worth
  | .sequence _ items => ⟨.list (settings (parts items)), within (parts items)⟩
  | _ => unfilled (.list []) .settingsUnreadable

def ofNode : Nat → Node → Worth
  | 0, _ => refused
  | fuel + 1, node =>
    match node.kind with
    | .sequence => ofItems (List.map (ofNode fuel)) node
    | .pairs => ofItems (singles (ofNode fuel)) node
    | .mapping => ofPairs (ofNode fuel) mapOf node
    | .set => ofPairs (ofNode fuel) setOf node
    | .merge | .value | .unknown => refused
    | kind => ofScalar kind node

end Worth

def Setting.ofDocument (content : String) : Except Fault Setting := do
  match ← Document.read content with
  | none => .ok .null
  | some node =>
    let w := Worth.ofNode node.depth node
    w.faults.first?.elim (.ok w.setting) .error

end StateCheck.Settings
