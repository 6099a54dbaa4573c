import StateCheck.Document.Kind
import StateCheck.Document.Layout

/-!
From tokens to the one node that a document is. An alias is the node that its anchor stands at; within
that node itself it is an empty collection of its kind.
-/

namespace StateCheck.Document

inductive Node where
  | scalar (kind : Kind) (text : String)
  | sequence (kind : Kind) (items : List Node)
  | mapping (kind : Kind) (pairs : List (Node × Node))

namespace Node

structure Input where
  tokens : List Token
  anchors : List (String × Node) := []

abbrev Take (α : Type) : Type := Input → Read (α × Input)

abbrev Stems : Type := List (String × String)

def empty : Node := scalar .null ""

inductive Place where
  | flow
  | block
  /-- The items of a sequence may stand at the indentation of the mapping around them. -/
  | value
  deriving DecidableEq, Repr

structure Properties where
  anchor : Option String := none
  tag : Option (Option String × String) := none

def properties : List Token → Properties × List Token
  | .anchor a :: .tag h s :: rest => ({ anchor := a, tag := (h, s) }, rest)
  | .tag h s :: .anchor a :: rest => ({ anchor := a, tag := (h, s) }, rest)
  | .anchor a :: rest => ({ anchor := a }, rest)
  | .tag h s :: rest => ({ tag := (h, s) }, rest)
  | rest => ({}, rest)

/-- The tag in full. The mark alone stands for the kind that an untagged plain scalar would have. -/
def tagOf (stems : Stems) : Option (Option String × String) → Read (Option String)
  | none => .ok none
  | some (none, suffix) => .ok (some suffix)
  | some (some handle, suffix) => (stems.lookup handle).elim unreadable fun stem => .ok (some (stem ++ suffix))

def bareTag : String := "!"

def scalarKind (tag : Option String) (plain : Bool) (text : String) : Kind :=
  match tag with
  | none => if plain then Kind.ofText text else .text
  | some tag => if tag = bareTag then Kind.ofText text else Kind.ofTag tag

def collectionKind (tag : Option String) (default : Kind) : Kind :=
  match tag with
  | none => default
  | some tag => if tag = bareTag then default else Kind.ofTag tag

def anchored (anchor : Option String) (node : Node) (input : Input) : Input :=
  match anchor with
  | some a => { input with anchors := (a, node) :: input.anchors }
  | none => input

def nextIs (input : Input) (ts : List Token) : Bool := input.tokens.head?.any ts.contains

mutual

def node (stems : Stems) (place : Place) : Nat → Take Node
  | 0, _ => unreadable
  | fuel + 1, input =>
    match input.tokens with
    | .reference a :: rest =>
      (input.anchors.lookup a).elim unreadable fun node => .ok (node, { input with tokens := rest })
    | tokens => do
      let (p, tokens) := properties tokens
      let tag ← tagOf stems p.tag
      if p.anchor.any fun a => (input.anchors.lookup a).isSome then unreadable
      else
        let sequenceKind := collectionKind tag .sequence
        let mappingKind := collectionKind tag .mapping
        let items (take : Take (List Node)) (rest : List Token) : Read (Node × Input) := do
          let (nodes, input) ← take (anchored p.anchor (sequence sequenceKind []) { input with tokens := rest })
          let node := sequence sequenceKind nodes
          .ok (node, anchored p.anchor node input)
        let pairs (take : Take (List (Node × Node))) (rest : List Token) : Read (Node × Input) := do
          let (nodes, input) ← take (anchored p.anchor (mapping mappingKind []) { input with tokens := rest })
          let node := mapping mappingKind nodes
          .ok (node, anchored p.anchor node input)
        let leaf (plain : Bool) (text : String) (rest : List Token) : Read (Node × Input) :=
          let node := scalar (scalarKind tag plain text) text
          .ok (node, anchored p.anchor node { input with tokens := rest })
        match tokens with
        | .scalar text plain :: rest => leaf plain text rest
        | .flowSequence :: rest => items (flowItems stems true fuel) rest
        | .flowMapping :: rest => pairs (flowPairs stems true fuel) rest
        | t :: rest =>
          if place = .value && t = .item then items (looseItems stems fuel) (t :: rest)
          else if place ≠ .flow && t = .blockSequence then items (blockItems stems fuel) rest
          else if place ≠ .flow && t = .blockMapping then pairs (blockPairs stems fuel) rest
          else if p.anchor.isSome || tag.isSome then leaf true "" (t :: rest)
          else unreadable
        | [] => if p.anchor.isSome || tag.isSome then leaf true "" [] else unreadable

def optional (stems : Stems) (place : Place) (stops : List Token) : Nat → Take Node
  | 0, _ => unreadable
  | fuel + 1, input =>
    if nextIs input stops then .ok (empty, input) else node stems place fuel input

def valueOf (stems : Stems) (place : Place) (stops : List Token) : Nat → Take Node
  | 0, _ => unreadable
  | fuel + 1, input =>
    match input.tokens with
    | .value :: rest => optional stems place stops fuel { input with tokens := rest }
    | _ => .ok (empty, input)

def blockItems (stems : Stems) : Nat → Take (List Node)
  | 0, _ => unreadable
  | fuel + 1, input =>
    match input.tokens with
    | .item :: rest => do
      let (n, input) ← optional stems .block [.item, .blockEnd] fuel { input with tokens := rest }
      let (ns, input) ← blockItems stems fuel input
      .ok (n :: ns, input)
    | .blockEnd :: rest => .ok ([], { input with tokens := rest })
    | _ => unreadable

def looseItems (stems : Stems) : Nat → Take (List Node)
  | 0, _ => unreadable
  | fuel + 1, input =>
    match input.tokens with
    | .item :: rest => do
      let (n, input) ←
        optional stems .block [.item, .key, .value, .blockEnd] fuel { input with tokens := rest }
      let (ns, input) ← looseItems stems fuel input
      .ok (n :: ns, input)
    | _ => .ok ([], input)

def blockPairs (stems : Stems) : Nat → Take (List (Node × Node))
  | 0, _ => unreadable
  | fuel + 1, input =>
    match input.tokens with
    | .key :: rest => do
      let stops : List Token := [.key, .value, .blockEnd]
      let (k, input) ← optional stems .value stops fuel { input with tokens := rest }
      let (v, input) ← valueOf stems .value stops fuel input
      let (pairs, input) ← blockPairs stems fuel input
      .ok ((k, v) :: pairs, input)
    | .blockEnd :: rest => .ok ([], { input with tokens := rest })
    | _ => unreadable

def flowItems (stems : Stems) (first : Bool) : Nat → Take (List Node)
  | 0, _ => unreadable
  | fuel + 1, input => do
    if nextIs input [.flowSequenceEnd] then .ok ([], { input with tokens := input.tokens.drop 1 })
    else
      if !first && !nextIs input [.entry] then unreadable
      else
        let input := if first then input else { input with tokens := input.tokens.drop 1 }
        let stops : List Token := [.entry, .flowSequenceEnd]
        if nextIs input [.flowSequenceEnd] then .ok ([], { input with tokens := input.tokens.drop 1 })
        else
          let (n, input) ←
            if nextIs input [.key] then do
              let (k, input) ←
                optional stems .flow (.value :: stops) fuel { input with tokens := input.tokens.drop 1 }
              let (v, input) ← valueOf stems .flow stops fuel input
              .ok (mapping .mapping [(k, v)], input)
            else node stems .flow fuel input
          let (ns, input) ← flowItems stems false fuel input
          .ok (n :: ns, input)

def flowPairs (stems : Stems) (first : Bool) : Nat → Take (List (Node × Node))
  | 0, _ => unreadable
  | fuel + 1, input => do
    if nextIs input [.flowMappingEnd] then .ok ([], { input with tokens := input.tokens.drop 1 })
    else
      if !first && !nextIs input [.entry] then unreadable
      else
        let input := if first then input else { input with tokens := input.tokens.drop 1 }
        let stops : List Token := [.entry, .flowMappingEnd]
        if nextIs input [.flowMappingEnd] then .ok ([], { input with tokens := input.tokens.drop 1 })
        else
          let (pair, input) ←
            if nextIs input [.key] then do
              let (k, input) ←
                optional stems .flow (.value :: stops) fuel { input with tokens := input.tokens.drop 1 }
              let (v, input) ← valueOf stems .flow stops fuel input
              .ok ((k, v), input)
            else do
              let (k, input) ← node stems .flow fuel input
              .ok ((k, empty), input)
          let (pairs, input) ← flowPairs stems false fuel input
          .ok (pair :: pairs, input)

end

structure Preamble where
  hasVersion : Bool := false
  stems : Stems := []

def defaultStems : Stems := [("!", "!"), ("!!", Kind.standardStem)]

def addDirective (p : Preamble) : Directive → Read Preamble
  | .version major =>
    if p.hasVersion ∨ major ≠ 1 then unreadable else .ok { p with hasVersion := true }
  | .tagStem handle stem =>
    if (p.stems.lookup handle).isSome then unreadable
    else .ok { p with stems := p.stems ++ [(handle, stem)] }
  | .other => .ok p

def directives (p : Preamble) : List Token → Read (Preamble × List Token)
  | .directive d :: rest => do
    let p ← addDirective p d
    directives p rest
  | rest => .ok (p, rest)

def isEnd (t : Token) : Bool := t = .documentEnd

def isBoundary : Token → Bool
  | .directive _ | .documentStart | .documentEnd => true
  | _ => false

def last (node : Node) (rest : List Token) : Read (Option Node) :=
  if (rest.dropWhile isEnd).isEmpty then .ok node else unreadable

def ofTokens (ts : List Token) : Read (Option Node) :=
  match ts with
  | [] => .ok none
  | t :: _ =>
    let fuel := 2 * ts.length + 2
    let isExplicit := match t with
      | .directive _ | .documentStart => true
      | _ => false
    if !isExplicit then do
      let (node, input) ← node defaultStems .block fuel { tokens := ts }
      last node input.tokens
    else do
      let (p, rest) ← directives {} ts
      match rest with
      | .documentStart :: rest =>
        if rest.head?.all isBoundary then last empty rest
        else do
          let (node, input) ← node (p.stems ++ defaultStems) .block fuel { tokens := rest }
          last node input.tokens
      | _ => unreadable

def depth : Node → Nat
  | scalar _ _ => 1
  | sequence _ items => depthOfItems items + 1
  | mapping _ pairs => depthOfPairs pairs + 1
where
  depthOfItems : List Node → Nat
    | [] => 0
    | item :: rest => max item.depth (depthOfItems rest)
  depthOfPairs : List (Node × Node) → Nat
    | [] => 0
    | (k, v) :: rest => max (max k.depth v.depth) (depthOfPairs rest)

end Node

def read (text : String) : Read (Option Node) := do
  let ts ← tokens text.toList
  Node.ofTokens ts

end StateCheck.Document
