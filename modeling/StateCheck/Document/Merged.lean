import StateCheck.Document.Node

/-!
What a mapping holds once others are merged into it, and the text that it may have as a scalar.
-/

namespace StateCheck.Document.Node

def kind : Node → Kind
  | scalar kind _ => kind
  | sequence kind _ => kind
  | mapping kind _ => kind

def isMapping : Node → Bool
  | mapping _ _ => true
  | _ => false

def text : Node → Read String
  | scalar _ s => .ok s
  | sequence _ _ => unreadable
  | mapping _ pairs => textIn pairs
where
  textIn : List (Node × Node) → Read String
    | [] => unreadable
    | (k, v) :: rest => if k.kind = .value then v.text else textIn rest

/-- The key for a mapping's text is text itself where a mapping is looked at as one. -/
def plainKey : Node → Node
  | scalar .value s => scalar .text s
  | sequence .value items => sequence .text items
  | mapping .value pairs => mapping .text pairs
  | node => node

mutual

/-- The pairs that a node brings to a mapping that it is merged into: a mapping's own after those that it
merges in itself; a sequence's from its last mapping to its first. -/
def merged : Node → Read (List (Node × Node))
  | scalar _ _ => unreadable
  | sequence _ items => mergedItems items
  | mapping _ pairs => do
    let (front, own) ← mergedPairs pairs
    .ok (front ++ own)

def mergedItems : List Node → Read (List (Node × Node))
  | [] => .ok []
  | item :: rest =>
    if !item.isMapping then unreadable
    else do
      let pairs ← merged item
      let later ← mergedItems rest
      .ok (later ++ pairs)

def mergedPairs : List (Node × Node) → Read (List (Node × Node) × List (Node × Node))
  | [] => .ok ([], [])
  | (k, v) :: rest => do
    if k.kind = .merge then
      let pairs ← merged v
      let (front, own) ← mergedPairs rest
      .ok (pairs ++ front, own)
    else
      let (front, own) ← mergedPairs rest
      .ok (front, (plainKey k, v) :: own)

end

end StateCheck.Document.Node
