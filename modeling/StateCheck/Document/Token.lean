/-!
The tokens of a document. Indentation is told by tokens of its own: `blockSequence` and `blockMapping`
open a collection and `blockEnd` closes it.
-/

namespace StateCheck.Document

inductive Directive where
  | version (major : Nat)
  | tagStem (handle stem : String)
  | other
  deriving DecidableEq, Repr

inductive Token where
  | directive (d : Directive)
  | documentStart | documentEnd
  | blockSequence | blockMapping | blockEnd
  | flowSequence | flowSequenceEnd | flowMapping | flowMappingEnd
  | entry | item | key | value
  | reference (name : String)
  | anchor (name : String)
  | tag (handle : Option String) (suffix : String)
  | scalar (text : String) (plain : Bool)
  deriving DecidableEq, Repr

end StateCheck.Document
