/-! The parts of a YAML text: its scalars, and the marks, written or told by
indentation, that say how they nest. -/

namespace TenantRelay.Document.Yaml

inductive Token where
  | directive
  | documentStart
  | documentEnd
  | blockSequence
  | blockMapping
  | blockEnd
  | flowSequence
  | flowSequenceEnd
  | flowMapping
  | flowMappingEnd
  | blockEntry
  | flowEntry
  | key
  | value
  | anchor (name : List Char)
  | alias (name : List Char)
  | tag (text : List Char)
  | scalar (text : List Char) (plain : Bool)
deriving DecidableEq

inductive Fault where
  | badCharacter
  | noToken
  | lostKey
  | badPlace
  | badScalar
  | badName
  | badStructure
  | unknownAlias
  | manyDocuments
deriving DecidableEq

def Fault.message : Fault → String
  | badCharacter => "control characters are not allowed"
  | noToken => "found character that cannot start any token"
  | lostKey => "could not find expected ':'"
  | badPlace => "a mapping or a sequence is not allowed in this context"
  | badScalar => "found a scalar that does not end or is not well formed"
  | badName => "did not find expected alphabetic or numeric character"
  | badStructure => "did not find expected node content"
  | unknownAlias => "unknown anchor"
  | manyDocuments => "more than one document"

end TenantRelay.Document.Yaml
