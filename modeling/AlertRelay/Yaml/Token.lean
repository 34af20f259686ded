import AlertRelay.Yaml.Cursor

namespace AlertRelay.Yaml

inductive Token where
  | streamEnd
  | version (major : Nat)
  | handle (name meaning : String)
  | directive
  | documentStart
  | documentEnd
  | blockSequenceStart
  | blockMappingStart
  | blockEnd
  | flowSequenceStart
  | flowSequenceEnd
  | flowMappingStart
  | flowMappingEnd
  | blockEntry
  | flowEntry
  | key
  | value
  | alias (name : String)
  | anchor (name : String)
  | tag (handle : Option String) (suffix : String)
  | scalar (text : List Char) (plain : Bool)
  | failure (e : Error)
  deriving DecidableEq, Repr

/-- A place among the tokens: a token, or a place before one that may turn out to be a key. -/
inductive Slot where
  | token (t : Token)
  | open
  | key (mapping : Bool)
  deriving DecidableEq, Repr

def Slot.tokens : Slot → List Token
  | .token t => [t]
  | .open => []
  | .key mapping => if mapping then [.blockMappingStart, .key] else [.key]

end AlertRelay.Yaml
