/-!
# Tokens

The tokens of a YAML document. Block structure shows in tokens too: a block sequence and a block
mapping each have a start, and share the end.
-/

namespace StartupGate.Yaml

/-- A directive before a document. -/
inductive Directive where
  | version (major minor : Nat)
  | handle (handle address : String)
  /-- Any other directive, which is passed over. -/
  | other
deriving Repr, DecidableEq

/-- A tag as it is written: an optional handle, and the rest. -/
structure WrittenTag where
  handle : Option String
  suffix : String
deriving Repr, DecidableEq

/-- A token. -/
inductive Token where
  | directive (d : Directive)
  | documentStart
  | documentEnd
  | streamEnd
  | blockSequenceStart
  | blockMappingStart
  | blockEnd
  | flowSequenceStart
  | flowSequenceEnd
  | flowMappingStart
  | flowMappingEnd
  | blockEntry
  | flowEntry
  | key
  | value
  | alias (name : String)
  | anchor (name : String)
  | tag (t : WrittenTag)
  /-- A scalar; `plain` says that it stands without quotes. -/
  | scalar (text : String) (plain : Bool)
deriving Repr, DecidableEq

end StartupGate.Yaml
