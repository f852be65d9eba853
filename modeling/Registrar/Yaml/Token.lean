/-!
# Tokens of YAML text

What YAML text consists of. Where a block starts or ends is said by indentation alone, and tokens
are made of it.
-/

namespace Registrar.Yaml

/-- How a scalar is written. -/
inductive Style
  | plain
  | single
  | double
  | literal
  | folded
  deriving DecidableEq, Repr

/-- A token. -/
inductive Token
  | version (major minor : Nat)
  | handle (handle expansion : String)
  | documentStart
  | documentEnd
  | blockSequence
  | blockMapping
  | blockEnd
  | flowSequence
  | flowSequenceEnd
  | flowMapping
  | flowMappingEnd
  | blockEntry
  | flowEntry
  | key
  | value
  | aliasOf (name : String)
  | anchor (name : String)
  /-- A tag, as a handle and what follows it; without a handle the tag stands as it is. -/
  | tag (handle suffix : String)
  | scalar (style : Style) (text : String)
  deriving DecidableEq, Repr

end Registrar.Yaml
