/-!
# Tokens of a document

The tokens into which a document is cut, and the styles in which scalars are written.
-/

namespace BoundedStream

namespace Yaml

/-- How a scalar is written. -/
inductive ScalarStyle where
  | plain
  | singleQuoted
  | doubleQuoted
  | literal
  | folded
deriving DecidableEq, Repr, Inhabited

/-- A token of a document. -/
inductive Token where
  | streamEnd
  | versionDirective (major minor : Nat)
  | tagDirective (handle start : String)
  | documentStart
  | documentEnd
  | blockSequenceStart
  | blockMappingStart
  | blockEnd
  | flowSequenceStart
  | flowSequenceEnd
  | flowMappingStart
  | flowMappingEnd
  | blockEntry
  | flowEntry
  | key
  | value
  | alias (name : String)
  | anchor (name : String)
  | tag (handle suffix : String)
  | scalar (style : ScalarStyle) (text : String)
deriving DecidableEq, Repr, Inhabited

end Yaml

end BoundedStream
