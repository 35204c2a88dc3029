/-!
# YAML tokens

The tokens into which a YAML text is cut. Indentation has become explicit: a block collection opens
and closes with tokens of its own, and a key is announced before it comes.
-/

namespace GraphGateway.Yaml

/-- How a scalar was written. -/
inductive ScalarStyle where
  | plain
  | singleQuoted
  | doubleQuoted
  | literal
  | folded
  deriving DecidableEq, Repr

/-- A tag: the bytes of its text. Its escapes may write bytes that are no encoded text. -/
abbrev Tag := List UInt8

/-- The tag with a text. -/
def Tag.ofText (text : String) : Tag := text.toUTF8.data.toList

/-- A token of a YAML text. -/
inductive Token where
  | streamEnd
  | versionDirective (major minor : Nat)
  | tagDirective (handle : String) (expansion : Tag)
  | documentStart
  | documentEnd
  | blockSequenceStart
  | blockMappingStart
  | blockEnd
  | flowSequenceStart
  | flowSequenceEnd
  | flowMappingStart
  | flowMappingEnd
  | blockEntry
  | flowEntry
  | key
  | value
  | alias (name : String)
  | anchor (name : String)
  | tag (handle : String) (suffix : Tag)
  | scalar (text : String) (style : ScalarStyle)
  deriving DecidableEq, Repr

end GraphGateway.Yaml
