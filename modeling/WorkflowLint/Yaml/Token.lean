/-
# WorkflowLint.Yaml.Token -- the tokens of a YAML stream

Indentation is a token of its own here: `blockSequenceStart` and
`blockMappingStart` open a block collection and `blockEnd` closes it.  A mapping
key is announced by `key`, also where the text writes no indicator for it.
-/

namespace WorkflowLint.Yaml

set_option autoImplicit false

inductive Style where
  | plain
  | singleQuoted
  | doubleQuoted
  | literal
  | folded
  deriving DecidableEq, Repr, Inhabited

/-- The text of a tag as octets.  Escapes may denote any octets, so a tag need
not be well-formed UTF-8. -/
abbrev Octets := List UInt8

def octetsOf (s : String) : Octets := s.toUTF8.toList

/-- A token; the end of the stream is the end of the list of tokens. -/
inductive Token where
  | version (major minor : Nat)
  | handle (name : String) (expansion : Octets)
  | documentStart
  | documentEnd
  | blockSequenceStart
  | blockMappingStart
  | blockEnd
  | flowSequenceStart
  | flowSequenceEnd
  | flowMappingStart
  | flowMappingEnd
  | blockEntry
  | flowEntry
  | key
  | value
  | anchor (name : String)
  | aliasTo (name : String)
  | tag (handle : String) (suffix : Octets)
  | scalar (style : Style) (text : String)
  deriving DecidableEq, Repr, Inhabited

end WorkflowLint.Yaml
