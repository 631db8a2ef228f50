import NullSafeEquality.Yaml.Cursor

/-!
Tokens of a YAML text.
-/

namespace NullSafeEquality.Yaml

inductive ScalarStyle where
  | plain | singleQuoted | doubleQuoted | literal | folded
deriving DecidableEq

/-- A tag as it is written: a handle, which stands for a beginning, and the rest. -/
structure WrittenTag where
  handle : List Char
  suffix : List Char
deriving DecidableEq

inductive TokenKind where
  | streamStart | streamEnd
  | versionDirective (major minor : Nat)
  /-- What a handle stands for. -/
  | tagDirective (handle beginning : List Char)
  | documentStart | documentEnd
  | blockSequenceStart | blockMappingStart | blockEnd
  | flowSequenceStart | flowSequenceEnd | flowMappingStart | flowMappingEnd
  | blockEntry | flowEntry | key | value
  | aliasName (name : List Char)
  | anchor (name : List Char)
  | tag (written : WrittenTag)
  | scalar (text : List Char) (style : ScalarStyle)
deriving DecidableEq, Inhabited

structure Token where
  kind : TokenKind
  start : Place
  stop : Place
deriving Inhabited

end NullSafeEquality.Yaml
