import KubeManifest.Value.Basic

/-!
# The words of a YAML text

`Token` : indicators, the beginnings and ends of blocks that indentation implies, anchors, tags and the
texts of scalars, each with the offset at which it stands. A scalar with a code point that no character has is a token
of its own kind. A text that breaks off has a last token that says so, and `streamEnd` ends every other one.
-/

namespace KubeManifest.Yaml

inductive Version
  | v11
  | v12
  | other
deriving DecidableEq, Repr

inductive Token.Kind
  | directive (isVersion : Bool) (supported : Bool)
  | documentStart
  | documentEnd
  | blockSequence
  | blockMapping
  | blockEnd
  | openSequence
  | closeSequence
  | openMapping
  | closeMapping
  | blockEntry
  | flowEntry
  | key
  | value
  | reference (name : String)
  | anchor (name : String)
  | tag (text : String)
  | scalar (text : String) (style : TextStyle)
  | noCharacter
  | streamEnd
  | broken
deriving DecidableEq, Repr

/-- A token and its place, with the version of YAML that holds there. -/
structure Token where
  kind : Token.Kind
  offset : Nat
  version : Version
deriving Repr

end KubeManifest.Yaml
