import KubeManifest.Value.Basic

/-!
# The kinds of values, by name

`Value.kindName` names the kind of a value in messages. Values of a document that is written back
have finer kinds than others.
-/

namespace KubeManifest.Value

def textKindName (style : TextStyle) (named : Bool) : String :=
  match style with
  | .plain => if named then "PlainScalarString" else "str"
  | .single => "SingleQuotedScalarString"
  | .double => "DoubleQuotedScalarString"
  | .literal _ => "LiteralScalarString"
  | .folded _ _ => "FoldedScalarString"

def intKindName : Option IntStyle → String
  | none => "int"
  | some style => match style.radix with
    | .decimal => "ScalarInt"
    | .binary => "BinaryInt"
    | .octal => "OctalInt"
    | .hex => "HexInt"
    | .hexCapital => "HexCapsInt"

def scalarKindName (s : Scalar) (named : Bool) : String :=
  match s with
  | .null => "NoneType"
  | .bool _ => if named then "ScalarBoolean" else "bool"
  | .int _ style => intKindName style
  | .float _ style => if style.isSome then "ScalarFloat" else "float"
  | .text _ style => textKindName style named
  | .moment (.date _) _ => "date"
  | .moment _ style => if style.isSome then "TimeStamp" else "datetime"

def kindName : Value → String
  | scalar s mark => scalarKindName s (mark.bind (·.anchor)).isSome
  | list _ mark => if mark.isSome then "CommentedSeq" else "list"
  | map _ mark => if mark.isSome then "CommentedMap" else "dict"

end KubeManifest.Value
