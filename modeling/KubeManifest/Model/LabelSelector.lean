import KubeManifest.Model.Entries
import KubeManifest.Value.Same

/-!
# Label selectors

`LabelSelector` : the labels and expressions by which a controller finds its pods;
`LabelSelector.same` compares them by value, and `LabelSelector.display` shows one in a message.
-/

namespace KubeManifest

open Model

structure LabelSelector where
  matchLabels : Value := .ofFields []
  matchExpressions : Value := .ofList []
  extra : Fields := []

namespace LabelSelector

def ofFields (fs : Fields) : LabelSelector where
  matchLabels := if Fields.has fs "matchLabels" then field fs "matchLabels" else .ofFields []
  matchExpressions :=
    if Fields.has fs "matchExpressions" then field fs "matchExpressions" else .ofList []
  extra := extraOf ["matchExpressions", "matchLabels"] fs

def read? (v : Value) : Except Misfit (Option LabelSelector) := do
  return (← entriesOf? "LabelSelector" v).map ofFields

def toValue (m : LabelSelector) : Value :=
  .ofFields (compact [("matchExpressions", m.matchExpressions), ("matchLabels", m.matchLabels)] ++
    m.extra)

def parts (m : LabelSelector) : Value :=
  .ofList [m.matchLabels, m.matchExpressions, .ofFields m.extra]

def same (a b : LabelSelector) : Bool :=
  a.parts.same b.parts

def display (m : LabelSelector) : String :=
  "LabelSelector(match_labels=" ++ m.matchLabels.quoted ++
    ", match_expressions=" ++ m.matchExpressions.quoted ++
    ", extra=" ++ (Value.ofFields m.extra).quoted ++ ")"

end LabelSelector

end KubeManifest
