import KubeManifest.Json.Writer
import KubeManifest.Manifest.Tree
import KubeManifest.Path
import KubeManifest.Text.Case
import KubeManifest.Yaml.Writer

/-!
# The text of manifests

* `Format` : YAML and JSON, with the extension of their files;
* `Exportable.text` : the text of what is exported.
-/

namespace KubeManifest

inductive Format
  | yaml
  | json
deriving DecidableEq, Repr

namespace Format

def name : Format → String
  | yaml => "yaml"
  | json => "json"

def extension : Format → String
  | yaml => "yml"
  | json => "json"

def ofText (s : String) : Except Misfit Format :=
  let name := Text.lower s
  if name == "yaml" || name == "yml" then .ok yaml
  else if name == "json" then .ok json
  else .error .badValue

def withExtension (format : Format) (target : String) : Path :=
  Path.ofText (target ++ "." ++ format.extension)

/-- The text of some entries. A key that has no text in the format is a misfit. -/
def write (format : Format) (fs : Fields) : Except Misfit String :=
  match format with
  | yaml => .ok (Yaml.render fs)
  | json =>
    match Json.render (.ofFields fs) with
    | some text => .ok (text ++ "\n")
    | none => .error .wrongKind

end Format

def Exportable.text (e : Exportable) (format : String) : Except Misfit String := do
  let fs ← e.tree
  (← Format.ofText format).write fs

end KubeManifest
