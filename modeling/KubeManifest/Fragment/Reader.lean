import KubeManifest.Files
import KubeManifest.Json.Reader
import KubeManifest.Text.Case
import KubeManifest.Text.Decode
import KubeManifest.Yaml.Failure
import KubeManifest.Yaml.Reader

/-!
# Reading fragments

* `Fragment.ofText` : the entries of a fragment in YAML or JSON; an empty text has none;
* `Fragment.ofFile` : the same for a file. Every fault of the text carries the path.
-/

namespace KubeManifest

namespace Fragment

def jsonFailure (path : String) (text : List Char) (p : Json.Problem) : Failure :=
  match p.fault with
  | .tooManyDigits => .misfit .badValue
  | .noCharacter => .noCharacter
  | _ => .unparsable path (.badJson (p.message text))

/-- The value of a JSON text. A blank one stands for null. -/
def ofJson (path : String) (text : List Char) : Except Failure Value :=
  if text.all Text.isBlank then .ok .null else (Json.read text).mapError (jsonFailure path text)

/-- The entries of a fragment. `document` tells the values of one fragment from those of others. -/
def ofText (document : Nat) (path extension : String) (text : List Char) : Except Failure Fields := do
  let v ←
    if Text.lower extension == "json" then ofJson path text
    else (Yaml.readOne (.styled document) text).mapError (Yaml.Fault.failure (.unparsable path .badYaml))
  match v with
  | .map fs _ => .ok fs
  | .scalar .null _ => .ok []
  | v => .error (.unparsable path (.notMapping v.kindName))

def ofFile (files : Files) (document : Nat) (path : Path) (extension : String) :
    Except Failure Fields :=
  match files.read path with
  | .error .nulInName => .error (.file .nulInName)
  | .error _ => .error (.unparsable path.text .unreadable)
  | .ok bytes =>
    match Text.decode? bytes with
    | none => .error (.unparsable path.text .unreadable)
    | some text => ofText document path.text extension (Text.dropMark text)

end Fragment

end KubeManifest
