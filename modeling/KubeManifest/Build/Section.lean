import KubeManifest.Failure
import KubeManifest.Value.Kind
import KubeManifest.Value.Plain

/-!
# Sections of the configuration

What the descriptions of a build share when they are read:

* `Section.entries` : the entries of a section by its name; null stands for none;
* `Section.texts` : a section of texts; other values are shown as text, and null is the empty text;
* `Section.items` : the items under a name, none if nothing is given.
-/

namespace KubeManifest.Section

def entries (name : String) : Value → Except Failure Fields
  | .map fs _ => .ok fs
  | .scalar .null _ => .ok []
  | v => .error (.badConfig none (.sectionNotMapping name v.kindName))

/-- A value as text; null is the empty one. -/
def textOf (v : Value) : String :=
  if v.isNull then "" else v.display

def texts (name : String) (v : Value) : Except Failure Fields := do
  let fs ← entries name v
  return Fields.ofPairs (fs.map fun (k, v) => (k.displayKey, .ofString (textOf v)))

/-- A value as text, the empty one if it does not count as given. -/
def textOrEmpty (v : Value) : String :=
  if v.isTruthy then v.display else ""

def text? (v : Value) : Option String :=
  if v.isNull then none else some v.display

/-- The items of a value, none if it does not count as given. -/
def items (v : Value) : Except Misfit (List Value) :=
  if v.isTruthy then Model.itemsOf v else .ok []

/-- Whether a value can be an item of a set: it is a key already, or it has no parts. -/
def canBeItem (container item : Value) : Bool :=
  container.isMap || item.isScalar

/-- The items of a value, each once. Lists and mappings cannot be told apart. -/
def distinct (v : Value) : Except Misfit (List Value) := do
  let vs ← items v
  if vs.all (canBeItem v) then
    return vs.foldl (fun seen x => if seen.any (·.same x) then seen else seen ++ [x]) []
  else .error .wrongKind

end KubeManifest.Section
