import KubeManifest.Collection.Basic

/-!
# The exported tree

* `Value.prune` : a value without nulls and without lists that are or become empty; mappings stay;
* `Manifest.arrange` : pruned entries, the best known names first;
* `Exportable` : what can be exported: a collection, a resource, or a mapping as it is. A mapping with a
  kind other than that of lists is taken for a resource;
* `Exportable.tree` : the entries that are written.
-/

namespace KubeManifest

namespace Value

mutual

/-- What remains of a value: null where nothing does. -/
def prune : Value → Value
  | scalar s mark => scalar s mark
  | list items _ =>
    let kept := pruneItems items
    if kept.isEmpty then null else ofList kept
  | map fs _ => ofFields (pruneEntries fs)

def pruneItems : List Value → List Value
  | [] => []
  | x :: xs =>
    let kept := prune x
    if kept.isNull then pruneItems xs else kept :: pruneItems xs

def pruneEntries : List (Value × Value) → List (Value × Value)
  | [] => []
  | (k, v) :: fs =>
    let kept := prune v
    if kept.isNull then pruneEntries fs else (k, kept) :: pruneEntries fs

end

end Value

namespace Manifest

/-- The names that come first in a manifest. -/
def leadingNames : List String := ["apiVersion", "kind", "metadata", "spec", "data", "status"]

/-- The entries of the leading names in their order, and then the others in theirs. -/
def order (fs : Fields) : Fields :=
  leadingNames.flatMap (fun name => fs.filter fun (k, _) => k.isText name) ++
    fs.filter fun (k, _) => !leadingNames.any k.isText

def arrange (fs : Fields) : Fields :=
  order (Value.pruneEntries fs)

end Manifest

inductive Exportable
  | collection (c : Collection)
  | resource (r : Resource)
  | mapping (v : Value)

namespace Exportable

/-- The entries before they are pruned. -/
def source : Exportable → Except Misfit Fields
  | collection c => c.toFields?
  | resource r => r.toFields?
  | mapping v =>
    match v with
    | .map fs _ =>
      let kind := Fields.get fs "kind"
      if kind.isTruthy && !kind.isText "List" then do (← Resource.ofFields fs).toFields?
      else .ok fs
    | _ => .error .noSuchPart

def tree (e : Exportable) : Except Misfit Fields := do
  return Manifest.arrange (← e.source)

end Exportable

end KubeManifest
