import KubeManifest.Collection.Basic
import KubeManifest.Fragment.Reader
import KubeManifest.Text.Cut

/-!
# Reading manifests

* `Manifest.leaves` : the objects in a document; templates and lists are expanded at any depth;
* `Manifest.firsts` : of the resources with one kind and name, the first;
* `Manifest.load` : the resources in the documents of a file, by kind and name, each once.
-/

namespace KubeManifest.Manifest

/-- Makes the objects of a template. -/
abbrev Processor := Fields → Except Misfit (List Value)

/-- The deepest nesting of templates and lists. -/
def maxDepth : Nat := 1000

/-- The objects under a name in a document; what does not count as given stands for none. -/
def objectsOf (doc : Fields) (name : String) : Except Misfit (List Value) :=
  let v := Fields.get doc name
  if v.isTruthy then Model.itemsOf v else .ok []

/-- The objects that stand in a document in place of it, if it is a template or list. -/
def expansion (processor : Option Processor) (doc : Fields) : Except Misfit (Option (List Value)) :=
  let kind := Fields.get doc "kind"
  if kind.isText "Template" then
    match processor with
    | some process => some <$> process doc
    | none => some <$> objectsOf doc "objects"
  else
    match kind.text? with
    | some s => if Text.endsWith s "List" then some <$> objectsOf doc "items" else .ok none
    | none => if kind.isTruthy then .error .noSuchPart else .ok none

/-- The objects in a document, in order, each of them or what is wrong at its place. -/
def leaves (processor : Option Processor) : Nat → Value → List (Except Failure Fields)
  | 0, _ => [.error .endless]
  | depth + 1, .map doc _ =>
    match expansion processor doc with
    | .error m => [.error (.misfit m)]
    | .ok none => [.ok doc]
    | .ok (some objects) => objects.flatMap (leaves processor depth)
  | _ + 1, _ => [.error (.misfit .noSuchPart)]

def resourceOf (leaf : Except Failure Fields) : Except Failure Resource := do
  Resource.ofFields (← leaf)

/-- Of the resources with one kind and name, the first. -/
def firsts : List Resource → List Resource
  | [] => []
  | r :: rs => r :: (firsts rs).filter fun other => other.sortKey != r.sortKey

/-- The resources in some documents, by kind and name, each once. -/
def resourcesOf (processor : Option Processor) (docs : List Value) : Except Failure (List Resource) := do
  let resources ← (docs.flatMap (leaves processor maxDepth)).mapM resourceOf
  return (firsts resources).mergeSort fun a b => Collection.pairLE a.sortKey b.sortKey

/-- The documents of a file that count as given. There must be one. -/
def documentsOf (files : Files) (path : Path) : Except Failure (List Value) := do
  let bytes ← (files.read path).mapError Failure.file
  let some text := Text.decode? bytes | throw .notText
  let docs ← (Yaml.readAll .plain text).mapError
    (Yaml.Fault.failure (.unparsable path.text .badYaml))
  let docs := docs.filter Value.isTruthy
  if docs.isEmpty then throw (.unparsable path.text .noDocuments) else return docs

def load (files : Files) (path : Path) (processor : Option Processor) : Except Failure (List Resource) := do
  resourcesOf processor (← documentsOf files path)

end KubeManifest.Manifest
