import KubeManifest.Kind.Workload
import KubeManifest.Model.Container
import KubeManifest.Model.ObjectMeta

/-!
# Resources

* `Resource` : kind, version and metadata of an object, its other entries, and the specification of its pods
  for kinds that have one;
* `Resource.read` : takes the specification of the pods out of the other entries;
* `Resource.toFields?` : puts it back and writes all entries.
-/

namespace KubeManifest

structure Resource where
  kind : Value
  apiVersion : Value
  metadata : ObjectMeta := {}
  body : Fields := []
  podSpec : Option PodSpec := none

namespace Resource

def headerNames : List String := ["apiVersion", "kind", "metadata"]

def name (r : Resource) : Value :=
  r.metadata.name

def workload? (r : Resource) : Option Workload :=
  Workload.ofKind? r.kind

/-- The specification of a resource, an empty one if it does not count as given. -/
def spec (r : Resource) : Value :=
  (Fields.get r.body "spec").orElse (.ofFields [])

/-- Kind and name as texts, by which resources are sorted. -/
def sortKey (r : Resource) : String × String :=
  ((r.kind.orElse (.ofString "")).display, (r.name.orElse (.ofString "")).display)

/-! ## Reading -/

/-- Takes the specification of the pods out of the entries of a resource: that of a pod itself, or that
of a controller's template. -/
def takePodSpec (kind : Value) (body : Fields) : Option Value × Fields :=
  match Fields.find? body "spec" with
  | some (.map spec mark) =>
    if kind.isText "Pod" then (some (.map spec mark), Fields.erase body "spec")
    else if (Workload.ofKind? kind).isNone then (none, body)
    else
      match Fields.find? spec "template" with
      | some (.map template tmark) =>
        match Fields.find? template "spec" with
        | some (.map pods pmark) =>
          let template := .map (Fields.erase template "spec") tmark
          (some (.map pods pmark),
            Fields.set body "spec" (.map (Fields.set spec "template" template) mark))
        | _ => (none, body)
      | _ => (none, body)
  | _ => (none, body)

def ofFields (fs : Fields) : Except Misfit Resource := do
  let kind := Fields.get fs "kind"
  let metadata ← ObjectMeta.read? ((Fields.get fs "metadata").orElse (.ofFields []))
  let (pods, body) := takePodSpec kind (Fields.plainValues (Fields.except fs headerNames))
  let podSpec ← match pods with
    | some v => PodSpec.read? v
    | none => pure none
  return {
    kind
    apiVersion := Fields.get fs "apiVersion"
    metadata := metadata.getD {}
    body
    podSpec }

/-- Reads a resource from a value. Only a mapping has entries. -/
def read (v : Value) : Except Misfit Resource :=
  match v.fields? with
  | some fs => ofFields fs
  | none => .error .noSuchPart

/-! ## Writing -/

/-- Puts the specification of the pods into the entries of a resource. What stands where a mapping is
needed must be one. -/
def putPodSpec (kind : Value) (body : Fields) (pods : Value) : Except Misfit Fields :=
  if kind.isText "Pod" then .ok (Fields.set body "spec" pods)
  else
    match (Fields.find? body "spec").getD (.ofFields []) with
    | .map spec mark =>
      match (Fields.find? spec "template").getD (.ofFields []) with
      | .map template tmark =>
        let template := .map (Fields.set template "spec" pods) tmark
        .ok (Fields.set body "spec" (.map (Fields.set spec "template" template) mark))
      | _ => .error .wrongKind
    | _ => .error .noSuchPart

/-- The entries that open a manifest, and others after them. An opening entry that comes again among the others has
its value from there. -/
def withHeader (apiVersion kind metadata : Value) (body : Fields) : Fields :=
  let own (name : String) (v : Value) : Value × Value := (.ofString name, (Fields.find? body name).getD v)
  own "apiVersion" apiVersion :: own "kind" kind :: own "metadata" metadata :: Fields.except body headerNames

def toFields? (r : Resource) : Except Misfit Fields := do
  let body := Fields.plain r.body
  let body ← match r.podSpec with
    | none => pure body
    | some pods => putPodSpec r.kind body (← pods.toValue?)
  return withHeader r.apiVersion r.kind r.metadata.toValue body

def parts (r : Resource) : Value :=
  .ofList [r.kind, r.apiVersion, r.metadata.parts, .ofFields r.body,
    Model.optional PodSpec.parts r.podSpec]

def toValue? (r : Resource) : Except Misfit Value := do
  return .ofFields (← r.toFields?)

end Resource

end KubeManifest
