import KubeManifest.Resource

/-!
# Annotations

* `Resource.sourceUrl`, `Resource.withSourceUrl` : where the source of a resource is; one that is there
  already stays;
* `Resource.isAppCatalog` : whether a resource belongs to the catalog of applications.
-/

namespace KubeManifest.Resource

def sourceUrlName : String := "maven.fabric8.io/source-url"

def appCatalogName : String := "fabric8.io/app-catalog"

def annotations (r : Resource) : Except Misfit Fields :=
  match r.metadata.annotations with
  | .map fs _ => .ok fs
  | _ => .error .noSuchPart

/-- The place of the source, null when there is none. -/
def sourceUrl (r : Resource) : Except Misfit Value := do
  return Fields.get (← r.annotations) sourceUrlName

def withSourceUrl (r : Resource) (url : Value) : Except Misfit Resource := do
  let fs := Fields.setDefault (← r.annotations) sourceUrlName url
  return { r with metadata := { r.metadata with annotations := .ofFields fs } }

def isAppCatalog (r : Resource) : Except Misfit Bool := do
  return (Fields.get (← r.annotations) appCatalogName).isText "true"

end KubeManifest.Resource
