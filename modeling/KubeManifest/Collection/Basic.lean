import KubeManifest.Resource

/-!
# Collections of resources

* `Collection` : resources in the order in which they were added;
* `Collection.sorted` : by kind and name, equal ones in their order;
* `Collection.find?`, `Collection.hasKind`, `Collection.workloads` : what the making of manifests asks;
* `Collection.toFields?` : the list object that holds all resources.
-/

namespace KubeManifest

structure Collection where
  items : List Resource := []

namespace Collection

def add (c : Collection) (r : Resource) : Collection :=
  ⟨c.items ++ [r]⟩

/-- Whether one pair of texts comes before another one or is the same. -/
def pairLE (a b : String × String) : Bool :=
  if a.1 == b.1 then a.2 ≤ b.2 else a.1 ≤ b.1

def sorted (c : Collection) : List Resource :=
  c.items.mergeSort fun a b => pairLE a.sortKey b.sortKey

/-- The number of the first resource of a kind and name. -/
def find? (c : Collection) (kind name : Value) : Option Nat :=
  c.items.findIdx? fun r => r.kind.same kind && r.name.same name

/-- Whether some resource has one of some kinds. A kind that is a list or mapping cannot be looked
up. -/
def hasKind (c : Collection) (kinds : List String) : Except Misfit Bool :=
  c.items.foldlM (fun found r =>
    if found then .ok true
    else if !r.kind.isScalar then .error .wrongKind
    else .ok (kinds.any r.kind.isText)) false

def workloads (c : Collection) : List Resource :=
  c.items.filter fun r => r.workload?.isSome

def toFields? (c : Collection) : Except Misfit Fields := do
  let items ← c.sorted.mapM Resource.toValue?
  return [(.ofString "apiVersion", .ofString "v1"), (.ofString "kind", .ofString "List"),
    (.ofString "items", .ofList items)]

end Collection

end KubeManifest
