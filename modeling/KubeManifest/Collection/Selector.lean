import KubeManifest.Collection.Basic
import KubeManifest.Failure

/-!
# Pod selectors

* `Resource.podSelector` : the selector by which a controller finds its pods. Some controllers write a
  selector with labels and expressions, older ones the labels alone;
* `Collection.podSelector` : the one selector that all controllers agree on;
* `LabelSelector.withoutVersion` : labels without the one that changes with every version.
-/

namespace KubeManifest

/-- Whether a controller writes the labels of its selector without a name above them. -/
def Workload.hasBareLabels : Workload → Bool
  | .deploymentConfig | .replicationController => true
  | .deployment | .replicaSet | .daemonSet | .statefulSet | .job => false

/-- The selector that the entry of a specification stands for. Bare labels must not be empty. -/
def Workload.selectorOf (w : Workload) : Value → Option LabelSelector
  | .map labels mark =>
    if !w.hasBareLabels then some (LabelSelector.ofFields labels)
    else if labels.isEmpty then none
    else some { matchLabels := .map labels mark }
  | _ => none

def Resource.podSelector (r : Resource) : Except Misfit (Option LabelSelector) :=
  match r.workload? with
  | none => .ok none
  | some w =>
    match r.spec with
    | .map spec _ => .ok (w.selectorOf (Fields.get spec "selector"))
    | _ => .error .noSuchPart

/-- The selector that all controllers have among some resources, given the one of those before. -/
def Resource.agreedSelector (chosen : Option LabelSelector) :
    List Resource → Except Failure (Option LabelSelector)
  | [] => .ok chosen
  | r :: rs => do
    match chosen, ← r.podSelector with
    | _, none => agreedSelector chosen rs
    | none, some s => agreedSelector (some s) rs
    | some first, some s =>
      if first.same s then agreedSelector (some s) rs else throw (.selectorsDiffer first s)

/-- The one selector that all controllers agree on, if any of them has one. -/
def Collection.podSelector (c : Collection) : Except Failure (Option LabelSelector) :=
  Resource.agreedSelector none c.items

def LabelSelector.withoutVersion (labels : Fields) : Fields :=
  Fields.erase labels "version"

end KubeManifest
