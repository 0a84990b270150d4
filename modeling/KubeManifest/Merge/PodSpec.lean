import KubeManifest.Merge.Container
import KubeManifest.Resource

/-!
# Merging pod specifications

* `PodSpec.merge` : the containers of a specification, each filled from the default one at its place, and
  then the default ones that are left over. Without default containers only a missing name of the first
  container is filled;
* `Resource.merge` : the same for the pods of a resource, which has an empty specification if it has none.
-/

namespace KubeManifest

namespace PodSpec

/-- Whether a name is missing or blank. A name that is given and no text cannot be looked into. -/
def lacksName (name : Value) : Except Misfit Bool :=
  if !name.isTruthy then .ok true
  else
    match name.text? with
    | some s => .ok (Text.isBlankText s)
    | none => .error .noSuchPart

/-- The containers with a name for the first one, if it lacks one. -/
def nameFirst (fallback : Value) : List (Option Container) → Merged (List (Option Container))
  | [] => ⟨[], none⟩
  | none :: rest => ⟨none :: rest, some .noSuchPart⟩
  | some c :: rest =>
    match lacksName c.name with
    | .ok true => ⟨some { c with name := fallback } :: rest, none⟩
    | .ok false => ⟨some c :: rest, none⟩
    | .error misfit => ⟨some c :: rest, some misfit⟩

/-- A container that may be missing, filled from a default one that may be. A missing one cannot be filled,
and fills nothing. -/
def mergeOne : Option Container → Option Container → Merged (Option Container)
  | some target, some other => (target.merge other).within some
  | target, _ => ⟨target, some .noSuchPart⟩

/-- The containers filled from the default ones at their places, and the default ones left over. -/
def mergeContainers :
    List (Option Container) → List (Option Container) → Merged (List (Option Container))
  | targets, [] => ⟨targets, none⟩
  | [], others => ⟨others, none⟩
  | target :: targets, other :: others =>
    match mergeOne target other with
    | ⟨c, none⟩ => (mergeContainers targets others).within (c :: ·)
    | ⟨c, some misfit⟩ => ⟨c :: targets, some misfit⟩

/-- The specification with its gaps filled from a default one. -/
def merge (target other : PodSpec) (fallback : Value) : Merged PodSpec :=
  match other.containers.getD [] with
  | [] =>
    match target.containers with
    | none => ⟨target, none⟩
    | some cs => (nameFirst fallback cs).within fun cs => { target with containers := some cs }
  | others =>
    (mergeContainers (target.containers.getD []) others).within fun cs =>
      { target with containers := some cs }

end PodSpec

def Resource.merge (r : Resource) (other : PodSpec) (fallback : Value) : Merged Resource :=
  ((r.podSpec.getD {}).merge other fallback).within fun pods => { r with podSpec := some pods }

end KubeManifest
