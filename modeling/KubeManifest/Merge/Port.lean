import KubeManifest.Merge.Basic
import KubeManifest.Model.Container
import KubeManifest.Number.Integer

/-!
# Ports of a container

* `ContainerPort.conflicts` : two ports with one name, or with one number;
* `ContainerPort.addMissing` : the ports of a list, and then those of another one without a conflict;
* `ContainerPort.addNumber` : a named port whose number is given as text, unless the number is taken.
-/

namespace KubeManifest.ContainerPort

/-- Whether two values are given and equal. -/
def sameGiven (a b : Value) : Bool :=
  !a.isNull && !b.isNull && a.same b

def conflicts (a b : ContainerPort) : Bool :=
  sameGiven a.name b.name || sameGiven a.containerPort b.containerPort

/-- Whether two ports that may be missing conflict. The parts of a missing one are asked for only if the
other has them. -/
def conflicts? (existing added : Option ContainerPort) : Except Misfit Bool :=
  match existing, added with
  | some e, some a => .ok (e.conflicts a)
  | some e, none => if e.name.isNull && e.containerPort.isNull then .ok false else .error .noSuchPart
  | none, _ => .error .noSuchPart

def anyConflict : List (Option ContainerPort) → Option ContainerPort → Except Misfit Bool
  | [], _ => .ok false
  | e :: ports, added => do if ← conflicts? e added then return true else anyConflict ports added

/-- The ports, and then those of another list that conflict with none before. -/
def addMissing (ports : List (Option ContainerPort)) :
    List (Option ContainerPort) → Merged (List (Option ContainerPort))
  | [] => ⟨ports, none⟩
  | added :: rest =>
    match anyConflict ports added with
    | .ok true => addMissing ports rest
    | .ok false => addMissing (ports ++ [added]) rest
    | .error misfit => ⟨ports, some misfit⟩

/-- The number that a text gives to a port. What does not count as given gives none. -/
def numberOf (text : Value) : Except Misfit (Option Int) :=
  if !text.isTruthy then .ok none
  else
    match text.text? with
    | some s => .ok (Number.readInteger s)
    | none => .error .noSuchPart

/-- The ports with one more whose number is given as text, and whether there is one more: there is none when
the text is no number, or the number is taken. -/
def addNumber (ports : List ContainerPort) (text name : Value) :
    Except Misfit (List ContainerPort × Bool) := do
  match ← numberOf text with
  | none => return (ports, false)
  | some n =>
    if ports.any fun p => p.containerPort.same (.ofInt n) then return (ports, false)
    else return (ports ++ [{ name, containerPort := .ofInt n }], true)

end KubeManifest.ContainerPort
