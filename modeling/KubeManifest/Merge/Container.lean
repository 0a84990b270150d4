import KubeManifest.Merge.Env
import KubeManifest.Merge.Port

/-!
# Merging containers

`Container.merge` fills the gaps of a container from a default one: what is set stays; variables and ports are
added after those that are there; a probe or security context is taken whole.
-/

namespace KubeManifest.Container

def fill (value other : Value) : Value :=
  if value.isNull then other else value

def fillFields (target other : Container) : Container :=
  { target with
    name := fill target.name other.name
    image := fill target.image other.image
    imagePullPolicy := fill target.imagePullPolicy other.imagePullPolicy
    workingDir := fill target.workingDir other.workingDir
    stdin := fill target.stdin other.stdin
    stdinOnce := fill target.stdinOnce other.stdinOnce
    tty := fill target.tty other.tty
    terminationMessagePath := fill target.terminationMessagePath other.terminationMessagePath
    terminationMessagePolicy := fill target.terminationMessagePolicy other.terminationMessagePolicy }

/-- The container with the variables of a default one that it lacks. -/
def addEnv (target other : Container) : Merged Container :=
  match other.env with
  | none | some [] => ⟨target, none⟩
  | some env =>
    (EnvVar.addMissing (target.env.getD []) env).within fun env => { target with env := some env }

/-- The container with the ports of a default one that conflict with none of its own. -/
def addPorts (target other : Container) : Merged Container :=
  match other.ports with
  | none | some [] => ⟨target, none⟩
  | some ports =>
    (ContainerPort.addMissing (target.ports.getD []) ports).within fun ports =>
      { target with ports := some ports }

/-- The container with the probes and security context of a default one where it has none. -/
def fillParts (target other : Container) : Container :=
  { target with
    readinessProbe := target.readinessProbe <|> other.readinessProbe
    livenessProbe := target.livenessProbe <|> other.livenessProbe
    securityContext := target.securityContext <|> other.securityContext }

def merge (target other : Container) : Merged Container :=
  (((⟨target.fillFields other, none⟩ : Merged Container).andThen (·.addEnv other)).andThen
    (·.addPorts other)).andThen fun c => ⟨c.fillParts other, none⟩

end KubeManifest.Container
