import KubeManifest.Build.Image
import KubeManifest.Build.ImageName
import KubeManifest.Build.Port
import KubeManifest.Build.Probe

/-!
# Containers of a build

`Project.containers` : the container of every image that is built, in order. The last image is the application
itself, and gets the default probes where none are set.
-/

namespace KubeManifest

/-- The policy by which images of versions that change are pulled. -/
def Settings.alwaysPull : String := "Always"

def Settings.pullPolicy (s : Settings) (p : Project) : Except Misfit Value :=
  let policy := s.imagePullPolicy
  let changing := if p.isSnapshot then .ofString alwaysPull else policy
  if !policy.isTruthy then .ok changing
  else
    match policy.text? with
    | some text => .ok (if Text.isBlankText text then changing else policy)
    | none => .error .noSuchPart

def Settings.variables (s : Settings) : List EnvVar :=
  s.env.map fun (name, value) => { name := name, value := value }

def Settings.volumeMounts (s : Settings) : List VolumeMount :=
  s.volumes.flatMap fun volume => volume.mounts.map fun mount =>
    { name := volume.name, mountPath := mount, readOnly := .ofBool false }

/-- The name of an image, which must be a text to be taken apart. -/
def Image.parsedName (image : Image) : Except Failure ImageName :=
  match image.name with
  | .scalar (.text s _) _ => ImageName.parse s
  | .scalar _ _ => .error (.misfit .wrongKind)
  | _ => .error (.misfit .noSuchPart)

namespace Project

/-- The name of the container of an image: its alias, or the names of its user and the project. -/
def containerName (p : Project) (image : Image) : Except Failure Value := do
  if image.givenName.isTruthy then return image.givenName
  else
    let user := ((← image.parsedName).user?).getD ""
    return .ofString ((if user == "" then p.groupId else user) ++ "-" ++ p.artifactId)

/-- The ports of an image; without a port list there are none to speak of. -/
def containerPorts (p : Project) (image : Image) : Except Failure (Option (List ContainerPort)) :=
  match image.build.bind (·.ports) with
  | none => .ok none
  | some specs => some <$> PortSpec.ports p.properties specs

def container (p : Project) (s : Settings) (image : Image) (last : Bool) : Except Failure Container := do
  let liveness ← Probe.ofSettings? s.liveness
  let readiness ← Probe.ofSettings? s.readiness
  let name ← p.containerName image
  let policy ← s.pullPolicy p
  let ports ← p.containerPorts image
  return {
    name
    image := image.name
    imagePullPolicy := policy
    env := some (s.variables.map some)
    securityContext := some { privileged := .ofBool s.privileged }
    ports := ports.map fun ports => ports.map some
    volumeMounts := some (s.volumeMounts.map some)
    livenessProbe := if last then liveness <|> p.livenessProbe? else liveness
    readinessProbe := if last then readiness <|> p.readinessProbe? else readiness }

/-- The containers of images, the last of which is the application. -/
def containersOf (p : Project) (s : Settings) : List Image → Except Failure (List Container)
  | [] => .ok []
  | image :: images => do
    return (← p.container s image images.isEmpty) :: (← containersOf p s images)

/-- The images that are built. Each of them needs a build section. -/
def builtImages : List Image → Except Failure (List Image)
  | [] => .ok []
  | image :: images =>
    if !image.isBuildable then builtImages images
    else if image.build.isNone then .error (.noBuild image.name.display)
    else do return image :: (← builtImages images)

def containers (p : Project) (s : Settings) (images : List Image) : Except Failure (List Container) := do
  p.containersOf s (← builtImages images)

end Project

end KubeManifest
