import KubeManifest.Model.Probe

/-!
# Containers

* `EnvVar`, `ContainerPort`, `VolumeMount`, `SecurityContext` : the parts of a container;
* `Container`, `PodSpec` : containers, and the list of them that a pod is made of.
-/

namespace KubeManifest

open Model

/-! ## Parts -/

structure EnvVar where
  name : Value := .null
  value : Value := .null
  valueFrom : Value := .null
  extra : Fields := []

namespace EnvVar

def read? (v : Value) : Except Misfit (Option EnvVar) := do
  let some fs ← entriesOf? "EnvVar" v | return none
  return some {
    name := field fs "name"
    value := field fs "value"
    valueFrom := field fs "valueFrom"
    extra := extraOf ["name", "value", "valueFrom"] fs }

def toValue (m : EnvVar) : Value :=
  .ofFields (compact [("name", m.name), ("value", m.value), ("valueFrom", m.valueFrom)] ++ m.extra)

def parts (m : EnvVar) : Value :=
  .ofList [m.name, m.value, m.valueFrom, .ofFields m.extra]

end EnvVar

structure ContainerPort where
  containerPort : Value := .null
  hostPort : Value := .null
  hostIP : Value := .null
  name : Value := .null
  protocol : Value := .null
  extra : Fields := []

namespace ContainerPort

def names : List String := ["containerPort", "hostIP", "hostPort", "name", "protocol"]

def read? (v : Value) : Except Misfit (Option ContainerPort) := do
  let some fs ← entriesOf? "ContainerPort" v | return none
  return some {
    containerPort := field fs "containerPort"
    hostPort := field fs "hostPort"
    hostIP := field fs "hostIP"
    name := field fs "name"
    protocol := field fs "protocol"
    extra := extraOf names fs }

def toValue (m : ContainerPort) : Value :=
  .ofFields (compact [("containerPort", m.containerPort), ("hostIP", m.hostIP),
    ("hostPort", m.hostPort), ("name", m.name), ("protocol", m.protocol)] ++ m.extra)

def parts (m : ContainerPort) : Value :=
  .ofList [m.containerPort, m.hostPort, m.hostIP, m.name, m.protocol, .ofFields m.extra]

end ContainerPort

structure VolumeMount where
  name : Value := .null
  mountPath : Value := .null
  readOnly : Value := .null
  subPath : Value := .null
  extra : Fields := []

namespace VolumeMount

def names : List String := ["mountPath", "name", "readOnly", "subPath"]

def read? (v : Value) : Except Misfit (Option VolumeMount) := do
  let some fs ← entriesOf? "VolumeMount" v | return none
  return some {
    name := field fs "name"
    mountPath := field fs "mountPath"
    readOnly := field fs "readOnly"
    subPath := field fs "subPath"
    extra := extraOf names fs }

def toValue (m : VolumeMount) : Value :=
  .ofFields (compact [("mountPath", m.mountPath), ("name", m.name), ("readOnly", m.readOnly),
    ("subPath", m.subPath)] ++ m.extra)

def parts (m : VolumeMount) : Value :=
  .ofList [m.name, m.mountPath, m.readOnly, m.subPath, .ofFields m.extra]

end VolumeMount

structure SecurityContext where
  privileged : Value := .null
  runAsUser : Value := .null
  runAsNonRoot : Value := .null
  readOnlyRootFilesystem : Value := .null
  allowPrivilegeEscalation : Value := .null
  capabilities : Value := .null
  extra : Fields := []

namespace SecurityContext

def names : List String :=
  ["allowPrivilegeEscalation", "capabilities", "privileged", "readOnlyRootFilesystem", "runAsNonRoot",
    "runAsUser"]

def read? (v : Value) : Except Misfit (Option SecurityContext) := do
  let some fs ← entriesOf? "SecurityContext" v | return none
  return some {
    privileged := field fs "privileged"
    runAsUser := field fs "runAsUser"
    runAsNonRoot := field fs "runAsNonRoot"
    readOnlyRootFilesystem := field fs "readOnlyRootFilesystem"
    allowPrivilegeEscalation := field fs "allowPrivilegeEscalation"
    capabilities := field fs "capabilities"
    extra := extraOf names fs }

def toValue (m : SecurityContext) : Value :=
  .ofFields (compact [
    ("allowPrivilegeEscalation", m.allowPrivilegeEscalation),
    ("capabilities", m.capabilities),
    ("privileged", m.privileged),
    ("readOnlyRootFilesystem", m.readOnlyRootFilesystem),
    ("runAsNonRoot", m.runAsNonRoot),
    ("runAsUser", m.runAsUser)] ++ m.extra)

def parts (m : SecurityContext) : Value :=
  .ofList [m.privileged, m.runAsUser, m.runAsNonRoot, m.readOnlyRootFilesystem,
    m.allowPrivilegeEscalation, m.capabilities, .ofFields m.extra]

end SecurityContext

/-! ## Containers -/

structure Container where
  name : Value := .null
  image : Value := .null
  imagePullPolicy : Value := .null
  command : Value := .null
  args : Value := .null
  workingDir : Value := .null
  env : Option (List (Option EnvVar)) := none
  ports : Option (List (Option ContainerPort)) := none
  volumeMounts : Option (List (Option VolumeMount)) := none
  livenessProbe : Option Probe := none
  readinessProbe : Option Probe := none
  securityContext : Option SecurityContext := none
  resources : Value := .null
  stdin : Value := .null
  stdinOnce : Value := .null
  tty : Value := .null
  terminationMessagePath : Value := .null
  terminationMessagePolicy : Value := .null
  extra : Fields := []

namespace Container

def names : List String :=
  ["args", "command", "env", "image", "imagePullPolicy", "livenessProbe", "name", "ports",
    "readinessProbe", "resources", "securityContext", "stdin", "stdinOnce", "terminationMessagePath",
    "terminationMessagePolicy", "tty", "volumeMounts", "workingDir"]

def read? (v : Value) : Except Misfit (Option Container) := do
  let some fs ← entriesOf? "Container" v | return none
  let env ← many EnvVar.read? (Fields.get fs "env")
  let livenessProbe ← Probe.read? (Fields.get fs "livenessProbe")
  let ports ← many ContainerPort.read? (Fields.get fs "ports")
  let readinessProbe ← Probe.read? (Fields.get fs "readinessProbe")
  let securityContext ← SecurityContext.read? (Fields.get fs "securityContext")
  let volumeMounts ← many VolumeMount.read? (Fields.get fs "volumeMounts")
  return some {
    name := field fs "name"
    image := field fs "image"
    imagePullPolicy := field fs "imagePullPolicy"
    command := field fs "command"
    args := field fs "args"
    workingDir := field fs "workingDir"
    env, ports, volumeMounts, livenessProbe, readinessProbe, securityContext
    resources := field fs "resources"
    stdin := field fs "stdin"
    stdinOnce := field fs "stdinOnce"
    tty := field fs "tty"
    terminationMessagePath := field fs "terminationMessagePath"
    terminationMessagePolicy := field fs "terminationMessagePolicy"
    extra := extraOf names fs }

/-- Writes a container. A null among its variables, ports or mounts cannot be written. -/
def toValue? (m : Container) : Except Misfit Value := do
  let env ← written EnvVar.toValue m.env
  let ports ← written ContainerPort.toValue m.ports
  let volumeMounts ← written VolumeMount.toValue m.volumeMounts
  return .ofFields (compact [
    ("args", m.args),
    ("command", m.command),
    ("env", env),
    ("image", m.image),
    ("imagePullPolicy", m.imagePullPolicy),
    ("livenessProbe", optional Probe.toValue m.livenessProbe),
    ("name", m.name),
    ("ports", ports),
    ("readinessProbe", optional Probe.toValue m.readinessProbe),
    ("resources", m.resources),
    ("securityContext", optional SecurityContext.toValue m.securityContext),
    ("stdin", m.stdin),
    ("stdinOnce", m.stdinOnce),
    ("terminationMessagePath", m.terminationMessagePath),
    ("terminationMessagePolicy", m.terminationMessagePolicy),
    ("tty", m.tty),
    ("volumeMounts", volumeMounts),
    ("workingDir", m.workingDir)] ++ m.extra)

def parts (m : Container) : Value :=
  .ofList [m.name, m.image, m.imagePullPolicy, m.command, m.args, m.workingDir,
    Model.parts EnvVar.parts m.env, Model.parts ContainerPort.parts m.ports,
    Model.parts VolumeMount.parts m.volumeMounts, optional Probe.parts m.livenessProbe,
    optional Probe.parts m.readinessProbe, optional SecurityContext.parts m.securityContext,
    m.resources, m.stdin, m.stdinOnce, m.tty, m.terminationMessagePath, m.terminationMessagePolicy,
    .ofFields m.extra]

end Container

structure PodSpec where
  containers : Option (List (Option Container)) := some []
  extra : Fields := []

namespace PodSpec

/-- Reads a pod specification. No entry for containers stands for no containers. -/
def read? (v : Value) : Except Misfit (Option PodSpec) := do
  let some fs ← entriesOf? "PodSpec" v | return none
  let containers ←
    if Fields.has fs "containers" then many Container.read? (Fields.get fs "containers")
    else pure (some [])
  return some { containers, extra := extraOf ["containers"] fs }

def toValue? (m : PodSpec) : Except Misfit Value := do
  let containers ← match m.containers with
    | none => pure Value.null
    | some cs => pure (.ofList (← cs.mapM fun
      | some c => c.toValue?
      | none => .error .noSuchPart))
  return .ofFields (compact [("containers", containers)] ++ m.extra)

def parts (m : PodSpec) : Value :=
  .ofList [Model.parts Container.parts m.containers, .ofFields m.extra]

end PodSpec

end KubeManifest
