import KubeManifest.Build.Section
import KubeManifest.Model.Entries

/-!
# Settings of containers

* `ProbeSettings` : a probe by the address, command or port that is looked at;
* `VolumeSettings` : a volume with the places where it is mounted;
* `Settings` : what all containers of a build have in common.
-/

namespace KubeManifest

structure ProbeSettings where
  url : Value := .null
  command : Value := .null
  tcpPort : Option String := none
  initialDelaySeconds : Value := .null
  timeoutSeconds : Value := .null

/-- Reads a probe. What does not count as given stands for none. -/
def ProbeSettings.read? (v : Value) : Except Failure (Option ProbeSettings) := do
  if !v.isTruthy then return none
  else
    let fs ← Section.entries "probe" v
    return some {
      url := Fields.get fs "get_url"
      command := Fields.get fs "exec"
      tcpPort := Section.text? (Fields.get fs "tcp_port")
      initialDelaySeconds := Fields.get fs "initial_delay_seconds"
      timeoutSeconds := Fields.get fs "timeout_seconds" }

structure VolumeSettings where
  name : Value
  mounts : List Value := []

def VolumeSettings.read (v : Value) : Except Failure VolumeSettings := do
  let fs ← Section.entries "resources.volumes[]" v
  let name := Fields.get fs "name"
  if !name.isTruthy then throw (.badConfig none (.noName "resources.volumes[]"))
  else return { name, mounts := ← Section.items (Fields.get fs "mounts") }

structure Settings where
  imagePullPolicy : Value := .null
  env : Fields := []
  privileged : Bool := false
  volumes : List VolumeSettings := []
  liveness : Option ProbeSettings := none
  readiness : Option ProbeSettings := none

def Settings.read (v : Value) : Except Failure Settings := do
  let fs ← Section.entries "resources" v
  let volumes ← (← Section.items (Fields.get fs "volumes")).mapM VolumeSettings.read
  let env ← Section.texts "resources.env" (Fields.get fs "env")
  let liveness ← ProbeSettings.read? (Fields.get fs "liveness")
  let readiness ← ProbeSettings.read? (Fields.get fs "readiness")
  return {
    imagePullPolicy := Fields.get fs "image_pull_policy"
    env
    privileged := (Fields.get fs "privileged").isTruthy
    volumes, liveness, readiness }

end KubeManifest
