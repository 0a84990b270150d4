import KubeManifest.Build.Container
import KubeManifest.Collection.Build
import KubeManifest.Generation.Config
import KubeManifest.Merge.PodSpec

/-!
# Resources of a configuration

`Config.assemble` : the resources of the fragments, with a deployment added when there are containers but no
controller for them, and the containers merged into every controller.
-/

namespace KubeManifest

/-- The resources of a configuration, and the names of those that were added. -/
structure Assembly where
  collection : Collection
  added : List String

namespace Config

/-- The label by which a deployment that is added finds its pods. -/
def appLabels (config : Config) : Value :=
  .ofFields [(.ofString "app", .ofString config.appName)]

/-- The deployment that is added for containers without a controller. -/
def deployment (config : Config) : Except Misfit Resource := do
  let apiVersion ← config.versions.apiVersion (.ofString Workload.deployment.name)
  return {
    kind := .ofString Workload.deployment.name
    apiVersion
    metadata := { name := .ofString config.appName, labels := config.appLabels }
    body := [(.ofString "spec", .ofFields [
      (.ofString "replicas", .ofInt 1),
      (.ofString "selector", .ofFields [(.ofString "matchLabels", config.appLabels)]),
      (.ofString "template", .ofFields [
        (.ofString "metadata", .ofFields [(.ofString "labels", config.appLabels)])])])] }

def context (config : Config) : Fragment.Context where
  versions := config.versions
  defaultName := config.appName

/-- The resources with a deployment, if there are containers but no controller. -/
def complete (config : Config) (c : Collection) (containers : List Container) : Except Misfit Assembly := do
  if containers.isEmpty then return ⟨c, []⟩
  else if ← c.hasKind (Workload.all.map Workload.name) then return ⟨c, []⟩
  else return ⟨c.add (← config.deployment), [config.appName]⟩

/-- The resource with the containers merged into it, if it is a controller. -/
def fill (config : Config) (pods : PodSpec) (r : Resource) : Except Misfit Resource :=
  if r.workload?.isSome then (r.merge pods (.ofString config.appName)).finished else .ok r

def assemble (files : Files) (config : Config) : Except Failure Assembly := do
  let fragments ← Collection.ofDirectory files config.context config.fragmentsDir
  let containers ← config.project.containers config.settings config.images
  let assembly ← config.complete fragments containers
  let pods : PodSpec := { containers := some (containers.map some) }
  let items ← assembly.collection.items.mapM fun r => (config.fill pods r : Except Misfit Resource)
  return { assembly with collection := ⟨items⟩ }

end Config

end KubeManifest
