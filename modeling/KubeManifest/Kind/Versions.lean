import KubeManifest.Value.Basic
import KubeManifest.Value.Misfit

/-!
# Versions of the groups

* `Versions` : what stands under `apiVersion` for the core, extensions and apps groups;
* `Versions.apiVersion` : the version of the group that a kind belongs to.
-/

namespace KubeManifest

structure Versions where
  core : Value := .ofString "v1"
  extensions : Value := .ofString "extensions/v1beta1"
  apps : Value := .ofString "apps/v1beta1"

namespace Versions

/-- The version of a kind's group. A list or mapping is no kind. -/
def apiVersion (versions : Versions) (kind : Value) : Except Misfit Value :=
  if !kind.isScalar then .error .wrongKind
  else if kind.isText "Deployment" || kind.isText "Ingress" then .ok versions.extensions
  else if kind.isText "StatefulSet" then .ok versions.apps
  else .ok versions.core

end Versions

end KubeManifest
