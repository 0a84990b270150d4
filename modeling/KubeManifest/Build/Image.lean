import KubeManifest.Build.Section
import KubeManifest.Model.Entries

/-!
# Images

`Image` : an image of the build. One that is built has a build section, unless it says otherwise.
-/

namespace KubeManifest

structure ImageBuild where
  ports : Option (List String) := none
  extra : Fields := []

def ImageBuild.read (v : Value) : Except Failure ImageBuild := do
  let fs ← Section.entries "images[].build" v
  let ports := Fields.get fs "ports"
  let extra := Fields.erase fs "ports"
  if ports.isNull then return { extra := extra }
  else return { ports := some ((← Model.itemsOf ports).map Value.display), extra }

structure Image where
  name : Value
  givenName : Value := .null
  build : Option ImageBuild := none
  buildable : Value := .null

namespace Image

def read (v : Value) : Except Failure Image := do
  let fs ← Section.entries "images[]" v
  let name := Fields.get fs "name"
  if !name.isTruthy then throw (.badConfig none (.noName "images[]"))
  else
    let described := Fields.get fs "build"
    let build ← if described.isNull then pure none else some <$> ImageBuild.read described
    return { name, givenName := Fields.get fs "alias", build, buildable := Fields.get fs "buildable" }

/-- What an image says about being built; without a word the build section decides. -/
def buildableValue (image : Image) : Value :=
  if image.buildable.isNull then .ofBool image.build.isSome else image.buildable

def isBuildable (image : Image) : Bool :=
  image.buildableValue.isTruthy

end Image

end KubeManifest
