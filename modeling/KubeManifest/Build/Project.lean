import KubeManifest.Build.Section
import KubeManifest.Model.Entries
import KubeManifest.Text.Cut

/-!
# Projects

`Project` : the coordinates and properties of the project that is built, and the classes that it can
load.
-/

namespace KubeManifest

structure Project where
  groupId : String := ""
  artifactId : String := ""
  version : Option String := none
  properties : Fields := []
  classes : List Value := []
  applicationProperties : Fields := []

namespace Project

def read (v : Value) : Except Failure Project := do
  let fs ← Section.entries "project" v
  let properties ← Section.texts "project.properties" (Fields.get fs "properties")
  let classes ← Section.distinct (Fields.get fs "classes")
  let applicationProperties ←
    Section.texts "project.application_properties" (Fields.get fs "application_properties")
  return {
    groupId := Section.textOrEmpty (Fields.get fs "group_id")
    artifactId := Section.textOrEmpty (Fields.get fs "artifact_id")
    version := Section.text? (Fields.get fs "version")
    properties, classes, applicationProperties }

def hasClass (p : Project) (name : String) : Bool :=
  p.classes.any (·.isText name)

def isSnapshot (p : Project) : Bool :=
  p.version.any (Text.endsWith · "SNAPSHOT")

end Project

end KubeManifest
