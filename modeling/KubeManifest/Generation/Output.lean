import KubeManifest.Fragment.Filename
import KubeManifest.Generation.Assembly
import KubeManifest.Manifest.Format

/-!
# Outputs

* `Output` : what is written to one file: a resource, or the list of all resources;
* `Config.outputs` : the outputs of resources by kind and name, and the list last;
* `Output.checkStems` : no two outputs are for one file;
* `Config.pathOf`, `Config.textOf` : the path and text of an output.
-/

namespace KubeManifest

structure Output where
  stem : String
  content : Exportable

namespace Output

def listStem : String := "kubernetes"

def describe (o : Output) : String :=
  match o.content with
  | .resource r => r.kind.display ++ " '" ++ r.name.display ++ "'"
  | _ => "the aggregated list"

/-- Checks that no two outputs are for one file. -/
def checkStems : List Output → List Output → Except Failure Unit
  | _, [] => .ok ()
  | seen, o :: rest =>
    match seen.find? (·.stem == o.stem) with
    | some first => .error (.badOutput none (.sameFile first.describe o.describe o.stem))
    | none => checkStems (seen ++ [o]) rest

end Output

/-- The stem of the file of a name and kind. A kind that is a list or mapping has no token to look up. -/
def KindTable.stemOf (kinds : KindTable) (name : String) (kind : Value) : Except Misfit String :=
  match kind with
  | .scalar (.text s _) _ => .ok (kinds.fileStem name s)
  | .scalar _ _ => .ok name
  | _ => if kind.isTruthy then .error .wrongKind else .ok name

/-- The number of containers of the controllers among some resources. Each controller needs a list of
them. -/
def Collection.containerCount (c : Collection) : Except Misfit Nat := do
  let counts ← (c.workloads.filterMap (·.podSpec)).mapM fun pods =>
    match pods.containers with
    | some cs => .ok cs.length
    | none => .error .wrongKind
  return counts.foldl (· + ·) 0

namespace Config

def outputOf (config : Config) (r : Resource) : Except Misfit Output := do
  let name := (r.name.orElse (.ofString config.appName)).display
  return ⟨← KindTable.standard.stemOf name r.kind, .resource r⟩

def outputs (config : Config) (c : Collection) : Except Misfit (List Output) := do
  return (← c.sorted.mapM config.outputOf) ++ [⟨Output.listStem, .collection c⟩]

def pathOf (config : Config) (o : Output) : Path :=
  config.format.withExtension (config.outputDir.join (Path.ofText o.stem)).text

def textOf (config : Config) (o : Output) : Except Misfit String :=
  o.content.text config.format.name

end Config

end KubeManifest
