import KubeManifest.Build.Image
import KubeManifest.Build.Project
import KubeManifest.Build.Settings
import KubeManifest.Files
import KubeManifest.Kind.Versions
import KubeManifest.Manifest.Format
import KubeManifest.Text.Decode
import KubeManifest.Yaml.Failure
import KubeManifest.Yaml.Reader

/-!
# Configuration

* `Config` : where fragments are and manifests go, in which format and versions, and what is built;
* `Config.fields` : the entries of a configuration file; a missing file has none. Every entry that a
  configuration needs has a default;
* `Config.ofFields` : checks the entries, the general ones before those of the build;
* `Config.load` : reads a file, with other entries that count before those in it.
-/

namespace KubeManifest

structure Config where
  appName : String
  fragmentsDir : Path
  outputDir : Path
  format : Format := .yaml
  versions : Versions := {}
  project : Project := {}
  settings : Settings := {}
  images : List Image := []

namespace Config

/-! ## Entries -/

def defaults : List (String × Value) := [
  ("fragments_dir", .ofString "src/main/fabric8"),
  ("output_dir", .ofString "target/fabric8"),
  ("format", .ofString "yaml"),
  ("versions", .ofFields []),
  ("project", .ofFields []),
  ("resources", .ofFields []),
  ("images", .ofList [])]

def withDefaults (fs : Fields) : Fields :=
  defaults.foldl (fun fs (name, v) => Fields.setDefault fs name v) fs

/-- The entries with others that count before them. A null one does not count. -/
def override (fs others : Fields) : Fields :=
  others.foldl (fun fs (k, v) => if v.isNull then fs else Fields.set fs k.displayKey v) fs

def textFields (path : String) (text : List Char) : Except Failure Fields := do
  let v ← (Yaml.readOne .plain text).mapError (Yaml.Fault.failure (.badConfig (some path) .unreadable))
  match v.orElse (.ofFields []) with
  | .map fs _ => return fs
  | _ => throw (.badConfig (some path) .notMapping)

/-- The entries of a configuration file with their defaults. -/
def fields (files : Files) (path : Path) : Except Failure Fields := do
  if !(← (files.exists? path).mapError Failure.file) then return withDefaults []
  else
    let bytes ← (files.read path).mapError Failure.file
    match Text.decode? bytes with
    | none => throw .notText
    | some text => return withDefaults (← textFields path.text text)

/-! ## Checks -/

def versionsOf (v : Value) : Except Failure Versions :=
  match v.orElse (.ofFields []) with
  | .map fs _ =>
    let standard : Versions := {}
    .ok {
      core := (Fields.find? fs "core").getD standard.core
      extensions := (Fields.find? fs "extensions").getD standard.extensions
      apps := (Fields.find? fs "apps").getD standard.apps }
  | _ => .error (.badConfig none .versionsNotMapping)

def imageList (v : Value) : Except Failure (List Value) :=
  match v.orElse (.ofList []) with
  | .list images _ => .ok images
  | _ => .error (.badConfig none .imagesNotList)

def formatOf (v : Value) : Except Failure Format :=
  let name := Text.lower v.display
  match [Format.yaml, Format.json].find? (·.name == name) with
  | some format => .ok format
  | none => .error (.badConfig none (.badFormat name))

def directory (base : Path) (v : Value) : Except Misfit Path :=
  match v.text? with
  | some s => .ok (base.join (Path.ofText s))
  | none => .error .wrongKind

def entry (fs : Fields) (name : String) : Value :=
  (Fields.find? fs name).getD ((defaults.lookup name).getD .null)

/-- Reads a configuration from its entries. Directories are seen from that of the file. -/
def ofFields (base : Path) (fs : Fields) : Except Failure Config := do
  let format ← formatOf (entry fs "format")
  let versions ← versionsOf (Fields.get fs "versions")
  let images ← imageList (Fields.get fs "images")
  let project ← Project.read (Fields.get fs "project")
  let appName := (Fields.get fs "app_name").orElse (.ofString project.artifactId)
  if !appName.isTruthy then throw (.badConfig none .noAppName)
  let fragmentsDir ← directory base (entry fs "fragments_dir")
  let outputDir ← directory base (entry fs "output_dir")
  let settings ← Settings.read (Fields.get fs "resources")
  let images ← images.mapM Image.read
  return {
    appName := appName.display
    fragmentsDir, outputDir, format, versions, project, settings, images }

/-- Reads a configuration file, with other entries that count before those in it. -/
def load (files : Files) (path : Path) (others : Fields) : Except Failure Config := do
  ofFields path.parent (override (← fields files path) others)

end Config

end KubeManifest
