import KubeManifest.Generation.Output

/-!
# Generating manifests

* `Report` : what one run made;
* `Files.replace` : writes a file by way of a temporary one beside it;
* `Config.generate` : writes one file for each resource and one for all of them. What was written before a
  failure stays. A dry run makes the same report and writes nothing.
-/

namespace KubeManifest

/-- What one run made: kind and name of the resources, the files that were written, the number of
containers, the names of resources that were added, and the texts by the names of their files. -/
structure Report where
  resources : List (String × String) := []
  files : List Path := []
  containers : Nat := 0
  added : List String := []
  rendered : List (String × String) := []
deriving Repr

namespace Report

/-- Pairs with a new value for a name: in its place, or at the end. -/
def put : List (String × String) → String → String → List (String × String)
  | [], name, text => [(name, text)]
  | (other, old) :: pairs, name, text =>
    if other == name then (name, text) :: pairs else (other, old) :: put pairs name text

def countKind : List (String × Nat) → String → List (String × Nat)
  | [], kind => [(kind, 1)]
  | (other, n) :: counts, kind =>
    if other == kind then (other, n + 1) :: counts else (other, n) :: countKind counts kind

def summary (r : Report) : List (String × Nat) :=
  r.resources.foldl (fun counts (kind, _) => countKind counts kind) []

end Report

/-! ## Files -/

def Files.temporarySuffix : String := ".kubemold.tmp"

/-- What is left of an attempt to replace a file: the temporary one is removed, if there is one. -/
def Files.giveUp (fs : Files) (temporary target : Path) : Files × Except Failure Unit :=
  match fs.exists? temporary with
  | .error fault => (fs, .error (.file fault))
  | .ok false => (fs, .error (.badOutput (some target.text) .notWritten))
  | .ok true =>
    match fs.remove temporary with
    | .ok fs => (fs, .error (.badOutput (some target.text) .notWritten))
    | .error fault => (fs, .error (.file fault))

/-- Writes a file by way of a temporary one beside it. -/
def Files.replace (fs : Files) (target : Path) (text : String) : Files × Except Failure Unit :=
  match fs.isWritable target.parent with
  | .error fault => (fs, .error (.file fault))
  | .ok false => (fs, .error (.badOutput (some target.parent.text) .noAccess))
  | .ok true =>
    match target.withSuffix? temporarySuffix with
    | none => (fs, .error (.misfit .badValue))
    | some temporary =>
      match fs.write temporary text.toUTF8 with
      | .error .nulInName => (fs, .error (.file .nulInName))
      | .error _ => fs.giveUp temporary target
      | .ok fs =>
        match fs.rename temporary target with
        | .ok fs => (fs, .ok ())
        | .error _ => fs.giveUp temporary target

namespace Config

/-- Makes the output directory, if it is missing. -/
def makeOutputDir (config : Config) (files : Files) : Files × Except Failure Unit :=
  let path := config.outputDir
  match files.exists? path, files.isDir path with
  | .error fault, _ | _, .error fault => (files, .error (.file fault))
  | .ok true, .ok true => (files, .ok ())
  | .ok true, .ok false => (files, .error (.badOutput (some path.text) .notDirectory))
  | .ok false, _ =>
    match files.makeDirs path with
    | (files, .ok ()) => (files, .ok ())
    | (files, .error .nulInName) => (files, .error (.file .nulInName))
    | (files, .error _) => (files, .error (.badOutput (some path.text) .cannotCreate))

/-- Writes outputs, or just their texts in a dry run. -/
def emit (config : Config) (dryRun : Bool) (files : Files) (report : Report) :
    List Output → Files × Except Failure Report
  | [] => (files, .ok report)
  | o :: rest =>
    match config.textOf o with
    | .error misfit => (files, .error (.misfit misfit))
    | .ok text =>
      let path := config.pathOf o
      let report := { report with rendered := Report.put report.rendered path.name text }
      if dryRun then emit config dryRun files report rest
      else
        match files.replace path text with
        | (files, .error failure) => (files, .error failure)
        | (files, .ok ()) => emit config dryRun files { report with files := report.files ++ [path] } rest

/-- What is known before anything is written: the resources, their outputs, and the report so far. -/
def prepare (config : Config) (files : Files) : Except Failure (List Output × Report) := do
  let assembly ← config.assemble files
  let containers ← assembly.collection.containerCount
  let outputs ← config.outputs assembly.collection
  Output.checkStems [] outputs
  return (outputs, {
    resources := assembly.collection.sorted.map Resource.sortKey
    containers
    added := assembly.added })

/-- Writes manifests, or makes just their texts in a dry run. -/
def generate (config : Config) (dryRun : Bool) (files : Files) : Files × Except Failure Report :=
  match config.prepare files with
  | .error failure => (files, .error failure)
  | .ok (outputs, report) =>
    if dryRun then config.emit dryRun files report outputs
    else
      match config.makeOutputDir files with
      | (files, .error failure) => (files, .error failure)
      | (files, .ok ()) => config.emit dryRun files report outputs

end Config

end KubeManifest
