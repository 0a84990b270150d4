import KubeManifest.CommandLine.Help
import KubeManifest.CommandLine.Screen

/-!
# Running a command line

`CommandLine.run` : what a command line prints, the status it ends with, and the files it leaves. A failure that the
input causes is shown and ends with the status 1; any other one ends the program itself. What was printed and
written before a failure stays.
-/

namespace KubeManifest.CommandLine

/-- How a command line ends: with a status, with a complaint about the command line, or with a failure. -/
inductive Ending
  | status (code : Nat)
  | misuse
  | failed (failure : Failure)

structure Outcome where
  files : Files
  lines : List (List Char) := []
  ending : Ending

def Outcome.print (files : Files) (code : Nat) : List Screen.Part → Outcome
  | [] => { files, ending := .status code }
  | none :: _ => { files, ending := .failed .badMarkup }
  | some lines :: rest =>
    let later := print files code rest
    { later with lines := lines ++ later.lines }

def Outcome.ofFailure (files : Files) (f : Failure) : Outcome :=
  match f.title with
  | some name => print files 1 [Screen.failure name f]
  | none => { files, ending := .failed f }

/-- The directory of an option, seen from the current one. -/
def directory (files : Files) (v : Value) : Except Failure Value :=
  match v.text? with
  | none | some "" => .ok .null
  | some s => do return .ofString (← (files.realPath (Path.ofText s)).mapError Failure.file).text

/-- The options as entries that count before those of the configuration file. -/
def GenerateOptions.fields (o : GenerateOptions) (files : Files) : Except Failure Fields := do
  return [
    (.ofString "fragments_dir", ← directory files o.fragments),
    (.ofString "output_dir", ← directory files o.output),
    (.ofString "app_name", o.appName),
    (.ofString "format", o.format)]

def GenerateOptions.load (o : GenerateOptions) (files : Files) : Except Failure Config := do
  let others ← o.fields files
  match o.config.text? with
  | some path => Config.load files (Path.ofText path) others
  | none => .error (.misfit .wrongKind)

def generate (files : Files) (o : GenerateOptions) : Outcome :=
  match o.load files with
  | .error f => .ofFailure files f
  | .ok config =>
    match config.generate o.dryRun files with
    | (files, .error f) => .ofFailure files f
    | (files, .ok report) =>
      let manifests := if o.dryRun then report.rendered.map fun (name, text) => Screen.manifest name text else []
      .print files 0 (manifests ++ Screen.report report o.dryRun)

def classify (files : Files) (names : List String) : Outcome :=
  let rows := names.map fun name =>
    (name, Classification.ofFilename KindTable.standard (Path.ofText name).name)
  let code := if rows.any fun (_, c) => !c.isOk then 1 else 0
  .print files code [Screen.classifications rows]

def run (files : Files) (args : List String) : Outcome :=
  match Request.parse? args with
  | none => { files, ending := .misuse }
  | some (.help command) => { files, lines := command.help.map String.toList, ending := .status 0 }
  | some .version => { files, lines := [versionLine.toList], ending := .status 0 }
  | some (.generate o) => generate files o
  | some (.classify names) => classify files names

end KubeManifest.CommandLine
