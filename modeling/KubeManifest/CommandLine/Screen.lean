import KubeManifest.Console.Listing
import KubeManifest.Console.Table
import KubeManifest.Fragment.Filename
import KubeManifest.Generation.Run

/-!
# What is shown

* `Screen.report`, `Screen.classifications` : what was generated, and what the names of files say;
* `Screen.failure` : a failure that the input causes;
* `Screen.manifest` : the text of a manifest.

Each gives the lines that are printed one part after the other. A part whose tags do not fit together is not shown.
-/

namespace KubeManifest.CommandLine.Screen

open KubeManifest.Console (Column Panel Table Listing.lines?)

def width : Nat := 500

/-- Something that is printed as a whole, unless its tags do not fit together. -/
abbrev Part := Option (List (List Char))

def textOr (s : Option String) (other : String) : String :=
  match s with
  | none => other
  | some s => if s == "" then other else s

/-! ## Generated manifests -/

def origin (report : Report) (kind name : String) : String :=
  if kind == Workload.deployment.name && report.added.contains name then "generated" else "fragment"

def resources (report : Report) : Table where
  title := "KubeMold Generation Report"
  columns := [⟨"Kind", .left⟩, ⟨"Name", .left⟩, ⟨"Origin", .center⟩]
  rows := report.resources.map fun (kind, name) => [kind, name, origin report kind name]

def kinds (report : Report) : String :=
  let counts := report.summary.mergeSort fun a b => a.1 ≤ b.1
  textOr (", ".intercalate (counts.map fun (kind, n) => kind ++ " x" ++ toString n)) "none"

def summary (report : Report) (dryRun : Bool) : Panel where
  content := "\n".intercalate [
    "[bold white]Summary[/bold white]",
    "════════════════════════════════════════",
    "Resources:   " ++ toString report.resources.length ++ " (" ++ kinds report ++ ")",
    "Containers:  " ++ toString report.containers,
    "Output:      " ++
      (if dryRun then "[yellow]dry run, nothing written[/yellow]"
        else toString report.files.length ++ " file(s) written")]

def report (report : Report) (dryRun : Bool) : List Part :=
  [(resources report).lines? width, (summary report dryRun).lines? width]

def manifest (name text : String) : Part :=
  Listing.lines? width ("[bold green]" ++ name ++ "[/bold green]") text.toList

/-! ## Failures -/

/-- The file that a failure is about, in a line of its own. -/
def place (f : Failure) : String :=
  match f.path with
  | some path => if path == "" then "" else "\n[dim]" ++ path ++ "[/dim]"
  | none => ""

def failure (name : String) (f : Failure) : Part :=
  Panel.lines? width {
    title := some "[bold red]Generation Failed[/bold red]"
    content := "[bold red]" ++ name ++ "[/bold red]: " ++ f.message.getD "" ++ place f
    expand := false }

/-! ## Names of files -/

def classification (name : String) : Except Failure Classification → List String
  | .ok c => [name, textOr c.name "[dim]<app name>[/dim]", textOr c.type "-",
      textOr c.kind "[yellow]from content[/yellow]", "✅"]
  | .error f => [name, "-", "-", "[red]" ++ f.message.getD "" ++ "[/red]", "❌"]

def classifications (rows : List (String × Except Failure Classification)) : Part :=
  Table.lines? width {
    title := "Fragment Classification"
    columns := [⟨"File", .left⟩, ⟨"Name", .left⟩, ⟨"Type", .left⟩, ⟨"Kind", .left⟩, ⟨"Result", .center⟩]
    rows := rows.map fun (name, c) => classification name c }

end KubeManifest.CommandLine.Screen
