import KubeManifest.CommandLine.Grammar

/-!
# Requests

* `Command` : the program itself and the commands that it has, each with its grammar;
* `Request.parse?` : what a command line asks for, if it is well formed.
-/

namespace KubeManifest.CommandLine

inductive Command
  | program
  | generate
  | classify
deriving DecidableEq, Repr

/-- What manifests are generated with. What is not given is null. -/
structure GenerateOptions where
  config : Value := .null
  fragments : Value := .null
  output : Value := .null
  appName : Value := .null
  format : Value := .null
  dryRun : Bool := false

inductive Request
  | help (command : Command)
  | version
  | generate (options : GenerateOptions)
  | classify (files : List String)

namespace Command

def helpSwitch : Switch := ⟨["-h", "--help"], .help⟩

def grammar : Command → Grammar
  | program => {
      switches := [helpSwitch, ⟨["--version"], .version⟩, ⟨["-v", "--verbose"], .set "verbose"⟩]
      operands := .command }
  | generate => {
      switches := [
        helpSwitch,
        ⟨["-c", "--config"], .take "config" []⟩,
        ⟨["--fragments"], .take "fragments" []⟩,
        ⟨["--output"], .take "output" []⟩,
        ⟨["--app-name"], .take "app_name" []⟩,
        ⟨["--format"], .take "format" ["yaml", "json"]⟩,
        ⟨["--dry-run"], .set "dry_run"⟩]
      operands := .none }
  | classify => { switches := [helpSwitch], operands := .texts }

def ofName? (s : String) : Option Command :=
  if s == "generate" then some generate else if s == "classify" then some classify else none

end Command

/-- The configuration file that is read if none is given. -/
def GenerateOptions.standardConfig : String := "kubemold.yaml"

/-- The options among the values of switches. The last one of a switch counts. -/
def GenerateOptions.ofValues (values : List (String × Value)) : GenerateOptions :=
  let get (key : String) : Option Value := values.reverse.lookup key
  { config := (get "config").getD (.ofString standardConfig)
    fragments := (get "fragments").getD .null
    output := (get "output").getD .null
    appName := (get "app_name").getD .null
    format := (get "format").getD .null
    dryRun := (get "dry_run").isSome }

namespace Request

/-- What the arguments of a command ask for, if they and those before it are known. -/
def ofCommand? (command : Command) (allKnown : Bool) (args : List String) : Option Request :=
  match command.grammar.parse args with
  | .error .help => some (help command)
  | .error .version => some version
  | .error .misuse => none
  | .ok p =>
    if p.hasUnknown || !allKnown then none
    else
      match command with
      | .program => some (help .program)
      | .generate => some (generate (.ofValues p.values))
      | .classify => some (classify p.operands)

/-- What a command line asks for, if it is well formed. One without a command asks for help. -/
def parse? (args : List String) : Option Request :=
  match Command.program.grammar.parse args with
  | .error .help => some (help .program)
  | .error .version => some version
  | .error .misuse => none
  | .ok p =>
    match p.operands with
    | [] => if p.hasUnknown then none else some (help .program)
    | name :: rest => do ofCommand? (← Command.ofName? name) (!p.hasUnknown) rest

end Request

end KubeManifest.CommandLine
