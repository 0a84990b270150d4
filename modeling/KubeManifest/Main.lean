import KubeManifest.CommandLine.Run

/-!
# The program

`main` reads the files below the current directory, runs the command line on them, makes the changes to the files,
and prints what is shown.
-/

namespace KubeManifest

/-- The files with what an entry of a directory leads to. -/
partial def Files.withEntry (fs : Files) (loc : Location) (entry : IO.FS.DirEntry) : IO Files := do
  let loc := loc ++ [entry.fileName]
  if ← entry.path.isDir then
    let fs := { fs with dirs := fs.dirs ++ [loc] }
    (← entry.path.readDir).foldlM (fun fs entry => fs.withEntry loc entry) fs
  else
    return { fs with contents := fs.contents ++ [(loc, ← IO.FS.readBinFile entry.path)] }

def Files.ofCurrentDir : IO Files := do
  let dir ← IO.currentDir
  let workDir := (Path.ofText dir.toString).parts
  let fs : Files := { workDir, dirs := (List.range (workDir.length + 1)).map workDir.take, contents := [] }
  (← dir.readDir).foldlM (fun fs entry => fs.withEntry workDir entry) fs

def Location.text (loc : Location) : String :=
  "/" ++ "/".intercalate loc

def Files.makeChanges (before after : Files) : IO Unit := do
  for loc in after.dirs do
    if !before.hasDir loc then IO.FS.createDirAll (Location.text loc)
  for (loc, bytes) in after.contents do
    if before.contentAt loc != some bytes then IO.FS.writeBinFile (Location.text loc) bytes
  for (loc, _) in before.contents do
    if (after.contentAt loc).isNone then IO.FS.removeFile (Location.text loc)

end KubeManifest

open KubeManifest

/-- Runs the command line, and ends with the status that it gives. -/
def main (args : List String) : IO UInt32 := do
  let files ← Files.ofCurrentDir
  let outcome := CommandLine.run files args
  files.makeChanges outcome.files
  for line in outcome.lines do
    IO.println (String.ofList line)
  match outcome.ending with
  | .status code => return code.toUInt32
  | .misuse =>
    IO.eprintln ("\n".intercalate (CommandLine.Command.help .program))
    return 2
  | .failed failure =>
    IO.eprintln (failure.message.getD "failed")
    return 1
