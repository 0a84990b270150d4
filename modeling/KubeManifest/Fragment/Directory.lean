import KubeManifest.Files
import KubeManifest.Fragment.Filename

/-!
# Directories of fragments

`Fragment.pathsIn` : the files in a directory whose names are those of fragments, by name. A path that leads
to no directory has none.
-/

namespace KubeManifest.Fragment

def pathsIn (files : Files) (directory : Path) : Except FileFault (List Path) := do
  if !(← files.isDir directory) then return []
  else
    let names ← (files.namesIn (← files.resolve directory)).filterM fun name =>
      files.isFile (directory.join ⟨"", [name]⟩)
    let fragments := names.filter Filename.isFragment
    return (fragments.mergeSort fun a b => a ≤ b).map fun name => directory.join ⟨"", [name]⟩

end KubeManifest.Fragment
