import KubeManifest.Collection.Basic
import KubeManifest.Fragment.Directory
import KubeManifest.Fragment.Enrich

/-!
# Collections of fragments

* `Collection.ofPaths` : the resources of some fragments in their order; one bad fragment spoils all;
* `Collection.ofDirectory` : the resources of the fragments in a directory, by the names of their files.
-/

namespace KubeManifest

/-- What fragments are read with: tokens of file names, versions, and the name of what has none. -/
structure Fragment.Context where
  kinds : KindTable := .standard
  versions : Versions := {}
  defaultName : String

namespace Collection

def readResource (files : Files) (context : Fragment.Context) (document : Nat) (path : Path) :
    Except Failure Resource := do
  Resource.ofFields
    (← Fragment.enrichFile files context.kinds context.versions context.defaultName document path)

def ofPaths (files : Files) (context : Fragment.Context) (paths : List Path) :
    Except Failure Collection := do
  return ⟨← paths.zipIdx.mapM fun (path, n) => readResource files context n path⟩

def ofDirectory (files : Files) (context : Fragment.Context) (directory : Path) :
    Except Failure Collection := do
  let paths ← (Fragment.pathsIn files directory).mapError Failure.file
  ofPaths files context paths

end Collection

end KubeManifest
