import KubeManifest.Files
import KubeManifest.Manifest.Format

/-!
# Writing manifests

`Manifest.write` writes what is exported to a file with the extension of its format. The directories above
it are made first, and stay when the text cannot be made.
-/

namespace KubeManifest.Manifest

def write (files : Files) (e : Exportable) (target format : String) : Files × Except Failure Path :=
  match Format.ofText format with
  | .error misfit => (files, .error (.misfit misfit))
  | .ok format =>
    let path := format.withExtension target
    match files.makeDirs path.parent with
    | (files, .error fault) => (files, .error (.file fault))
    | (files, .ok ()) =>
      match e.text format.name with
      | .error misfit => (files, .error (.misfit misfit))
      | .ok text =>
        match files.write path text.toUTF8 with
        | .error fault => (files, .error (.file fault))
        | .ok files => (files, .ok path)

end KubeManifest.Manifest
