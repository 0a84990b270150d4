import KubeManifest.Failure
import KubeManifest.Yaml.Scalar

/-!
# Failures of YAML texts

`Yaml.Fault.failure` : the failure that a fault of a YAML text is. What is said about a malformed text depends
on the file it is in.
-/

namespace KubeManifest.Yaml

def Fault.failure (malformed : Failure) : Fault → Failure
  | .malformed => malformed
  | .badScalar => .misfit .badValue
  | .noDigits => .noDigits
  | .endless => .endless
  | .badKey => .misfit .wrongKind
  | .noCharacter => .noCharacter

end KubeManifest.Yaml
