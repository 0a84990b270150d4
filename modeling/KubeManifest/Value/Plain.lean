import KubeManifest.Value.Display

/-!
# Plain copies

`Value.plain` copies a value without the marks of its lists and mappings and with every key as text.
Keys that become equal share the place of the first and the value of the last. Scalars stay as they
are, the way they were written included.
-/

namespace KubeManifest

namespace Value

mutual

def plain : Value → Value
  | scalar s mark => scalar s mark
  | list items _ => ofList (plainItems items)
  | map fs _ => ofFields (Fields.ofPairs (plainEntries fs))

def plainItems : List Value → List Value
  | [] => []
  | x :: xs => plain x :: plainItems xs

/-- The entries of a mapping with their keys as text and plain values. -/
def plainEntries : List (Value × Value) → List (String × Value)
  | [] => []
  | (k, v) :: fs => (displayKey k, plain v) :: plainEntries fs

end

end Value

def Fields.plain (fs : Fields) : Fields :=
  Fields.ofPairs (Value.plainEntries fs)

/-- The entries of a mapping with plain values under the keys that they have. -/
def Fields.plainValues (fs : Fields) : Fields :=
  fs.map fun (k, v) => (k, v.plain)

end KubeManifest
