/-!
# Paths

* `Path` : a root, which relative paths lack, and the names of directories and a file;
* `Path.ofText`, `Path.text` : the written form without repeated slashes and single dots;
* `Path.join`, `Path.parent`, `Path.name`, `Path.withSuffix?` : parts and neighbours of a path.
-/

namespace KubeManifest

/-- A path. Two slashes make a root of its own. -/
structure Path where
  root : String := ""
  parts : List String := []
deriving DecidableEq, Repr

namespace Path

def ofText (s : String) : Path :=
  let slashes := (s.toList.takeWhile (· == '/')).length
  { root := if slashes == 0 then "" else if slashes == 2 then "//" else "/"
    parts := ((s.toList.splitOn '/').map String.ofList).filter fun part => part != "" && part != "." }

def text (p : Path) : String :=
  let s := p.root ++ "/".intercalate p.parts
  if s == "" then "." else s

def isAbsolute (p : Path) : Bool :=
  p.root != ""

/-- The path `q` as seen from `p`. -/
def join (p q : Path) : Path :=
  if q.isAbsolute then q else { p with parts := p.parts ++ q.parts }

def name (p : Path) : String :=
  p.parts.getLast?.getD ""

def parent (p : Path) : Path :=
  { p with parts := p.parts.dropLast }

/-- A name without what follows its last point, if something does and something stands before it. -/
def stem (name : String) : String :=
  let cs := name.toList.reverse
  let suffix := cs.takeWhile (· != '.')
  let before := cs.drop (suffix.length + 1)
  if suffix.isEmpty || before.isEmpty then name else String.ofList before.reverse

/-- The path with another suffix. A path without a name has none. -/
def withSuffix? (p : Path) (suffix : String) : Option Path :=
  if p.name == "" then none
  else some { p with parts := p.parts.dropLast ++ [stem p.name ++ suffix] }

end Path

end KubeManifest
