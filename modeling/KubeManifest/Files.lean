import KubeManifest.Failure
import KubeManifest.Path

/-!
# Files

* `Files` : the directories, files and links below the root, and the directory in which relative paths begin;
* `Files.locate`, `Files.resolve` : the place that a path names, and the one that it leads to over the links there;
* `Files.realPath` : a path without links and steps upwards that leads to the same place;
* `Files.read`, `Files.write`, `Files.makeDirs`, `Files.rename`, `Files.remove` : the operations on files, each
  with what the file system refuses;
* `Files.entryAt` : all that lies at a place but a directory, by which the operations are described.
-/

namespace KubeManifest

/-- A place below the root. -/
abbrev Location := List String

/-- The directories, files and links that there are. A link leads to a path, as seen from the directory that it
lies in. Files with the same number are one file under several names. -/
structure Files where
  workDir : Location := ["work"]
  dirs : List Location := [[], ["work"]]
  contents : List (Location × ByteArray) := []
  links : List (Location × Path) := []
  numbers : List (Location × Nat) := []

namespace Files

/-! ## Places -/

def hasDir (fs : Files) (loc : Location) : Bool :=
  fs.dirs.contains loc

def contentAt (fs : Files) (loc : Location) : Option ByteArray :=
  fs.contents.lookup loc

def linkAt (fs : Files) (loc : Location) : Option Path :=
  fs.links.lookup loc

/-- The number of the file at a place, which a file without other names lacks. -/
def numberAt (fs : Files) (loc : Location) : Option Nat :=
  fs.numbers.lookup loc

/-- Whether two places are names of one file. -/
def sameFile (fs : Files) (loc other : Location) : Bool :=
  loc == other || ((fs.numberAt loc).isSome && fs.numberAt loc == fs.numberAt other)

/-- What lies at a place: the content and number of a file, or where a link leads. -/
structure Entry where
  content : Option ByteArray := none
  link : Option Path := none
  number : Option Nat := none

def entryAt (fs : Files) (loc : Location) : Entry :=
  ⟨fs.contentAt loc, fs.linkAt loc, fs.numberAt loc⟩

def hasEntry (fs : Files) (loc : Location) : Bool :=
  (fs.contentAt loc).isSome || (fs.linkAt loc).isSome

def occupied (fs : Files) (loc : Location) : Bool :=
  fs.hasDir loc || fs.hasEntry loc

def maxName : Nat := 255

def maxPath : Nat := 4095

/-- The most links that a path may lead over. -/
def maxLinks : Nat := 40

/-- The place of a name in a directory. Two points stand for the directory above. -/
def next (loc : Location) (name : String) : Location :=
  if name == ".." then loc.dropLast else loc ++ [name]

/-- Follows names from a directory. Every name but the last one leads to a directory. At a link `onLink` goes on with
the names that it stands for. A link under the last name is left only if the way goes `through` it. -/
def followNames (fs : Files) (through : Bool) (onLink : Location → List String → Except FileFault Location)
    (loc : Location) : List String → Except FileFault Location
  | [] => .ok loc
  | name :: rest =>
    if name.utf8ByteSize > maxName then .error .nameTooLong
    else
      match fs.linkAt (next loc name) with
      | some path =>
        if rest.isEmpty && !through then .ok (next loc name)
        else onLink (if path.isAbsolute then [] else loc) (path.parts ++ rest)
      | none =>
        if rest.isEmpty then .ok (next loc name)
        else if fs.hasDir (next loc name) then followNames fs through onLink (next loc name) rest
        else if (fs.contentAt (next loc name)).isSome then .error .notDirectory
        else .error .missing

/-- Follows names over some number of links. -/
def follow (fs : Files) (through : Bool) : Nat → Location → List String → Except FileFault Location
  | 0 => fs.followNames through fun _ _ => .error .tooManyLinks
  | n + 1 => fs.followNames through (follow fs through n)

def start (fs : Files) (p : Path) : Location :=
  if p.isAbsolute then [] else fs.workDir

def follow? (fs : Files) (through : Bool) (p : Path) : Except FileFault Location :=
  if p.parts.any fun part => part.toList.contains '\x00' then .error .nulInName
  else if p.text.utf8ByteSize > maxPath then .error .nameTooLong
  else fs.follow through maxLinks (fs.start p) p.parts

/-- The place that a path names, where a link may lie. -/
def locate (fs : Files) (p : Path) : Except FileFault Location :=
  fs.follow? false p

def resolve (fs : Files) (p : Path) : Except FileFault Location :=
  fs.follow? true p

/-- Follows names over links without asking whether anything is there. A link that is being followed already leads
nowhere: the names from there on are left as they are. -/
def realNames (fs : Files) (seen : List Location)
    (onLink : Location → Location → List String → Except Location Location) (loc : Location) :
    List String → Except Location Location
  | [] => .ok loc
  | name :: rest =>
    match fs.linkAt (next loc name) with
    | none => realNames fs seen onLink (next loc name) rest
    | some path =>
      if seen.contains (next loc name) then .error (rest.foldl next (next loc name))
      else
        match onLink (next loc name) (if path.isAbsolute then [] else loc) path.parts with
        | .ok loc => realNames fs seen onLink loc rest
        | .error stuck => .error (rest.foldl next stuck)

/-- Follows names over links that are not being followed yet, of which there are some number at most. -/
def realFrom (fs : Files) : Nat → List Location → Location → List String → Except Location Location
  | 0, seen => fs.realNames seen fun place _ _ => .error place
  | n + 1, seen => fs.realNames seen fun place => realFrom fs n (place :: seen)

/-- The path without links and steps upwards that a path stands for, whether or not anything is there. -/
def realPath (fs : Files) (p : Path) : Except FileFault Path :=
  let place :=
    match fs.realFrom fs.links.length [] (fs.start p) p.parts with
    | .ok loc | .error loc => loc
  if p.parts.any fun part => part.toList.contains '\x00' then .error .nulInName
  else
    match fs.resolve ⟨"/", place⟩ with
    | .error .tooManyLinks => .error .linkLoop
    | _ => .ok ⟨"/", place⟩

/-- Whether a property holds of the place that a path leads to. A path that leads nowhere has none. -/
def test (fs : Files) (p : Path) (holds : Location → Bool) : Except FileFault Bool :=
  match fs.resolve p with
  | .ok loc => .ok (holds loc)
  | .error .nameTooLong => .error .nameTooLong
  | .error _ => .ok false

def exists? (fs : Files) (p : Path) : Except FileFault Bool :=
  fs.test p fs.occupied

def isDir (fs : Files) (p : Path) : Except FileFault Bool :=
  fs.test p fs.hasDir

def isFile (fs : Files) (p : Path) : Except FileFault Bool :=
  fs.test p fun loc => !fs.hasDir loc && (fs.contentAt loc).isSome

def isWritable (fs : Files) (p : Path) : Except FileFault Bool :=
  match fs.resolve p with
  | .ok loc => .ok (fs.occupied loc)
  | .error .nulInName => .error .nulInName
  | .error _ => .ok false

/-! ## Reading -/

def read (fs : Files) (p : Path) : Except FileFault ByteArray := do
  let loc ← fs.resolve p
  if fs.hasDir loc then .error .isDirectory
  else
    match fs.contentAt loc with
    | some bytes => .ok bytes
    | none => .error .missing

def namesIn (fs : Files) (loc : Location) : List String :=
  (fs.dirs ++ fs.contents.map Prod.fst ++ fs.links.map Prod.fst).filterMap fun place =>
    if place != [] && place.dropLast == loc then place.getLast? else none

/-! ## Writing -/

/-- The files with a new content for the file at a place, under all its names. -/
def put (fs : Files) (loc : Location) (bytes : ByteArray) : Files :=
  if (fs.contentAt loc).isSome then
    { fs with contents := fs.contents.map fun (place, old) =>
        (place, if fs.sameFile place loc then bytes else old) }
  else { fs with contents := fs.contents ++ [(loc, bytes)] }

/-- The files without the file or link at a place. -/
def drop (fs : Files) (loc : Location) : Files :=
  { fs with
    contents := fs.contents.filter fun (place, _) => place != loc
    links := fs.links.filter fun (place, _) => place != loc
    numbers := fs.numbers.filter fun (place, _) => place != loc }

/-- What is at places after one thing was moved. -/
def moved {α : Type} (origin destination : Location) (xs : List (Location × α)) : List (Location × α) :=
  (xs.filter fun (place, _) => place != destination).map fun (place, x) =>
    (if place == origin then destination else place, x)

/-- The files with what is at one place at another one instead of what is there. -/
def move (fs : Files) (origin destination : Location) : Files :=
  { fs with
    contents := moved origin destination fs.contents
    links := moved origin destination fs.links
    numbers := moved origin destination fs.numbers }

def write (fs : Files) (p : Path) (bytes : ByteArray) : Except FileFault Files := do
  let loc ← fs.resolve p
  if fs.hasDir loc then .error .isDirectory else .ok (fs.put loc bytes)

def makeDir (fs : Files) (p : Path) : Except FileFault Files := do
  let loc ← fs.locate p
  if fs.occupied loc then .error .alreadyExists else .ok { fs with dirs := fs.dirs ++ [loc] }

/-- Makes a directory with those above it, up to some number of names. A directory that there is already
is fine. What was made before a fault stays. -/
def makeDirsUpTo (p : Path) : Nat → Files → Files × Except FileFault Unit
  | 0, fs => makeLast fs
  | n + 1, fs =>
    match fs.makeDir p with
    | .ok fs => (fs, .ok ())
    | .error .missing =>
      match makeDirsUpTo p.parent n fs with
      | (fs, .ok ()) => makeLast fs
      | (fs, .error fault) => (fs, .error fault)
    | .error fault => (fs, tolerate fs fault)
where
  /-- Passes over the fault of making a directory that there is. -/
  tolerate (fs : Files) (fault : FileFault) : Except FileFault Unit := do
    if fault != .nulInName && (← fs.isDir p) then .ok () else .error fault
  /-- Makes the directory itself. -/
  makeLast (fs : Files) : Files × Except FileFault Unit :=
    match fs.makeDir p with
    | .ok fs => (fs, .ok ())
    | .error .missing => (fs, .error .missing)
    | .error fault => (fs, tolerate fs fault)

/-- Makes a directory with those above it. -/
def makeDirs (fs : Files) (p : Path) : Files × Except FileFault Unit :=
  makeDirsUpTo p p.parts.length fs

/-- Moves a file or link over another one. Of two names of one file both stay. -/
def rename (fs : Files) (source target : Path) : Except FileFault Files := do
  let origin ← fs.locate source
  let destination ← fs.locate target
  if !fs.hasEntry origin then .error .missing
  else if fs.hasDir destination then .error .isDirectory
  else if fs.sameFile origin destination then .ok fs
  else .ok (fs.move origin destination)

def remove (fs : Files) (p : Path) : Except FileFault Files := do
  let loc ← fs.locate p
  if fs.hasEntry loc then .ok (fs.drop loc)
  else .error (if fs.hasDir loc then .isDirectory else .missing)

end Files

end KubeManifest
