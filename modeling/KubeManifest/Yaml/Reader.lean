import KubeManifest.Value.Same
import KubeManifest.Yaml.Node
import KubeManifest.Yaml.Scalar
import KubeManifest.Yaml.Token.Scan

/-!
# Reading YAML

* `Mode` : whether values are read plainly, or with their places and the way they were written;
* `Node.read` : the value of a node among the values that have names so far, with the faults in it;
* `Yaml.readOne`, `Yaml.readAll` : the value of a text with one document, and of one with any number.

Reading collects every fault with its depth. Values that are read plainly are completed level by
level, so the fault that counts is the first one of the least depth; otherwise it is the first one.
-/

namespace KubeManifest

/-- The entries with a value under a key that is compared by value: in the place of an equal key, or at
the end. -/
def Fields.assign : Fields → Value → Value → Fields
  | [], key, v => [(key, v)]
  | (k, old) :: fs, key, v => if k.same key then (k, v) :: fs else (k, old) :: assign fs key v

namespace Yaml

/-- How values are read: plainly, or as those of a numbered document that is to be written again. -/
inductive Mode
  | plain
  | styled (document : Nat)
deriving DecidableEq, Repr

/-- Whether nothing is kept of the way values were written. -/
def Mode.isPlain : Mode → Bool
  | plain => true
  | styled _ => false

/-- The values that have names. A value that is not complete yet hides an earlier one of its name. -/
abbrev Names := List (String × Option Value)

abbrev Faults := List (Nat × Fault)

structure Reading where
  value : Value
  names : Names
  faults : Faults := []

/-- An entry of a mapping as it was read, or a value whose entries are taken over. -/
structure EntryReading where
  isMerge : Bool
  key : Value
  value : Value
  keyFaults : Faults
  valueFaults : Faults

namespace Mode

def collectionMark (mode : Mode) (props : Props) : Option Mark :=
  match mode with
  | plain => none
  | styled document => some { origin := ⟨document, props.offset⟩ }

/-- The mark of a scalar: its name, and the place of one that its place tells from its equals. -/
def scalarMark (mode : Mode) (props : Props) (s : Scalar) : Option Mark :=
  match mode with
  | plain => none
  | styled document =>
    let origin : Origin := ⟨document, props.offset⟩
    if s.hasPlace then some { origin := origin }
    else if s.keepsName && props.anchor.isSome then some ⟨origin, props.anchor⟩
    else none

/-- The depth of what a collection holds. Only values that are read plainly, and not as keys, are
completed level by level. -/
def deeper (mode : Mode) (inKey : Bool) (depth : Nat) : Nat :=
  if mode.isPlain && !inKey then depth + 1 else depth

end Mode

/-! ## Mappings -/

/-- The mappings whose entries a merge takes over. -/
def mergedMaps? : Value → Option (List Fields)
  | .map fs _ => some [fs]
  | .list items _ => items.mapM Value.fields?
  | _ => none

/-- The fault of a key that no mapping may have: parts that are collections themselves, or a mapping
where values are read plainly. -/
def keyFault? (mode : Mode) : Value → Option Fault
  | .scalar _ _ => none
  | .list items _ => if items.all (·.isScalar) then none else some .badKey
  | .map fs _ =>
    if mode.isPlain then some .malformed
    else if fs.all fun (_, v) => v.isScalar then none
    else some .badKey

/-- The merges of a mapping: the mappings taken over, and the faults. Only one merge may bring
anything. -/
def mergesOf (mode : Mode) (depth : Nat) (entries : List EntryReading) : List Fields × Faults :=
  (entries.filter (·.isMerge)).foldl (fun (maps, faults) e =>
    let faults := faults ++ e.valueFaults
    let given := if mode.isPlain then maps.any (! ·.isEmpty) else !maps.isEmpty
    match mergedMaps? e.value with
    | some new => if given then (maps, faults ++ [(depth, .malformed)]) else (new, faults)
    | none => (maps, faults ++ [(depth, .malformed)])) ([], [])

/-- The own entries of a mapping on top of some others, and the faults. With `distinct`, a key may not
come twice. -/
def ownEntries (mode : Mode) (distinct : Bool) (depth : Nat) (base : Fields)
    (entries : List EntryReading) : Fields × Faults :=
  (entries.filter (! ·.isMerge)).foldl (fun (fs, faults) e =>
    let early := e.key.isMap && mode.isPlain
    let shape := ((keyFault? mode e.key).map fun f => (depth, f)).toList
    let found := e.keyFaults ++ (if early then shape ++ e.valueFaults else e.valueFaults ++ shape)
    let again := if distinct && Fields.hasKey fs e.key then [(depth, Fault.malformed)] else []
    (Fields.assign fs e.key e.value, faults ++ found ++ again)) (base, [])

/-- The entries of a mapping. Written again, own entries come first and entries taken over only where
there is no own one; read plainly, those taken over come first and own ones change their values. -/
def assemble (mode : Mode) (depth : Nat) (entries : List EntryReading) : Fields × Faults :=
  let (maps, mergeFaults) := mergesOf mode depth entries
  if mode.isPlain then
    let merged := maps.reverse.flatten.foldl (fun fs (k, v) => Fields.assign fs k v) []
    let (fs, faults) := ownEntries mode merged.isEmpty depth merged entries
    (fs, mergeFaults ++ faults)
  else
    let (own, faults) := ownEntries mode true depth [] entries
    let fs := maps.flatten.foldl (fun fs (k, v) => if Fields.hasKey fs k then fs else fs ++ [(k, v)]) own
    (fs, mergeFaults ++ faults)

/-! ## Nodes -/

/-- Whether a node is a plain scalar that stands for something. -/
def Node.isKind (node : Node) (kind : Schema.Kind) : Bool :=
  match node with
  | .scalar ⟨_, none, _⟩ text .plain version => Schema.kindOf version text == kind
  | _ => false

/-- The value of a scalar. The signs of merges and of values are no values where values are read
plainly. -/
def readScalar (mode : Mode) (isKey : Bool) (depth : Nat) (names : Names) (props : Props)
    (text : String) (style : TextStyle) (version : Version) : Reading :=
  let node : Node := .scalar props text style version
  if mode.isPlain && (node.isKind .merge || (node.isKind .equals && !isKey)) then
    ⟨.null, names, [(depth, .malformed)]⟩
  else
    match Scalar.read version props.tag props.anchor.isSome text style with
    | .ok s =>
      let s := if mode.isPlain then s.unstyled else s
      let v : Value := .scalar s (mode.scalarMark props s)
      ⟨v, (props.anchor.map fun name => (name, some v)).toList ++ names, []⟩
    | .error fault =>
      let fault := if mode.isPlain && fault == .noDigits then .badScalar else fault
      ⟨.null, names, [(depth, fault)]⟩

mutual

def Node.read (mode : Mode) (inKey isKey : Bool) (depth : Nat) (names : Names) : Node → Reading
  | .reference name =>
    match names.lookup name with
    | some (some v) => ⟨v, names, []⟩
    | _ => ⟨.null, names, [(depth, .endless)]⟩
  | .scalar props text style version => readScalar mode isKey depth names props text style version
  | .list props items =>
    let opened := (props.anchor.map fun name => (name, none)).toList ++ names
    let (values, names, faults) := readItems mode inKey (mode.deeper inKey depth) opened items
    let v : Value := .list values (mode.collectionMark props)
    ⟨v, (props.anchor.map fun name => (name, some v)).toList ++ names, faults⟩
  | .map props entries =>
    let opened := (props.anchor.map fun name => (name, none)).toList ++ names
    let inside := mode.deeper inKey depth
    let (parts, names) := readEntries mode inKey depth inside opened entries
    let (fs, faults) := assemble mode inside parts
    let v : Value := .map fs (mode.collectionMark props)
    ⟨v, (props.anchor.map fun name => (name, some v)).toList ++ names, faults⟩

def readItems (mode : Mode) (inKey : Bool) (depth : Nat) (names : Names) :
    List Node → List Value × Names × Faults
  | [] => ([], names, [])
  | node :: nodes =>
    let r := node.read mode inKey false depth names
    let (values, names, faults) := readItems mode inKey depth r.names nodes
    (r.value :: values, names, r.faults ++ faults)

/-- The entries of a mapping at a depth, with contents at another. -/
def readEntries (mode : Mode) (inKey : Bool) (depth inside : Nat) (names : Names) :
    List (Node × Node) → List EntryReading × Names
  | [] => ([], names)
  | (key, value) :: rest =>
    if key.isKind .merge then
      let v := value.read mode inKey false depth names
      let (entries, names) := readEntries mode inKey depth inside v.names rest
      (⟨true, .null, v.value, [], v.faults⟩ :: entries, names)
    else
      let k := key.read mode true true inside names
      let v := value.read mode inKey false inside k.names
      let (entries, names) := readEntries mode inKey depth inside v.names rest
      (⟨false, k.value, v.value, k.faults, v.faults⟩ :: entries, names)

end

mutual

/-- The names that are given up to the end of a node, if every alias in it has a name given before. -/
def Node.checkNames (known : List String) : Node → Option (List String)
  | .reference name => if known.contains name then some known else none
  | .scalar props _ _ _ => some (props.anchor.toList ++ known)
  | .list props items => checkItems (props.anchor.toList ++ known) items
  | .map props entries => checkEntries (props.anchor.toList ++ known) entries

/-- The names that are given up to the end of some items. -/
def checkItems (known : List String) : List Node → Option (List String)
  | [] => some known
  | node :: nodes => do checkItems (← node.checkNames known) nodes

/-- The names that are given up to the end of some entries. -/
def checkEntries (known : List String) : List (Node × Node) → Option (List String)
  | [] => some known
  | (key, value) :: rest => do checkEntries (← value.checkNames (← key.checkNames known)) rest

end

/-! ## Documents -/

/-- The fault that counts: the first one of the least depth. -/
def firstFault? : Faults → Option (Nat × Fault)
  | [] => none
  | fault :: rest =>
    match firstFault? rest with
    | some other => some (if other.1 < fault.1 then other else fault)
    | none => some fault

def readRoot (mode : Mode) (root : Node) : Except Fault Value :=
  if (root.checkNames []).isNone then .error .malformed
  else
    let r := root.read mode false false 0 []
    match firstFault? r.faults with
    | some (_, fault) => .error fault
    | none => .ok r.value

def brokenFault (tokens : List Token) : Fault :=
  if tokens.any (·.kind == .noCharacter) then .noCharacter else .malformed

def readOne (mode : Mode) (text : List Char) : Except Fault Value :=
  let tokens := Token.scan (!mode.isPlain) text
  match Document.implicit? tokens with
  | .finished => .ok .null
  | .broken => .error (brokenFault tokens)
  | .document root rest =>
    match Document.after rest with
    | .finished => readRoot mode root
    | _ => .error (brokenFault tokens)

def readFrom (mode : Mode) (broken : Fault) : Nat → Document.Next → Except Fault (List Value)
  | _, .finished => .ok []
  | 0, _ => .error broken
  | _, .broken => .error broken
  | fuel + 1, .document root rest => do
    let v ← readRoot mode root
    return v :: (← readFrom mode broken fuel (Document.after rest))

def readAll (mode : Mode) (text : List Char) : Except Fault (List Value) :=
  let tokens := Token.scan (!mode.isPlain) text
  readFrom mode (brokenFault tokens) (tokens.length + 1) (Document.implicit? tokens)

end Yaml

end KubeManifest
