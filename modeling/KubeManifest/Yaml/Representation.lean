import KubeManifest.Yaml.Node
import KubeManifest.Yaml.Spelling
import KubeManifest.Yaml.Style

/-!
# Values as nodes

* `Node.ofScalar` : a scalar with its spelling and its quotes;
* `Naming` : the names of a document and the values that have been written. A value that comes again is
  written as an alias; a moment that comes again gets a name by number;
* `Node.ofFields` : the nodes of a document.
-/

namespace KubeManifest.Yaml

/-! ## Scalars -/

def tagOf : Scalar → String
  | .null => "!!null"
  | .bool _ => "!!bool"
  | .int _ _ => "!!int"
  | .float _ _ => "!!float"
  | .text _ _ => "!!str"
  | .moment _ _ => "!!timestamp"

/-- Whether a plain text that is read as some kind stands for a scalar of the same kind. -/
def readsAs (kind : Schema.Kind) : Scalar → Bool
  | .null => kind == .null
  | .bool b => kind == .bool b
  | .int _ _ => kind == .int
  | .float _ _ => kind == .float
  | .text _ _ => kind == .text
  | .moment _ _ => kind == .moment

/-- The text of a scalar. Between brackets null has a word of its own. -/
def spellingOf (place : Place) : Scalar → String
  | .null => if place.flow then "null" else ""
  | .bool b => if b then "true" else "false"
  | .int n style => String.ofList ((style.getD {}).spell n)
  | .float x style => String.ofList (x.spell style)
  | .text s _ => s
  | .moment m style => String.ofList (m.spell style)

def styleOf : Scalar → TextStyle
  | .text _ style => style
  | _ => .plain

/-- A scalar at a place. It has a tag where its text without quotes would be read as something
else. -/
def Node.ofScalar (place : Place) (anchor : Option String) (s : Scalar) : Node :=
  let text := spellingOf place s
  let style := chooseStyle place (readsAs (Schema.kindOf .v12 text) s) (styleOf s) text
  let tag := if style == .plain || tagOf s == "!!str" then none else some (tagOf s)
  .scalar { anchor := anchor, tag := tag } text style .v12

/-! ## Names -/

/-- The names of the values of a document that are told from their equals. -/
structure Naming where
  numbered : List (Origin × String)
  written : List Origin := []

mutual

def momentOrigins : Value → List Origin
  | .scalar (.moment _ _) mark => (mark.map (·.origin)).toList
  | .scalar _ _ => []
  | .list items _ => itemOrigins items
  | .map fs _ => entryOrigins fs

/-- The places of the moments among some items. -/
def itemOrigins : List Value → List Origin
  | [] => []
  | x :: xs => momentOrigins x ++ itemOrigins xs

/-- The places of the moments among some entries. -/
def entryOrigins : List (Value × Value) → List Origin
  | [] => []
  | (k, v) :: fs => momentOrigins k ++ (momentOrigins v ++ entryOrigins fs)

end

/-- The places that come again, in the order in which they do. -/
def repeated (seen : List Origin) : List Origin → List Origin
  | [] => []
  | o :: os => if seen.contains o then o :: repeated seen os else repeated (o :: seen) os

def numberedName (n : Nat) : String :=
  "id" ++ Moment.padded 3 n

/-- The names of the moments that come again. -/
def Naming.of (fs : Fields) : Naming :=
  let places := (repeated [] (entryOrigins fs)).eraseDups
  { numbered := places.zip ((List.range places.length).map fun i => numberedName (i + 1)) }

def Naming.name? (naming : Naming) (mark : Mark) : Option String :=
  match mark.anchor with
  | some name => some name
  | none => naming.numbered.lookup mark.origin

/-! ## Nodes -/

/-- The node of a scalar: an alias when the scalar has a name and was written before. -/
def scalarNode (naming : Naming) (place : Place) (s : Scalar) (mark : Option Mark) : Node × Naming :=
  match mark with
  | none => (.ofScalar place none s, naming)
  | some m =>
    match naming.name? m with
    | none => (.ofScalar place none s, naming)
    | some name =>
      if naming.written.contains m.origin then (.reference name, naming)
      else (.ofScalar place (some name) s, { naming with written := m.origin :: naming.written })

/-- The place of a key: on one line with its value if it is short and has no line breaks. -/
def keyPlace (naming : Naming) : Value → Place
  | .scalar s mark =>
    { key := isSimpleKey (tagOf s) (mark.bind naming.name?) (styleOf s) (spellingOf {} s) }
  | _ => { flow := true }

mutual

def Node.ofValue (naming : Naming) (place : Place) : Value → Node × Naming
  | .scalar s mark => scalarNode naming place s mark
  | .list items _ =>
    let (nodes, naming) := itemNodes naming place items
    (.list {} nodes, naming)
  | .map fs _ =>
    let (entries, naming) := entryNodes naming place fs
    (.map {} entries, naming)

def itemNodes (naming : Naming) (place : Place) : List Value → List Node × Naming
  | [] => ([], naming)
  | x :: xs =>
    let (node, naming) := Node.ofValue naming place x
    let (nodes, naming) := itemNodes naming place xs
    (node :: nodes, naming)

def entryNodes (naming : Naming) (place : Place) :
    List (Value × Value) → List (Node × Node) × Naming
  | [] => ([], naming)
  | (k, v) :: fs =>
    let (key, naming) := Node.ofValue naming (keyPlace naming k) k
    let (node, naming) := Node.ofValue naming { flow := place.flow } v
    let (entries, naming) := entryNodes naming place fs
    ((key, node) :: entries, naming)

end

/-- The nodes of a document that consists of some entries. -/
def Node.ofFields (fs : Fields) : List (Node × Node) :=
  (entryNodes (Naming.of fs) {} fs).1

end KubeManifest.Yaml
