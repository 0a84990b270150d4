import KubeManifest.Yaml.Representation
import KubeManifest.Yaml.Writer.Text

/-!
# Writing YAML

* `Yaml.render` : the text of a document that consists of some entries. Every collection is a block but
  the empty ones and those inside keys; entries are indented by two columns, items by two with a dash
  and two more for what stands after it;
* a key that does not fit on one line with its value stands after a question mark;
* a block of text that keeps the line breaks at its end leaves the document open; if it is the last
  text, three dots close it.
-/

namespace KubeManifest.Yaml

/-! ## Scalars -/

/-- The text of a scalar at a column, blocks with the line break that ends them. -/
def writeScalar (layout : Layout) (text : String) (style : TextStyle) : List Char :=
  let cs := text.toList
  match style with
  | .plain => writePlain layout cs
  | .single => writeSingle layout cs
  | .double => writeDouble layout cs
  | .literal comment => writeLiteral layout.indent comment cs
  | .folded folds comment => writeFolded layout.indent folds comment cs

/-- The anchor and tag before a scalar, with a blank after each. -/
def writeProps (props : Props) : List Char :=
  (match props.anchor with
    | some name => '&' :: name.toList ++ [' ']
    | none => []) ++
  (match props.tag with
    | some tag => tag.toList ++ [' ']
    | none => [])

/-- Text without the blanks at its end. -/
def trimRight (cs : List Char) : List Char :=
  (cs.reverse.dropWhile (· == ' ')).reverse

def writeLeaf (layout : Layout) (props : Props) (text : String) (style : TextStyle) : List Char :=
  let before := writeProps props
  if text == "" && style == .plain then trimRight before
  else
    before ++ writeScalar { layout with column := layout.column + before.length } text style

mutual

def writeFlow : Node → List Char
  | .scalar props text style _ => writeLeaf ⟨0, 0, false⟩ props text style
  | .reference name => '*' :: name.toList
  | .list _ items => '[' :: flowItems true items
  | .map _ entries => '\x7b' :: flowEntries true entries

def flowItems (isFirst : Bool) : List Node → List Char
  | [] => [']']
  | x :: xs => (if isFirst then [] else [',', ' ']) ++ writeFlow x ++ flowItems false xs

/-- The entries of a mapping between brackets. -/
def flowEntries (isFirst : Bool) : List (Node × Node) → List Char
  | [] => ['\x7d']
  | (k, v) :: rest =>
    (if isFirst then [] else [',', ' ']) ++ writeFlow k ++ ':' :: ' ' :: writeFlow v ++
      flowEntries false rest

end

/-! ## Blocks -/

/-- Ends the line of a scalar. Blocks have ended theirs. -/
def endLine (style : TextStyle) (cs : List Char) : List Char :=
  if isBlockStyle style then cs else cs ++ ['\n']

/-- A key on one line with its value, if it can stand so. -/
def simpleKey? : Node → Option (List Char)
  | .scalar props text style _ =>
    if isBlockStyle style then none
    else
      let tag := props.tag.getD "!!str"
      if isSimpleKey tag props.anchor style text then
        some (writeLeaf ⟨0, 0, false⟩ props text style)
      else none
  | .reference name => some ('*' :: name.toList ++ [' '])
  | _ => none

/-- A key that does not stand on one line with its value, at a column. -/
def writeLongKey (column : Nat) : Node → List Char
  | .scalar props text style _ =>
    endLine style (writeLeaf ⟨column, column, true⟩ props text style)
  | key => writeFlow key ++ ['\n']

mutual

/-- A node at a column that the text has reached, up to the end of its line. -/
def writeNode (column : Nat) : Node → List Char
  | .scalar props text style _ =>
    endLine style (writeLeaf ⟨column, column, true⟩ props text style)
  | .reference name => '*' :: name.toList ++ ['\n']
  | .list _ items => if items.isEmpty then "[]\n".toList else writeItems 2 (column + 2) items
  | .map _ entries => if entries.isEmpty then "\x7b\x7d\n".toList else writeEntries 0 column entries

/-- The value of a key that ends at a column of a line that begins at another one. -/
def writeValue (start column : Nat) : Node → List Char
  | .scalar props text style _ =>
    let leaf := writeLeaf ⟨column + 1, start + 2, true⟩ props text style
    endLine style (if leaf.isEmpty then [] else ' ' :: leaf)
  | .reference name => ' ' :: '*' :: name.toList ++ ['\n']
  | .list _ items =>
    if items.isEmpty then " []\n".toList else '\n' :: writeItems (start + 2) (start + 2) items
  | .map _ entries =>
    if entries.isEmpty then " \x7b\x7d\n".toList
    else '\n' :: writeEntries (start + 2) (start + 2) entries

/-- Items with their dashes at a column. The first one comes after so many blanks. -/
def writeItems (blanks dash : Nat) : List Node → List Char
  | [] => []
  | x :: xs => margin blanks ++ '-' :: ' ' :: writeNode (dash + 2) x ++ writeItems dash dash xs

/-- Entries at a column. The first one comes after so many blanks. -/
def writeEntries (blanks column : Nat) : List (Node × Node) → List Char
  | [] => []
  | (k, v) :: rest =>
    let entry := match simpleKey? k with
      | some name => name ++ ':' :: writeValue column (column + name.length + 1) v
      | none =>
        '?' :: ' ' :: writeLongKey (column + 2) k ++ margin column ++ ':' :: ' ' ::
          writeNode (column + 2) v
    margin blanks ++ entry ++ writeEntries column column rest

end

/-! ## Documents -/

mutual

/-- Whether the last text of a node is a block that keeps the line breaks at its end. -/
def endsOpen : Node → Bool
  | .scalar _ text style _ => isBlockStyle style && (blockHints text.toList).getLast? == some '+'
  | .reference _ => false
  | .list _ items => itemsEndOpen items
  | .map _ entries => entriesEndOpen entries

def itemsEndOpen : List Node → Bool
  | [] => false
  | [x] => endsOpen x
  | _ :: xs => itemsEndOpen xs

def entriesEndOpen : List (Node × Node) → Bool
  | [] => false
  | [(_, v)] => endsOpen v
  | _ :: rest => entriesEndOpen rest

end

/-- The text of a document that consists of some entries. -/
def render (fs : Fields) : String :=
  let entries := Node.ofFields fs
  let body := if entries.isEmpty then "\x7b\x7d\n".toList else writeEntries 0 0 entries
  String.ofList (body ++ (if entriesEndOpen entries then "...\n".toList else []))

end KubeManifest.Yaml
