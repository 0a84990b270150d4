import KubeManifest.Yaml.Schema

/-!
# Choosing quotes

* `Shape` : what a text holds that matters for the ways it can be written;
* `Shape.of` : the shape of a text;
* `chooseStyle` : the way in which a text is written. Without a style of its own it has no quotes where it
  reads back as itself, then single quotes, and double ones where those would have to be doubled or
  would break lines.
-/

namespace KubeManifest.Yaml

/-- Where a scalar stands: between brackets, and as a key on one line with its value. -/
structure Place where
  flow : Bool := false
  key : Bool := false

/-- What a text holds that matters for the ways it can be written. -/
structure Shape where
  isEmpty : Bool
  multiline : Bool
  special : Bool
  spaceAround : Bool
  endsInSpace : Bool
  spaceByBreak : Bool
  blockMarks : Bool
  flowMarks : Bool
deriving Repr

namespace Shape

def isLineBreak (c : Char) : Bool :=
  c == '\n' || c == '\u0085' || c == '\u2028' || c == '\u2029'

def isSeparator (c : Char) : Bool :=
  c == '\x00' || c == ' ' || c == '\t' || c == '\r' || isLineBreak c

/-- Characters that only an escape can write. -/
def isSpecial (c : Char) : Bool :=
  let n := c.toNat
  !(c == '\n' || (0x20 ≤ n && n ≤ 0x7E) || n == 0x85 || (0xA0 ≤ n && n ≤ 0xD7FF) ||
    (0xE000 ≤ n && n ≤ 0xFFFD && n != 0xFEFF) || 0x10000 ≤ n)

/-- Characters that begin something else than a plain text. -/
def isIndicator (c : Char) : Bool :=
  "#,[]\x7b\x7d&*!|>'\"%@\x60".toList.contains c

/-- Whether two neighbours of a text are as told. -/
def hasPair (p q : Char → Bool) : List Char → Bool
  | a :: b :: cs => (p a && q b) || hasPair p q (b :: cs)
  | _ => false

/-- Whether a colon before a separator, or a number sign after one, stands after the first character. -/
def hasInnerMark : List Char → Bool
  | a :: b :: cs =>
    (b == ':' && (cs.head?.getD ' ' |> isSeparator)) || (b == '#' && isSeparator a) ||
      hasInnerMark (b :: cs)
  | _ => false

/-- Whether the first character, with what follows it, marks something else than a plain text. -/
def hasFirstMark (cs : List Char) : Bool :=
  match cs with
  | [] => false
  | c :: rest =>
    isIndicator c ||
      ((c == '?' || c == ':' || c == '-') && (rest.head?.getD ' ' |> isSeparator)) ||
      [['-', '-', '-'], ['.', '.', '.']].contains (cs.take 3)

def of (s : String) : Shape :=
  let cs := s.toList
  let first := cs.head?
  let last := cs.getLast?
  let blockMarks := hasFirstMark cs || hasInnerMark cs
  { isEmpty := cs.isEmpty
    multiline := cs.any isLineBreak
    special := cs.any isSpecial
    spaceAround := [first, last].any fun c => c.any fun c => c == ' ' || isLineBreak c
    endsInSpace := last == some ' '
    spaceByBreak := hasPair isLineBreak (· == ' ') cs || hasPair (· == ' ') isLineBreak cs
    blockMarks
    flowMarks := blockMarks || (cs.drop 1).any fun c => ",[]\x7b\x7d".toList.contains c }

/-- Whether the text may stand without quotes. -/
def allowsPlain (a : Shape) (place : Place) : Bool :=
  !(place.key && a.multiline) &&
    (if a.isEmpty then !place.flow
    else !(a.multiline || a.special || a.spaceAround || a.spaceByBreak) &&
      !(if place.flow then a.flowMarks else a.blockMarks))

/-- Whether the text may stand between single quotes. -/
def allowsSingle (a : Shape) (place : Place) : Bool :=
  !(a.special || a.spaceByBreak) && !(place.key && a.multiline)

def allowsBlock (a : Shape) (place : Place) : Bool :=
  !a.isEmpty && !a.endsInSpace && !place.flow && !place.key

end Shape

def isBlockStyle : TextStyle → Bool
  | .literal _ | .folded _ _ => true
  | _ => false

/-- The way in which a text is written. With `meansItself`, it reads back as itself without quotes. -/
def chooseStyle (place : Place) (meansItself : Bool) (style : TextStyle) (s : String) : TextStyle :=
  let shape := Shape.of s
  if style == .double then .double
  else if style == .plain && meansItself && shape.allowsPlain place then .plain
  else if isBlockStyle style && shape.allowsBlock place then style
  else if style == .plain && (s.toList.contains '\'' || s.toList.contains '\n') then .double
  else if shape.allowsSingle place then .single
  else .double

/-- The most characters of a key that stands on one line with its value, its anchor and the short name of
its tag among them. -/
def maxKeyLength : Nat := 128

/-- Whether a scalar key stands on one line with its value. -/
def isSimpleKey (tag : String) (anchor : Option String) (style : TextStyle) (s : String) : Bool :=
  let shape := Shape.of s
  tag.length + (anchor.getD "").length + s.length < maxKeyLength && !shape.multiline &&
    !(shape.isEmpty && isBlockStyle style)

end KubeManifest.Yaml
