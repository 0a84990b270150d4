import KubeManifest.Yaml.Token.Text

/-!
# Scanning a YAML text

* `Scan` : the place in the text, the tokens found so far, the open blocks and brackets, and the places
  that may turn out to be keys. A key without its indicator is found at the colon after it, and its
  tokens are put in before it;
* `Scan.step` : finds one more token;
* `Token.scan` : the tokens of a text, up to its end or to the place where it breaks off.
-/

namespace KubeManifest.Yaml

/-- A place where a key without an indicator may begin: the number of its token, and whether only a key
can stand there. -/
structure KeyPlace where
  token : Nat
  required : Bool
  offset : Nat
  line : Nat
  column : Nat

/-- A scan under way. `flow` holds the open brackets, true for those of lists, and `keys` the possible key at
each number of open brackets. With `lenient`, blanks and tabs after an empty line are skipped. -/
structure Scan where
  cursor : Cursor
  lenient : Bool
  tokens : Array Token := #[]
  version : Version := .v12
  indent : Int := -1
  indents : List Int := []
  flow : List Bool := []
  allowKey : Bool := true
  keys : List (Nat × KeyPlace) := []
  finished : Bool := false

namespace Scan

/-! ## Tokens and keys -/

def push (s : Scan) (kind : Token.Kind) (c : Cursor) : Scan :=
  { s with tokens := s.tokens.push ⟨kind, c.offset, s.version⟩ }

/-- Puts a token before the one with a given number. -/
def insert (s : Scan) (index offset : Nat) (kind : Token.Kind) : Scan :=
  { s with tokens := (s.tokens.toList.insertIdx index ⟨kind, offset, s.version⟩).toArray }

def inFlow (s : Scan) : Bool :=
  !s.flow.isEmpty

/-- The possible key at the present number of open brackets. -/
def key? (s : Scan) : Option KeyPlace :=
  s.keys.lookup s.flow.length

/-- Forgets the possible key of this level; one that had to be a key is a fault. -/
def dropKey (s : Scan) : Option Scan :=
  if s.key?.any (·.required) then none
  else some { s with keys := s.keys.filter fun (level, _) => level != s.flow.length }

/-- Forgets the possible keys that are too far back: on a line before, or more than 1024 characters. -/
def dropStaleKeys (s : Scan) : Option Scan :=
  let stale (k : KeyPlace) : Bool :=
    k.line != s.cursor.line || s.cursor.offset - k.offset > 1024
  if s.keys.any fun (_, k) => stale k && k.required then none
  else some { s with keys := s.keys.filter fun (_, k) => !stale k }

/-- Notes that a key may begin here. -/
def noteKey (s : Scan) : Option Scan :=
  if s.allowKey then do
    let c := s.cursor
    let required := !s.inFlow && s.indent == (c.column : Int)
    let s ← s.dropKey
    some { s with keys := (s.flow.length, ⟨s.tokens.size, required, c.offset, c.line, c.column⟩) :: s.keys }
  else some s

/-! ## Blocks -/

/-- Ends the blocks that are indented more than a column. -/
def unwind (s : Scan) (column : Int) : Scan :=
  if s.inFlow then s else close s s.indents
where
  /-- Ends the open blocks one after the other. -/
  close (s : Scan) : List Int → Scan
    | [] => s
    | outer :: rest =>
      if s.indent > column then
        close { s.push .blockEnd s.cursor with indent := outer, indents := rest } rest
      else s

/-- Begins a block when a column is more indented than the present one. -/
def openBlock (s : Scan) (column : Nat) : Option Scan :=
  if s.indent < (column : Int) then
    some { s with indents := s.indent :: s.indents, indent := column }
  else none

/-! ## Gaps -/

/-- Skips blanks, comments and line breaks. -/
def skipGaps : Nat → Scan → Scan
  | 0, s => s
  | fuel + 1, s =>
    let afterBreak (c : Cursor) : Scan :=
      { s with cursor := c, allowKey := s.allowKey || !s.inFlow }
    let c := s.cursor.skip fun ch => ch == ' ' || (s.inFlow && ch == '\t')
    if c.peek == '#' then
      let c := c.skip (! isEnd ·)
      let c := c.lineBreak.2
      skipGaps fuel (afterBreak (if s.lenient then c.skip isBreak else c))
    else if isBreak c.peek then
      let c := c.lineBreak.2
      let blank := s.lenient && c.peek == '\n'
      let c := if blank then c.skip fun ch => isBreak ch || ch == ' ' || ch == '\t' else c
      skipGaps fuel (afterBreak c)
    else { s with cursor := c }

/-! ## Directives -/

def versionNumber (c : Cursor) : Option (Nat × Nat × Cursor) :=
  let number (c : Cursor) : Option (Nat × Cursor) :=
    let ds := c.run Char.isDigit
    if ds.isEmpty then none
    else some (ds.foldl (fun n ch => 10 * n + (ch.toNat - '0'.toNat)) 0, c.advance ds.length)
  do
    let (major, c) ← number (c.skip (· == ' '))
    if c.peek != '.' then none
    else
      let (minor, c) ← number c.next
      return (major, minor, c)

/-- A directive. The rest of its line holds nothing but a comment. -/
def directive (s : Scan) : Option Scan := do
  let start := s.cursor
  let c := start.next
  let name := c.run fun ch => ch.isAlphanum || ch == '-' || ch == '_' || ch == ':' || ch == '.'
  let c := c.advance name.length
  if name.isEmpty || !(isEnd c.peek || c.peek == ' ' || isBreak c.peek) then none
  else
    let isVersion := name == "YAML".toList
    let (supported, version, c) ←
      if isVersion then do
        let (major, minor, c) ← versionNumber c
        let version : Version :=
          if major == 1 && minor == 1 then .v11 else if major == 1 && minor == 2 then .v12 else .other
        pure (major == 1, version, c)
      else pure (true, s.version, c.skip (! isEnd ·))
    let c := c.skip (· == ' ')
    let c := if c.peek == '#' then c.skip (! isEnd ·) else c
    if isEnd c.peek then
      return { (s.push (.directive isVersion supported) start) with
        version := version, cursor := c.lineBreak.2 }
    else none

/-! ## One token -/

def indicator (s : Scan) (kind : Token.Kind) (length : Nat) : Scan :=
  { s.push kind s.cursor with cursor := s.cursor.advance length }

/-- A marker that begins or ends a document, or the end of the text. -/
def marker (s : Scan) (kind : Token.Kind) (length : Nat) : Option Scan := do
  let s ← (s.unwind (-1)).dropKey
  return { s.indicator kind length with allowKey := false }

def openFlow (s : Scan) (isList : Bool) : Option Scan := do
  let s ← s.noteKey
  let s := s.indicator (if isList then .openSequence else .openMapping) 1
  return { s with flow := isList :: s.flow, allowKey := true }

def closeFlow (s : Scan) (isList : Bool) : Option Scan := do
  let s ← s.dropKey
  let s := { s with flow := s.flow.drop 1, allowKey := false }
  return s.indicator (if isList then .closeSequence else .closeMapping) 1

def blockEntry (s : Scan) : Option Scan := do
  let s ←
    if s.inFlow then some s
    else if !s.allowKey then none
    else match s.openBlock s.cursor.column with
      | some s => some (s.push .blockSequence s.cursor)
      | none => some s
  let s ← { s with allowKey := true }.dropKey
  return s.indicator .blockEntry 1

def explicitKey (s : Scan) : Option Scan := do
  let s ←
    if s.inFlow then some s
    else if !s.allowKey then none
    else match s.openBlock s.cursor.column with
      | some s => some (s.push .blockMapping s.cursor)
      | none => some s
  let s ← { s with allowKey := !s.inFlow }.dropKey
  return s.indicator .key 1

/-- The colon of a value. When a key may have begun before it, that was one. -/
def valueMark (s : Scan) : Option Scan :=
  match s.key? with
  | some k =>
    let s := { s with keys := s.keys.filter fun (level, _) => level != s.flow.length }
    let s := s.insert k.token k.offset .key
    let s :=
      if s.inFlow then s
      else match s.openBlock k.column with
        | some s => s.insert k.token k.offset .blockMapping
        | none => s
    some ({ s with allowKey := false }.indicator .value 1)
  | none => do
    let s ←
      if s.inFlow then some s
      else if !s.allowKey then none
      else match s.openBlock s.cursor.column with
        | some s => some (s.push .blockMapping s.cursor)
        | none => some s
    let s ← { s with allowKey := !s.inFlow }.dropKey
    return s.indicator .value 1

/-- A token with a text of its own, which may be a key. -/
def word (s : Scan) (scan : Cursor → Option (Token.Kind × Cursor)) : Option Scan := do
  let s ← s.noteKey
  let (kind, c) ← scan s.cursor
  return { s.push kind s.cursor with cursor := c, allowKey := false }

def scanTag (c : Cursor) : Option (Token.Kind × Cursor) :=
  let tag := c.run fun ch => !isGap ch
  some (.tag (String.ofList tag), c.advance tag.length)

def block (s : Scan) : Option Scan := do
  let s ← { s with allowKey := true }.dropKey
  let (text, style, c) ← scanBlock s.indent s.cursor
  return { s.push (.scalar text style) s.cursor with cursor := c }

def plain (s : Scan) : Option Scan := do
  let s ← s.noteKey
  let (text, c, broken) := scanPlain ⟨s.inFlow, s.indent + 1, s.version⟩ s.cursor
  return { s.push (.scalar text .plain) s.cursor with cursor := c, allowKey := broken }

def isValueMark (s : Scan) : Bool :=
  let gap := isGap (s.cursor.peekAt 1)
  match s.flow with
  | [] => gap
  | isList :: _ =>
    if s.version == .v11 then true
    else if isList then gap
    else if s.tokens.back?.any (·.kind == .value) then gap
    else true

/-- Whether a text without quotes may begin here. -/
def isPlainStart (s : Scan) : Bool :=
  let ch := s.cursor.peek
  let following := s.cursor.peekAt 1
  if !(isGap ch || isBreak ch || "-?:,[]\x7b\x7d#&*!|>'\"%@\x60".toList.contains ch) then true
  else if !isGap following && (ch == '-' || (!s.inFlow && (ch == '?' || ch == ':'))) then true
  else s.version != .v11 && ch == ':' && s.inFlow && !(following == ' ' || following == '\t')

def step (s : Scan) : Option Scan := do
  let s := s.skipGaps (s.cursor.rest.length + 1)
  let s ← s.dropStaleKeys
  let s := s.unwind s.cursor.column
  let c := s.cursor
  let ch := c.peek
  let gap := isGap (c.peekAt 1)
  if ch == '\x00' then
    let s ← s.marker .streamEnd 0
    return { s with finished := true }
  else if ch == '%' && c.column == 0 then
    let s ← (s.unwind (-1)).dropKey
    directive { s with allowKey := false }
  else if c.column == 0 && c.atMarker '-' then s.marker .documentStart 3
  else if c.column == 0 && c.atMarker '.' then s.marker .documentEnd 3
  else if ch == '[' then s.openFlow true
  else if ch == '\x7b' then s.openFlow false
  else if ch == ']' then s.closeFlow true
  else if ch == '\x7d' then s.closeFlow false
  else if ch == ',' then
    let s ← { s with allowKey := true }.dropKey
    return s.indicator .flowEntry 1
  else if ch == '-' && gap then s.blockEntry
  else if ch == '?' && (s.inFlow || gap) then s.explicitKey
  else if ch == ':' && s.isValueMark then s.valueMark
  else if ch == '*' then s.word fun c => (scanName c).map fun (name, c) => (.reference name, c)
  else if ch == '&' then s.word fun c => (scanName c).map fun (name, c) => (.anchor name, c)
  else if ch == '!' then s.word scanTag
  else if (ch == '|' || ch == '>') && !s.inFlow then s.block
  else if ch == '\'' then
    s.word (scanQuoted .single)
  else if ch == '"' then
    s.word (scanQuoted .double)
  else if s.isPlainStart then s.plain
  else none

/-- Finds tokens until the text ends or breaks off. -/
def toEnd : Nat → Scan → Array Token
  | 0, s => s.tokens
  | fuel + 1, s =>
    if s.finished then s.tokens
    else
      match s.step with
      | some s => toEnd fuel s
      | none => s.tokens.push ⟨.broken, s.cursor.offset, s.version⟩

end Scan

/-- The tokens of a text. A byte order mark before it is passed over. -/
def Token.scan (lenient : Bool) (text : List Char) : List Token :=
  if text.all isAllowed then
    let c : Cursor := { rest := text }
    let c := if c.peek == '\ufeff' then c.next else c
    (Scan.toEnd (text.length + 2) { cursor := c, lenient }).toList
  else [⟨.broken, 0, .v12⟩]

end KubeManifest.Yaml
