import KubeManifest.Yaml.Cursor
import KubeManifest.Yaml.Token

/-!
# The texts of scalars

* `scanQuoted` : a text between quotes, over several lines too;
* `scanPlain` : a text without quotes;
* `scanBlock` : a literal or folded block with its header. The folds of a folded one are kept by place;
* `scanName` : the name of an anchor or alias.

Each answers nothing when the text is malformed. Recursion is bounded by the number of characters that
are left.
-/

namespace KubeManifest.Yaml

open Cursor

/-! ## Quoted texts -/

/-- The character that a letter after a backslash stands for. -/
def escape? : Char → Option Char
  | '0' => some '\x00'
  | 'a' => some '\x07'
  | 'b' => some '\x08'
  | 't' => some '\t'
  | '\t' => some '\t'
  | 'n' => some '\n'
  | 'v' => some '\x0b'
  | 'f' => some '\x0c'
  | 'r' => some '\r'
  | 'e' => some '\x1b'
  | ' ' => some ' '
  | '"' => some '"'
  | '/' => some '/'
  | '\\' => some '\\'
  | 'N' => some '\u0085'
  | '_' => some '\u00a0'
  | 'L' => some '\u2028'
  | 'P' => some '\u2029'
  | _ => none

/-- The number of hexadecimal digits after a letter that follows a backslash. -/
def escapeLength? : Char → Option Nat
  | 'x' => some 2
  | 'u' => some 4
  | 'U' => some 8
  | _ => none

def hexNumber? (cs : List Char) : Option Nat :=
  cs.foldlM (fun n c =>
    if c.isDigit then some (16 * n + (c.toNat - '0'.toNat))
    else if 'a' ≤ c && c ≤ 'f' then some (16 * n + (c.toNat - 'a'.toNat + 10))
    else if 'A' ≤ c && c ≤ 'F' then some (16 * n + (c.toNat - 'A'.toNat + 10))
    else none) 0

def quotedBreaks : Nat → Cursor → Option (List Char × Cursor)
  | 0, _ => none
  | fuel + 1, c =>
    if c.atDocumentMarker then none
    else
      let c := c.skip fun ch => ch == ' ' || ch == '\t'
      if isBreak c.peek then do
        let (br, c) := c.lineBreak
        let (more, c) ← quotedBreaks fuel c
        return (br ++ more, c)
      else some ([], c)

/-- The text that a line break and blank lines around it stand for: a single break is a blank. -/
def foldBreaks (first rest : List Char) : List Char :=
  if first != ['\n'] then first ++ rest
  else if rest.isEmpty then [' ']
  else rest

def codePoint? (n : Nat) : Option Char :=
  if n.isValidChar then some (Char.ofNat n) else none

/-- The characters of a quoted text up to its closing quote, with `none` for a code point that no character has. -/
def quotedChars (quote : Char) : Nat → Cursor → Option (List (Option Char) × Cursor)
  | 0, _ => none
  | fuel + 1, c =>
    let double := quote == '"'
    let word := c.run fun ch =>
      !(isGap ch || isBreak ch || ch == '\'' || ch == '"' || ch == '\\')
    let here := c.advance word.length
    let ch := here.peek
    let goOn (part : List (Option Char)) (c : Cursor) : Option (List (Option Char) × Cursor) := do
      let (more, c) ← quotedChars quote fuel c
      return (word.map some ++ part ++ more, c)
    if ch == '\x00' then none
    else if ch == ' ' || ch == '\t' || isBreak ch then
      let blanks := here.run fun ch => ch == ' ' || ch == '\t'
      let c := here.advance blanks.length
      if isBreak c.peek then do
        let (first, c) := c.lineBreak
        let (rest, c) ← quotedBreaks (c.rest.length + 1) c
        goOn ((foldBreaks first rest).map some) c
      else if c.peek == '\x00' then none
      else goOn (blanks.map some) c
    else if !double && ch == '\'' && here.peekAt 1 == '\'' then goOn [some '\''] (here.advance 2)
    else if ch == quote then some (word.map some, here.next)
    else if !(double && ch == '\\') then goOn [some ch] here.next
    else
      let code := here.peekAt 1
      match escape? code, escapeLength? code with
      | some e, _ => goOn [some e] (here.advance 2)
      | none, some length =>
        let digits := (here.rest.drop 2).take length
        match hexNumber? digits with
        | some n =>
          if digits.length == length then goOn [codePoint? n] (here.advance (2 + length)) else none
        | none => none
      | none, none =>
        if isBreak code then do
          let (_, c) := (here.advance 1).lineBreak
          let (breaks, c) ← quotedBreaks (c.rest.length + 1) c
          goOn (breaks.map some) c
        else none

def scanQuoted (style : TextStyle) (c : Cursor) : Option (Token.Kind × Cursor) := do
  let (cs, c') ← quotedChars c.peek (c.rest.length + 1) c.next
  match cs.mapM id with
  | some cs => return (.scalar (String.ofList cs) style, c')
  | none => return (.noCharacter, c')

/-! ## Plain texts -/

/-- Where a plain text stands: whether between brackets, the least column of its further lines, and
the version of YAML. -/
structure PlainContext where
  flow : Bool
  indent : Int
  version : Version

/-- The blank lines inside a plain text; nothing when a document marker follows. -/
def plainBreaks : Nat → Cursor → Option (List Char) × Cursor
  | 0, c => (some [], c)
  | fuel + 1, c =>
    if c.peek == ' ' then plainBreaks fuel c.next
    else if isBreak c.peek then
      let (br, c) := c.lineBreak
      if c.atDocumentMarker then (none, c)
      else
        let (more, c) := plainBreaks fuel c
        (more.map (br ++ ·), c)
    else (some [], c)

/-- The blanks and line breaks after a word of a plain text: what they stand for, and whether a line was
broken. -/
def plainSpaces (c : Cursor) : List Char × Cursor × Bool :=
  let blanks := c.run (· == ' ')
  let c := c.advance blanks.length
  if isBreak c.peek then
    let (first, c) := c.lineBreak
    if c.atDocumentMarker then ([], c, true)
    else
      match plainBreaks (c.rest.length + 1) c with
      | (none, c) => ([], c, true)
      | (some rest, c) => (foldBreaks first rest, c, true)
  else (blanks, c, false)

/-- The length of the word of a plain text at the beginning of some characters. -/
def plainWord (ctx : PlainContext) : List Char → Nat
  | [] => 0
  | ch :: rest =>
    let following := rest.head?.getD '\x00'
    let inside :=
      if ch == ':' && !isGap following then true
      else if ch == '?' && ctx.version != .v11 then true
      else
        !(isGap ch || (!ctx.flow && ch == ':') ||
          (ctx.flow && (ch == ',' || ch == ':' || ch == '?' || ch == '[' || ch == ']' ||
            ch == '\x7b' || ch == '\x7d')))
    if inside then plainWord ctx rest + 1 else 0

/-- The words of a plain text after some spaces: their text, the place after them, and whether a line
was broken after a word. -/
def plainWords (ctx : PlainContext) : Nat → List Char → Bool → Cursor →
    List Char × Cursor × Bool
  | 0, _, broken, c => ([], c, broken)
  | fuel + 1, spaces, broken, c =>
    if c.peek == '#' then ([], c, broken)
    else
      let length := plainWord ctx c.rest
      if length == 0 then ([], c, broken)
      else
        let word := c.rest.take length
        let (after, c', br) := plainSpaces (c.advance length)
        if after.isEmpty || c'.peek == '#' || (!ctx.flow && (c'.column : Int) < ctx.indent) then
          (spaces ++ word, c', br)
        else
          let (more, c', br) := plainWords ctx fuel after br c'
          (spaces ++ word ++ more, c', br)

/-- A plain text, and whether a line was broken after its last word. -/
def scanPlain (ctx : PlainContext) (c : Cursor) : String × Cursor × Bool :=
  let (cs, c', broken) := plainWords ctx (c.rest.length + 1) [] false c
  (String.ofList cs, c', broken)

/-! ## Blocks -/

/-- What is done with the line breaks that end a block. -/
inductive Chomping
  | clip
  | strip
  | keep
deriving DecidableEq

/-- The header of a block after its indicator: chomping and an indentation. -/
def blockHeader (c : Cursor) : Option (Chomping × Option Nat × Cursor) :=
  let chomp (c : Cursor) : Chomping × Cursor :=
    if c.peek == '+' then (.keep, c.next)
    else if c.peek == '-' then (.strip, c.next)
    else (.clip, c)
  let increment (c : Cursor) : Option Nat × Cursor :=
    if c.peek.isDigit then (some (c.peek.toNat - '0'.toNat), c.next) else (none, c)
  let (chomping, n, c) :=
    if c.peek.isDigit then
      let (n, c) := increment c
      let (chomping, c) := chomp c
      (chomping, n, c)
    else
      let (chomping, c) := chomp c
      if chomping == .clip then (chomping, none, c)
      else
        let (n, c) := increment c
        (chomping, n, c)
  if n == some 0 then none
  else if isEnd c.peek || c.peek == ' ' || isBreak c.peek then some (chomping, n, c)
  else none

/-- The rest of a header's line: the comment with the blanks before it. -/
def headerComment (c : Cursor) : Option (String × Cursor) :=
  let blanks := c.run (· == ' ')
  let c := c.advance blanks.length
  let comment := if c.peek == '#' then c.run (! isEnd ·) else []
  let c := c.advance comment.length
  if isEnd c.peek then
    some (String.ofList (if comment.isEmpty then [] else blanks ++ comment), c.lineBreak.2)
  else none

/-- The blank lines before the first line of a block, and the widest indentation among them and of the
first line. A blank line may not be narrower than a line after it. -/
def firstIndent : Nat → Option Nat → Nat → Cursor → Option (List Char × Nat × Cursor)
  | 0, _, widest, c => some ([], widest, c)
  | fuel + 1, first, widest, c =>
    if c.peek == ' ' then
      let c := c.next
      firstIndent fuel first (max widest c.column) c
    else if isBreak c.peek then do
      let first := first.getD c.column
      let (br, c) := c.lineBreak
      let (more, widest, c) ← firstIndent fuel (some first) widest c
      return (br ++ more, widest, c)
    else if first.any fun n => n > 0 && widest > n then none
    else some ([], widest, c)

def skipTo (indent : Nat) (c : Cursor) : Cursor :=
  c.advance (min (indent - c.column) (c.run (· == ' ')).length)

/-- The blank lines inside a block, and the indentation of the line after them. -/
def blockBreaks (indent : Nat) : Nat → Cursor → List Char × Cursor
  | 0, c => ([], c)
  | fuel + 1, c =>
    let c := skipTo indent c
    if isBreak c.peek then
      let (br, c) := c.lineBreak
      let (more, c) := blockBreaks indent fuel c
      (br ++ more, c)
    else ([], c)

/-- The lines of a block in reverse, as characters with `none` for a fold. -/
structure BlockLines where
  chars : List (Option Char)
  lastBreak : List Char
  breaks : List Char
  cursor : Cursor

def blockLines (folded topLevel : Bool) (indent : Nat) :
    Nat → BlockLines → BlockLines
  | 0, b => b
  | fuel + 1, b =>
    let c := b.cursor
    if c.column == indent && c.peek != '\x00' then
      let opened := !(c.peek == ' ' || c.peek == '\t')
      let line := c.run (! isEnd ·)
      let chars := (b.breaks ++ line).reverse.map some ++ b.chars
      let (br, c) := (c.advance line.length).lineBreak
      let (breaks, c) := blockBreaks indent (c.rest.length + 1) c
      let done : BlockLines := ⟨chars, br, breaks, c⟩
      if topLevel && c.column == 0 && c.atDocumentMarker then done
      else if c.column == indent && c.peek != '\x00' then
        let joint : List (Option Char) := if folded && br == ['\n'] then [none] else []
        let gap : List (Option Char) :=
          if folded && br == ['\n'] && opened && !(c.peek == ' ' || c.peek == '\t') then
            (if breaks.isEmpty then [some ' '] else [])
          else br.map some
        blockLines folded topLevel indent fuel ⟨gap.reverse ++ joint ++ chars, br, breaks, c⟩
      else done
    else b

def foldsOf : List (Option Char) → Nat → List Char × List Nat
  | [], _ => ([], [])
  | none :: rest, n =>
    let (cs, folds) := foldsOf rest n
    (cs, n :: folds)
  | some ch :: rest, n =>
    let (cs, folds) := foldsOf rest (n + 1)
    (ch :: cs, folds)

/-- A block at its indicator, inside a block of a given indentation. -/
def scanBlock (outer : Int) (c : Cursor) : Option (String × TextStyle × Cursor) := do
  let folded := c.peek == '>'
  let (chomping, increment, c) ← blockHeader c.next
  let (comment, c) ← headerComment c
  let least := (outer + 1).toNat
  let (breaks, indent, c) ←
    match increment with
    | none => do
      let (breaks, widest, c) ← firstIndent (c.rest.length + 1) none 0 c
      pure (breaks, max least widest, c)
    | some n =>
      let indent := max least 1 + n - 1
      let (breaks, c) := blockBreaks indent (c.rest.length + 1) c
      pure (breaks, indent, c)
  let topLevel := least == 0 && increment.isNone
  let b := blockLines folded topLevel indent (c.rest.length + 1) ⟨[], [], breaks, c⟩
  let ending := match chomping with
    | .strip => []
    | .clip => b.lastBreak
    | .keep => b.lastBreak ++ b.breaks
  let (cs, folds) := foldsOf (b.chars.reverse ++ ending.map some) 0
  let style := if folded then .folded folds comment else .literal comment
  return (String.ofList cs, style, b.cursor)

/-! ## Names -/

def isNameChar (c : Char) : Bool :=
  let n := c.toNat
  !(c == ',' || c == '[' || c == ']' || c == '\x7b' || c == '\x7d') &&
    ((0x21 ≤ n && n ≤ 0x7E) || (0xA0 ≤ n && n ≤ 0xFFFD && n != 0xFEFF) || 0x10000 ≤ n)

/-- The name after the indicator of an anchor or alias. -/
def scanName (c : Cursor) : Option (String × Cursor) :=
  let name := c.next.run isNameChar
  let after := c.next.advance name.length
  if name.isEmpty then none
  else if isGap after.peek || isBreak after.peek || [',', '[', ']', '\x7b', '\x7d'].contains after.peek then
    some (String.ofList name, after)
  else none

end KubeManifest.Yaml
