/-!
# Places in a YAML text

* `Cursor` : the characters that are left, with the offset, line and column of the first of them. The
  end of the text reads as the character NUL, which no text holds;
* `isBreak`, `isEnd`, `isGap` : line breaks, the ends of a line, and the characters that end a word;
* `Cursor.lineBreak` : takes one line break; the next-line character counts as a line feed.
-/

namespace KubeManifest.Yaml

def isBreak (c : Char) : Bool :=
  c == '\n' || c == '\r' || c == '\u0085' || c == '\u2028' || c == '\u2029'

/-- Characters that end a line of text, the end of the text among them. -/
def isEnd (c : Char) : Bool :=
  c == '\n' || c == '\x00' || c == '\r' || c == '\u0085'

/-- Characters that end a word. -/
def isGap (c : Char) : Bool :=
  isEnd c || c == ' ' || c == '\t'

/-- Characters that a YAML text may hold. -/
def isAllowed (c : Char) : Bool :=
  let n := c.toNat
  n == 9 || n == 0x0A || n == 0x0D || (0x20 ≤ n && n ≤ 0x7E) || n == 0x85 ||
    (0xA0 ≤ n && n ≤ 0xFFFD) || 0x10000 ≤ n

structure Cursor where
  offset : Nat := 0
  line : Nat := 0
  column : Nat := 0
  rest : List Char

namespace Cursor

def peekAt (c : Cursor) (n : Nat) : Char :=
  (c.rest.drop n).head?.getD '\x00'

def peek (c : Cursor) : Char :=
  c.rest.head?.getD '\x00'

def next (c : Cursor) : Cursor :=
  match c.rest with
  | [] => c
  | ch :: rest =>
    if isBreak ch then ⟨c.offset + 1, c.line + 1, 0, rest⟩
    else if ch == '\ufeff' then ⟨c.offset + 1, c.line, c.column, rest⟩
    else ⟨c.offset + 1, c.line, c.column + 1, rest⟩

def advance (c : Cursor) : Nat → Cursor
  | 0 => c
  | n + 1 => c.next.advance n

def run (c : Cursor) (p : Char → Bool) : List Char :=
  c.rest.takeWhile p

/-- The place after the longest run of characters with a property. -/
def skip (c : Cursor) (p : Char → Bool) : Cursor :=
  c.advance (c.run p).length

/-- Takes a line break: the characters it stands for, none if there is no break. -/
def lineBreak (c : Cursor) : List Char × Cursor :=
  let ch := c.peek
  if ch == '\r' && c.peekAt 1 == '\n' then (['\n'], c.advance 2)
  else if ch == '\n' || ch == '\r' || ch == '\u0085' then (['\n'], c.next)
  else if ch == '\u2028' || ch == '\u2029' then ([ch], c.next)
  else ([], c)

/-- Whether a line of three marks and a gap stands here. -/
def atMarker (c : Cursor) (mark : Char) : Bool :=
  c.rest.take 3 == [mark, mark, mark] && isGap (c.peekAt 3)

def atDocumentMarker (c : Cursor) : Bool :=
  c.atMarker '-' || c.atMarker '.'

end Cursor

end KubeManifest.Yaml
