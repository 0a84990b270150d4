import KubeManifest.Text.Blank
import KubeManifest.Text.Width

/-!
# Lines of a console

* `Line.fit` : a line cut or filled up to a number of columns;
* `Line.expandTabs` : a line with blanks up to the next stop in place of each tab;
* `Line.wrap` : a line broken into lines of some columns, between words where that is possible;
* `Line.layout` : the lines of a text, wrapped and set to the left or in the middle;
* `Line.widest` : the columns that a text takes when it is not wrapped.
-/

namespace KubeManifest.Console.Line

open KubeManifest.Text (columns charColumns isBlank stripRight)

/-- What happens to a word that no line can hold: it goes on in the next line, or an ellipsis ends it. -/
inductive Overflow
  | fold
  | ellipsis
deriving DecidableEq, Repr

inductive Side
  | left
  | center
deriving DecidableEq, Repr

def blanks (n : Nat) : List Char :=
  List.replicate n ' '

/-! ## Columns -/

/-- The start of a line that takes some columns. A wide character that does not fit leaves a blank. -/
def cut : Nat → List Char → List Char
  | _, [] => []
  | width, c :: cs =>
    if width = 0 then []
    else if width < charColumns c then blanks width
    else c :: cut (width - charColumns c) cs

/-- The line without what lies beyond some columns. -/
def crop (width : Nat) (cs : List Char) : List Char :=
  if columns cs ≤ width then cs else cut width cs

def pad (width : Nat) (cs : List Char) : List Char :=
  cs ++ blanks (width - columns cs)

def fit (width : Nat) (cs : List Char) : List Char :=
  pad width (crop width cs)

/-- The line without what lies beyond some columns, where an ellipsis may tell of it. -/
def truncate (overflow : Overflow) (width : Nat) (cs : List Char) : List Char :=
  if columns cs ≤ width then cs
  else
    match overflow with
    | .fold => crop width cs
    | .ellipsis => fit (width - 1) cs ++ ['…']

/-- The columns between two stops of a tab. -/
def tabStop : Nat := 8

/-- A line from a column on, with blanks up to the next stop in place of each tab. -/
def expandTabs (column : Nat) : List Char → List Char
  | [] => []
  | c :: cs =>
    if c == '\t' then
      let n := tabStop - column % tabStop
      blanks n ++ expandTabs (column + n) cs
    else c :: expandTabs (column + charColumns c) cs

/-! ## Words -/

/-- The word at the start of a text with the blanks after it, and what follows. -/
def takeWord (cs : List Char) : List Char × List Char :=
  let word := cs.takeWhile (!isBlank ·)
  let rest := cs.drop word.length
  let gap := rest.takeWhile isBlank
  (word ++ gap, rest.drop gap.length)

theorem length_takeWord (cs : List Char) :
    (takeWord cs).1.length + (takeWord cs).2.length = cs.length := by
  have h₁ := (List.takeWhile_sublist (l := cs) (!isBlank ·)).length_le
  have h₂ := (List.takeWhile_sublist (l := cs.drop (cs.takeWhile (!isBlank ·)).length) isBlank).length_le
  simp only [List.length_drop] at h₂
  simp only [takeWord, List.length_append, List.length_drop]
  omega

/-- The words of a text that begins with one. Every word has the blanks after it. -/
def wordsOf (cs : List Char) : List (List Char) :=
  if _h : (takeWord cs).1.length = 0 then []
  else (takeWord cs).1 :: wordsOf (takeWord cs).2
termination_by cs.length
decreasing_by
  have := length_takeWord cs
  omega

/-- The words of a text, the first one with the blanks before it. -/
def words (cs : List Char) : List (List Char) :=
  let indent := cs.takeWhile isBlank
  match wordsOf (cs.drop indent.length) with
  | [] => []
  | word :: rest => (indent ++ word) :: rest

def chop (width : Nat) : Nat → List Char → List Char → List (List Char)
  | _, part, [] => [part.reverse]
  | used, part, c :: cs =>
    if used + charColumns c > width then part.reverse :: chop width (charColumns c) [c] cs
    else chop width (used + charColumns c) (c :: part) cs

/-! ## Breaking -/

/-- The lines so far: the finished ones, the last one, and the columns of it that count as used. -/
structure Broken where
  finished : List (List Char) := []
  last : List Char := []
  used : Nat := 0

namespace Broken

/-- The lines with a text in a new line. Nothing is to be broken at the start. -/
def startLine (b : Broken) (cs : List Char) : Broken :=
  if b.finished.isEmpty && b.last.isEmpty then { b with last := cs, used := columns cs }
  else { finished := b.finished ++ [b.last], last := cs, used := columns cs }

def add (overflow : Overflow) (width : Nat) (b : Broken) (word : List Char) : Broken :=
  let needed := columns (stripRight word)
  if b.used + needed ≤ width then
    { b with last := b.last ++ word, used := b.used + columns word }
  else if width < needed && overflow == .fold then
    (chop width 0 [] word).foldl startLine b
  else b.startLine word

end Broken

def wrap (overflow : Overflow) (width : Nat) (cs : List Char) : List (List Char) :=
  match words cs with
  | [] => [cs]
  | ws =>
    let b := ws.foldl (Broken.add overflow width) {}
    b.finished ++ [b.last]

/-- A line without blanks at its end that lie beyond some length. -/
def dropExcess (width : Nat) (cs : List Char) : List Char :=
  let trailing := (cs.reverse.takeWhile isBlank).length
  cs.take (cs.length - min trailing (cs.length - width))

def place (side : Side) (overflow : Overflow) (width : Nat) (cs : List Char) : List Char :=
  match side with
  | .left => pad width (truncate overflow width cs)
  | .center =>
    let cs := truncate overflow width (stripRight cs)
    pad width (blanks ((width - columns cs) / 2) ++ cs)

/-- The lines of a text, wrapped and set to their place in some columns. -/
def layout (side : Side) (overflow : Overflow) (width : Nat) (cs : List Char) : List (List Char) :=
  (cs.splitOn '\n').flatMap fun line =>
    (wrap overflow width (expandTabs 0 line)).map fun part =>
      place side overflow width (dropExcess width part)

/-! ## Measuring -/

/-- Whether a character ends a line when a text is measured. -/
def endsLine (c : Char) : Bool :=
  c == '\n' || c == '\x1c' || c == '\x1d' || c == '\x1e' || c == '\x85' || c == '\u2028' || c == '\u2029'

/-- The columns that a text takes when it is not wrapped. A tab takes none. -/
def widest (cs : List Char) : Nat :=
  ((cs.splitOnP endsLine).map columns).foldl max 0

end KubeManifest.Console.Line
