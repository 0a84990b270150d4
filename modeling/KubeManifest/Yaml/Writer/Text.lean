import KubeManifest.Text.Blank
import KubeManifest.Text.Quoted
import KubeManifest.Yaml.Style

/-!
# Writing the texts of scalars

* `Layout` : the column where a text begins, the column of its further lines, and whether its lines may be
  broken;
* `writePlain`, `writeSingle`, `writeDouble` : a text on one line, or on several when it is wider than
  `maxWidth`;
* `writeLiteral`, `writeFolded` : a text as a block, up to the end of its last line.
-/

namespace KubeManifest.Yaml

structure Layout where
  column : Nat
  indent : Nat
  splits : Bool

/-- The column after which lines are broken. -/
def maxWidth : Nat := 4096

def margin (indent : Nat) : List Char :=
  List.replicate indent ' '

def freshLine (indent : Nat) : List Char :=
  '\n' :: margin indent

inductive RunKind
  | space
  | lineBreak
  | quote
  | word
deriving DecidableEq

def runKind (c : Char) : RunKind :=
  if c == ' ' then .space
  else if Shape.isLineBreak c then .lineBreak
  else if c == '\'' then .quote
  else .word

/-- The runs of blanks, of line breaks, of single quotes and of other characters. -/
def runsOf (cs : List Char) : List (List Char) :=
  cs.splitBy fun a b => runKind a == runKind b

/-! ## Plain -/

/-- The words and blanks of a plain text from a column on. A wide word begins a line of its own. -/
def plainRuns (indent : Nat) (splits : Bool) (column : Nat) : List (List Char) → List Char
  | [] => []
  | run :: rest =>
    if run.head? == some ' ' then
      if run.length == 1 && column > maxWidth && splits then
        freshLine indent ++ plainRuns indent splits indent rest
      else run ++ plainRuns indent splits (column + run.length) rest
    else if run.length > maxWidth && column > indent then
      freshLine indent ++ run ++ plainRuns indent splits (indent + run.length) rest
    else run ++ plainRuns indent splits (column + run.length) rest

def writePlain (layout : Layout) (cs : List Char) : List Char :=
  plainRuns layout.indent layout.splits layout.column (cs.splitBy fun a b => (a == ' ') == (b == ' '))

/-! ## Single quotes -/

/-- The runs of a text between single quotes. The first run is never broken, nor is the last. -/
def singleRuns (indent : Nat) (splits : Bool) (isFirst : Bool) (column : Nat) :
    List (List Char) → List Char
  | [] => []
  | run :: rest =>
    match runKind (run.headD 'x') with
    | .space =>
      if run.length == 1 && column > maxWidth && splits && !isFirst && !rest.isEmpty then
        freshLine indent ++ singleRuns indent splits false indent rest
      else run ++ singleRuns indent splits false (column + run.length) rest
    | .lineBreak =>
      (if run.head? == some '\n' then ['\n'] else []) ++ run ++ margin indent ++
        singleRuns indent splits false indent rest
    | .quote =>
      run ++ run ++ singleRuns indent splits false (column + 2 * run.length) rest
    | .word => run ++ singleRuns indent splits false (column + run.length) rest

def writeSingle (layout : Layout) (cs : List Char) : List Char :=
  '\'' :: singleRuns layout.indent layout.splits true (layout.column + 1) (runsOf cs) ++ ['\'']

/-! ## Double quotes -/

/-- Whether a character stands for itself between double quotes. -/
def isDirect (c : Char) : Bool :=
  let n := c.toNat
  c != '"' && c != '\\' && c != '\u2028' && c != '\u2029' && c != '\ufeff' &&
    ((0x20 ≤ n && n ≤ 0x7E) || (0xA0 ≤ n && n ≤ 0xFFFD) || 0x10000 ≤ n)

/-- A character between double quotes, after a backslash. -/
def escaped (c : Char) : List Char :=
  let upper (width : Nat) : List Char := (Text.hexPadded width c.toNat).map Char.toUpper
  match c with
  | '\x00' => ['0']
  | '\x07' => ['a']
  | '\x08' => ['b']
  | '\t' => ['t']
  | '\n' => ['n']
  | '\x0b' => ['v']
  | '\x0c' => ['f']
  | '\r' => ['r']
  | '\x1b' => ['e']
  | '"' => ['"']
  | '\\' => ['\\']
  | '\u0085' => ['N']
  | '\u2028' => ['L']
  | '\u2029' => ['P']
  | _ =>
    if c.toNat ≤ 0xFF then 'x' :: upper 2
    else if c.toNat ≤ 0xFFFF then 'u' :: upper 4
    else 'U' :: upper 8

/-- The characters of a text between double quotes. `pending` holds, in reverse, those since the last escape
or line, which begin at `column`. A line is broken at a blank, or after an escape. -/
def doubleChars (indent : Nat) (splits : Bool) (isFirst : Bool) (column : Nat)
    (pending : List Char) : List Char → List Char
  | [] => pending.reverse
  | c :: rest =>
    let inside := !isFirst && !rest.isEmpty && splits
    if !isDirect c then
      let written := pending.reverse ++ '\\' :: escaped c
      let column := column + written.length
      if inside && column > maxWidth + 1 then
        written ++ '\\' :: freshLine indent ++
          (if rest.head? == some ' ' then
            '\\' :: doubleChars indent splits false (indent + 1) [] rest
          else doubleChars indent splits false indent [] rest)
      else written ++ doubleChars indent splits false column [] rest
    else if inside && (c == ' ' || pending.isEmpty) && column + pending.length > maxWidth then
      if c == ' ' && rest.head? != some ' ' then
        pending.reverse ++ freshLine indent ++ doubleChars indent splits false indent [] rest
      else
        let mark := if c == ' ' then ['\\'] else []
        pending.reverse ++ '\\' :: freshLine indent ++ mark ++
          doubleChars indent splits false (indent + mark.length) [c] rest
    else doubleChars indent splits false column (c :: pending) rest

def writeDouble (layout : Layout) (cs : List Char) : List Char :=
  '"' :: doubleChars layout.indent layout.splits true (layout.column + 1) [] cs ++ ['"']

/-! ## Blocks -/

/-- What stands after the indicator of a block: an indentation where the text begins with a blank or a line
break, and a sign for what is to happen to the breaks at its end. -/
def blockHints (cs : List Char) : List Char :=
  let opening :=
    if cs.head?.any fun c => c == ' ' || Shape.isLineBreak c then ['2'] else []
  let closing := match cs.reverse with
    | [] => []
    | last :: before =>
      if !Shape.isLineBreak last then ['-']
      else if before.head?.all Shape.isLineBreak then ['+']
      else []
  opening ++ closing

def literalRuns (indent : Nat) : List (List Char) → List Char
  | [] => []
  | run :: rest =>
    if run.head?.any Shape.isLineBreak then run ++ literalRuns indent rest
    else
      margin indent ++ run ++ (if rest.isEmpty then ['\n'] else literalRuns indent rest)

def writeLiteral (indent : Nat) (comment : String) (cs : List Char) : List Char :=
  '|' :: blockHints cs ++ comment.toList ++ '\n' ::
    literalRuns indent (cs.splitBy fun a b => Shape.isLineBreak a == Shape.isLineBreak b)

/-- A text with its folds marked: a fold stands for a blank between two words. -/
def markFolds (folds : List Nat) (cs : List Char) : List (Option Char) :=
  let isWord (i : Nat) : Bool := (cs[i]?).any fun c => !Text.isBlank c
  cs.zipIdx.map fun (c, i) =>
    if c == ' ' && folds.contains i && i > 0 && isWord (i - 1) && isWord (i + 1) then none else some c

/-- The kind of a character or fold, which is part of a word. -/
def foldKind (c : Option Char) : RunKind :=
  match c.map runKind with
  | some .space => .space
  | some .lineBreak => .lineBreak
  | _ => .word

/-- The characters of a word with folds, and the column after it. -/
def foldedWord (indent : Nat) : Nat → List (Option Char) → List Char × Nat
  | column, [] => ([], column)
  | column, some c :: cs =>
    let (text, column) := foldedWord indent (column + 1) cs
    (c :: text, column)
  | _, none :: cs =>
    let (text, column) := foldedWord indent indent cs
    (freshLine indent ++ text, column)

/-- The lines of a folded block. `begun` tells whether a line was begun, and `spaced` whether the present
one begins with a blank. A break between two lines that do not is doubled. -/
def foldedRuns (indent : Nat) (begun spaced : Bool) (column : Nat) :
    List (List (Option Char)) → List Char
  | [] => []
  | run :: rest =>
    match foldKind (run.headD none) with
    | .lineBreak =>
      let next := (rest.head?.bind (·.head?)).join
      let breaks := run.filterMap id
      let nextSpaced := next == some ' '
      let extra := !spaced && !rest.isEmpty && !nextSpaced && breaks.head? == some '\n'
      (if extra then ['\n'] else []) ++ breaks ++ (if rest.isEmpty then [] else margin indent) ++
        foldedRuns indent true nextSpaced indent rest
    | .space =>
      let start := if begun then [] else margin indent
      let text := run.filterMap id
      if text.length == 1 && column > maxWidth then
        freshLine indent ++ foldedRuns indent true spaced indent rest
      else start ++ text ++ foldedRuns indent true spaced (column + text.length) rest
    | _ =>
      let start := if begun then [] else margin indent
      let spaced := if begun then spaced else false
      let (text, column) := foldedWord indent column run
      start ++ text ++ (if rest.isEmpty then ['\n'] else []) ++
        foldedRuns indent true spaced column rest

def writeFolded (indent : Nat) (folds : List Nat) (comment : String) (cs : List Char) : List Char :=
  '>' :: blockHints cs ++ comment.toList ++ '\n' ::
    foldedRuns indent false true indent
      ((markFolds folds cs).splitBy fun a b => foldKind a == foldKind b)

end KubeManifest.Yaml
