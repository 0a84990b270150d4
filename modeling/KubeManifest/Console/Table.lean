import KubeManifest.Console.Line
import KubeManifest.Console.Markup

/-!
# Tables

* `Table` : a title, columns with their headers, and rows;
* `Table.shrink` : the widths of columns when they do not fit: the widest ones give way;
* `Table.lines?` : the lines of a table on a console of some columns.
-/

namespace KubeManifest.Console

structure Column where
  header : String
  side : Line.Side := .left

structure Table where
  title : String
  columns : List Column
  rows : List (List String)

namespace Table

/-! ## Widths -/

def total (ws : List Nat) : Nat :=
  ws.foldl (· + ·) 0

/-- A quotient as the nearest number, an even one of two. -/
def nearest (n d : Nat) : Nat :=
  let q := n / d
  let r := n % d
  if 2 * r < d || (2 * r == d && q % 2 == 0) then q else q + 1

/-- The widths when those of the greatest one, as many as the count tells, give way by an excess in equal parts, and
each by no more than a limit. -/
def reduce (greatest limit : Nat) : Nat → Nat → List Nat → List Nat
  | _, _, [] => []
  | excess, count, w :: ws =>
    if w == greatest then
      let part := min limit (nearest excess count)
      (w - part) :: reduce greatest limit (excess - part) (count - 1) ws
    else w :: reduce greatest limit excess count ws

/-- The widths when the greatest ones give way until all fit, in some number of steps. -/
def shrinkIn (room : Nat) : Nat → List Nat → List Nat
  | 0, ws => ws
  | n + 1, ws =>
    let excess := total ws - room
    if excess = 0 then ws
    else
      let greatest := ws.foldl max 0
      let second := (ws.filter (· != greatest)).foldl max 0
      shrinkIn room n (reduce greatest (min excess (greatest - second)) excess (ws.count greatest) ws)

/-- The widths when the greatest ones give way until all fit. -/
def shrink (room : Nat) (ws : List Nat) : List Nat :=
  shrinkIn room (total ws - room) ws

/-- The blanks on both sides of a cell. -/
def padding : Nat := 2

/-- The widths of columns with some cells, on as many columns of the console as there are for them. -/
def widths (room : Nat) (rows : List (List (List Char))) : List Nat :=
  let needed := rows.map fun cells => cells.map fun cell => min room (Line.widest cell + padding)
  match needed with
  | [] => []
  | ws :: rest => shrink room (rest.foldl (List.zipWith max) ws)

/-! ## Lines -/

/-- The characters of a line across a table: at its ends, in it, and where it meets a line between columns. -/
structure Rule where
  first : Char
  line : Char
  meeting : Char
  last : Char

namespace Rule

def top : Rule := ⟨'┏', '━', '┳', '┓'⟩

def middle : Rule := ⟨'┡', '━', '╇', '┩'⟩

/-- The line below the last row. -/
def bottom : Rule := ⟨'└', '─', '┴', '┘'⟩

def across (r : Rule) (ws : List Nat) : List Char :=
  r.first :: [r.meeting].intercalate (ws.map fun w => List.replicate w r.line) ++ [r.last]

end Rule

def cellLines (side : Line.Side) (width : Nat) (cell : List Char) : List (List Char) :=
  (Line.layout side .ellipsis (width - padding) cell).map fun line =>
    ' ' :: Line.fit (width - padding) line ++ [' ']

def rowLines (bar : Char) (sides : List Line.Side) (ws : List Nat) (cells : List (List Char)) :
    List (List Char) :=
  let cells := (List.zipWith Prod.mk sides ws).zipWith (fun (side, w) cell => (w, cellLines side w cell)) cells
  let height := (cells.map fun (_, lines) => lines.length).foldl max 0
  (List.range height).map fun i =>
    bar :: [bar].intercalate (cells.map fun (w, lines) => (lines[i]?).getD (Line.blanks w)) ++ [bar]

/-- The lines of a table on a console of some columns, if its tags fit together. -/
def lines? (width : Nat) (t : Table) : Option (List (List Char)) := do
  let title ← Markup.plain? t.title
  let header ← t.columns.mapM fun c => Markup.plain? c.header
  let rows ← t.rows.mapM fun row => row.mapM Markup.plain?
  let borders := t.columns.length + 1
  let ws := widths (width - borders) (header :: rows)
  let sides := t.columns.map Column.side
  return Line.layout .center .fold (total ws + borders) title ++
    [Rule.top.across ws] ++ rowLines '┃' sides ws header ++ [Rule.middle.across ws] ++
    rows.flatMap (rowLines '│' sides ws) ++ [Rule.bottom.across ws]

end Table

end KubeManifest.Console
