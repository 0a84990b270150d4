import KubeManifest.Console.Line
import KubeManifest.Console.Markup

/-!
# Panels

* `Panel.frame` : lines of some columns in a round frame, with a title in its upper edge;
* `Panel.lines?` : a text in a frame that takes the whole width of the console or just what the text needs.
-/

namespace KubeManifest.Console

structure Panel where
  title : Option String := none
  content : String
  expand : Bool := true

namespace Panel

/-- The blanks on both sides of a text in a frame. -/
def padding : Nat := 2

def caption? (title : String) : Option (List Char) :=
  (Markup.plain? title).map fun cs =>
    ' ' :: Line.expandTabs 0 (cs.map fun c => if c == '\n' then ' ' else c) ++ [' ']

/-- Some columns of a frame's edge. -/
def edge (n : Nat) : List Char :=
  List.replicate n '─'

def upperEdge (inner : Nat) : Option (List Char) → List Char
  | none => '╭' :: edge inner ++ ['╮']
  | some caption =>
    let caption := Line.crop (inner - 2) caption
    let free := inner - 2 - Text.columns caption
    ['╭', '─'] ++ edge (free / 2) ++ caption ++ edge (free - free / 2) ++ ['─', '╮']

/-- Lines in a frame. Without the frame each takes the inner columns, blanks at both ends among them. -/
def frame (inner : Nat) (caption : Option (List Char)) (content : List (List Char)) : List (List Char) :=
  upperEdge inner caption ::
    content.map (fun line => ['│', ' '] ++ Line.fit (inner - padding) line ++ [' ', '│']) ++
    ['╰' :: edge inner ++ ['╯']]

/-- The lines of a panel on a console of some columns, if its tags fit together. -/
def lines? (width : Nat) (p : Panel) : Option (List (List Char)) := do
  let content ← Markup.plain? p.content
  let caption ← p.title.mapM caption?
  let room := width - 2
  let needed := max (Line.widest content + padding) ((caption.map fun c => Text.columns c + 2).getD 0)
  let inner := if p.expand then room else min room needed
  return frame inner caption (Line.layout .left .fold (inner - padding) content)

end Panel

end KubeManifest.Console
