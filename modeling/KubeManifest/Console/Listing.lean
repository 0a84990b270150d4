import KubeManifest.Console.Panel

/-!
# Listings

`Listing.lines?` : a text in a frame with the name of its file, each line with its number. What goes beyond the
frame is cut off.
-/

namespace KubeManifest.Console.Listing

/-- The columns between two stops of a tab. -/
def tabStop : Nat := 4

/-- A line from a character on, with blanks up to the next stop in place of each tab. -/
def expandTabs (place : Nat) : List Char → List Char
  | [] => []
  | c :: cs =>
    if c == '\t' then
      let n := tabStop - place % tabStop
      Line.blanks n ++ expandTabs (place + n) cs
    else c :: expandTabs (place + 1) cs

def number (width n : Nat) : List Char :=
  let digits := (toString n).toList
  Line.blanks (width - digits.length) ++ digits

def numbered (text : List Char) : List (List Char) :=
  let lines := (Text.stripRight text).splitOn '\n'
  let width := (toString lines.length).length
  lines.zipIdx.map fun (line, i) => Line.blanks 2 ++ number width (i + 1) ++ [' '] ++ expandTabs 0 line

/-- The lines of a listing on a console of some columns, if the tags of its title fit together. -/
def lines? (width : Nat) (title : String) (text : List Char) : Option (List (List Char)) := do
  let caption ← Panel.caption? title
  return Panel.frame (width - 2) caption (numbered text)

end KubeManifest.Console.Listing
