import KubeManifest.Console.Panel
import KubeManifest.Proofs.Console.Line
import KubeManifest.Proofs.Console.Markup

/-!
# Text in a frame

* `Panel.inside`, `Panel.Shows` : what stands in the frame of printed lines, and the text that it shows;
* `Panel.lines?_shows` : a panel shows what its tags leave of its text.
-/

namespace KubeManifest.Console.Panel

open KubeManifest.Text (columns)

variable {p : Panel} {width : Nat} {title : String} {caption content text : List Char} {lines : List (List Char)}

def inside (lines : List (List Char)) : List (List Char) :=
  lines.tail.dropLast.map fun line => (line.drop 2).dropLast.dropLast

/-- Printed lines that show a text in a frame. -/
def Shows (lines : List (List Char)) (text : List Char) : Prop :=
  Line.Rows (Line.linesOf text) (inside lines)

theorem inside_frame (inner : Nat) (caption : Option (List Char)) (rows : List (List Char)) :
    inside (frame inner caption rows) = rows.map (Line.fit (inner - padding)) := by
  rw [inside, frame, List.cons_append, List.tail_cons, List.dropLast_concat, List.map_map]
  refine List.map_congr_left fun row _ => ?_
  simp

/-- A title has a blank on both sides. -/
theorem columns_caption? (h : caption? title = some caption) : 2 ≤ columns caption := by
  obtain ⟨shown, -, rfl⟩ := Option.map_eq_some_iff.mp h
  have hblank : Text.charColumns ' ' = 1 := by decide
  simp only [List.cons_append, Text.columns_cons, Text.columns_append, Text.columns_nil, hblank]
  omega

/-- The columns of a frame around some content, under a caption. -/
def inner (width : Nat) (expand : Bool) (content caption : List Char) : Nat :=
  if expand then width - 2 else min (width - 2) (max (Line.widest content + padding) (columns caption + 2))

theorem lines?_eq (htitle : p.title = some title) (hcaption : caption? title = some caption) :
    p.lines? width = (Markup.plain? p.content).map fun content =>
      frame (inner width p.expand content caption) (some caption)
        (Line.layout .left .fold (inner width p.expand content caption - padding) content) := by
  have hmap : p.title.mapM caption? = some (some caption) := by
    rw [htitle, Option.mapM_some, hcaption]
    rfl
  unfold lines?
  rw [hmap]
  cases Markup.plain? p.content <;> rfl

/-- The lines of a panel show what its tags leave of its text. -/
theorem lines?_shows (hwidth : 6 ≤ width) (htitle : p.title = some title) (hcaption : caption? title = some caption)
    (hcontent : Markup.plain? p.content = some content) :
    ∃ lines, p.lines? width = some lines ∧ Shows lines content := by
  have hcolumns := columns_caption? hcaption
  have hinner : 2 ≤ inner width p.expand content caption - padding := by
    unfold inner padding
    split <;> omega
  have hkept : ∀ c ∈ content, Markup.isDropped c = false := fun c hc => by
    rw [Markup.shownFrom?_eq_some hcontent] at hc
    exact Markup.not_dropped_of_mem_texts hc
  refine ⟨_, by rw [lines?_eq htitle hcaption, hcontent, Option.map_some], ?_⟩
  rw [Shows, inside_frame]
  exact Line.layout_rows hinner hkept

/-- Lines have the marks of each text that they show. -/
theorem Shows.marks_eq {text' : List Char} (h : Shows lines text) (h' : Shows lines text') :
    Markup.marks text = Markup.marks text' := by
  rw [← Line.marks_linesOf text, ← Line.marks_linesOf text', ← Line.Rows.marks_eq h, Line.Rows.marks_eq h']

end KubeManifest.Console.Panel
