import KubeManifest.Console.Line
import KubeManifest.Proofs.Console.Marks
import KubeManifest.Proofs.Text.Blank

/-!
# Rows of a console

A text is broken into rows of some columns. Nothing of it is lost that takes a column, apart from blanks at the end
of a row.

* `Line.Rows` : rows that show lines one below the other;
* `Line.wrap_parts` : a broken line is all there, in parts that fit;
* `Line.layout_rows` : the rows of a text show its lines;
* `Line.Rows.marks_eq` : rows have the marks of the lines that they show.
-/

namespace KubeManifest.Console.Line

open Text (columns charColumns isBlank stripRight)
open Markup (marks isMark isDropped)

variable {width : Nat} {cs part row : List Char} {lines rows : List (List Char)}

@[simp] theorem columns_blanks (n : Nat) : columns (blanks n) = n := by
  induction n with
  | zero => rfl
  | succ n ih =>
    have hblank : charColumns ' ' = 1 := by decide
    rw [blanks, List.replicate_succ, Text.columns_cons, hblank, ← blanks, ih, Nat.add_comm]

/-! ## Rows -/

/-- Whether a character may be missing at the end of a row: a blank, or one that takes no column. -/
def isSlack (c : Char) : Bool :=
  (isBlank c || charColumns c == 0) && !isDropped c

/-- A row that shows a part of a line. At its end slack may be missing, and blanks may follow. -/
def SetAs (part row : List Char) : Prop :=
  ∃ kept gap n, part = kept ++ gap ∧ (∀ c ∈ gap, isSlack c = true) ∧ row = kept ++ blanks n

/-- Rows that show lines one below the other. A line goes on in the next row, or ends with its row. -/
inductive Rows : List (List Char) → List (List Char) → Prop
  | nil : Rows [] []
  | breaks {part rest row lines rows} :
    SetAs part row → Rows (rest :: lines) rows → Rows ((part ++ rest) :: lines) (row :: rows)
  | ends {line row lines rows} : SetAs line row → Rows lines rows → Rows (line :: lines) (row :: rows)

theorem Rows.append {lines' rows' : List (List Char)} (h : Rows lines rows) (h' : Rows lines' rows') :
    Rows (lines ++ lines') (rows ++ rows') := by
  induction h with
  | nil => exact h'
  | breaks hset _ ih => exact .breaks hset ih
  | ends hset _ ih => exact .ends hset ih

/-- The parts of a line in rows of their own. -/
theorem rows_of_parts {parts : List (List Char)} {f : List Char → List Char} (hne : parts ≠ [])
    (h : ∀ part ∈ parts, SetAs part (f part)) : Rows [parts.flatten] (parts.map f) := by
  induction parts with
  | nil => exact absurd rfl hne
  | cons part parts ih =>
    obtain ⟨hpart, hparts⟩ := List.forall_mem_cons.mp h
    cases parts with
    | nil =>
      rw [List.flatten_singleton]
      exact .ends hpart .nil
    | cons next parts =>
      rw [List.flatten_cons]
      exact .breaks hpart (ih (List.cons_ne_nil _ _) hparts)

theorem isMark_of_isSlack {c : Char} (h : isSlack c = true) : isMark c = false := by
  rw [Bool.eq_false_iff]
  intro hmark
  obtain ⟨hslack, hdropped⟩ := Bool.and_eq_true_iff.mp h
  simp only [isMark, Bool.or_eq_true, beq_iff_eq] at hmark
  rcases hmark with ((rfl | rfl) | rfl) | hmark
  · exact absurd hslack (by decide)
  · exact absurd hslack (by decide)
  · exact absurd hslack (by decide)
  · rw [hmark] at hdropped
    cases hdropped

theorem marks_blanks (n : Nat) : marks (blanks n) = 0 := by
  rw [Markup.marks_eq_zero]
  intro c hc
  rw [List.eq_of_mem_replicate hc]
  decide

theorem SetAs.marks_eq (h : SetAs part row) : marks row = marks part := by
  obtain ⟨kept, gap, n, rfl, hgap, rfl⟩ := h
  have hnone : marks gap = 0 := Markup.marks_eq_zero.mpr fun c hc => isMark_of_isSlack (hgap c hc)
  rw [Markup.marks_append, Markup.marks_append, hnone, marks_blanks]

/-- Rows have the marks of the lines that they show. -/
theorem Rows.marks_eq (h : Rows lines rows) : marks rows.flatten = marks lines.flatten := by
  induction h with
  | nil => rfl
  | breaks hset _ ih =>
    simp only [List.flatten_cons, Markup.marks_append, List.append_assoc] at ih ⊢
    rw [hset.marks_eq, ih]
  | ends hset _ ih =>
    simp only [List.flatten_cons, Markup.marks_append] at ih ⊢
    rw [hset.marks_eq, ih]

/-! ## Breaking a line -/

theorem takeWord_append (cs : List Char) : (takeWord cs).1 ++ (takeWord cs).2 = cs := by
  have hword := List.prefix_iff_eq_append.mp (List.takeWhile_prefix (l := cs) (!isBlank ·))
  have hgap := List.prefix_iff_eq_append.mp (List.takeWhile_prefix
    (l := cs.drop (cs.takeWhile (!isBlank ·)).length) isBlank)
  rw [takeWord, List.append_assoc, hgap, hword]

/-- Every text begins with a word or with a blank. -/
theorem takeWord_eq_nil (h : (takeWord cs).1.length = 0) : cs = [] := by
  cases cs with
  | nil => rfl
  | cons c cs =>
    cases hc : isBlank c <;> simp [takeWord, hc] at h

theorem wordsOf_flatten (cs : List Char) : (wordsOf cs).flatten = cs := by
  induction cs using wordsOf.induct with
  | case1 cs h =>
    rw [wordsOf, dif_pos h, takeWord_eq_nil h]
    rfl
  | case2 cs h ih => rw [wordsOf, dif_neg h, List.flatten_cons, ih, takeWord_append]

/-- The words of a text make it up. Blanks alone are no word. -/
theorem words_flatten (cs : List Char) :
    (words cs).flatten = cs ∨ words cs = [] ∧ ∀ c ∈ cs, isBlank c = true := by
  have hindent := List.prefix_iff_eq_append.mp (List.takeWhile_prefix (l := cs) isBlank)
  have hrest := wordsOf_flatten (cs.drop (cs.takeWhile isBlank).length)
  unfold words
  dsimp only
  split
  · rename_i hnil
    right
    rw [hnil, List.flatten_nil] at hrest
    rw [← hrest, List.append_nil] at hindent
    refine ⟨rfl, fun c hc => ?_⟩
    rw [← hindent] at hc
    exact List.all_eq_true.mp List.all_takeWhile c hc
  · rename_i word rest hcons
    left
    rw [hcons, List.flatten_cons] at hrest
    rw [List.flatten_cons, List.append_assoc, hrest, hindent]

/-- The parts of a word make it up, and fit. -/
theorem chop_flatten (used : Nat) (part cs : List Char) : (chop width used part cs).flatten = part.reverse ++ cs := by
  induction cs generalizing used part with
  | nil => simp [chop]
  | cons c cs ih =>
    rw [chop]
    split
    · rw [List.flatten_cons, ih, List.reverse_singleton, List.singleton_append]
    · rw [ih, List.reverse_cons, List.append_assoc, List.singleton_append]

theorem columns_of_mem_chop (hwidth : 2 ≤ width) {used : Nat} {part : List Char} (hpart : columns part = used)
    (hused : used ≤ width) : ∀ p ∈ chop width used part cs, columns p ≤ width := by
  induction cs generalizing used part with
  | nil =>
    refine List.forall_mem_singleton.mpr ?_
    rw [Text.columns_reverse, hpart]
    exact hused
  | cons c cs ih =>
    have hc := Text.charColumns_le c
    rw [chop]
    split
    · refine List.forall_mem_cons.mpr ⟨?_, ih (by simp) (by omega)⟩
      rw [Text.columns_reverse, hpart]
      exact hused
    · rename_i hfits
      refine ih ?_ (by omega)
      rw [Text.columns_cons, hpart, Nat.add_comm]

namespace Broken

variable {b : Broken}

/-- The state of breaking a line: what was taken so far stands in lines that fit, but for blanks at their ends. -/
structure Holds (width : Nat) (b : Broken) (taken : List Char) : Prop where
  text : b.finished.flatten ++ b.last = taken
  used : b.used = columns b.last
  finished : ∀ line ∈ b.finished, columns (stripRight line) ≤ width
  last : columns (stripRight b.last) ≤ width

theorem holds_start (width : Nat) : Holds width {} [] where
  text := rfl
  used := rfl
  finished := List.forall_mem_nil _
  last := Nat.zero_le _

theorem Holds.startLine (h : Holds width b cs) (hpart : columns (stripRight part) ≤ width) :
    Holds width (b.startLine part) (cs ++ part) := by
  unfold Broken.startLine
  split
  · rename_i hempty
    obtain ⟨hfinished, hlast⟩ := Bool.and_eq_true_iff.mp hempty
    have htext := h.text
    rw [List.isEmpty_iff.mp hfinished, List.isEmpty_iff.mp hlast] at htext
    refine ⟨?_, rfl, h.finished, hpart⟩
    rw [← htext, List.isEmpty_iff.mp hfinished]
    rfl
  · refine ⟨?_, rfl, ?_, hpart⟩
    · rw [← h.text, List.flatten_append, List.flatten_singleton]
    · exact List.forall_mem_append.mpr ⟨h.finished, List.forall_mem_singleton.mpr h.last⟩

theorem Holds.foldl_startLine {parts : List (List Char)} (h : Holds width b cs)
    (hparts : ∀ part ∈ parts, columns part ≤ width) :
    Holds width (parts.foldl Broken.startLine b) (cs ++ parts.flatten) := by
  induction parts generalizing b cs with
  | nil => simpa using h
  | cons part parts ih =>
    obtain ⟨hpart, hrest⟩ := List.forall_mem_cons.mp hparts
    have hstripped := Nat.le_trans (Text.columns_stripRight_le part) hpart
    rw [List.foldl_cons, List.flatten_cons, ← List.append_assoc]
    exact ih (h.startLine hstripped) hrest

theorem Holds.add (hwidth : 2 ≤ width) (h : Holds width b cs) (word : List Char) :
    Holds width (b.add .fold width word) (cs ++ word) := by
  unfold Broken.add
  dsimp only
  split
  · rename_i hfits
    refine ⟨?_, ?_, h.finished, ?_⟩
    · rw [← h.text, List.append_assoc]
    · rw [Text.columns_append, h.used]
    · have hends := Text.columns_stripRight_append b.last word
      have hlast := h.last
      rw [h.used] at hfits
      dsimp only
      omega
  · split
    · have hparts : ∀ part ∈ chop width 0 [] word, columns part ≤ width :=
        columns_of_mem_chop hwidth Text.columns_nil (Nat.zero_le width)
      have hchop : (chop width 0 [] word).flatten = word := chop_flatten 0 [] word
      have hall := h.foldl_startLine hparts
      rwa [hchop] at hall
    · rename_i hlong
      refine h.startLine (Nat.not_lt.mp fun hlt => hlong ?_)
      simp [hlt]

theorem Holds.foldl_add (hwidth : 2 ≤ width) (h : Holds width b cs) (words : List (List Char)) :
    Holds width (words.foldl (Broken.add .fold width) b) (cs ++ words.flatten) := by
  induction words generalizing b cs with
  | nil => simpa using h
  | cons word words ih =>
    rw [List.foldl_cons, List.flatten_cons, ← List.append_assoc]
    exact ih (h.add hwidth word)

end Broken

/-- A line is broken into parts that make it up and fit, but for blanks at their ends. -/
theorem wrap_parts (hwidth : 2 ≤ width) (cs : List Char) :
    (wrap .fold width cs).flatten = cs ∧ wrap .fold width cs ≠ [] ∧
      ∀ part ∈ wrap .fold width cs, columns (stripRight part) ≤ width := by
  unfold wrap
  split
  · rename_i hnone
    refine ⟨List.flatten_singleton, List.cons_ne_nil _ _, List.forall_mem_singleton.mpr ?_⟩
    have hblank : ∀ c ∈ cs, isBlank c = true := by
      rcases words_flatten cs with hcs | ⟨-, hblank⟩
      · rw [hnone, List.flatten_nil] at hcs
        rw [← hcs]
        exact List.forall_mem_nil _
      · exact hblank
    rw [Text.stripRight_eq_nil.mpr hblank]
    exact Nat.zero_le _
  · rename_i hsome
    have hholds := (Broken.holds_start width).foldl_add hwidth (words cs)
    have htext : (words cs).flatten = cs := by
      rcases words_flatten cs with hcs | ⟨hnil, -⟩
      · exact hcs
      · exact absurd hnil hsome
    rw [List.nil_append, htext] at hholds
    refine ⟨?_, ?_, ?_⟩
    · rw [List.flatten_append, List.flatten_singleton]
      exact hholds.text
    · exact List.append_ne_nil_of_right_ne_nil _ (List.cons_ne_nil _ _)
    · exact List.forall_mem_append.mpr ⟨hholds.finished, List.forall_mem_singleton.mpr hholds.last⟩

/-! ## Setting a part -/

/-- What is taken off the end of a part is blank. -/
theorem dropExcess_append (width : Nat) (cs : List Char) :
    ∃ gap, cs = dropExcess width cs ++ gap ∧ ∀ c ∈ gap, isBlank c = true := by
  have hlength : (stripRight cs).length + (cs.reverse.takeWhile isBlank).length = cs.length := by
    have hsplit := congrArg List.length (List.takeWhile_append_dropWhile (p := isBlank) (l := cs.reverse))
    rw [List.length_append, List.length_reverse] at hsplit
    rw [stripRight, List.length_reverse]
    omega
  refine ⟨_, (List.take_append_drop _ cs).symm, fun c hc => Text.blank_of_mem_drop ?_ hc⟩
  omega

theorem columns_cut_le (width : Nat) (cs : List Char) : columns (cut width cs) ≤ width := by
  induction cs generalizing width with
  | nil => exact Nat.zero_le _
  | cons c cs ih =>
    rw [cut]
    split
    · exact Nat.zero_le _
    · split
      · exact Nat.le_of_eq (columns_blanks width)
      · have hrest := ih (width - charColumns c)
        rw [Text.columns_cons]
        omega

/-- What lies beyond the columns that a part needs takes none, or is blank. -/
theorem slack_of_columns {c : Char} (h : columns (stripRight cs) = 0) (hc : c ∈ cs) :
    isBlank c = true ∨ charColumns c = 0 := by
  induction cs with
  | nil => cases hc
  | cons d cs ih =>
    rw [Text.stripRight_cons] at h
    split at h
    · rename_i hblank
      rcases List.mem_cons.mp hc with rfl | hc
      · exact .inl hblank.2
      · exact .inl (Text.stripRight_eq_nil.mp hblank.1 c hc)
    · rw [Text.columns_cons] at h
      rcases List.mem_cons.mp hc with rfl | hc
      · exact .inr (by omega)
      · exact ih (by omega) hc

theorem cut_setAs (hfits : columns (stripRight cs) ≤ width) (hkept : ∀ c ∈ cs, isDropped c = false) :
    SetAs cs (cut width cs) := by
  induction cs generalizing width with
  | nil => exact ⟨[], [], 0, rfl, List.forall_mem_nil _, rfl⟩
  | cons c cs ih =>
    obtain ⟨hc, hcs⟩ := List.forall_mem_cons.mp hkept
    rw [cut]
    split
    · rename_i hzero
      rw [hzero] at hfits
      refine ⟨[], c :: cs, 0, rfl, fun d hd => ?_, rfl⟩
      have hslack := slack_of_columns (Nat.le_zero.mp hfits) hd
      simpa [isSlack, hkept d hd] using hslack
    · split
      · -- A wide character for which there is no room is a blank with blanks after it.
        rename_i hwide
        have hblank : ∀ d ∈ c :: cs, isBlank d = true := by
          rw [Text.stripRight_cons] at hfits
          split at hfits
          · rename_i hnil
            exact List.forall_mem_cons.mpr ⟨hnil.2, Text.stripRight_eq_nil.mp hnil.1⟩
          · rw [Text.columns_cons] at hfits
            omega
        refine ⟨[], c :: cs, width, rfl, fun d hd => ?_, rfl⟩
        simp [isSlack, hblank d hd, hkept d hd]
      · have hrest : columns (stripRight cs) ≤ width - charColumns c := by
          rw [Text.stripRight_cons] at hfits
          split at hfits
          · rename_i hnil
            rw [hnil.1]
            exact Nat.zero_le _
          · rw [Text.columns_cons] at hfits
            omega
        obtain ⟨kept, gap, n, rfl, hgap, hrow⟩ := ih hrest hcs
        exact ⟨c :: kept, gap, n, rfl, hgap, by rw [hrow]; rfl⟩

theorem SetAs.append_blanks (h : SetAs part row) (n : Nat) : SetAs part (row ++ blanks n) := by
  obtain ⟨kept, gap, m, rfl, hgap, rfl⟩ := h
  refine ⟨kept, gap, m + n, rfl, hgap, ?_⟩
  rw [List.append_assoc, blanks, blanks, List.replicate_append_replicate, blanks]

theorem SetAs.append_slack {gap : List Char} (h : SetAs part row) (hgap : ∀ c ∈ gap, isSlack c = true) :
    SetAs (part ++ gap) row := by
  obtain ⟨kept, more, n, rfl, hmore, rfl⟩ := h
  exact ⟨kept, more ++ gap, n, List.append_assoc _ _ _, List.forall_mem_append.mpr ⟨hmore, hgap⟩, rfl⟩

theorem truncate_setAs (hfits : columns (stripRight part) ≤ width) (hkept : ∀ c ∈ part, isDropped c = false) :
    SetAs part (truncate .fold width part) ∧ columns (truncate .fold width part) ≤ width := by
  unfold truncate
  split
  · rename_i hle
    exact ⟨⟨_, [], 0, (List.append_nil _).symm, List.forall_mem_nil _, (List.append_nil _).symm⟩, hle⟩
  · rename_i hgt
    dsimp only
    rw [crop, if_neg hgt]
    exact ⟨cut_setAs hfits hkept, columns_cut_le width _⟩

theorem columns_pad_le (h : columns cs ≤ width) : columns (pad width cs) ≤ width := by
  rw [pad, Text.columns_append, columns_blanks]
  omega

/-- A part that fits, but for blanks at its end, is shown by its row. -/
theorem place_setAs (hfits : columns (stripRight part) ≤ width) (hkept : ∀ c ∈ part, isDropped c = false) :
    SetAs part (place .left .fold width (dropExcess width part)) ∧
      columns (place .left .fold width (dropExcess width part)) ≤ width := by
  obtain ⟨gap, hgap, hblank⟩ := dropExcess_append width part
  have hslack : ∀ c ∈ gap, isSlack c = true := fun c hc => by
    have hc' := hkept c (by rw [hgap]; exact List.mem_append_right _ hc)
    simp [isSlack, hblank c hc, hc']
  have hkept' : ∀ c ∈ dropExcess width part, isDropped c = false := fun c hc =>
    hkept c (by rw [hgap]; exact List.mem_append_left _ hc)
  have hfits' : columns (stripRight (dropExcess width part)) ≤ width := by
    rw [hgap, Text.stripRight_append, if_pos (Text.stripRight_eq_nil.mpr hblank)] at hfits
    exact hfits
  obtain ⟨hset, hcolumns⟩ := truncate_setAs hfits' hkept'
  have hpadded : SetAs (dropExcess width part) (place .left .fold width (dropExcess width part)) :=
    hset.append_blanks _
  have hall := hpadded.append_slack hslack
  rw [← hgap] at hall
  exact ⟨hall, columns_pad_le hcolumns⟩

theorem SetAs.fit (h : SetAs part row) (hrow : columns row ≤ width) : SetAs part (fit width row) := by
  rw [Line.fit, crop, if_pos hrow, pad]
  exact h.append_blanks _

/-! ## Lines -/

theorem mem_expandTabs {c : Char} {column : Nat} (h : c ∈ expandTabs column cs) : c = ' ' ∨ c ∈ cs := by
  induction cs generalizing column with
  | nil => cases h
  | cons d cs ih =>
    rw [expandTabs] at h
    split at h
    · rcases List.mem_append.mp h with hblank | htail
      · exact .inl (List.eq_of_mem_replicate hblank)
      · exact (ih htail).imp_right (List.mem_cons_of_mem d)
    · rcases List.mem_cons.mp h with rfl | htail
      · exact .inr List.mem_cons_self
      · exact (ih htail).imp_right (List.mem_cons_of_mem d)

theorem marks_expandTabs (column : Nat) (cs : List Char) : marks (expandTabs column cs) = marks cs := by
  induction cs generalizing column with
  | nil => rfl
  | cons c cs ih =>
    rw [expandTabs]
    split
    · rename_i hc
      rw [beq_iff_eq.mp hc]
      have htab : isMark '\t' = false := by decide
      rw [Markup.marks_append, marks_blanks, ih, Markup.marks_cons, htab, Nat.zero_add]
      rfl
    · rw [Markup.marks_cons, ih, Markup.marks_cons]

/-- The lines of a text, with blanks in place of tabs. -/
def linesOf (cs : List Char) : List (List Char) :=
  (cs.splitOn '\n').map (expandTabs 0)

theorem marks_linesOf (cs : List Char) : marks (linesOf cs).flatten = marks cs := by
  have hmap (lines : List (List Char)) : marks (lines.map (expandTabs 0)).flatten = marks lines.flatten := by
    induction lines with
    | nil => rfl
    | cons line lines ih =>
      rw [List.map_cons, List.flatten_cons, Markup.marks_append, marks_expandTabs, ih, List.flatten_cons,
        Markup.marks_append]
  rw [linesOf, hmap, Markup.marks_flatten_splitOn (by decide)]

/-- The rows of a text show its lines. -/
theorem layout_rows (hwidth : 2 ≤ width) (hkept : ∀ c ∈ cs, isDropped c = false) :
    Rows (linesOf cs) ((layout .left .fold width cs).map (Line.fit width)) := by
  have hlines (line : List Char) (hline : line ∈ cs.splitOn '\n') : ∀ c ∈ line, isDropped c = false :=
    fun c hc => hkept c (Markup.mem_of_mem_splitOn line hline hc)
  rw [linesOf, layout]
  generalize cs.splitOn '\n' = lines at hlines
  induction lines with
  | nil => exact .nil
  | cons line lines ih =>
    obtain ⟨hflatten, hne, hfits⟩ := wrap_parts hwidth (expandTabs 0 line)
    rw [List.map_cons, List.flatMap_cons, List.map_append, List.map_map]
    have hrest := ih fun line' hline' => hlines line' (List.mem_cons_of_mem _ hline')
    suffices hparts : ∀ part ∈ wrap .fold width (expandTabs 0 line),
        SetAs part (Line.fit width (place .left .fold width (dropExcess width part))) by
      have hline := rows_of_parts hne hparts
      rw [hflatten] at hline
      exact hline.append hrest
    intro part hpart
    have hkept' : ∀ c ∈ part, isDropped c = false := fun c hc => by
      have hmem : c ∈ expandTabs 0 line := by
        rw [← hflatten]
        exact List.mem_flatten.mpr ⟨part, hpart, hc⟩
      rcases mem_expandTabs hmem with rfl | hin
      · decide
      · exact hlines line List.mem_cons_self c hin
    obtain ⟨hset, hcolumns⟩ := place_setAs (hfits part hpart) hkept'
    exact hset.fit hcolumns

end KubeManifest.Console.Line
